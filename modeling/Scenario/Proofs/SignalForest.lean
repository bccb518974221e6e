import Mathlib.Logic.Relation
import Scenario.Stop

/-!
# The forest of stop signals

Signals are made anew, as clones or as children of others. A signal is stopped when it
was stopped itself, under whichever of its clones, or when one of its ancestors
was, whether it was derived before or after. Seen from a signal nothing else counts:
not what it was derived into, nor what was derived beside it.
-/

set_option autoImplicit false

namespace Scenario

/-- The marks on which a signal hears of a stop. -/
def Signal.path (g : Signal) : List Nat := g.mark :: g.ancestors

namespace Signals

inductive Origin where
  | root
  | child (parent : Nat)
  | clone (original : Nat)
  deriving DecidableEq, Repr

/-- Where each signal came from, and which of them were told to stop. -/
structure History where
  origins : List Origin := []
  stops : List Nat := []

namespace History

def apply (h : History) : Op → History
  | .fresh => { h with origins := h.origins ++ [.root] }
  | .child i => if i < h.origins.length then { h with origins := h.origins ++ [.child i] } else h
  | .clone i => if i < h.origins.length then { h with origins := h.origins ++ [.clone i] } else h
  | .stop i => if i < h.origins.length then { h with stops := i :: h.stops } else h

/-- One of the two was made as a clone of the other. -/
def Cloned (h : History) (j i : Nat) : Prop :=
  h.origins[j]? = some (.clone i) ∨ h.origins[i]? = some (.clone j)

/-- The two are one signal or come from it through clones. -/
def Same (h : History) : Nat → Nat → Prop := Relation.ReflTransGen h.Cloned

/-- The second signal is an ancestor of the first one, or a clone of an ancestor. -/
inductive Below (h : History) : Nat → Nat → Prop
  | parent {j c p i : Nat} (same : h.Same j c) (derived : h.origins[c]? = some (.child p))
      (same' : h.Same p i) : Below h j i
  | further {j c p i : Nat} (same : h.Same j c) (derived : h.origins[c]? = some (.child p))
      (rest : Below h p i) : Below h j i

/-- Different signals that were derived from one. -/
def Beside (h : History) (j k : Nat) : Prop :=
  ¬ h.Same j k ∧ ∃ c d p q, h.Same j c ∧ h.origins[c]? = some (.child p) ∧
    h.Same k d ∧ h.origins[d]? = some (.child q) ∧ h.Same p q

/-- A stop of the second signal counts for the first one. -/
def Hears (h : History) (j k : Nat) : Prop := h.Same j k ∨ h.Below j k

section Relations
variable {h : History} {i j k : Nat}

theorem Same.symm (same : h.Same j i) : h.Same i j := by
  induction same with
  | refl => exact .refl
  | tail _ cloned ih => exact .head cloned.symm ih

theorem Same.below (same : h.Same j i) (below : h.Below i k) : h.Below j k := by
  cases below with
  | parent same' derived last => exact .parent (same.trans same') derived last
  | further same' derived rest => exact .further (same.trans same') derived rest

theorem Same.hears (same : h.Same j i) (hears : h.Hears i k) : h.Hears j k := by
  rcases hears with same' | below
  · exact .inl (same.trans same')
  · exact .inr (same.below below)

theorem hears_child (derived : h.origins[j]? = some (.child i)) (hears : h.Hears i k) :
    h.Below j k := by
  rcases hears with same | below
  · exact .parent .refl derived same
  · exact .further .refl derived below

end Relations

end History

def Made (members : List Signal) (j : Nat) (g : Signal) : Origin → Prop
  | .root => g.ancestors = []
  | .child i => i < j ∧ ∃ p, members[i]? = some p ∧ g.ancestors = p.path
  | .clone i => i < j ∧ members[i]? = some g

def Origin.founds : Origin → Bool
  | .clone _ => false
  | _ => true

/-- Number `j` was made in this way and is this signal. -/
structure Member (h : History) (f : Family) (j : Nat) (o : Origin) (g : Signal) : Prop where
  origin : h.origins[j]? = some o
  signal : f.members[j]? = some g

/-- A family in which everything came about as a history says. -/
structure Follows (h : History) (f : Family) : Prop where
  length : f.members.length = h.origins.length
  made : ∀ {j o g}, Member h f j o g → Made f.members j g o
  known : ∀ g ∈ f.members, ∀ m ∈ g.path, m < f.signals.next
  own : ∀ {j i : Nat} {o o' : Origin} {g g' : Signal}, Member h f j o g → Member h f i o' g' →
    o.founds = true → o'.founds = true → g.mark = g'.mark → j = i
  told : ∀ k ∈ h.stops, k < f.members.length
  stops : ∀ m, m ∈ f.signals.stopped ↔ ∃ k ∈ h.stops, ∃ g, f.members[k]? = some g ∧ g.mark = m

theorem getElem?_concat_some {α : Type} {l : List α} {x y : α} {j : Nat} :
    (l ++ [x])[j]? = some y ↔ l[j]? = some y ∨ j = l.length ∧ x = y := by
  by_cases last : j = l.length
  · subst last
    simp
  · rw [List.getElem?_append, List.getElem?_singleton]
    split
    · simp [last]
    · rw [List.getElem?_eq_none (by omega), if_neg (by omega)]
      simp [last]

section Steps
variable {h : History} {f : Family} {g : Signal} {j : Nat} {o : Origin}

theorem Made.append {members : List Signal} (made : Made members j g o) (l : List Signal) :
    Made (members ++ l) j g o := by
  have kept : ∀ {i : Nat} {p : Signal}, members[i]? = some p → (members ++ l)[i]? = some p := by
    intro i p hp
    rw [List.getElem?_append_left (List.getElem?_eq_some_iff.1 hp).1, hp]
  cases o with
  | root => exact made
  | child i =>
    obtain ⟨earlier, p, hp, line⟩ := made
    exact ⟨earlier, p, kept hp, line⟩
  | clone i => exact ⟨made.1, kept made.2⟩

theorem Follows.member (follows : Follows h f) (origin : h.origins[j]? = some o) :
    ∃ g, Member h f j o g := by
  have inside := (List.getElem?_eq_some_iff.1 origin).1
  rw [← follows.length] at inside
  exact ⟨f.members[j], origin, List.getElem?_eq_getElem inside⟩

theorem Follows.origin (follows : Follows h f) (signal : f.members[j]? = some g) :
    ∃ o, Member h f j o g := by
  have inside := (List.getElem?_eq_some_iff.1 signal).1
  rw [follows.length] at inside
  exact ⟨h.origins[j], List.getElem?_eq_getElem inside, signal⟩

section Grow
variable (follows : Follows h f) (next : Nat) (o : Origin) (g : Signal)

def Family.more (f : Family) (next : Nat) (g : Signal) : Family :=
  ⟨{ f.signals with next }, f.members ++ [g]⟩

def History.more (h : History) (o : Origin) : History := { h with origins := h.origins ++ [o] }

include follows

theorem member_more {o' : Origin} {g' : Signal} (m : Member (h.more o) (f.more next g) j o' g') :
    Member h f j o' g' ∨ j = f.members.length ∧ o = o' ∧ g = g' := by
  obtain ⟨origin, signal⟩ := m
  rw [History.more, getElem?_concat_some, ← follows.length] at origin
  rw [Family.more, getElem?_concat_some] at signal
  rcases origin with origin | ⟨place, rfl⟩
  · rcases signal with signal | ⟨rfl, _⟩
    · exact .inl ⟨origin, signal⟩
    · have inside := (List.getElem?_eq_some_iff.1 origin).1
      rw [follows.length] at inside
      exact absurd inside (Nat.lt_irrefl _)
  · rcases signal with signal | ⟨_, rfl⟩
    · have inside := (List.getElem?_eq_some_iff.1 signal).1
      omega
    · exact .inr ⟨place, rfl, rfl⟩

/-- One more signal follows, whose mark is a new one unless it is a clone. -/
theorem Follows.grow (rises : f.signals.next ≤ next)
    (made : Made f.members f.members.length g o) (known : ∀ m ∈ g.path, m < next)
    (new : o.founds = true → f.signals.next ≤ g.mark) :
    Follows (h.more o) (f.more next g) where
  length := by simp [History.more, Family.more, follows.length]
  made := by
    intro j o' g' m
    rcases member_more follows next o g m with old | ⟨rfl, rfl, rfl⟩
    · exact (follows.made old).append [g]
    · exact made.append [g]
  known := by
    intro g' member m hm
    rcases List.mem_append.1 member with old | last
    · exact Nat.lt_of_lt_of_le (follows.known g' old m hm) rises
    · rw [List.mem_singleton.1 last] at hm
      exact known m hm
  own := by
    -- a signal with a mark of its own has one that was never given out
    have differs : ∀ {i o' g'}, Member h f i o' g' → o.founds = true → g'.mark ≠ g.mark := by
      intro i o' g' m founds same
      have below := follows.known g' (List.mem_of_getElem? m.signal) g'.mark (by simp [Signal.path])
      have above := new founds
      omega
    intro j i o₁ o₂ g₁ g₂ m m' founds founds' same
    rcases member_more follows next o g m with old | ⟨rfl, rfl, rfl⟩
    · rcases member_more follows next o g m' with old' | ⟨rfl, rfl, rfl⟩
      · exact follows.own old old' founds founds' same
      · exact absurd same (differs old founds')
    · rcases member_more follows next o g m' with old' | ⟨rfl, rfl, rfl⟩
      · exact absurd same.symm (differs old' founds)
      · rfl
  told := by
    intro k hk
    have inside := follows.told k hk
    simp only [Family.more, List.length_append, List.length_singleton]
    omega
  stops := by
    intro m
    rw [Family.more, follows.stops]
    refine exists_congr fun k => and_congr_right fun hk => exists_congr fun g' => ?_
    rw [List.getElem?_append_left (follows.told k hk)]

end Grow

theorem Follows.stop (follows : Follows h f) {i : Nat} (signal : f.members[i]? = some g) :
    Follows { h with stops := i :: h.stops } { f with signals := f.signals.stop g } where
  length := follows.length
  made := fun m => follows.made ⟨m.origin, m.signal⟩
  known := follows.known
  own := fun m m' => follows.own ⟨m.origin, m.signal⟩ ⟨m'.origin, m'.signal⟩
  told := by
    intro k hk
    rcases List.mem_cons.1 hk with rfl | before
    · exact (List.getElem?_eq_some_iff.1 signal).1
    · exact follows.told k before
  stops := by
    intro m
    simp only [Signals.stop, List.mem_cons, exists_eq_or_imp, signal, Option.some.injEq,
      exists_eq_left', follows.stops m]
    exact or_congr_left eq_comm

/-- An operation keeps a family in step with its history. -/
theorem Follows.apply (follows : Follows h f) (op : Op) : Follows (h.apply op) (f.apply op) := by
  cases op with
  | fresh =>
    have known : ∀ m ∈ (⟨f.signals.next, []⟩ : Signal).path, m < f.signals.next + 1 := by
      simp [Signal.path]
    exact follows.grow (f.signals.next + 1) .root ⟨f.signals.next, []⟩ (Nat.le_succ _) rfl known
      fun _ => Nat.le_refl _
  | child i =>
    simp only [Family.apply, History.apply, ← follows.length]
    by_cases inside : i < f.members.length
    · have parent : f.members[i]? = some f.members[i] := List.getElem?_eq_getElem inside
      rw [parent, if_pos inside]
      have known : ∀ m ∈ (⟨f.signals.next, f.members[i].path⟩ : Signal).path,
          m < f.signals.next + 1 := by
        intro m hm
        rcases List.mem_cons.1 hm with rfl | above
        · exact Nat.lt_succ_self _
        · exact Nat.lt_succ_of_lt (follows.known _ (List.getElem_mem inside) m above)
      exact follows.grow (f.signals.next + 1) (.child i) ⟨f.signals.next, f.members[i].path⟩
        (Nat.le_succ _) ⟨inside, _, parent, rfl⟩ known fun _ => Nat.le_refl _
    · rw [List.getElem?_eq_none (Nat.le_of_not_lt inside), if_neg inside]
      exact follows
  | clone i =>
    simp only [Family.apply, History.apply, ← follows.length]
    by_cases inside : i < f.members.length
    · have original : f.members[i]? = some f.members[i] := List.getElem?_eq_getElem inside
      rw [original, if_pos inside]
      exact follows.grow f.signals.next (.clone i) f.members[i] (Nat.le_refl _)
        ⟨inside, original⟩ (follows.known _ (List.getElem_mem inside)) fun founds => by cases founds
    · rw [List.getElem?_eq_none (Nat.le_of_not_lt inside), if_neg inside]
      exact follows
  | stop i =>
    simp only [Family.apply, History.apply, ← follows.length]
    by_cases inside : i < f.members.length
    · have signal : f.members[i]? = some f.members[i] := List.getElem?_eq_getElem inside
      rw [signal, if_pos inside]
      exact follows.stop signal
    · rw [List.getElem?_eq_none (Nat.le_of_not_lt inside), if_neg inside]
      exact follows

end Steps

def History.of (ops : List Op) : History := ops.foldl History.apply {}

def Family.of (ops : List Op) : Family := ops.foldl Family.apply {}

theorem follows_of (ops : List Op) : Follows (.of ops) (.of ops) := by
  have onwards : ∀ (ops : List Op) {h : History} {f : Family}, Follows h f →
      Follows (ops.foldl History.apply h) (ops.foldl Family.apply f) := by
    intro ops
    induction ops with
    | nil => exact id
    | cons op ops ih => exact fun follows => ih (follows.apply op)
  exact onwards ops ⟨rfl, fun m => by simpa using m.origin, by simp,
    fun m => by simpa using m.origin, by simp, by simp⟩

section Kinship
variable {h : History} {f : Family} {j i k : Nat} {g p : Signal}

theorem Follows.clone (follows : Follows h f) (cloned : h.Cloned j i) :
    f.members[j]? = f.members[i]? := by
  rcases cloned with origin | origin
  · obtain ⟨g, m⟩ := follows.member origin
    rw [m.signal, (follows.made m).2]
  · obtain ⟨g, m⟩ := follows.member origin
    rw [m.signal, (follows.made m).2]

theorem Follows.same (follows : Follows h f) (same : h.Same j i) :
    f.members[j]? = f.members[i]? := by
  induction same with
  | refl => rfl
  | tail _ cloned ih => exact ih.trans (follows.clone cloned)

theorem Follows.derived (follows : Follows h f) (derived : h.origins[j]? = some (.child i)) :
    ∃ g p, f.members[j]? = some g ∧ f.members[i]? = some p ∧ g.ancestors = p.path := by
  obtain ⟨g, m⟩ := follows.member derived
  obtain ⟨_, p, parent, line⟩ := follows.made m
  exact ⟨g, p, m.signal, parent, line⟩

theorem Follows.below (follows : Follows h f) (below : h.Below j i) :
    ∃ g p, f.members[j]? = some g ∧ f.members[i]? = some p ∧ p.path <:+ g.ancestors := by
  induction below with
  | parent same derived same' =>
    obtain ⟨g, p, here, there, line⟩ := follows.derived derived
    exact ⟨g, p, (follows.same same).trans here, (follows.same same').symm.trans there,
      line ▸ List.suffix_refl _⟩
  | further same derived _ ih =>
    obtain ⟨g, p, here, there, line⟩ := follows.derived derived
    obtain ⟨q, r, there', above, ends⟩ := ih
    rw [there] at there'
    cases there'
    refine ⟨g, r, (follows.same same).trans here, above, ?_⟩
    rw [line]
    exact ends.trans (List.suffix_cons _ _)

theorem Follows.founder (follows : Follows h f) (signal : f.members[j]? = some g) :
    ∃ c o, h.Same j c ∧ Member h f c o g ∧ o.founds = true := by
  induction j using Nat.strongRecOn with
  | ind j ih =>
    obtain ⟨o, m⟩ := follows.origin signal
    cases o with
    | root => exact ⟨j, _, .refl, m, rfl⟩
    | child i => exact ⟨j, _, .refl, m, rfl⟩
    | clone i =>
      obtain ⟨earlier, original⟩ := follows.made m
      obtain ⟨c, o, same, m', founds⟩ := ih i earlier original
      exact ⟨c, o, .head (.inl m.origin) same, m', founds⟩

theorem Follows.same_of_mark (follows : Follows h f) (here : f.members[j]? = some g)
    (there : f.members[k]? = some p) (mark : g.mark = p.mark) : h.Same j k := by
  obtain ⟨c, o, same, m, founds⟩ := follows.founder here
  obtain ⟨d, o', same', m', founds'⟩ := follows.founder there
  have one : c = d := follows.own m m' founds founds' mark
  subst one
  exact same.trans same'.symm

/-- A signal hears of the stops of those whose marks are on its path. -/
theorem Follows.hears_iff (follows : Follows h f) (here : f.members[j]? = some g)
    (there : f.members[k]? = some p) : h.Hears j k ↔ p.mark ∈ g.path := by
  constructor
  · rintro (same | below)
    · have one := follows.same same
      rw [here, there] at one
      cases one
      exact List.mem_cons_self
    · obtain ⟨_, _, here', there', ends⟩ := follows.below below
      cases here.symm.trans here'
      cases there.symm.trans there'
      exact List.mem_cons_of_mem _ (ends.subset List.mem_cons_self)
  · intro heard
    induction j using Nat.strongRecOn generalizing g with
    | ind j ih =>
      obtain ⟨o, m⟩ := follows.origin here
      rcases List.mem_cons.1 heard with mark | above
      · exact .inl (follows.same_of_mark here there mark.symm)
      · cases o with
        | root =>
          have none : g.ancestors = [] := follows.made m
          rw [none] at above
          cases above
        | child i =>
          obtain ⟨earlier, q, parent, line⟩ := follows.made m
          rw [line] at above
          exact .inr (History.hears_child m.origin (ih i earlier parent above))
        | clone i =>
          obtain ⟨earlier, original⟩ := follows.made m
          exact History.Same.hears (.single (.inl m.origin)) (ih i earlier original heard)

theorem isStopped_iff {s : Signals} : s.isStopped g = true ↔ ∃ m ∈ g.path, m ∈ s.stopped := by
  simp [isStopped, Signal.path]

theorem Follows.isStopped_iff (follows : Follows h f) (here : f.members[j]? = some g) :
    f.signals.isStopped g = true ↔ ∃ k ∈ h.stops, h.Hears j k := by
  rw [Signals.isStopped_iff]
  constructor
  · rintro ⟨m, heard, stopped⟩
    obtain ⟨k, told, p, there, rfl⟩ := (follows.stops m).1 stopped
    exact ⟨k, told, (follows.hears_iff here there).2 heard⟩
  · rintro ⟨k, told, hears⟩
    have there := List.getElem?_eq_getElem (follows.told k told)
    exact ⟨_, (follows.hears_iff here there).1 hears, (follows.stops _).2 ⟨k, told, _, there, rfl⟩⟩

theorem Follows.not_hears_of_below (follows : Follows h f) (below : h.Below k j) :
    ¬ h.Hears j k := by
  obtain ⟨p, g, there, here, ends⟩ := follows.below below
  have shorter := ends.length_le
  simp only [Signal.path, List.length_cons] at shorter
  rintro (same | above)
  · have one := follows.same same
    rw [here, there] at one
    cases one
    omega
  · obtain ⟨_, _, here', there', ends'⟩ := follows.below above
    cases here.symm.trans here'
    cases there.symm.trans there'
    have longer := ends'.length_le
    simp only [Signal.path, List.length_cons] at longer
    omega

theorem Follows.not_hears_of_beside (follows : Follows h f) (beside : h.Beside j k) :
    ¬ h.Hears j k := by
  obtain ⟨apart, c, d, a, b, same, derived, same', derived', one⟩ := beside
  rintro (alike | below)
  · exact apart alike
  · -- both lines are the path of the parent, so that neither is longer
    obtain ⟨g, q, here, parent, line⟩ := follows.derived derived
    obtain ⟨p, q', there, parent', line'⟩ := follows.derived derived'
    obtain ⟨_, _, here', there', ends⟩ := follows.below below
    cases here.symm.trans ((follows.same same).symm.trans here')
    cases there.symm.trans ((follows.same same').symm.trans there')
    cases parent.symm.trans ((follows.same one).trans parent')
    have longer := ends.length_le
    rw [Signal.path, List.length_cons, line, line'] at longer
    omega

end Kinship

section Seen
variable {h : History} {f : Family} {j k : Nat}

theorem Family.states_getElem? (f : Family) (j : Nat) :
    f.states[j]? = (f.members[j]?).map f.signals.isStopped := List.getElem?_map ..

theorem Follows.unheard (follows : Follows h f) (deaf : ¬ h.Hears j k) :
    (f.apply (.stop k)).states[j]? = f.states[j]? := by
  simp only [Family.apply]
  cases there : f.members[k]? with
  | none => rfl
  | some p =>
    rw [Family.states_getElem?, Family.states_getElem?]
    cases here : f.members[j]? with
    | none => rfl
    | some g =>
      have foreign : p.mark ∉ g.path := fun heard => deaf ((follows.hears_iff here there).2 heard)
      rw [Signal.path, ← List.contains_iff_mem, Bool.not_eq_true] at foreign
      simp only [Option.map_some, isStopped_stop, foreign, Bool.or_false]

theorem Family.apply_stopped (f : Family) (op : Op) (stopped : f.states[j]? = some true) :
    (f.apply op).states[j]? = some true := by
  have more : ∀ (next : Nat) (g : Signal), (f.more next g).states[j]? = some true := by
    intro next g
    have grown : (f.more next g).states = f.states ++ [f.signals.isStopped g] := List.map_append
    rw [grown, List.getElem?_append_left (List.getElem?_eq_some_iff.1 stopped).1, stopped]
  cases op with
  | fresh => exact more _ _
  | child i =>
    simp only [Family.apply]
    split
    · exact more _ _
    · exact stopped
  | clone i =>
    simp only [Family.apply]
    split
    · exact more f.signals.next _
    · exact stopped
  | stop i =>
    simp only [Family.apply]
    split
    · rw [Family.states_getElem?] at stopped ⊢
      obtain ⟨g, here, was⟩ := Option.map_eq_some_iff.1 stopped
      rw [here, Option.map_some, isStopped_stop, was, Bool.true_or]
    · exact stopped

theorem Family.stopped_lasts (f : Family) (more : List Op) (stopped : f.states[j]? = some true) :
    (more.foldl Family.apply f).states[j]? = some true := by
  induction more generalizing f with
  | nil => exact stopped
  | cons op more ih => exact ih (f.apply op) (f.apply_stopped op stopped)

end Seen

/-- Whatever is done with a growing list of signals, a signal is stopped if and only if one of the
stops was called on it, on a clone of it, on an ancestor of it or on a clone of an ancestor. A stop
is not seen by signals that do not hear of it, such as the ancestors of the one on which it was
called and those beside it; and a signal that is stopped remains so. -/
theorem stopped_iff_told (ops : List Op) :
    let h := History.of ops
    let f := Family.of ops
    (∀ j g, f.members[j]? = some g → (f.signals.isStopped g = true ↔ ∃ k ∈ h.stops, h.Hears j k)) ∧
    (∀ j k, ¬ h.Hears j k → (f.apply (.stop k)).states[j]? = f.states[j]?) ∧
    (∀ j k, h.Below k j ∨ h.Beside j k → ¬ h.Hears j k) ∧
    (∀ (j : Nat) more, f.states[j]? = some true →
      (Family.of (ops ++ more)).states[j]? = some true) := by
  intro h f
  have follows : Follows h f := follows_of ops
  refine ⟨fun j g here => follows.isStopped_iff here, fun j k deaf => follows.unheard deaf, ?_, ?_⟩
  · rintro j k (below | beside)
    · exact follows.not_hears_of_below below
    · exact follows.not_hears_of_beside beside
  · intro j more stopped
    rw [Family.of, List.foldl_append]
    exact f.stopped_lasts more stopped

example : (Family.of [.fresh, .child 0, .clone 1, .fresh, .child 2, .stop 1]).states =
    [false, true, true, false, true] := by decide

end Signals

end Scenario

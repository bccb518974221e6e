import Scenario.Proofs.CaseDisciplines
import Scenario.Proofs.SuiteNames
import Scenario.Runner

/-!
# Names of suites never clash

Each suite of an execution has a name of its own, whatever its cases are called
and however their runs end. The names below a run go on with the number of a
chained case or of a row, which ends at an underscore, so that names with
different numbers stay apart and no name is met again further down.
-/

set_option autoImplicit false

namespace Scenario
open Scenario.Act Scenario.Execution Scenario.Text

variable {σ : Type} {stage : Stage σ} {inner : Inner σ}

namespace Distinct
open Naming

def Below (name x : String) : Prop := ∃ rest, x.toList = name.toList ++ '_' :: rest

/-- The name is another one or goes on after it. -/
def Within (name x : String) : Prop := x = name ∨ Below name x

section Names
variable {name name' x : String} {n m : Nat}

theorem below_append (name tail : String) : Below name (name ++ "_" ++ tail) :=
  ⟨tail.toList, by simp [String.toList_append]⟩

theorem Below.ne (h : Below name x) : x ≠ name := by
  rintro rfl
  obtain ⟨rest, same⟩ := h
  have length := congrArg List.length same
  simp at length

theorem Below.trans (h : Below name name') (h' : Below name' x) : Below name x := by
  obtain ⟨rest, first⟩ := h
  obtain ⟨rest', second⟩ := h'
  exact ⟨rest ++ '_' :: rest', by rw [second, first, List.append_assoc, List.cons_append]⟩

theorem Below.within (h : Below name name') (h' : Within name' x) : Below name x := by
  rcases h' with rfl | h'
  · exact h
  · exact h.trans h'

theorem number_unique (h : Within (name ++ natText n) x) (h' : Within (name ++ natText m) x) :
    n = m := by
  have digits : ∀ {k}, Within (name ++ natText k) x →
      (x.toList.drop name.toList.length).takeWhile (· != '_') = natDigits k := by
    intro k within
    have inside : ∀ c ∈ natDigits k, (c != '_') = true := by
      intro c hc
      rw [bne_iff_ne]
      rintro rfl
      exact not_mem_natDigits (by decide) k hc
    have written : (name ++ natText k).toList = name.toList ++ natDigits k := by
      rw [String.toList_append, natText, String.toList_ofList]
    rcases within with rfl | ⟨rest, same⟩
    · rw [written, List.drop_left, ← List.append_nil (natDigits k),
        List.takeWhile_append_of_pos inside, List.takeWhile_nil]
    · rw [same, written, List.append_assoc, List.drop_left, List.takeWhile_append_of_pos inside]
      simp
  exact natDigits_injective ((digits h).symm.trans (digits h'))

end Names

/-- From one world to a later one suites were opened under different names, all as described. -/
def Opens (P : String → Prop) (w w' : World σ) : Prop :=
  ∃ l, w'.trace = l ++ w.trace ∧ (opened l).Nodup ∧ ∀ x ∈ opened l, P x

section Opens
variable {P Q R : String → Prop} {w w' w'' : World σ} {s t : State σ}

theorem Opens.mono (h : Opens P w w') (weaker : ∀ x, P x → Q x) : Opens Q w w' := by
  obtain ⟨l, trace, nodup, names⟩ := h
  exact ⟨l, trace, nodup, fun x hx => weaker x (names x hx)⟩

theorem Opens.trans (h : Opens P w w') (h' : Opens Q w' w'') (apart : ∀ x, P x → ¬ Q x) :
    Opens (fun x => P x ∨ Q x) w w'' := by
  obtain ⟨l, trace, nodup, names⟩ := h
  obtain ⟨l', trace', nodup', names'⟩ := h'
  refine ⟨l' ++ l, by rw [trace', trace, List.append_assoc], ?_, ?_⟩
  · rw [opened_excerpt.append, List.nodup_append]
    refine ⟨nodup, nodup', fun x hx y hy same => apart x (names x hx) ?_⟩
    rw [same]
    exact names' y hy
  · rw [opened_excerpt.append]
    intro x hx
    rcases List.mem_append.1 hx with hx | hx
    · exact .inl (names x hx)
    · exact .inr (names' x hx)

theorem opens_none (h : Along (fun l => opened l = []) s t) : Opens P s.world t.world := by
  obtain ⟨l, trace, none⟩ := h
  refine ⟨l, trace, ?_, ?_⟩
  · rw [none]
    exact List.nodup_nil
  · rw [none]
    exact fun _ hx => by cases hx

theorem Opens.before (h : Opens P s.world w) (h' : Along (fun l => opened l = []) t s) :
    Opens P t.world w :=
  ((opens_none (P := fun _ => False) h').trans h fun _ none _ => none).mono
    fun _ hx => hx.resolve_left id

theorem Opens.after (h : Opens P w s.world) (h' : Along (fun l => opened l = []) s t) :
    Opens P w t.world :=
  (h.trans (opens_none (P := fun _ => False) h') fun _ _ none => none).mono
    fun _ hx => hx.resolve_right id

theorem opens_suite {name : String} (h : Along (fun l => opened l = [name]) s t) :
    Opens (· = name) s.world t.world := by
  obtain ⟨l, trace, one⟩ := h
  refine ⟨l, trace, ?_, ?_⟩
  · rw [one]
    exact List.pairwise_singleton _ name
  · rw [one]
    exact fun _ hx => List.mem_singleton.1 hx

theorem same_silent (h : t.world.trace = s.world.trace) : Along (fun l => opened l = []) s t :=
  along_same opened_excerpt.additive h

theorem emit_silent {e : Event} (s : State σ) (he : e.suite? = none) :
    Along (fun l => opened l = []) s (s.emit stage e) :=
  (still_emit s he).unopened

end Opens

def unscripted : Discipline where
  able := fun i => i.isHooks = true
  refuses := fun _ => True
  freeze := fun {i} _ h => by cases i <;> exact h

/-- The suites of a run: its own and, if it has a chain to call, those below its name. -/
def Own (s : State σ) (x : String) : Prop :=
  x = s.run.name ∨ s.run.cursor.pending = true ∧ Below s.run.name x

structure Finishes (s t : State σ) : Prop where
  under : t.run.Under unscripted
  name : t.run.name = s.run.name
  opens : Opens (Own s) s.world t.world

def Onward (name : String) (i : Nat) (x : String) : Prop :=
  ∃ j, i ≤ j ∧ Below (name ++ natText j) x

structure Links (i : Nat) (s t : State σ) : Prop where
  same : t.run = s.run
  opens : Opens (Onward (s.run.name ++ "_") i) s.world t.world

section Rows
variable {rows : Rows} {s t : State σ} {n : Nat}

def rowName (rows : Rows) (n : Nat) : String :=
  if rows.multiLine then rows.name ++ "_row_" ++ natText n else rows.name

/-- The suites of a row: that of its run and, if the chain of its case runs within it, those
below. -/
def InRow (rows : Rows) (n : Nat) (x : String) : Prop :=
  x = rowName rows n ∨ rows.case.nestedChain = true ∧ Below (rowName rows n) x

structure RowRun (rows : Rows) (r : Run) : Prop where
  under : r.Under unscripted
  named : ∃ n, r.name = rowName rows n

structure Ranged (rows : Rows) (n : Nat) (s : State σ) (r : Except Fault (Bool × Option Run))
    (t : State σ) : Prop where
  same : t.run = s.run
  opens : Opens (fun x => ∃ m, n ≤ m ∧ InRow rows m x) s.world t.world
  last : ∀ b v, r = .ok (b, some v) → RowRun rows v

theorem InRow.within {x : String} (h : InRow rows n x) : Within (rowName rows n) x :=
  h.imp_right And.right

theorem within_rowName (rows : Rows) (n : Nat) : Within rows.name (rowName rows n) := by
  rw [rowName]
  split
  · exact .inr ⟨"row_".toList ++ (natText n).toList, by simp [String.toList_append]⟩
  · exact .inl rfl

theorem Within.trans {name name' x : String} (h : Within name name') (h' : Within name' x) :
    Within name x := by
  rcases h with rfl | h
  · exact h'
  · exact .inr (h.within h')

theorem rows_apart (several : rows.multiLine = true) {m : Nat} (later : n < m) {x : String}
    (h : InRow rows n x) : ¬ InRow rows m x := by
  intro h'
  have first := h.within
  have second := h'.within
  rw [rowName, if_pos several] at first second
  exact absurd (number_unique first second) (Nat.ne_of_lt later)

theorem rowStart_under (hstage : Aspect.Under unscripted stage.aspect)
    (case : rows.case.Under unscripted) (inherited : Aspect.Under unscripted rows.aspect)
    (n : Nat) (row : Row) (isLast : Bool) (s : State σ) :
    (rowStart stage rows n row isLast s).run.Under unscripted := by
  simp only [rowStart]
  cases rows.case.sharesState <;> exact Run.under_build hstage _ case inherited

variable (hstage : Aspect.Under unscripted stage.aspect)
  (finishes : ∀ s : State σ, s.run.Under unscripted → Ends inner.finish s fun _ t => Finishes s t)
  (case : rows.case.Under unscripted) (inherited : Aspect.Under unscripted rows.aspect)
include hstage finishes case inherited

theorem row_opens (n : Nat) (row : Row) (isLast : Bool) (s : State σ) :
    Ends inner.finish (rowStart stage rows n row isLast s) fun _ v =>
      Opens (InRow rows n) s.world v.world ∧ RowRun rows v.run := by
  refine ends_mono (finishes _ (rowStart_under hstage case inherited n row isLast s)) ?_
  intro r v done
  obtain ⟨_, pending, name⟩ := Suites.rowStart_run stage rows n row isLast s
  have named : (rowStart stage rows n row isLast s).run.name = rowName rows n := name
  refine ⟨?_, done.under, n, done.name.trans named⟩
  obtain ⟨l, trace, opened⟩ := done.opens
  rw [rowStart_trace] at trace
  refine Opens.mono ⟨l, trace, opened⟩ fun x hx => ?_
  rw [Own, named, pending, Bool.and_eq_true] at hx
  exact hx.imp_right fun below => ⟨below.1.1, below.2⟩

theorem runRows_opens (l : List Row) (n : Nat) (b : Bool) (last : Option Run)
    (several : rows.multiLine = true ∨ l.length ≤ 1) (hlast : ∀ v, last = some v → RowRun rows v)
    (s : State σ) :
    Ends (runRows stage inner rows n l b last) s (Ranged rows n s) := by
  -- on the rows that are left: names of several rows differ by their numbers, a single row has no
  -- other
  induction l generalizing n b last s with
  | nil =>
    refine ⟨rfl, opens_none (same_silent rfl), ?_⟩
    rintro b v ⟨⟩
    exact hlast v rfl
  | cons row rest ih =>
    rw [Course.runRows_iff]
    split
    · refine ⟨rfl, opens_none (same_silent rfl), ?_⟩
      rintro b v ⟨⟩
      exact hlast v rfl
    · refine ends_mono (row_opens hstage finishes case inherited n row rest.isEmpty s) ?_
      rintro r v ⟨own, run⟩
      cases r with
      | error f =>
        refine ⟨rowRaised_run stage rows.case s v, ?_, by rintro _ _ ⟨⟩⟩
        have dropped : Along (fun l => opened l = []) (s.after v) (rowRaised stage rows.case s v) :=
          along_rowDropped opened_excerpt.additive _ _ _
        have whole : Opens (InRow rows n) s.world (s.after v).world := own
        exact (whole.after dropped).mono fun x hx => ⟨n, Nat.le_refl n, hx⟩
      | ok c =>
        have whole : Opens (InRow rows n) s.world (s.after v).world := own
        rcases several with several | short
        · refine ends_mono (ih (n + 1) (c && b) (some v.run) (.inl several) ?_ (s.after v)) ?_
          · rintro _ ⟨⟩
            exact run
          · intro r t later
            refine ⟨later.same, (whole.trans later.opens ?_).mono ?_, later.last⟩
            · rintro x here ⟨m, after, there⟩
              exact rows_apart several after here there
            · rintro x (here | ⟨m, after, there⟩)
              · exact ⟨n, Nat.le_refl n, here⟩
              · exact ⟨m, Nat.le_of_succ_le after, there⟩
        · obtain rfl : rest = [] := by simpa using short
          refine ⟨rfl, whole.mono fun x hx => ⟨n, Nat.le_refl n, hx⟩, ?_⟩
          rintro _ _ ⟨⟩
          exact run

theorem runGroup_opens (list : List Row) (several : rows.multiLine = true ∨ list.length ≤ 1)
    (s : State σ) :
    Ends (runGroup stage inner rows list) s fun r t => t.run = s.run ∧
      Opens (fun x => x = rows.name ∨ ∃ m, InRow rows m x) s.world t.world ∧
      ∀ b v, r = .ok (b, some v) → RowRun rows v := by
  rw [Course.runGroup_iff]
  refine ends_mono (runRows_opens hstage finishes case inherited list 1 true none several
    (fun _ none => by cases none) _) ?_
  intro r t ranged
  refine ⟨?_, ?_, ranged.last⟩
  · rw [ungrouped_run, ranged.same, grouped_run]
  · have closing : Along (fun l => opened l = []) t (ungrouped stage rows t) := opened_ungrouped t
    have rowed := ranged.opens.after closing
    cases multi : rows.multiLine with
    | false =>
      have alone : grouped stage rows s = s := by rw [grouped, multi, if_neg Bool.false_ne_true]
      rw [alone] at rowed
      refine rowed.mono ?_
      rintro x ⟨m, _, here⟩
      exact .inr ⟨m, here⟩
    | true =>
      have suite : Along (fun l => opened l = [rows.name]) s (grouped stage rows s) := by
        rw [grouped, if_pos multi]
        exact along_emit rfl
      refine ((opens_suite suite).trans rowed ?_).mono ?_
      · rintro x rfl ⟨m, _, here⟩
        have longer : Below rows.name (rowName rows m) := by
          rw [rowName, if_pos multi]
          exact ⟨"row_".toList ++ (natText m).toList, by simp [String.toList_append]⟩
        exact (longer.within here.within).ne rfl
      · rintro x (same | ⟨m, _, here⟩)
        · exact .inl same
        · exact .inr ⟨m, here⟩

end Rows

section Chain
variable {s t : State σ} {rows : Rows}
  (hstage : Aspect.Under unscripted stage.aspect)
  (finishes : ∀ s : State σ, s.run.Under unscripted → Ends inner.finish s fun _ t => Finishes s t)
  (chains : ∀ s : State σ, s.run.Under unscripted → Ends inner.chain s fun _ t => Links 1 s t)

theorem Onward.below {name x : String} {i : Nat} (h : Onward (name ++ "_") i x) : Below name x := by
  obtain ⟨j, _, below⟩ := h
  exact (below_append name (natText j)).trans below

include chains in
theorem settleChild_opens {v : Run} (hv : RowRun rows v) (b : Bool) (s : State σ) :
    Ends (settleChild stage inner rows.case b (some v)) s fun _ t => t.run = s.run ∧
      Opens (fun x => rows.case.nestedChain = false ∧ ∃ m, Below (rowName rows m) x)
        s.world t.world := by
  have idle : ∀ {u : State σ}, u.world.trace = s.world.trace →
      Opens (fun x => rows.case.nestedChain = false ∧ ∃ m, Below (rowName rows m) x)
        s.world u.world := fun same => opens_none (same_silent same)
  have returned : ∀ u : State σ, Along (fun l => opened l = []) u (givenBack stage rows.case v u) :=
    fun u => along_givenBack opened_excerpt.additive rows.case v u
  rw [Course.settleChild_iff]
  split
  · rename_i deferred
    have unnested : rows.case.nestedChain = false := by
      rw [isDeferred, Bool.and_eq_true, Bool.not_eq_true'] at deferred
      exact deferred.2
    rw [Course.runDeferred_iff]
    split
    · exact ⟨Course.givenBack_run _ _ _, opens_none (returned s)⟩
    · refine ends_mono (chains ⟨s.world, v⟩ hv.under) fun _ w linked => ?_
      have below : Opens (Onward (v.name ++ "_") 1) s.world (s.after w).world := linked.opens
      refine ⟨Course.givenBack_run _ _ _, (below.after (returned _)).mono fun x onward => ?_⟩
      obtain ⟨m, name⟩ := hv.named
      exact ⟨unnested, m, name ▸ onward.below⟩
  · exact ⟨rfl, idle rfl⟩

theorem rowName_apart {m k : Nat} {x : String} (h : Below (rowName rows m) x) :
    x ≠ rowName rows k := by
  rintro rfl
  cases multi : rows.multiLine with
  | true =>
    have own : Within (rows.name ++ "_row_" ++ natText k) (rowName rows k) := by
      rw [rowName, if_pos multi]
      exact .inl rfl
    have other : Within (rows.name ++ "_row_" ++ natText m) (rowName rows k) := by
      rw [rowName, if_pos multi] at h
      exact .inr h
    obtain rfl := number_unique own other
    exact h.ne rfl
  | false =>
    have same : rowName rows m = rowName rows k := by
      rw [rowName, rowName, multi, if_neg Bool.false_ne_true, if_neg Bool.false_ne_true]
    exact h.ne same.symm

theorem below_rowName {m : Nat} {x : String} (h : Below (rowName rows m) x) :
    Below rows.name x := by
  rcases within_rowName rows m with same | below
  · rwa [same] at h
  · exact below.trans h

include hstage finishes chains in
/-- The rows of a case and the chain after them open suites whose names begin with that of the
case. -/
theorem rows_opens (case : rows.case.Under unscripted)
    (inherited : Aspect.Under unscripted rows.aspect) (list : List Row)
    (several : rows.multiLine = true ∨ list.length ≤ 1) (s : State σ) :
    Ends (runGroup stage inner rows list) s fun r t =>
      match r with
      | .ok p => Ends (settleChild stage inner rows.case p.1 p.2) t fun _ u =>
          u.run = s.run ∧ Opens (Within rows.name) s.world u.world
      | .error _ => t.run = s.run ∧ Opens (Within rows.name) s.world t.world := by
  have group : ∀ x, (x = rows.name ∨ ∃ m, InRow rows m x) → Within rows.name x := by
    rintro x (same | ⟨m, here⟩)
    · exact .inl same
    · exact (within_rowName rows m).trans here.within
  refine ends_mono (runGroup_opens hstage finishes case inherited list several s) ?_
  rintro r t ⟨same, rowed, last⟩
  rcases r with f | ⟨b, _ | v⟩
  · exact ⟨same, rowed.mono group⟩
  · exact ⟨same, rowed.mono group⟩
  · refine ends_mono (settleChild_opens chains (last b v rfl) b t) fun _ u done => ?_
    refine ⟨done.1.trans same, (rowed.trans done.2 ?_).mono ?_⟩
    · rintro x (rfl | ⟨m, rfl | ⟨nested, _⟩⟩) ⟨unnested, k, below⟩
      · exact (below_rowName below).ne rfl
      · exact rowName_apart below rfl
      · rw [nested] at unnested
        cases unnested
    · rintro x (here | ⟨_, m, below⟩)
      · exact group x here
      · exact .inr (below_rowName below)

section Child
variable {fs : Files} (sources : stage.sources = DataSource.ofName? fs)
include sources

theorem several_or_one {d : Case} {seed : Row} {list : List Row}
    (loaded : d.effectiveLoader.load stage.sources stage.dataDir seed = .ok list) :
    d.effectiveLoader.isMultiLine stage.sources = true ∨ list.length ≤ 1 := by
  rw [sources] at loaded ⊢
  cases multi : d.effectiveLoader.isMultiLine (DataSource.ofName? fs) with
  | true => exact .inl rfl
  | false => exact .inr (Nat.le_of_eq (length_of_load multi loaded))

include hstage finishes chains

theorem runChild_opens {c : Case} (hs : s.run.Under unscripted) (hc : c.Under unscripted) (i : Nat)
    (seed : Row) :
    Ends (runChild stage inner i c seed) s fun _ t => t.run = s.run ∧
      Opens (Below (s.run.name ++ "_" ++ natText i)) s.world t.world := by
  have told : ∀ f, Opens (Below (s.run.name ++ "_" ++ natText i)) s.world
      (s.emit stage (.error f)).world := fun f => opens_none (emit_silent s rfl)
  cases read : c.materialize seed with
  | error f =>
    simp only [runChild, ends_bind, ends_getRun, read]
    exact ⟨rfl, told f⟩
  | ok d =>
    cases loaded : d.effectiveLoader.load stage.sources stage.dataDir seed with
    | error f =>
      simp only [runChild, ends_bind, ends_getRun, read, report, ends_pure, loaded]
      exact ⟨rfl, told f⟩
    | ok list =>
      have case : (rowsOf stage s.run i d seed).case.Under unscripted := hc.read read
      have inherited : Aspect.Under unscripted (rowsOf stage s.run i d seed).aspect :=
        ((hs.case.aspect.append hs.inherited).frozen _).inherited
      have name : Below (s.run.name ++ "_" ++ natText i) (rowsOf stage s.run i d seed).name :=
        below_append _ d.name
      rw [Course.runChild_loaded read loaded]
      refine ends_mono (rows_opens hstage finishes chains case inherited list
        (several_or_one sources loaded) s) fun r t h => ?_
      cases r with
      | error f => exact ⟨h.1, h.2.mono fun _ => name.within⟩
      | ok p => exact ends_mono h fun _ u done => ⟨done.1, done.2.mono fun _ => name.within⟩

/-- Chained cases open suites below their numbers. -/
theorem runChildren_opens (l : List Case) (hl : ∀ c ∈ l, c.Under unscripted) (i : Nat) (seed : Row)
    (b : Bool) (s : State σ) (hs : s.run.Under unscripted) :
    Ends (runChildren stage inner i l seed b) s fun _ t => Links i s t := by
  induction l generalizing i seed b s with
  | nil => exact ⟨rfl, opens_none (same_silent rfl)⟩
  | cons c rest ih =>
    have others : ∀ d ∈ rest, d.Under unscripted := fun d hd => hl d (List.mem_cons_of_mem c hd)
    have later : ∀ x, Onward (s.run.name ++ "_") (i + 1) x → Onward (s.run.name ++ "_") i x :=
      fun x ⟨j, after, below⟩ => ⟨j, Nat.le_of_succ_le after, below⟩
    have came : ∀ passed, Along (fun l => opened l = []) s (s.record (.reached i passed)) :=
      along_reached opened_excerpt.additive s i
    rw [Course.runChildren_iff]
    split
    · exact ⟨rfl, opens_none (same_silent rfl)⟩
    · split
      · refine ends_mono (ih others (i + 1) seed b (s.record (.reached i true)) hs) ?_
        intro r t linked
        exact ⟨linked.same, (linked.opens.before (came true)).mono later⟩
      · refine ends_mono (runChild_opens (s := s.record (.reached i false)) hstage finishes chains
          sources hs (hl c (by simp)) i seed) ?_
        rintro r t ⟨same, child⟩
        have here := child.before (came false)
        have kept : t.run = s.run := same
        have own : ∀ x, Below (s.run.name ++ "_" ++ natText i) x → Onward (s.run.name ++ "_") i x :=
          fun x below => ⟨i, Nat.le_refl i, below⟩
        cases r with
        | error f => exact ⟨kept, here.mono own⟩
        | ok p =>
          refine ends_mono (ih others (i + 1) _ _ t (kept ▸ hs)) fun x u linked => ?_
          refine ⟨linked.same.trans kept, ?_⟩
          have after := linked.opens
          rw [kept] at after
          refine (here.trans after ?_).mono ?_
          -- a name that is below two cases would give both the same number
          · rintro x below ⟨j, next, below'⟩
            have number := number_unique (.inr below) (.inr below')
            omega
          · rintro x (below | onward)
            · exact own x below
            · exact later x onward

theorem chain_opens (hs : s.run.Under unscripted) :
    Ends (chain stage inner) s fun _ t => Links 1 s t := by
  rw [chain, ends_bind, ends_getRun]
  exact runChildren_opens hstage finishes chains sources _ (fun c hc => hs.case.chain hc) 1 _ _ s hs

end Child

end Chain

section Finish
variable {s t u : State σ} {fs : Files}
  (hstage : Aspect.Under unscripted stage.aspect)
  (finishes : ∀ s : State σ, s.run.Under unscripted → Ends inner.finish s fun _ t => Finishes s t)
  (chains : ∀ s : State σ, s.run.Under unscripted → Ends inner.chain s fun _ t => Links 1 s t)
  (sources : stage.sources = DataSource.ofName? fs)

theorem finishes_over (under : u.run.Under unscripted) (name : u.run.name = s.run.name)
    (opens : Opens (Own s) s.world u.world) {v : State σ} (silent : Along (fun l => opened l = []) u v)
    (same : v.run = (u.released stage).run) : Finishes s v := by
  refine ⟨?_, ?_, opens.after silent⟩
  · rw [same]
    exact under.same rfl rfl rfl
  · rw [same]
    exact name

include hstage finishes chains sources

theorem endRun_opens (under : t.run.Under unscripted) (name : t.run.name = s.run.name)
    (pending : t.run.cursor.pending = s.run.cursor.pending)
    (own : Opens (· = s.run.name) s.world t.world) (b : Bool) :
    Ends (endRun stage (chain stage inner) b) t fun _ v => Finishes s v := by
  have released : ∀ u : State σ, Along (fun l => opened l = []) u (u.released stage) :=
    along_released opened_excerpt.additive
  have ended : ∀ u : State σ, Along (fun l => opened l = []) u (u.ended stage) :=
    along_ended opened_excerpt.additive rfl
  have closed : Opens (· = s.run.name) s.world (t.emit stage .closed).world :=
    own.after (emit_silent t rfl)
  rw [Course.endRun_iff]
  split
  · rename_i needs
    rw [Cursor.needsChain, Bool.and_eq_true, pending] at needs
    refine ends_mono (chain_opens (s := (t.emit stage .closed).chainCalled) hstage finishes chains
      sources (under.same rfl rfl rfl)) fun r u linked => ?_
    have kept : u.run.Under unscripted := by
      rw [linked.same]
      exact under.same rfl rfl rfl
    have named : u.run.name = s.run.name := by
      rw [linked.same]
      exact name
    have below : Opens (Onward (s.run.name ++ "_") 1) (t.emit stage .closed).world u.world :=
      name ▸ linked.opens
    have opens : Opens (Own s) s.world u.world :=
      (closed.trans below fun x own onward => onward.below.ne own).mono fun x hx =>
        hx.imp_right fun onward => ⟨needs.1, onward.below⟩
    cases r with
    | ok c => exact finishes_over kept named opens (ended u) (State.ended_run stage u)
    | error f => exact finishes_over kept named opens (released u) rfl
  · have opens : Opens (Own s) s.world (t.emit stage .closed).world :=
      closed.mono fun x same => .inl same
    exact finishes_over (u := t.emit stage .closed) (under.same rfl rfl rfl) name opens (ended _)
      (State.ended_run stage _)

theorem finishWith_opens (hs : s.run.Under unscripted) :
    Ends (finishWith stage inner) s fun _ t => Finishes s t := by
  have begun : (s.begun stage).run.Under unscripted := hs.prepared
  rw [Course.finishWith_iff]
  refine ends_mono (steps_still inner (fun i hi => (begun.aspect i hi).able) _) fun r t went => ?_
  have under : t.run.Under unscripted :=
    begun.same went.kept.case went.kept.aspect went.kept.inherited
  have name : t.run.name = s.run.name := went.kept.name
  have own : Opens (· = s.run.name) s.world t.world :=
    (opens_suite (opened_begun s)).after went.unopened
  cases r with
  | ok b => exact endRun_opens hstage finishes chains sources under name went.kept.pending own b
  | error f =>
    have released : ∀ u : State σ, Along (fun l => opened l = []) u (u.released stage) :=
      along_released opened_excerpt.additive
    have opens : ∀ u : State σ, u.world = t.world →
        Opens (Own s) s.world (u.emit stage .closed).world := by
      intro u same
      have here : Opens (· = s.run.name) s.world u.world := same ▸ own
      exact (here.after (emit_silent u rfl)).mono fun x hx => .inl hx
    dsimp only
    rw [Course.halt_iff]
    split
    · exact finishes_over (u := t.aborted.emit stage .closed) (under.same rfl rfl rfl) name
        (opens t.aborted rfl) (released _) rfl
    · exact finishes_over (u := t.emit stage .closed) (under.same rfl rfl rfl) name (opens t rfl)
        (released _) rfl

omit finishes chains in
/-- Whatever the depth, runs and chains open suites under different names. -/
theorem innerAt_opens (depth : Nat) :
    (∀ s : State σ, s.run.Under unscripted →
        Ends (innerAt stage depth).finish s fun _ t => Finishes s t) ∧
      ∀ s : State σ, s.run.Under unscripted →
        Ends (innerAt stage depth).chain s fun _ t => Links 1 s t := by
  induction depth with
  | zero =>
    refine ⟨fun s hs => ?_, fun s _ => ⟨rfl, opens_none (emit_silent s rfl)⟩⟩
    rw [Course.beyond_iff]
    have told : Opens (Own s) s.world (s.emit stage (.error (beyond s.run.name))).world :=
      opens_none (emit_silent s rfl)
    exact finishes_over (s := s) (u := s.emit stage _) (hs.same rfl rfl rfl) rfl told
      (along_released opened_excerpt.additive _) rfl
  | succ depth ih =>
    exact ⟨fun s hs => finishWith_opens hstage ih.1 ih.2 sources hs,
      fun s hs => chain_opens hstage ih.1 ih.2 sources hs⟩

end Finish

section Runner
variable {c : Case} {fs : Files}
  (hstage : Aspect.Under unscripted stage.aspect)
  (sources : stage.sources = DataSource.ofName? fs) (hc : c.Under unscripted)
include hstage sources hc

omit sources in
theorem topStart_under (stop : Signal) (shared : Option Session) (name : String) (row : Row)
    (w : World σ) :
    (Runner.rowStart stage stop c shared name row w).run.Under unscripted ∧
      (Runner.rowStart stage stop c shared name row w).run.name = name ∧
      (Runner.rowStart stage stop c shared name row w).world.trace = w.trace := by
  refine ⟨Run.under_build hstage _ hc Aspect.under_nil, rfl, ?_⟩
  cases shared <;> rfl

theorem topRows_opens (depth : Nat) (stop : Signal) (multiLine : Bool) (shared : Option Session)
    (l : List Row)
    (several : multiLine = true ∨ l.length ≤ 1) (n : Nat) (success : Bool) (w : World σ) :
    Opens (fun x => ∃ m, n ≤ m ∧ Within (Runner.rowName c multiLine m) x) w
      (Runner.runRows stage depth stop c multiLine shared n l success w).2 := by
  have idle : ∀ {k} {v : World σ},
      Opens (fun x => ∃ m, k ≤ m ∧ Within (Runner.rowName c multiLine m) x) v v :=
    ⟨[], rfl, List.nodup_nil, fun _ none => by cases none⟩
  induction l generalizing n success w with
  | nil => exact idle
  | cons row rest ih =>
    rw [Runner.runRows]
    split
    · exact idle
    · obtain ⟨under, name, trace⟩ :=
        topStart_under hstage hc stop shared (Runner.rowName c multiLine n) row w
      have done : Ends (finish stage depth) _ fun _ t => Finishes _ t :=
        (innerAt_opens hstage sources (depth + 1)).1 _ under
      simp only [Ends, exec] at done
      revert done
      generalize StateT.run (ExceptT.run (finish stage depth)) _ = e
      intro done
      have own : Opens (Within (Runner.rowName c multiLine n)) w e.2.world := by
        obtain ⟨l, recorded, opened⟩ := done.opens
        rw [trace] at recorded
        refine Opens.mono ⟨l, recorded, opened⟩ fun x hx => ?_
        rw [Own, name] at hx
        exact hx.imp_right And.right
      rcases e with ⟨f | b, t⟩
      · exact own.mono fun x hx => ⟨n, Nat.le_refl n, hx⟩
      · rcases several with rfl | short
        · refine (own.trans (ih (.inl rfl) (n + 1) (b && success) t.world) ?_).mono ?_
          · rintro x here ⟨m, after, there⟩
            have number := number_unique here there
            omega
          · rintro x (here | ⟨m, after, there⟩)
            · exact ⟨n, Nat.le_refl n, here⟩
            · exact ⟨m, Nat.le_of_succ_le after, there⟩
        · obtain rfl : rest = [] := by simpa using short
          exact own.mono fun x hx => ⟨n, Nat.le_refl n, hx⟩

omit hstage sources hc in
theorem opens_quit {P : String → Prop} {w w' : World σ} (h : Opens P w w') (k : Session) :
    Opens P w (w'.quit stage k) := by
  obtain ⟨l, trace, opened⟩ := h
  rw [World.quit]
  split
  · rename_i d _
    refine ⟨.command d .quit :: l, congrArg (TraceEntry.command d .quit :: ·) trace, ?_⟩
    have silent : Naming.opened [.command d .quit] = [] := rfl
    rw [opened_excerpt.cons, silent, List.append_nil]
    exact opened
  · exact ⟨l, trace, opened⟩

theorem execute_opens (depth : Nat) (stop : Signal) (w : World σ) :
    ∃ P : String → Prop, Opens P w (Runner.execute stage depth stop c w).2 := by
  rw [Runner.execute]
  split
  · exact ⟨fun _ => True, [], rfl, List.nodup_nil, fun _ _ => trivial⟩
  · rename_i rows loaded
    have opens := fun shared w => topRows_opens hstage sources hc depth stop _ shared rows
      (several_or_one sources loaded) 1 true w
    dsimp only
    split
    · exact ⟨_, opens_quit (opens _ w.newSession.2) _⟩
    · exact ⟨_, opens none w⟩

end Runner

/-- The suites that one execution opens have different names. Its cases may have any names, rows
of the known sources and hooks, may be read only when a run reaches them, and their steps may be
skipped, fail, raise faults or be stopped, however deep its runs may lie inside one another. -/
theorem run_distinct (stage : Stage σ) (stop : Signal) {c : Case} (w : World σ) (depth : Nat)
    {fs : Files}
    (sources : stage.sources = DataSource.ofName? fs)
    (imposed : Aspect.Under unscripted stage.aspect) (case : c.Under unscripted) :
    (opened (World.since w (Runner.run stage stop c w depth).2)).Nodup := by
  have whole : ∃ P : String → Prop, Opens P w (Runner.run stage stop c w depth).2 := by
    rw [Runner.run]
    split
    · rename_i d read
      exact execute_opens imposed sources (case.read read) depth stop w
    · exact ⟨fun _ => True, [], rfl, List.nodup_nil, fun _ _ => trivial⟩
  obtain ⟨_, l, trace, nodup, _⟩ := whole
  rwa [World.since_eq trace]

section Example
open Brackets

def namesakes : Case :=
  house "c" [house "1_c_row_1" [],
    { house "c" [house "1_c" []] with
      loader := { source := "manual", config := [("data", "[\x7b\x7d, \x7b\x7d]")] }
      nestedChain := true }]

theorem house_unscripted {name : String} {chain : List Case}
    (h : ∀ c ∈ chain, c.Under unscripted) : (house name chain).Under unscripted :=
  .intro (fun _ none => by cases none) (fun _ none => by cases none) h
    (fun _ none => by cases none) (fun _ none => by cases none)

theorem namesakes_unscripted : namesakes.Under unscripted := by
  have none : ∀ c ∈ ([] : List Case), c.Under unscripted := fun _ none => by cases none
  have nested : (house "c" [house "1_c" []]).Under unscripted := by
    refine house_unscripted ?_
    simpa using house_unscripted none
  refine house_unscripted ?_
  simp only [List.mem_cons, List.not_mem_nil, or_false, forall_eq_or_imp, forall_eq]
  exact ⟨house_unscripted none, nested.same rfl rfl rfl⟩

theorem namesakes_distinct :
    let names := opened (World.since { browser := () }
      (Runner.run library ⟨0, []⟩ namesakes { browser := () }).2)
    names.Nodup ∧ names = ["c", "c_1_1_c_row_1", "c_2_c", "c_2_c_row_1", "c_2_c_row_1_1_1_c",
      "c_2_c_row_2", "c_2_c_row_2_1_1_c"] :=
  ⟨run_distinct library ⟨0, []⟩ _ _ rfl Aspect.under_nil namesakes_unscripted, by decide +kernel⟩

end Example

end Distinct

end Scenario

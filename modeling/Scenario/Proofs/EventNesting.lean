import Scenario.Proofs.RecordedEntries

/-!
# Brackets of steps and suites

Listeners are told when a suite opens and closes and when a step starts and
ends. These events are well nested unless advice that follows a step which held
raises a fault: such a step is never ended.
-/

set_option autoImplicit false

namespace Scenario
open Scenario.Execution

variable {σ : Type} {stage : Stage σ}

/-- What is open while listeners are told of a run. -/
inductive Opening where
  | suite
  | step
  deriving DecidableEq, Repr

namespace Opening

/-- The brackets that are open after an event, the innermost first. -/
def next : List Opening → Event → Option (List Opening)
  | st, .opened _ _ _ => some (.suite :: st)
  | st, .started _ => some (.step :: st)
  | .step :: st, .ended => some st
  | .suite :: st, .closed => some st
  | st, .failure _ => some st
  | st, .error _ => some st
  | _, _ => none

def after (st : List Opening) (es : List Event) : Option (List Opening) := es.foldlM next st

/-- Every suite is closed and every step ended, each within what it lies in. -/
def Nested (es : List Event) : Prop := after [] es = some []

instance (es : List Event) : Decidable (Nested es) := inferInstanceAs (Decidable (_ = _))

def Balanced (es : List Event) : Prop := ∀ st, after st es = some st

theorem after_append (st : List Opening) (es es' : List Event) :
    after st (es ++ es') = (after st es).bind fun st => after st es' :=
  List.foldlM_append

theorem balanced_nil : Balanced [] := fun _ => rfl

theorem Balanced.append {es es' : List Event} (h : Balanced es) (h' : Balanced es') :
    Balanced (es ++ es') := by
  intro st
  rw [after_append, h st]
  exact h' st

theorem Balanced.step {es : List Event} (h : Balanced es) (l : String) :
    Balanced (.started l :: (es ++ [.ended])) := by
  intro st
  show after (.step :: st) (es ++ [.ended]) = some st
  rw [after_append, h]
  rfl

theorem Balanced.suite {es : List Event} (h : Balanced es) (n : String) (p : Script) (x : Row) :
    Balanced (.opened n p x :: (es ++ [.closed])) := by
  intro st
  show after (.suite :: st) (es ++ [.closed]) = some st
  rw [after_append, h]
  rfl

def starts : Event → Bool
  | .started _ => true
  | _ => false

def ends : Event → Bool
  | .ended => true
  | _ => false

/-- Steps that are open are those that were open and those that were started and not ended. -/
theorem after_steps {st st' : List Opening} {es : List Event} (h : after st es = some st') :
    st'.count .step + es.countP ends = st.count .step + es.countP starts := by
  induction es generalizing st with
  | nil =>
    cases h
    rfl
  | cons e es ih =>
    cases hn : next st e with
    | none => simp [after, hn] at h
    | some st₁ =>
      have tail : after st₁ es = some st' := by simpa [after, hn] using h
      have rest := ih tail
      have here : st₁.count .step + (if ends e then 1 else 0) =
          st.count .step + (if starts e then 1 else 0) := by
        rcases e with _ | _ | _ | _ | _ | _ <;> rcases st with _ | ⟨_ | _, st⟩ <;>
          simp [next] at hn <;> subst hn <;> simp [starts, ends]
      rw [List.countP_cons, List.countP_cons]
      omega

end Opening

namespace TraceEntry

/-- Advice after a step that held raised a fault. -/
def cutsOff : TraceEntry → Bool
  | .adviceRaised _ .after _ => true
  | _ => false

theorem cutsOff_eq_true {e : TraceEntry} :
    e.cutsOff = true ↔ ∃ byHook f, e = .adviceRaised byHook .after f := by
  constructor
  · intro h
    unfold cutsOff at h
    split at h
    · exact ⟨_, _, rfl⟩
    · cases h
  · rintro ⟨_, _, rfl⟩
    rfl

end TraceEntry

namespace Brackets
open Opening

structure Even (l : List TraceEntry) : Prop where
  count : (told l).countP starts = (told l).countP ends + l.countP TraceEntry.cutsOff
  balanced : l.countP TraceEntry.cutsOff = 0 → Balanced (told l)

structure Short (l : List TraceEntry) : Prop where
  count : (told l).countP starts + 1 = (told l).countP ends + l.countP TraceEntry.cutsOff
  cut : 0 < l.countP TraceEntry.cutsOff

theorem even_append {l l' : List TraceEntry} (h : Even l) (h' : Even l') : Even (l' ++ l) where
  count := by
    have := h.count
    have := h'.count
    rw [told_append, List.countP_append, List.countP_append, List.countP_append]
    omega
  balanced := by
    intro hc
    rw [List.countP_append] at hc
    rw [told_append]
    exact (h.balanced (by omega)).append (h'.balanced (by omega))

theorem even_silent {l : List TraceEntry} (h : Silent l) : Even l := by
  have quiet : told l = [] := told_silent h
  have uncut : l.countP TraceEntry.cutsOff = 0 := by
    rw [List.countP_eq_zero]
    intro e he hc
    have silent := h e he
    cases e <;> simp [TraceEntry.cutsOff, TraceEntry.silent] at hc silent
  refine ⟨?_, fun _ => ?_⟩
  · rw [quiet, uncut]
    rfl
  · rw [quiet]
    exact balanced_nil

theorem additive : Additive Even where
  append := even_append
  silent := even_silent

theorem even_failure (m : String) : Even [.event (.failure m)] :=
  ⟨rfl, fun _ _ => rfl⟩

theorem even_error (f : Fault) : Even [.event (.error f)] :=
  ⟨rfl, fun _ _ => rfl⟩

theorem even_begun (k : AdviceKind) : Even [.adviceBegun k] := ⟨rfl, fun _ _ => rfl⟩

theorem even_advised (byHook : Bool) (k : AdviceKind) (b : Bool) : Even [.advised byHook k b] :=
  ⟨rfl, fun _ _ => rfl⟩

theorem even_raised (byHook : Bool) {k : AdviceKind} (f : Fault) (hk : k ≠ .after) :
    Even [.adviceRaised byHook k f] := by
  cases k with
  | before => exact ⟨rfl, fun _ _ => rfl⟩
  | after => exact absurd rfl hk
  | failure => exact ⟨rfl, fun _ _ => rfl⟩

theorem short_raised (byHook : Bool) (f : Fault) : Short [.adviceRaised byHook .after f] :=
  ⟨rfl, Nat.zero_lt_one⟩

theorem cut_around (e f : Event) (l : List TraceEntry) :
    (.event f :: (l ++ [.event e])).countP TraceEntry.cutsOff = l.countP TraceEntry.cutsOff := by
  rw [List.countP_cons, List.countP_append]
  rfl

theorem even_step {l : List TraceEntry} (h : Even l) (lab : String) :
    Even (.event .ended :: (l ++ [.event (.started lab)])) where
  count := by
    have := h.count
    rw [told_around, cut_around, List.countP_cons, List.countP_cons, List.countP_append,
      List.countP_append]
    simp [starts, ends]
    omega
  balanced := by
    rw [told_around, cut_around]
    exact fun hc => (h.balanced hc).step lab

theorem even_suite {l : List TraceEntry} (h : Even l) (n : String) (p : Script) (x : Row) :
    Even (.event .closed :: (l ++ [.event (.opened n p x)])) where
  count := by
    have := h.count
    rw [told_around, cut_around, List.countP_cons, List.countP_cons, List.countP_append,
      List.countP_append]
    simp [starts, ends]
    omega
  balanced := by
    rw [told_around, cut_around]
    exact fun hc => (h.balanced hc).suite n p x

theorem short_append {l l' : List TraceEntry} (h : Even l) (h' : Short l') : Short (l' ++ l) where
  count := by
    have := h.count
    have := h'.count
    rw [told_append, List.countP_append, List.countP_append, List.countP_append]
    omega
  cut := by
    have := h'.cut
    rw [List.countP_append]
    omega

/-- A step that was started and then cut off. -/
theorem even_cut {l : List TraceEntry} (h : Short l) (lab : String) :
    Even (l ++ [.event (.started lab)]) where
  count := by
    have := h.count
    have : (told [.event (.started lab)]).countP starts = 1 := rfl
    have : (told [.event (.started lab)]).countP ends = 0 := rfl
    have : [TraceEntry.event (.started lab)].countP TraceEntry.cutsOff = 0 := rfl
    rw [told_append, List.countP_append, List.countP_append, List.countP_append]
    omega
  balanced := by
    intro hc
    have := h.cut
    rw [List.countP_append] at hc
    omega

def plain (σ : Type) : Plain σ where
  ready := fun _ => True
  able := fun _ => True
  moves := Along Even
  rejects := Along Short
  whole := Along Even
  left := fun _ _ => Along Even

theorem along_cut {s t u : State σ} {l : String} (h : Along Even (s.emit stage (.started l)) t)
    (h' : Along Short t u) : Along Even s u := by
  have started : Along (· = [.event (.started l)]) s (s.emit stage (.started l)) := along_emit rfl
  have short : Along Short (s.emit stage (.started l)) u :=
    along_seq h h' fun _ _ => short_append
  refine along_seq started short ?_
  rintro k k' rfl hk
  exact even_cut hk l

theorem objects_raised (s : State σ) (byHook : Bool) (k : AdviceKind) (f : Fault) :
    (plain σ).objects k s (s.record (.adviceRaised byHook k f)) := by
  cases k with
  | after => exact along_record (short_raised byHook f)
  | before => exact along_record (even_raised byHook f (by simp))
  | failure => exact along_record (even_raised byHook f (by simp))

theorem lawful : (plain σ).Lawful stage where
  refl := fun _ => along_same additive rfl
  trans := along_trans additive
  trans_rejects := fun h h' => along_seq h h' fun _ _ => short_append
  ready := fun _ _ => trivial
  able := fun _ _ => trivial
  move := fun _ h => along_move additive h
  told := fun _ _ => trivial
  failure := fun m _ => along_emit (even_failure m)
  error := fun f _ => along_emit (even_error f)
  step := fun _ h => along_around h fun _ hl => even_step hl _
  suite := fun _ h => along_around h fun _ hl => even_suite hl _ _ _
  rejected := fun _ => along_cut
  hookAnswered := fun k b _ _ _ => along_record (even_advised true k b)
  caseAnswered := fun k b _ => along_record (even_advised false k b)
  hookRaised := fun {s} _ k f _ _ _ => objects_raised s true k f
  caseRaised := fun {s} k f _ => objects_raised s false k f
  advice := fun _ _ _ _ _ => trivial
  adviceDone := fun _ h => along_trans additive (along_record (even_begun _)) h
  prepared := fun _ => along_same additive rfl
  aborted := fun _ => along_same additive rfl
  chainCalled := fun _ => along_same additive rfl
  reached := fun i passed _ => along_reached additive _ i passed
  released := fun _ h => along_trans additive h (along_released additive _)
  stopSeen := fun _ h _ => along_trans additive h (along_record ⟨rfl, fun _ _ => rfl⟩)
  rowReady := fun _ _ _ _ _ => trivial
  rowLeft := fun _ _ h => along_row h
  rowDone := fun _ _ h _ => along_row h
  rowRaised := fun _ _ h => along_rowRaised additive h
  left_trans := along_trans additive
  left_suite := fun _ h => along_around h fun _ hl => even_suite hl _ _ _
  left_ready := fun _ _ => trivial
  dropped := fun _ h => along_trans additive h (along_givenBack additive _ _ _)
  deferred := fun {_ _ v} _ _ _ h _ hv =>
    along_trans additive (along_trans additive h hv)
      (along_givenBack additive _ _ (State.after _ v))

/-- The steps and suites of a run are well nested if and only if no advice after
a step that held raised a fault. -/
theorem finish_nested (stage : Stage σ) (depth : Nat) (s : State σ) :
    let t := ((finishWith stage (innerAt stage depth)).exec s).2
    let l := World.since s.world t.world
    Nested (told l) ↔ ∀ byHook f, .adviceRaised byHook .after f ∉ l := by
  intro t l
  have even : Even l := along_since (Plain.finish_ends lawful depth trivial)
  have count := even.count
  constructor
  · intro nested byHook f hf
    have cut : 0 < l.countP TraceEntry.cutsOff := List.countP_pos_iff.2 ⟨_, hf, rfl⟩
    have steps := after_steps nested
    simp at steps
    omega
  · intro uncut
    refine even.balanced ?_ []
    rw [List.countP_eq_zero]
    intro e he hc
    obtain ⟨byHook, f, rfl⟩ := TraceEntry.cutsOff_eq_true.1 hc
    exact uncut byHook f he

section Example

def noBrowsers : Browser Unit where
  launch := fun _ s => (.error [], s)
  perform := fun _ _ s => (.error [], s)
  elapse := fun _ s => s

def bare : Stage Unit where
  browsers := noBrowsers
  sources := fun _ => none

def library : Stage Unit := { bare with sources := DataSource.ofName? {} }

def greeting (before after : Option Hook) : Case where
  script := { name := "script" }
  steps := [{ kind := .echo, texts := [("text", "hi")] }]
  aspect := [.hooks .any before after none false]

def firstState (c : Case) : State Unit :=
  let (run, w) := Run.build bare { browser := () } { case := c, signal := ⟨0, []⟩ }
  ⟨w, run⟩

def raising (f : Fault) : Hook := fun _ => { result := .error f }

theorem after_hook_leaves_step_open :
    let s := firstState (greeting none (some (raising (.step "h" [.text "hook after"]))))
    let t := ((finish bare).exec s).2
    ¬ Nested (told (World.since s.world t.world)) := by
  decide +kernel

end Example

end Brackets

end Scenario

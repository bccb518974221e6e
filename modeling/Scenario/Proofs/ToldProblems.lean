import Scenario.Proofs.EventNesting
import Scenario.Proofs.ProblemAccounts

/-!
# Listeners are told of problems

A run that ends in a fault told its listeners of an error, and one that does
not succeed told them of a failure or an error, unless a run was stopped or the
problem was raised by a hook that no step reported.
-/

set_option autoImplicit false

namespace Scenario
open Scenario.Execution

variable {σ : Type} {stage : Stage σ}

namespace Telling
open Account

/-- What a part of a chain recorded that ended with `r`. -/
def Linked (r : Except Fault Bool) : State σ → State σ → Prop := Along fun l => Ended l r

section Parts
variable {P Q : List TraceEntry → Prop} {s t u : State σ}

theorem clean_refl (s : State σ) : Along Clean s s := along_same additive rfl

theorem clean_trans (h : Along Clean s t) (h' : Along Clean t u) : Along Clean s u :=
  along_trans additive h h'

theorem clean_before (abs : Absorbs P) (h : Along Clean s t) (h' : Along P t u) : Along P s u :=
  along_seq h h' fun _ _ hc hp => abs.after hp hc

theorem clean_after (abs : Absorbs P) (h : Along P s t) (h' : Along Clean t u) : Along P s u :=
  along_seq h h' fun _ _ => abs.before

theorem along_step (abs : Absorbs P) {l : String} (h : Along P (s.emit stage (.started l)) t) :
    Along P s (t.emit stage .ended) := by
  have started : Along Clean s (s.emit stage (.started l)) := along_emit (clean_started l)
  have ended : Along Clean t (t.emit stage .ended) := along_emit clean_ended
  exact clean_after abs (clean_before abs started h) ended

theorem along_advice {v : State σ} {c : Case} {p : Step} {k : AdviceKind} {e : TraceEntry}
    (h : Along P (adviceStart stage s c p k) v)
    (hq : ∀ l, P l → Q (e :: (l ++ [.adviceBegun k]))) :
    Along Q s ((s.after v).record e) := by
  obtain ⟨l, hv, hl⟩ := h
  refine ⟨e :: (l ++ [.adviceBegun k]), ?_, hq l hl⟩
  show e :: v.world.trace = _
  rw [hv, List.cons_append, List.append_assoc]
  rfl

theorem along_suite (h : Along P (s.begun stage) t)
    (hq : ∀ l n p x, P l → Q (.event .closed :: (l ++ [.event (.opened n p x)]))) :
    Along Q s (t.emit stage .closed) := by
  have around : Along Q (s.prepared stage) (t.emit stage .closed) :=
    along_around h fun l hl => hq l _ _ _ hl
  exact around

end Parts

section Linked
variable {r : Except Fault Bool} {s t u : State σ}

theorem linked_refl (s : State σ) : Linked (.ok true) s s := clean_refl s

theorem linked_trans {a : Bool} (h : Linked (.ok a) s t) (h' : Linked r t u) :
    Linked (r.map (· && a)) s u :=
  along_seq h h' fun _ _ => Ended.append

theorem linked_silent (h : Linked r s t) (h' : Along Silent t u) : Linked r s u :=
  along_seq h h' fun _ _ => Ended.silent

theorem linked_released (h : Linked r s t) : Linked r s (t.released stage) :=
  linked_silent h (along_released silently t)

theorem linked_givenBack (h : Linked r s t) (c : Case) (last : Run) :
    Linked r s (givenBack stage c last t) :=
  linked_silent h (along_givenBack silently c last t)

/-- A run that was stopped does not succeed. -/
theorem linked_ended {b : Bool} (h : Linked (.ok b) s t) :
    Linked (.ok (b && !(t.released stage).isStopped)) s (t.ended stage) := by
  have released : Linked (.ok b) s (t.released stage) := linked_released h
  rw [State.ended]
  split
  · rename_i stopped
    rw [stopped, Bool.not_true, Bool.and_false]
    exact along_seq released (along_record rfl) fun _ _ hl hs => hs ▸ hl.stopped
  · rename_i running
    rw [Bool.not_eq_true] at running
    rw [running, Bool.not_false, Bool.and_true]
    exact released

theorem linked_suite {n : String} {p : Script} {x : Row}
    (h : Linked r (s.emit stage (.opened n p x)) t) : Linked r s (t.emit stage .closed) :=
  along_around h fun _ hl => hl.suite n p x

theorem linked_closed {b : Bool}
    (h : Along (if b then Clean else Refused) (s.begun stage) t) :
    Linked (.ok b) s (t.emit stage .closed) := by
  cases b with
  | true => exact along_suite h fun _ n p x hl => hl.suite n p x
  | false => exact along_suite h fun _ n p x hl => hl.verified.suite n p x

theorem linked_inRun {f : Fault} (h : Linked (.error f) s t) (run : String) :
    Linked (.error (f.inRun run)) s t :=
  along_mono h fun _ hl => Broken.inRun hl run

end Linked

def course (σ : Type) : Course σ where
  ready := fun _ => True
  able := fun _ => True
  goes := Along Clean
  fails := Along Refused
  raises := fun f => Along (Raised f)
  rejects := fun f => Along (Raised f)
  spoils := fun f => Along (Raised f)
  whole := fun r s t => Linked r s t ∧ ∀ f, r = .error f → f.isFatal = true
  finishes := fun r s t => Linked r s t ∧ ∀ f, r = .error f → f.isFatal = true
  rowed := fun _ => Linked
  left := fun _ _ b => Linked (.ok b)
  held := fun _ _ b => Linked (.ok b)
  links := Linked

theorem order : (course σ).toConduct.Order where
  refl := fun {s} _ => clean_refl s
  trans := clean_trans
  overlook := fun h => along_mono h fun _ hl => hl.toClean
  goes_fails := clean_before absorbs_refused
  fails_goes := clean_after absorbs_refused
  goes_raises := fun {f} _ _ _ => clean_before (absorbs_raised f)
  goes_rejects := fun {f} _ _ _ => clean_before (absorbs_raised f)
  goes_spoils := fun {f} _ _ _ => clean_before (absorbs_raised f)
  ready := fun _ _ => trivial

theorem objects_eq (k : AdviceKind) (f : Fault) :
    (course σ).objects k f = Along (Raised f) := by
  cases k <;> rfl

theorem conduct : (course σ).toConduct.Lawful stage where
  toOrder := order
  able := fun _ _ => trivial
  move := fun _ h => along_move additive h
  raises_standing := fun {f} _ t i _ h =>
    clean_after (absorbs_raised f) h (along_move additive (.stand i : Move stage t _))
  told := fun _ _ => trivial
  advice := fun _ _ _ _ _ => trivial
  hookAnswered := fun k b _ _ _ => along_record (clean_advised k b)
  hookRaised := by
    intro s i f k _ _ _
    rw [objects_eq]
    exact along_record (raised_hook k f)
  adviceDone := fun _ _ _ h => along_advice h.1 fun _ hl => clean_case hl
  adviceRaised := by
    intro s i c p k f v _ _ _ h
    rw [objects_eq]
    exact along_advice h.1 fun _ hl => raised_case hl (Fault.isVerification_of_isFatal (h.2 f rfl))
  passed := fun _ h => along_step absorbs_clean h
  failed := by
    intro s t u l m _ ht hu
    have told : Along Refused t (t.emit stage (.failure m)) := along_emit (refused_failure m)
    have heard : Along Refused t u := clean_after absorbs_refused told hu
    have refused : Along Refused s (u.emit stage .ended) :=
      along_step absorbs_refused (clean_before absorbs_refused ht heard)
    exact ⟨refused, along_mono refused fun _ hl => hl.raised m⟩
  failedRaises := by
    intro s t u l m f _ ht hu
    have told : Along Clean t (t.emit stage (.failure m)) := along_emit (refused_failure m).toClean
    exact along_step (absorbs_raised f) (order.goes_raises (clean_trans ht told) hu)
  raised := by
    intro s t u l f _ _ ht hu
    have closed : Along Closed (t.emit stage (.error f)) u := by
      rcases hu with hu | ⟨g, hu⟩
      · exact along_mono hu fun _ hl => hl.toClosed
      · exact along_mono hu fun _ hl => hl.closed
    have told : Along (· = [.event (.error f)]) t (t.emit stage (.error f)) := along_emit rfl
    have heard : Along (Raised f) t u := by
      refine along_seq told closed ?_
      rintro k k' rfl hk
      exact raised_told f hk
    exact along_step (absorbs_raised f) (order.goes_raises ht heard)
  reported := fun {_ _ _ f} _ h => along_step (absorbs_raised f) h
  rejected := by
    intro s t u l f _ ht hu
    have started : Along Clean s (s.emit stage (.started l)) := along_emit (clean_started l)
    exact order.goes_raises (clean_trans started ht) hu

theorem lawful : (course σ).Lawful stage where
  toLawful := conduct
  begun := fun _ => trivial
  chainCalled := fun _ => trivial
  halted := by
    intro s t f _ ht hf
    have verified : Along Verified (s.begun stage) t.aborted := by
      refine along_mono ht fun l hl => ?_
      rwa [Raised, if_pos hf] at hl
    have closed : Linked (.ok false) s (t.aborted.emit stage .closed) :=
      along_suite verified fun _ n p x hl => hl.suite n p x
    exact ⟨linked_released closed, fun _ h => by cases h⟩
  fatal := by
    intro s t f _ ht hf
    have closed : Linked (.error f) s (t.emit stage .closed) := by
      refine along_suite ht fun l n p x hl => ?_
      rw [Raised, if_neg (by simp [hf])] at hl
      exact hl.suite n p x f
    refine ⟨linked_released (linked_inRun closed _), ?_⟩
    rintro g ⟨⟩
    exact Fault.isFatal_inRun _ f
  unchained := by
    intro s t b _ ht _
    have closed : Linked (.ok b) s (t.emit stage .closed) := linked_closed (by cases b <;> exact ht)
    exact ⟨linked_ended closed, fun _ h => by cases h⟩
  chained := by
    intro s t u b c _ ht _ _ hu
    have closed : Linked (.ok b) s (t.emit stage .closed) := linked_closed (by cases b <;> exact ht)
    have done : Linked (.ok (c && b)) s u := linked_trans closed hu
    rw [Bool.and_comm] at done
    exact ⟨linked_ended done, fun _ h => by cases h⟩
  chainBroke := by
    intro s t u b f _ ht _ _ hu
    have closed : Linked (.ok b) s (t.emit stage .closed) := linked_closed (by cases b <;> exact ht)
    refine ⟨linked_released (linked_inRun (linked_trans closed hu) _), ?_⟩
    rintro g ⟨⟩
    exact Fault.isFatal_inRun _ f
  beyond := by
    intro s _
    have told : Linked (.error (beyond s.run.name)) s (s.emit stage (.error (beyond s.run.name))) :=
      along_emit (ended_fault _)
    refine ⟨linked_released (linked_inRun told _), ?_⟩
    rintro g ⟨⟩
    exact Fault.isFatal_inRun _ _
  finished := id
  link_refl := fun {s} _ => linked_refl s
  link_trans := linked_trans
  link_ready := fun _ _ _ => trivial
  reached := fun {s} i passed _ => along_reached additive s i passed
  reports := fun {_ f} _ _ => along_emit (ended_fault f)
  rows_refl := fun {s _} _ => linked_refl s
  rows_trans := linked_trans
  rows_ready := fun _ _ _ => trivial
  grouped := fun _ _ _ h => linked_suite h
  ungrouped := fun _ _ _ h => h
  groupedLeft := fun _ _ _ h => linked_suite h
  ungroupedLeft := fun _ _ _ h => h
  rowReady := fun _ _ _ _ _ => trivial
  rowLeft := fun _ _ h => along_row h.1
  rowDone := fun _ _ h _ => along_row h.1
  rowRaised := by
    intro s v rows n row isLast f _ _ h
    exact linked_silent (along_row h.1) (along_rowDropped silently _ _ _)
  left_trans := linked_trans
  held_ready := fun _ _ => trivial
  dropped := fun _ h => linked_givenBack h _ _
  deferred := by
    intro s t v rows last b r _ h _ _ hv
    have linked : Linked (r.map (· && b)) s (t.after v) := linked_trans h hv
    exact linked_givenBack linked rows.case last

theorem finish_linked (stage : Stage σ) (depth : Nat) (s : State σ) :
    let e := (finishWith stage (innerAt stage depth)).exec s
    Linked e.1 s e.2 ∧ ∀ f, e.1 = .error f → f.isFatal = true :=
  Course.finish_ends lawful depth trivial

/-- A run that ends in a fault told its listeners of an error, unless a hook raised
one and no step reported it. A run that was not stopped and does not succeed told them
of a problem, unless a failed verification that a hook raised or the stop of a run below
it was all that kept it from success. -/
theorem finish_tells (stage : Stage σ) (depth : Nat) (s : State σ) :
    let e := (finishWith stage (innerAt stage depth)).exec s
    let l := World.since s.world e.2.world
    (((∃ f, e.1 = .error f) → ErrorTold l) ↔ (HookErred l → ErrorTold l)) ∧
      ((e.1 = .ok false → e.2.isStopped = false → ProblemTold l) ↔
        (halts l = true → ¬ HookErred l → e.2.isStopped = false → ProblemTold l)) := by
  intro e l
  have ended : Ended l e.1 := along_since (finish_linked stage depth s).1
  revert ended
  generalize e.1 = r
  intro ended
  constructor
  · constructor
    · intro tells erred
      rcases r with f | b
      · exact tells ⟨f, rfl⟩
      · exact ended.erred erred
    · rintro tells ⟨f, rfl⟩
      rcases ended.known with erred | ⟨told, _⟩
      · exact tells erred
      · exact told
  · constructor
    · intro tells halted erred running
      rcases r with f | _ | _
      · rcases ended.known with known | ⟨told, _⟩
        · exact absurd known erred
        · exact told.problem
      · exact tells rfl running
      · exact Clean.halted ended halted
    · rintro tells rfl running
      rcases Denied.failed ended with failed | halted
      · exact failed.charged.exists_problem
      · by_cases erred : HookErred l
        · exact (Denied.erred ended erred).problem
        · exact tells halted erred running

section Example
open Brackets

theorem before_hook_goes_untold :
    (let s := firstState (greeting (some (raising (.step "h" [.text "hook before"]))) none)
     let e := (finish bare).exec s
     (∃ f, e.1 = .error f) ∧ ¬ ErrorTold (World.since s.world e.2.world)) ∧
    (let s := firstState (greeting (some (raising (.verification "h before"))) none)
     let e := (finish bare).exec s
     e.1 = .ok false ∧ e.2.isStopped = false ∧ ¬ ProblemTold (World.since s.world e.2.world)) := by
  refine ⟨⟨⟨.fatal "script" (.step "h" [.text "hook before"]), ?_⟩, ?_⟩, ?_, ?_, ?_⟩
  · rfl
  · refine mt ErrorTold.problem ?_
    decide +kernel
  · rfl
  · decide +kernel
  · decide +kernel

end Example

end Telling

end Scenario

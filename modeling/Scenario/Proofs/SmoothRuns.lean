import Scenario.Proofs.FailureEntries

/-!
# Runs that go smoothly

A run goes smoothly if no step of it fails, nothing stops it or a run below it,
everything that it needs can be loaded and no chained case is passed over. The
parts of such a run go smoothly too, so what is shown of parts that do so can be
put together to what is so of the run.
-/

set_option autoImplicit false

namespace Scenario
open Scenario.Act Scenario.Execution

variable {σ : Type} {stage : Stage σ}

/-- A failure is on record, or a chained case was passed over. -/
def TraceEntry.hampers : TraceEntry → Bool
  | .reached _ passed => passed
  | e => e.mars

namespace State

/-- Neither a run nor one below it was stopped, no failure is on record, and no chained case was
passed over. -/
structure Smooth (s t : State σ) : Prop where
  undisturbed : Undisturbed s t
  clear : Along (fun l => ∀ e ∈ l, e.hampers = false) s t

section Smooth
variable {s t u v : State σ}

theorem Smooth.left (h : Smooth s u) (before : Frame s t) (after : Frame t u) : Smooth s t :=
  ⟨h.undisturbed.left after, (Frame.along_parts before after h.clear).1⟩

theorem Smooth.right (h : Smooth s u) (before : Frame s t) (after : Frame t u) : Smooth t u :=
  ⟨h.undisturbed.right before, (Frame.along_parts before after h.clear).2⟩

theorem Smooth.running (h : Smooth s s) : s.world.signals.isStopped s.run.signal = false :=
  isStopped_eq_false fun m hm => (h.undisturbed.2 m hm).1

theorem Smooth.sound (h : Smooth s t) : Along Marks.Sound s t := by
  apply along_mono h.clear
  intro l clear e he
  have unhampered := clear e he
  cases e with
  | reached _ _ => rfl
  | _ => exact unhampered

theorem Smooth.row {rows : Rows} {n : Nat} {row : Row} {isLast : Bool} (h : Smooth s (s.after v))
    (hv : Frame (rowStart stage rows n row isLast s) v) :
    Smooth (rowStart stage rows n row isLast s) v := by
  obtain ⟨l, hl, clear⟩ := h.clear
  refine ⟨Frame.child_undisturbed (Frame.child_row ..) h.undisturbed hv, l, ?_, clear⟩
  rw [rowStart_trace]
  exact hl

/-- What goes smoothly goes so for a run that ended before and is taken up again. -/
theorem Smooth.below {r : Run} (h : Smooth s (t.after v)) (below : Below s r t)
    (hv : Frame ⟨t.world, r⟩ v) : Smooth ⟨t.world, r⟩ v :=
  ⟨h.undisturbed.below below hv rfl,
    (Frame.along_parts below.frame (frame_world t hv.world) h.clear).2⟩

end Smooth

structure Smoothly (P : Prop) (s t : State σ) : Prop where
  frame : Frame s t
  holds : Smooth s t → P

section Smoothly
variable {P Q : Prop} {s t u v : State σ}

theorem Smoothly.mono (h : Smoothly P s t) (hpq : P → Q) : Smoothly Q s t :=
  ⟨h.frame, fun smooth => hpq (h.holds smooth)⟩

theorem Smoothly.trans (h : Smoothly P s t) (h' : Smoothly Q t u) : Smoothly (P ∧ Q) s u :=
  ⟨h.frame.trans h'.frame, fun smooth =>
    ⟨h.holds (smooth.left h.frame h'.frame), h'.holds (smooth.right h.frame h'.frame)⟩⟩

theorem Smoothly.before (h : Smoothly P s t) (after : Frame t u) : Smoothly P s u :=
  ⟨h.frame.trans after, fun smooth => h.holds (smooth.left h.frame after)⟩

theorem Smoothly.after (before : Frame s t) (h : Smoothly P t u) : Smoothly P s u :=
  ⟨before.trans h.frame, fun smooth => h.holds (smooth.right before h.frame)⟩

theorem Smoothly.row {rows : Rows} {n : Nat} {row : Row} {isLast : Bool}
    (h : Smoothly P (rowStart stage rows n row isLast s) v) : Smoothly P s (s.after v) :=
  ⟨Frame.child_frame (Frame.child_row ..) h.frame, fun smooth => h.holds (smooth.row h.frame)⟩

theorem smoothly_stopped (h : s.world.signals.isStopped s.run.signal = true) : Smoothly P s s := by
  refine ⟨.refl s, fun smooth => ?_⟩
  rw [smooth.running] at h
  cases h

theorem smoothly_passed (i : Nat) : Smoothly P s (s.record (.reached i true)) := by
  refine ⟨Frame.frame_record s _, fun smooth => ?_⟩
  obtain ⟨l, hl, clear⟩ := smooth.clear
  have recorded : [.reached i true] ++ s.world.trace = l ++ s.world.trace := hl
  have one : [.reached i true] = l := List.append_cancel_right recorded
  have unhampered := clear (.reached i true) (by simp [← one])
  cases unhampered

theorem smoothly_error (f : Fault) : Smoothly P s (s.emit stage (.error f)) :=
  ⟨Frame.frame_emit s _, fun smooth => (Marks.hurts_emit s rfl).unsound smooth.sound |>.elim⟩

end Smoothly

theorem steps_smoothly (depth left : Nat) (s : State σ) :
    Ends (steps stage (innerAt stage depth) left true) s
      fun r t => Smoothly (r = .ok true) s t := by
  have lawful : (Marks.marking σ).Lawful stage := Marks.marking_lawful
  have turn := Conduct.turns lawful fun s _ => Marks.frame_innerAt stage depth s
  apply ends_mono (Conduct.steps_ends lawful.toMobile turn trivial left true
    (lawful.refl trivial))
  intro r t went
  exact ⟨(Marks.onward_answers went).frame, fun smooth => Marks.sound_answers went smooth.sound⟩

end State

end Scenario

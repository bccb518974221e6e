import Scenario.Proofs.RunTreeLaws
import Scenario.Proofs.UnseenDifferences

/-!
# How a run closes

A run whose suite is closed runs its chain unless it was stopped, and gives back
the browser that it owns. A browser that was kept for a chain is given back by
the run above.
-/

set_option autoImplicit false

namespace Scenario
open Scenario.Act Scenario.Execution Scenario.Course

variable {σ : Type} {stage : Stage σ} {inner : Inner σ}

namespace Closing

def returned (stage : Stage σ) (d : Case) (w : World σ) (g : Session) : World σ :=
  if d.sharesState then w else w.quit stage g

theorem returned_alike {w w' : World σ} (h : w.Alike w') (d : Case) (g : Session) :
    (returned stage d w g).Alike (returned stage d w' g) := by
  simp only [returned]
  split
  · exact h
  · exact h.quit stage g

theorem givenBack_eq (d : Case) (last : Run) (s : State σ) :
    givenBack stage d last s = { s with world := returned stage d s.world last.session } := by
  simp only [givenBack, returned]
  split <;> rfl

section Released
variable {d : Case} {s v v' : State σ}

theorem released_owned (h : v.run.ownsSession = !d.sharesState) :
    (v.released stage).world = returned stage d v.world v.run.session := by
  simp only [State.released, returned, h]
  cases d.sharesState <;> rfl

theorem released_kept (h : v.run.ownsSession = false) : (v.released stage).world = v.world := by
  simp only [State.released, h, Bool.false_eq_true, if_false]

theorem released_alike (hw : v.world.Alike v'.world) (session : v'.run.session = v.run.session)
    (owns : v'.run.ownsSession = v.run.ownsSession) :
    (v.released stage).world.Alike (v'.released stage).world := by
  simp only [State.released, session, owns]
  split
  · exact hw.quit stage _
  · exact hw

theorem rowRaised_owned (h : v.run.ownsSession = !d.sharesState) :
    rowRaised stage d s v = s.after v := by
  simp only [rowRaised, h]
  cases d.sharesState <;> rfl

theorem rowRaised_kept (h : v.run.ownsSession = false) :
    rowRaised stage d s v = { s with world := returned stage d v.world v.run.session } := by
  simp only [rowRaised, h, returned]
  cases d.sharesState <;> rfl

end Released

structure Settled (stage : Stage σ) (t v : State σ) : Prop where
  row : v.run.row = t.run.row
  session : v.run.session = t.run.session
  owns : v.run.ownsSession = t.run.ownsSession
  stopped : v.isStopped = t.isStopped
  signals : v.world.signals = t.world.signals
  world : v.world.Alike (t.released stage).world

section Settled
variable {d : Case} {t v : State σ}

theorem Settled.returned (h : Settled stage t v) (ht : t.run.ownsSession = !d.sharesState) :
    v.world.Alike (returned stage d t.world t.run.session) := by
  rw [← released_owned ht]
  exact h.world

theorem Settled.kept (h : Settled stage t v) (ht : t.run.ownsSession = false) :
    v.world.Alike t.world := by
  have world := h.world
  rwa [released_kept ht] at world

theorem settled_released (t : State σ) : Settled stage t (t.released stage) :=
  ⟨rfl, rfl, rfl, t.isStopped_released stage, t.released_signals stage, .refl _⟩

theorem settled_aborted (t : State σ) (e : Event) :
    Settled stage (t.emit stage e) ((t.aborted.emit stage e).released stage) :=
  have settled : Settled stage _ _ := settled_released (t.aborted.emit stage e)
  ⟨settled.row, settled.session, settled.owns, settled.stopped, settled.signals, settled.world⟩

theorem settled_ended (t : State σ) : Settled stage t (t.ended stage) := by
  have released : Settled stage t (t.released stage) := settled_released t
  rw [State.ended]
  split
  · exact { released with world := released.world.endedStopped }
  · exact released

theorem chain_stopped (h : t.world.signals.isStopped t.run.signal = true)
    (Q : Except Fault Bool → State σ → Prop) :
    Ends (chain stage inner) t Q ↔ Q (.ok true) t := by
  simp only [chain, ends_bind, ends_getRun]
  cases t.run.case.chain with
  | nil => rfl
  | cons c l => simp only [runChildren, ends_bind, ends_getRun, ends_get, h, if_true, ends_pure]

/-- A run that is stopped when its suite is closed fails and leaves its chain. -/
theorem endRun_stopped (h : (t.emit stage .closed).isStopped = true) (b : Bool) :
    Ends (endRun stage (chain stage inner) b) t fun r v =>
      r = .ok false ∧ Settled stage (t.emit stage .closed) v := by
  rw [endRun_iff]
  split
  · rename_i needs
    rw [Cursor.needsChain, Bool.and_eq_true, Bool.not_eq_true'] at needs
    have seen : (t.emit stage .closed).world.signals.isStopped t.run.signal = true := by
      rw [State.isStopped, Bool.or_eq_true] at h
      exact h.resolve_left fun stopped => Bool.false_ne_true (needs.2.symm.trans stopped)
    have stopped : (t.emit stage .closed).chainCalled.isStopped = true := h
    have settled : Settled stage _ _ := settled_ended (t.emit stage .closed).chainCalled
    rw [chain_stopped (t := (t.emit stage .closed).chainCalled) seen]
    refine ⟨?_, ⟨settled.row, settled.session, settled.owns, settled.stopped, settled.signals,
      settled.world⟩⟩
    rw [State.isStopped_released, stopped, Bool.not_true, Bool.and_false]
  · refine ⟨?_, settled_ended _⟩
    rw [State.isStopped_released, h, Bool.not_true, Bool.and_false]

theorem endRun_idle (idle : t.run.cursor.needsChain = false)
    (running : (t.emit stage .closed).isStopped = false) (chain : Act σ Fault Bool) (b : Bool)
    (Q : Except Fault Bool → State σ → Prop) :
    Ends (endRun stage chain b) t Q ↔ Q (.ok b) ((t.emit stage .closed).released stage) := by
  rw [endRun_iff, idle, if_neg Bool.false_ne_true, State.ended, State.isStopped_released, running,
    if_neg Bool.false_ne_true, Bool.not_false, Bool.and_true]

end Settled

end Closing

end Scenario

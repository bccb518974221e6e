import Scenario.Proofs.StepLaws

/-!
# What steps see of their run

A step reads the variables of its run, its own place among the steps and the
browser of the session. In two states that agree in this it does the same, save
that a step which waits or owns other steps looks at the stop as well.
-/

set_option autoImplicit false

namespace Scenario
open Scenario.Act

variable {σ ε α : Type} {stage : Stage σ} {R : State σ → State σ → Prop}

namespace Step.Kind

def waits : Kind → Bool
  | .reading .waitFor _ => true
  | _ => false

end Step.Kind

structure Agrees (R : State σ → State σ → Prop) : Prop where
  row : ∀ {s s'}, R s s' → s'.run.row = s.run.row
  step : ∀ {s s'}, R s s' → s'.run.step? = s.run.step?
  remaining : ∀ {s s'}, R s s' → s'.run.remaining = s.run.remaining
  assigned : ∀ {s s'} (row : Row), R s s' →
    R { s with run := { s.run with row } } { s' with run := { s'.run with row } }

/-- A relation between states in which a browser does the same for them as well. -/
structure Blind (stage : Stage σ) (R : State σ → State σ → Prop) : Prop extends Agrees R where
  driver : ∀ {s s'}, R s s' →
    (s'.world.driver stage s'.run.session).1 = (s.world.driver stage s.run.session).1 ∧
      R { s with world := (s.world.driver stage s.run.session).2 }
        { s' with world := (s'.world.driver stage s'.run.session).2 }
  performed : ∀ {s s'} (d : Nat) (c : Command), R s s' →
    (s'.world.perform stage d c).1 = (s.world.perform stage d c).1 ∧
      R { s with world := (s.world.perform stage d c).2 }
        { s' with world := (s'.world.perform stage d c).2 }
  elapsed : ∀ {s s'} (ms : Nat), R s s' →
    R { s with world := s.world.elapse stage ms } { s' with world := s'.world.elapse stage ms }

namespace Agrees

theorem respects_getRun {f : Run → Act σ ε α} (hf : ∀ r, Respects R (f r))
    (same : ∀ s s', R s s' → f s'.run = f s.run) : Respects R (getRun >>= f) := by
  intro s s' h
  simp only [Both, ends_bind, ends_getRun]
  rw [same s s' h]
  exact hf s.run s s' h

theorem respects_trouble (m : String) : Respects R (Act.trouble m : Act σ Problem α) :=
  respects_throw _

theorem respects_liftTrouble (r : Except Trouble α) :
    Respects R (Act.liftTrouble r : Act σ Problem α) := by
  cases r with
  | ok x => exact respects_pure x
  | error t => exact respects_throw _

theorem respects_number (m : String) : Respects R (Action.number m : Act σ Problem Nat) := by
  simp only [Action.number]
  split
  · exact respects_pure _
  · exact respects_trouble _

theorem respects_isStopped (look : ∀ s s', R s s' → s'.isStopped = s.isStopped) :
    Respects R (Act.isStopped : Act σ ε Bool) :=
  fun s s' h => ⟨congrArg Except.ok (look s s' h), h⟩

-- A goal about the act is never decided by reading the digits of its text.
attribute [local irreducible] Action.number

section Reading
variable (reads : Agrees R)
include reads

theorem respects_currentStep : Respects R (Act.currentStep : Act σ Problem Step) := by
  refine respects_getRun (fun r => ?_) fun s s' h => by rw [reads.step h]
  cases r.step? with
  | some p => exact respects_pure p
  | none => exact respects_trouble _

theorem respects_rawText (key : String) : Respects R (Act.rawText key : Act σ Problem String) := by
  refine respects_bind reads.respects_currentStep fun p => ?_
  cases p.text? key with
  | some v => exact respects_pure v
  | none => exact respects_trouble _

theorem respects_text (key : String) : Respects R (Act.text key : Act σ Problem String) := by
  refine respects_bind (reads.respects_rawText key) fun raw => ?_
  exact respects_getRun (fun _ => respects_pure _) fun s s' h => by rw [reads.row h]

theorem respects_evaluatedText (key : String) :
    Respects R (Act.evaluatedText key : Act σ Problem String) := by
  refine respects_bind (reads.respects_rawText key) fun raw => ?_
  exact respects_getRun (fun _ => respects_pure _) fun s s' h => by rw [reads.row h]

theorem respects_optionalText (key : String) :
    Respects R (Act.optionalText key : Act σ ε (Option String)) :=
  respects_getRun (fun _ => respects_pure _) fun s s' h => by rw [reads.row h, reads.step h]

theorem respects_locator (key : String) :
    Respects R (Act.locator key : Act σ Problem Locator) := by
  refine respects_bind reads.respects_currentStep fun p => ?_
  cases p.locator? key with
  | some l => exact respects_getRun (fun _ => respects_pure _) fun s s' h => by rw [reads.row h]
  | none => exact respects_trouble _

theorem respects_assign (key value : String) :
    Respects R (Act.assign key value : Act σ ε Unit) := by
  intro s s' h
  have assigned := reads.assigned (s.run.row.put key value) h
  refine ⟨rfl, ?_⟩
  show R { s with run := { s.run with row := s.run.row.put key value } }
    { s' with run := { s'.run with row := s'.run.row.put key value } }
  rwa [reads.row h]

end Reading

end Agrees

namespace Blind
open Agrees

variable (blind : Blind stage R)
include blind

section Commands

theorem respects_driver : Respects R (Act.driver stage) := by
  intro s s' h
  obtain ⟨same, related⟩ := blind.driver h
  simp only [Both, Act.driver, ends_bind, ends_getRun, ends_onWorld, same]
  cases (s.world.driver stage s.run.session).1 with
  | ok d => exact ⟨rfl, related⟩
  | error f => exact ⟨rfl, related⟩

theorem respects_perform (d : Nat) (c : Command) : Respects R (Act.perform stage d c) := by
  intro s s' h
  obtain ⟨same, related⟩ := blind.performed d c h
  simp only [Both, Act.perform, ends_bind, ends_onWorld, same]
  exact respects_liftTrouble _ _ _ related

theorem respects_command (c : Command) : Respects R (Act.command stage c) :=
  respects_bind blind.respects_driver fun d => blind.respects_perform d c

theorem respects_firstElement (d : Nat) (l : Locator) :
    Respects R (Action.firstElement stage d l) := by
  refine respects_bind (blind.respects_perform d _) fun found => ?_
  cases found with
  | nil => exact respects_trouble _
  | cons e _ => exact respects_pure e

theorem respects_elapse (ms : Nat) :
    Respects R (Act.modifyWorld fun w => w.elapse stage ms : Act σ ε Unit) :=
  fun _ _ h => ⟨rfl, blind.elapsed ms h⟩

theorem respects_value (g : Step.Getter) : Respects R (Action.value stage g) := by
  cases g with
  | title => exact blind.respects_command _
  | currentUrl => exact blind.respects_command _
  | text =>
    refine respects_bind (blind.respects_locator _) fun l => ?_
    refine respects_bind blind.respects_driver fun d => ?_
    refine respects_bind (blind.respects_perform d _) fun found => ?_
    cases found with
    | nil => exact respects_pure _
    | cons e _ => exact blind.respects_perform d _
  | elementPresent =>
    refine respects_bind (blind.respects_locator _) fun l => ?_
    exact respects_bind (blind.respects_command _) fun _ => respects_pure _
  | textPresent =>
    refine respects_bind (blind.respects_text _) fun t => ?_
    exact respects_bind (blind.respects_command _) fun _ => respects_pure _
  | expression => exact blind.respects_evaluatedText _

theorem respects_holds (g : Step.Getter) : Respects R (Action.holds stage g) := by
  refine respects_bind (blind.respects_value g) fun actual => ?_
  cases g.expected? with
  | some key => exact respects_bind (blind.respects_text key) fun _ => respects_pure _
  | none => exact respects_pure _

end Commands

section Waiting

variable (look : ∀ s s', R s s' → s'.isStopped = s.isStopped)
include look

theorem respects_poll (g : Step.Getter) (wait tries time : Nat) :
    Respects R (Action.poll stage g wait tries time) := by
  induction tries generalizing time with
  | zero => exact respects_pure false
  | succ tries ih =>
    simp only [Action.poll]
    refine respects_bind (blind.respects_holds g) fun b => ?_
    split
    · exact respects_pure true
    · refine respects_bind (respects_isStopped look) fun stopped => ?_
      split
      · exact respects_pure false
      · exact respects_bind (blind.respects_elapse _) fun _ => ih _

theorem respects_waitFor (g : Step.Getter) : Respects R (Action.waitFor stage g) := by
  refine respects_bind (blind.respects_optionalText _) fun m => ?_
  cases m with
  | some ms => exact respects_bind (respects_number ms) fun _ => blind.respects_poll look g _ _ _
  | none => exact respects_bind (respects_pure _) fun _ => blind.respects_poll look g _ _ _

end Waiting

/-- A step that neither waits nor owns steps does the same. -/
theorem respects_steady {block : Nat → Act σ Problem Bool} {k : Step.Kind}
    (flow : k.isFlow = false) (waits : k.waits = false) :
    Respects R (Action.perform stage block k) := by
  cases k with
  | echo => exact respects_bind (blind.respects_text _) fun _ => respects_pure _
  | store =>
    refine respects_bind (blind.respects_text _) fun name => ?_
    refine respects_bind (blind.respects_evaluatedText _) fun text => ?_
    exact respects_bind (blind.respects_assign name text) fun _ => respects_pure _
  | pause =>
    refine respects_bind (blind.respects_text _) fun ms => ?_
    refine respects_bind (respects_number ms) fun n => ?_
    exact respects_bind (blind.respects_elapse n) fun _ => respects_pure _
  | get =>
    refine respects_bind (blind.respects_text _) fun url => ?_
    exact respects_bind (blind.respects_command _) fun _ => respects_pure _
  | click =>
    refine respects_bind (blind.respects_locator _) fun l => ?_
    refine respects_bind blind.respects_driver fun d => ?_
    refine respects_bind (blind.respects_firstElement d l) fun e => ?_
    exact respects_bind (blind.respects_perform d _) fun _ => respects_pure _
  | setText =>
    refine respects_bind (blind.respects_locator _) fun l => ?_
    refine respects_bind (blind.respects_text _) fun text => ?_
    refine respects_bind blind.respects_driver fun d => ?_
    refine respects_bind (blind.respects_firstElement d l) fun e => ?_
    refine respects_bind (blind.respects_perform d _) fun _ => ?_
    exact respects_bind (blind.respects_perform d _) fun _ => respects_pure _
  | sendKeys =>
    refine respects_bind (blind.respects_locator _) fun l => ?_
    refine respects_bind (blind.respects_text _) fun text => ?_
    refine respects_bind blind.respects_driver fun d => ?_
    refine respects_bind (blind.respects_firstElement d l) fun e => ?_
    exact respects_bind (blind.respects_perform d _) fun _ => respects_pure _
  | loop => cases flow
  | branch => cases flow
  | reading m g =>
    cases m with
    | verify => exact blind.respects_holds g
    | assert => exact blind.respects_holds g
    | waitFor => cases waits
    | store =>
      refine respects_bind (blind.respects_text _) fun name => ?_
      refine respects_bind (blind.respects_value g) fun v => ?_
      exact respects_bind (blind.respects_assign name v) fun _ => respects_pure _

end Blind

end Scenario

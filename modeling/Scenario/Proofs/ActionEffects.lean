import Scenario.Proofs.PassingAdvice

/-!
# What a step does that owns no others

Such a step reads its parameters and calls a browser, and a step that stores
something ends with the assignment of one variable. Nothing else of its run
changes, and only the calls go on record.
-/

set_option autoImplicit false

namespace Scenario
open Scenario.Act

variable {σ ε α β : Type} {stage : Stage σ}

namespace Step.Kind

def stores : Kind → Bool
  | .store => true
  | .reading .store _ => true
  | _ => false

end Step.Kind

def Run.assigned? (r : Run) : Option String :=
  match r.step? with
  | some p => if p.kind.stores then (p.text? "variable").map r.row.bind else none
  | none => none

def Calls (l : List TraceEntry) : Prop := ∀ e ∈ l, e.isCall = true

structure Works (s t : State σ) : Prop where
  run : t.run = s.run
  calls : Along Calls s t

theorem calls_along_append {s t u : State σ} (h : Along Calls s t) (h' : Along Calls t u) :
    Along Calls s u :=
  along_seq h h' fun _ _ hl hl' => List.forall_mem_append.2 ⟨hl', hl⟩

theorem Works.refl (s : State σ) : Works s s := ⟨rfl, [], rfl, by simp [Calls]⟩

theorem Works.trans {s t u : State σ} (h : Works s t) (h' : Works t u) : Works s u :=
  ⟨h'.run.trans h.run, calls_along_append h.calls h'.calls⟩

/-- An act that may call a browser and leaves its run as it is. -/
def Errand (a : Act σ ε α) : Prop := ∀ s, Ends a s fun _ t => Works s t

namespace Errand

theorem pure (x : α) : Errand (Pure.pure x : Act σ ε α) := .refl

theorem bind {a : Act σ ε α} {f : α → Act σ ε β} (ha : Errand a) (hf : ∀ x, Errand (f x)) :
    Errand (a >>= f) := by
  intro s
  apply ends_seq (ha s)
  · intro x t worked
    exact ends_mono (hf x t) fun _ _ rest => worked.trans rest
  · exact fun _ _ worked => worked

theorem getRun : Errand (Act.getRun : Act σ ε Run) := .refl

theorem isStopped : Errand (Act.isStopped : Act σ ε Bool) := .refl

theorem trouble (m : String) : Errand (Act.trouble m : Act σ Problem α) := .refl

theorem liftTrouble (r : Except Trouble α) : Errand (Act.liftTrouble r : Act σ Problem α) := by
  cases r with
  | ok x => exact pure x
  | error t => exact .refl

theorem number (m : String) : Errand (Action.number m : Act σ Problem Nat) := by
  simp only [Action.number]
  split
  · exact pure _
  · exact trouble _

-- A goal about the act is never decided by reading the digits of its text.
attribute [local irreducible] Action.number

section Reading

theorem currentStep : Errand (Act.currentStep : Act σ Problem Step) := by
  apply getRun.bind
  intro r
  cases r.step? with
  | some p => exact pure p
  | none => exact trouble _

theorem rawText (key : String) : Errand (Act.rawText key : Act σ Problem String) := by
  apply currentStep.bind
  intro p
  cases p.text? key with
  | some v => exact pure v
  | none => exact trouble _

theorem text (key : String) : Errand (Act.text key : Act σ Problem String) :=
  (rawText key).bind fun _ => getRun.bind fun _ => pure _

theorem evaluatedText (key : String) : Errand (Act.evaluatedText key : Act σ Problem String) :=
  (rawText key).bind fun _ => getRun.bind fun _ => pure _

theorem optionalText (key : String) : Errand (Act.optionalText key : Act σ ε (Option String)) :=
  getRun.bind fun _ => pure _

theorem locator (key : String) : Errand (Act.locator key : Act σ Problem Locator) := by
  apply currentStep.bind
  intro p
  cases p.locator? key with
  | some l => exact getRun.bind fun _ => pure _
  | none => exact trouble _

end Reading

section Commands

theorem driver : Errand (Act.driver stage : Act σ Problem Nat) := by
  intro s
  have launched : Works s { s with world := (s.world.driver stage s.run.session).2 } := by
    simp only [World.driver]
    split
    · exact .refl s
    · split <;> exact ⟨rfl, [.launch _], rfl, by simp [Calls, TraceEntry.isCall]⟩
  simp only [Act.driver, ends_bind, ends_getRun, ends_onWorld]
  cases (s.world.driver stage s.run.session).1 with
  | ok d => exact launched
  | error f => exact launched

theorem perform (d : Nat) (c : Command) : Errand (Act.perform stage d c) := by
  intro s
  have performed : Works s { s with world := (s.world.perform stage d c).2 } :=
    ⟨rfl, [.command d c], rfl, by simp [Calls, TraceEntry.isCall]⟩
  simp only [Act.perform, ends_bind, ends_onWorld]
  exact ends_mono (liftTrouble _ _) fun _ _ rest => performed.trans rest

theorem command (c : Command) : Errand (Act.command stage c) := driver.bind fun d => perform d c

theorem firstElement (d : Nat) (l : Locator) : Errand (Action.firstElement stage d l) := by
  apply (perform d _).bind
  intro found
  cases found with
  | nil => exact trouble _
  | cons e _ => exact pure e

theorem elapse (ms : Nat) :
    Errand (Act.modifyWorld fun w => w.elapse stage ms : Act σ ε Unit) :=
  fun _ => ⟨rfl, [], rfl, by simp [Calls]⟩

theorem value (g : Step.Getter) : Errand (Action.value stage g) := by
  cases g with
  | title => exact command _
  | currentUrl => exact command _
  | text =>
    refine (locator _).bind fun l => driver.bind fun d => (perform d _).bind fun found => ?_
    cases found with
    | nil => exact pure _
    | cons e _ => exact perform d _
  | elementPresent => exact (locator _).bind fun _ => (command _).bind fun _ => pure _
  | textPresent => exact (text _).bind fun _ => (command _).bind fun _ => pure _
  | expression => exact evaluatedText _

theorem holds (g : Step.Getter) : Errand (Action.holds stage g) := by
  apply (value g).bind
  intro actual
  cases g.expected? with
  | some key => exact (text key).bind fun _ => pure _
  | none => exact pure _

theorem poll (g : Step.Getter) (wait tries time : Nat) :
    Errand (Action.poll stage g wait tries time) := by
  induction tries generalizing time with
  | zero => exact pure false
  | succ tries ih =>
    apply (holds g).bind
    intro met
    split
    · exact pure true
    · apply isStopped.bind
      intro stopped
      split
      · exact pure false
      · exact (elapse _).bind fun _ => ih _

theorem waitFor (g : Step.Getter) : Errand (Action.waitFor stage g) := by
  apply (optionalText _).bind
  intro m
  cases m with
  | some ms => exact (number ms).bind fun _ => poll g _ _ _
  | none => exact (pure _).bind fun _ => poll g _ _ _

end Commands

end Errand

structure Assigns (name : String) (s t : State σ) : Prop where
  run : ∃ value, t.run = { s.run with row := s.run.row.put name value }
  calls : Along Calls s t

section Action
variable {block : Nat → Act σ Problem Bool} {p : Step} {s : State σ}

theorem text_ends (here : s.run.step? = some p) (key : String) :
    Ends (Act.text key : Act σ Problem String) s fun r t =>
      t = s ∧ ∀ v, r = .ok v → (p.text? key).map s.run.row.bind = some v := by
  simp only [Act.text, Act.rawText, Act.currentStep, ends_bind, ends_getRun, here, ends_pure]
  cases p.text? key with
  | none => exact ⟨rfl, fun v h => by cases h⟩
  | some raw =>
    apply And.intro rfl
    intro v h
    cases h
    rfl

theorem assign_ends (here : s.run.step? = some p) (stores : p.kind.stores = true)
    {a : Act σ Problem String} (ha : Errand a) :
    Ends (Act.text "variable" >>= fun name => a >>= fun v => Act.assign name v >>= fun _ =>
      (pure true : Act σ Problem Bool)) s fun _ t =>
        Works s t ∨ ∃ name, s.run.assigned? = some name ∧ Assigns name s t := by
  apply ends_seq (text_ends here "variable")
  · rintro name _ ⟨rfl, known⟩
    apply ends_seq (ha _)
    · intro v u worked
      right
      refine ⟨name, ?_, ⟨v, ?_⟩, worked.calls⟩
      · simp only [Run.assigned?, here, stores, if_true]
        exact known name rfl
      · rw [← worked.run]
        rfl
    · exact fun _ _ worked => .inl worked
  · rintro e _ ⟨rfl, _⟩
    exact .inl (.refl _)

/-- What a step does that owns no others. -/
theorem action_ends (here : s.run.step? = some p) (flow : p.kind.isFlow = false) :
    Ends (Action.perform stage block p.kind) s fun _ t =>
      Works s t ∨ ∃ name, s.run.assigned? = some name ∧ Assigns name s t := by
  have alone : ∀ {a : Act σ Problem Bool}, Errand a → Ends a s fun _ t =>
      Works s t ∨ ∃ name, s.run.assigned? = some name ∧ Assigns name s t :=
    fun ha => ends_mono (ha s) fun _ _ worked => .inl worked
  have assigns := fun stores a => assign_ends (a := a) here stores
  revert assigns flow
  generalize p.kind = k
  intro flow assigns
  cases k with
  | echo => exact alone ((Errand.text _).bind fun _ => .pure _)
  | store => exact assigns rfl _ (.evaluatedText _)
  | pause =>
    exact alone ((Errand.text _).bind fun ms => (Errand.number ms).bind fun n =>
      (Errand.elapse n).bind fun _ => .pure _)
  | get => exact alone ((Errand.text _).bind fun _ => (Errand.command _).bind fun _ => .pure _)
  | click =>
    exact alone ((Errand.locator _).bind fun l => Errand.driver.bind fun d =>
      (Errand.firstElement d l).bind fun e => (Errand.perform d _).bind fun _ => .pure _)
  | setText =>
    exact alone ((Errand.locator _).bind fun l => (Errand.text _).bind fun _ =>
      Errand.driver.bind fun d => (Errand.firstElement d l).bind fun e =>
        (Errand.perform d _).bind fun _ => (Errand.perform d _).bind fun _ => .pure _)
  | sendKeys =>
    exact alone ((Errand.locator _).bind fun l => (Errand.text _).bind fun _ =>
      Errand.driver.bind fun d => (Errand.firstElement d l).bind fun e =>
        (Errand.perform d _).bind fun _ => .pure _)
  | loop => cases flow
  | branch => cases flow
  | reading m g =>
    cases m with
    | verify => exact alone (.holds g)
    | assert => exact alone (.holds g)
    | waitFor => exact alone (.waitFor g)
    | store => exact assigns rfl _ (.value g)

end Action

end Scenario

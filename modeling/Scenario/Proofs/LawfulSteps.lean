import Scenario.Proofs.StepLaws

/-!
# Steps keep a lawful conduct

What a step does is a sequence of moves, so it keeps every lawful conduct. The
events around it and the advice that it gets keep the conduct by its laws, and
so do the steps inside a step and all steps of a run.
-/

set_option autoImplicit false

namespace Scenario.Conduct
open Scenario.Act

variable {σ α β : Type} {C : Conduct σ} {stage : Stage σ}

def Keeps (C : Conduct σ) (a : Act σ Problem α) : Prop := ∀ s, C.ready s → Ends a s (C.attempts s)

theorem goes_attempts (law : C.Order) {r : Except Problem α} {s t u : State σ}
    (h : C.goes s t) (h' : C.attempts t r u) : C.attempts s r u := by
  rcases r with (f | f | t') | x
  · exact law.goes_raises h h'
  · exact ⟨h'.1, law.trans h h'.2⟩
  · exact law.trans h h'
  · exact law.trans h h'

def Judges (C : Conduct σ) (a : Act σ Problem Bool) : Prop :=
  ∀ s, C.ready s → Ends a s (C.verdicts s)

theorem attempts_of_verdicts (law : C.Order) {r : Except Problem Bool} {s t : State σ}
    (h : C.verdicts s r t) : C.attempts s r t := by
  rcases r with f | _ | _
  · exact h
  · exact law.overlook h
  · exact h

theorem Judges.keeps (law : C.Order) {a : Act σ Problem Bool} (h : C.Judges a) : C.Keeps a :=
  fun s hs => ends_mono (h s hs) fun _ _ => attempts_of_verdicts law

theorem goes_verdicts (law : C.Order) {r : Except Problem Bool} {s t u : State σ}
    (h : C.goes s t) (h' : C.verdicts t r u) : C.verdicts s r u := by
  rcases r with f | _ | _
  · exact goes_attempts law h h'
  · exact law.goes_fails h h'
  · exact law.trans h h'

theorem verdicts_goes (law : C.Order) {b : Bool} {s t u : State σ} (h : C.verdicts s (.ok b) t)
    (h' : C.goes t u) : C.verdicts s (.ok b) u := by
  cases b with
  | false => exact law.fails_goes h h'
  | true => exact law.trans h h'

theorem goes_of_verdicts (law : C.Order) {b : Bool} {s t : State σ} (h : C.verdicts s (.ok b) t) :
    C.goes s t := attempts_of_verdicts law h

theorem verdicts_and (law : C.Order) {a b : Bool} {s t u : State σ} (h : C.verdicts s (.ok a) t)
    (h' : C.verdicts t (.ok b) u) : C.verdicts s (.ok (b && a)) u := by
  cases a with
  | false =>
    rw [Bool.and_false]
    exact verdicts_goes law h (goes_of_verdicts law h')
  | true =>
    rw [Bool.and_true]
    exact goes_verdicts law h h'

theorem keeps_bind (law : C.Order) {a : Act σ Problem α} {f : α → Act σ Problem β}
    (ha : C.Keeps a) (hf : ∀ x, C.Keeps (f x)) : C.Keeps (a >>= f) := by
  intro s hs
  refine ends_seq (ha s hs) ?_ ?_
  · intro x t ht
    exact ends_mono (hf x t (law.ready hs ht)) fun r u hu => goes_attempts law ht hu
  · intro p t ht
    cases p <;> exact ht

theorem judges_bind (law : C.Order) {a : Act σ Problem α} {f : α → Act σ Problem Bool}
    (ha : C.Keeps a) (hf : ∀ x, C.Judges (f x)) : C.Judges (a >>= f) := by
  intro s hs
  refine ends_seq (ha s hs) ?_ ?_
  · intro x t ht
    exact ends_mono (hf x t (law.ready hs ht)) fun r u hu => goes_verdicts law ht hu
  · intro p t ht
    cases p <;> exact ht

theorem judges_true (law : C.Order) : C.Judges (pure true) := fun _ hs => law.refl hs

theorem keeps_pure (law : C.Order) (x : α) : C.Keeps (pure x) := fun _ hs => law.refl hs

theorem keeps_trouble (law : C.Order) (m : String) : C.Keeps (Act.trouble m : Act σ Problem α) :=
  fun _ hs => law.refl hs

theorem keeps_getRun (law : C.Order) : C.Keeps Act.getRun := fun _ hs => law.refl hs

theorem keeps_isStopped (law : C.Order) : C.Keeps Act.isStopped := fun _ hs => law.refl hs

theorem keeps_liftTrouble (law : C.Order) (r : Except Trouble α) :
    C.Keeps (Act.liftTrouble r) := by
  cases r with
  | ok x => exact keeps_pure law x
  | error t => exact fun _ hs => law.refl hs

section Reading
variable (law : C.Order)
include law

theorem keeps_currentStep : C.Keeps Act.currentStep := by
  refine keeps_bind law (keeps_getRun law) fun r => ?_
  cases r.step? with
  | some p => exact keeps_pure law p
  | none => exact keeps_trouble law _

theorem keeps_rawText (key : String) : C.Keeps (Act.rawText key) := by
  refine keeps_bind law (keeps_currentStep law) fun p => ?_
  cases p.text? key with
  | some v => exact keeps_pure law v
  | none => exact keeps_trouble law _

theorem keeps_text (key : String) : C.Keeps (Act.text key) :=
  keeps_bind law (keeps_rawText law key) fun _ =>
    keeps_bind law (keeps_getRun law) fun _ => keeps_pure law _

theorem keeps_evaluatedText (key : String) : C.Keeps (Act.evaluatedText key) :=
  keeps_bind law (keeps_rawText law key) fun _ =>
    keeps_bind law (keeps_getRun law) fun _ => keeps_pure law _

theorem keeps_optionalText (key : String) : C.Keeps (Act.optionalText key) :=
  keeps_bind law (keeps_getRun law) fun _ => keeps_pure law _

theorem keeps_locator (key : String) : C.Keeps (Act.locator key) := by
  refine keeps_bind law (keeps_currentStep law) fun p => ?_
  cases p.locator? key with
  | some l => exact keeps_bind law (keeps_getRun law) fun _ => keeps_pure law _
  | none => exact keeps_trouble law _

theorem keeps_number (m : String) : C.Keeps (Action.number m) := by
  simp only [Action.number]
  split
  · exact keeps_pure law _
  · exact keeps_trouble law _

end Reading

-- A goal about the act is never decided by reading the digits of its text.
attribute [local irreducible] Action.number

section Commands

def serving (C : Conduct σ) (d : Nat) : Conduct σ :=
  { C with
    ready := fun s => C.ready s ∧ s.Serves d
    goes := fun s t => C.goes s t ∧ (s.Serves d → t.Serves d)
    fails := fun s t => C.fails s t ∧ (s.Serves d → t.Serves d) }

theorem serving_order (law : C.Order) (d : Nat) : (C.serving d).Order where
  refl := fun h => ⟨law.refl h.1, id⟩
  trans := fun h h' => ⟨law.trans h.1 h'.1, h'.2 ∘ h.2⟩
  overlook := fun h => ⟨law.overlook h.1, h.2⟩
  goes_fails := fun h h' => ⟨law.goes_fails h.1 h'.1, h'.2 ∘ h.2⟩
  fails_goes := fun h h' => ⟨law.fails_goes h.1 h'.1, h'.2 ∘ h.2⟩
  goes_raises := fun h h' => law.goes_raises h.1 h'
  goes_rejects := fun h h' => law.goes_rejects h.1 h'
  goes_spoils := fun h h' => law.goes_spoils h.1 h'
  ready := fun h h' => ⟨law.ready h.1 h'.1, h'.2 h.2⟩

theorem serving_attempts {d : Nat} {s t : State σ} {r : Except Problem α}
    (h : (C.serving d).attempts s r t) : C.attempts s r t := by
  rcases r with (f | f | t') | x
  · exact h
  · exact ⟨h.1, h.2.1⟩
  · exact h.1
  · exact h.1

theorem driver_serves {w w' : World σ} {k : Session} {d : Nat}
    (h : w.driver stage k = (.ok d, w')) : k.slot < w'.slots.length → w'.driver? k = some d := by
  simp only [World.driver] at h
  split at h
  · rename_i e he
    cases h
    exact fun _ => he
  · split at h
    · cases h
      intro hk
      have hk' : k.slot < w.slots.length := by simpa [World.record] using hk
      simp [World.driver?, World.record, hk']
    · cases h

theorem driver_fault {w w' : World σ} {k : Session} {f : Fault}
    (h : w.driver stage k = (.error f, w')) : f.isOriginal = true := by
  simp only [World.driver] at h
  split at h
  · cases h
  · split at h
    · cases h
    · cases h
      rfl

theorem keeps_driver (law : C.Mobile stage) {f : Nat → Act σ Problem α}
    (hf : ∀ d, (C.serving d).Keeps (f d)) : C.Keeps (Act.driver stage >>= f) := by
  intro s hs
  have moved := law.move hs .driver
  simp only [Act.driver, ends_bind, ends_getRun, ends_onWorld]
  cases h : s.world.driver stage s.run.session with
  | mk r w =>
    rw [h] at moved
    cases r with
    | error e => exact ⟨driver_fault h, moved⟩
    | ok d =>
      have served : State.Serves { s with world := w } d := driver_serves h
      change Ends (f d) { s with world := w } (C.attempts s)
      exact ends_mono (hf d _ ⟨law.ready hs moved, served⟩)
        fun r t ht => goes_attempts law.toOrder moved (serving_attempts ht)

theorem keeps_perform (law : C.Mobile stage) (d : Nat) (c : Command) (hc : c ≠ .quit) :
    (C.serving d).Keeps (Act.perform stage d c) := by
  intro s hs
  have moved := law.move hs.1 (.perform d c hs.2 hc)
  have goes : (C.serving d).goes s { s with world := (s.world.perform stage d c).2 } :=
    ⟨moved, id⟩
  have order := serving_order law.toOrder d
  simp only [Act.perform, ends_bind, ends_onWorld]
  exact ends_mono (keeps_liftTrouble order _ _ (order.ready hs goes))
    fun r t ht => goes_attempts order goes ht

theorem keeps_command (law : C.Mobile stage) (c : Command) (hc : c ≠ .quit) :
    C.Keeps (Act.command stage c) :=
  keeps_driver law fun d => keeps_perform law d c hc

theorem keeps_firstElement (law : C.Mobile stage) (d : Nat) (l : Locator) :
    (C.serving d).Keeps (Action.firstElement stage d l) := by
  have order := serving_order law.toOrder d
  refine keeps_bind order (keeps_perform law d _ (by simp)) fun found => ?_
  cases found with
  | nil => exact keeps_trouble order _
  | cons e _ => exact keeps_pure order e

end Commands

theorem perform_alone {k : Step.Kind} (hk : k.isFlow = false) (block : Nat → Act σ Problem Bool) :
    Action.perform stage block k = Action.perform stage (fun _ => pure true) k := by
  cases k with
  | loop => cases hk
  | branch => cases hk
  | reading m g => cases m <;> rfl
  | _ => rfl

section Moves
variable (law : C.Mobile stage)
include law

theorem keeps_assign (key value : String) : C.Keeps (Act.assign key value) :=
  fun s hs => law.move hs (.row (s.run.row.put key value) rfl)

theorem keeps_elapse (ms : Nat) : C.Keeps (Act.modifyWorld fun w => w.elapse stage ms) :=
  fun _ hs => law.move hs (.elapse ms)

theorem keeps_value (g : Step.Getter) : C.Keeps (Action.value stage g) := by
  have order := law.toOrder
  cases g with
  | title => exact keeps_command law _ (by simp)
  | currentUrl => exact keeps_command law _ (by simp)
  | text =>
    refine keeps_bind order (keeps_locator order _) fun l => keeps_driver law fun d => ?_
    refine keeps_bind (serving_order order d) (keeps_perform law d _ (by simp)) fun found => ?_
    cases found with
    | nil => exact keeps_pure (serving_order order d) _
    | cons e _ => exact keeps_perform law d _ (by simp)
  | elementPresent =>
    refine keeps_bind order (keeps_locator order _) fun l => ?_
    exact keeps_bind order (keeps_command law _ (by simp)) fun _ => keeps_pure order _
  | textPresent =>
    refine keeps_bind order (keeps_text order _) fun t => ?_
    exact keeps_bind order (keeps_command law _ (by simp)) fun _ => keeps_pure order _
  | expression => exact keeps_evaluatedText order _

theorem keeps_holds (g : Step.Getter) : C.Keeps (Action.holds stage g) := by
  have order := law.toOrder
  refine keeps_bind order (keeps_value law g) fun actual => ?_
  cases g.expected? with
  | some key => exact keeps_bind order (keeps_text order key) fun _ => keeps_pure order _
  | none => exact keeps_pure order _

theorem keeps_poll (g : Step.Getter) (wait tries time : Nat) :
    C.Keeps (Action.poll stage g wait tries time) := by
  have order := law.toOrder
  induction tries generalizing time with
  | zero => exact keeps_pure order false
  | succ tries ih =>
    simp only [Action.poll]
    refine keeps_bind order (keeps_holds law g) fun b => ?_
    split
    · exact keeps_pure order true
    · refine keeps_bind order (keeps_isStopped order) fun stopped => ?_
      split
      · exact keeps_pure order false
      · exact keeps_bind order (keeps_elapse law _) fun _ => ih _

theorem keeps_waitFor (g : Step.Getter) : C.Keeps (Action.waitFor stage g) := by
  have order := law.toOrder
  refine keeps_bind order (keeps_optionalText order _) fun m => ?_
  cases m with
  | some ms => exact keeps_bind order (keeps_number order ms) fun _ => keeps_poll law g _ _ _
  | none => exact keeps_bind order (keeps_pure order _) fun _ => keeps_poll law g _ _ _

variable {block : Nat → Act σ Problem Bool} (hblock : ∀ n, C.Judges (block n))
include hblock

theorem rounds_ends {s : State σ} (hs : C.ready s) (size left i : Nat) (success : Bool)
    {t : State σ} (ht : C.verdicts s (.ok success) t) :
    Ends (Action.rounds block size left i success) t (C.verdicts s) := by
  have order := law.toOrder
  induction left generalizing i success t with
  | zero => exact ht
  | succ left ih =>
    have ready := law.ready hs (goes_of_verdicts order ht)
    rw [Action.rounds, ends_bind, ends_isStopped]
    dsimp only
    split
    · exact ht
    · rename_i h
      rw [Bool.not_eq_true] at h
      simp only [ends_bind, ends_modifyWorld, Act.assign, ends_modifyRun]
      have begun := law.move ready (.progress (.round i) rfl h)
      have counted := law.trans begun (law.move (law.ready ready begun)
        (.row (t.run.row.put "_loopCount" (Text.natText i)) rfl))
      refine ends_mono (hblock size _ (law.ready ready counted)) fun r u hu => ?_
      have whole := goes_verdicts order counted hu
      cases r with
      | ok b => exact ih _ _ (verdicts_and order ht whole)
      | error p => exact goes_attempts order (goes_of_verdicts order ht) whole

theorem judges_flow {k : Step.Kind} (hk : k.isFlow = true) :
    C.Judges (Action.perform stage block k) := by
  have order := law.toOrder
  cases k with
  | loop =>
    refine judges_bind order (keeps_text order _) fun m => ?_
    refine judges_bind order (keeps_number order m) fun count => ?_
    refine judges_bind order (keeps_currentStep order) fun p => ?_
    refine judges_bind order (keeps_getRun order) fun r s hs => ?_
    exact rounds_ends law hblock hs _ _ _ _ (law.refl hs)
  | branch =>
    refine judges_bind order (keeps_rawText order _) fun condition => ?_
    refine judges_bind order (keeps_currentStep order) fun p => ?_
    refine judges_bind order (keeps_getRun order) fun r => ?_
    split
    · exact hblock _
    · exact judges_true order
  | _ => cases hk

/-- Whatever its kind, what a step does keeps the conduct. -/
theorem keeps_action (k : Step.Kind) : C.Keeps (Action.perform stage block k) := by
  have order := law.toOrder
  cases k with
  | echo => exact keeps_bind order (keeps_text order _) fun _ => keeps_pure order _
  | store =>
    refine keeps_bind order (keeps_text order _) fun name => ?_
    refine keeps_bind order (keeps_evaluatedText order _) fun text => ?_
    exact keeps_bind order (keeps_assign law name text) fun _ => keeps_pure order _
  | pause =>
    refine keeps_bind order (keeps_text order _) fun ms => ?_
    refine keeps_bind order (keeps_number order ms) fun n => ?_
    exact keeps_bind order (keeps_elapse law n) fun _ => keeps_pure order _
  | get =>
    refine keeps_bind order (keeps_text order _) fun url => ?_
    exact keeps_bind order (keeps_command law _ (by simp)) fun _ => keeps_pure order _
  | click =>
    refine keeps_bind order (keeps_locator order _) fun l => keeps_driver law fun d => ?_
    have order := serving_order order d
    refine keeps_bind order (keeps_firstElement law d l) fun e => ?_
    exact keeps_bind order (keeps_perform law d _ (by simp)) fun _ => keeps_pure order _
  | setText =>
    refine keeps_bind order (keeps_locator order _) fun l => ?_
    refine keeps_bind order (keeps_text order _) fun text => keeps_driver law fun d => ?_
    have order := serving_order order d
    refine keeps_bind order (keeps_firstElement law d l) fun e => ?_
    refine keeps_bind order (keeps_perform law d _ (by simp)) fun _ => ?_
    exact keeps_bind order (keeps_perform law d _ (by simp)) fun _ => keeps_pure order _
  | sendKeys =>
    refine keeps_bind order (keeps_locator order _) fun l => ?_
    refine keeps_bind order (keeps_text order _) fun text => keeps_driver law fun d => ?_
    have order := serving_order order d
    refine keeps_bind order (keeps_firstElement law d l) fun e => ?_
    exact keeps_bind order (keeps_perform law d _ (by simp)) fun _ => keeps_pure order _
  | loop => exact (judges_flow law hblock rfl).keeps order
  | branch => exact (judges_flow law hblock rfl).keeps order
  | reading m g =>
    cases m with
    | verify => exact keeps_holds law g
    | assert => exact keeps_holds law g
    | waitFor => exact keeps_waitFor law g
    | store =>
      refine keeps_bind order (keeps_text order _) fun name => ?_
      refine keeps_bind order (keeps_value law g) fun v => ?_
      exact keeps_bind order (keeps_assign law name v) fun _ => keeps_pure order _

end Moves

theorem goes_answers (law : C.Order) {r : Except Fault Bool} {s t u : State σ}
    (h : C.goes s t) (h' : C.answers t r u) : C.answers s r u := by
  rcases r with f | _ | _
  · exact law.goes_raises h h'
  · exact law.goes_fails h h'
  · exact law.trans h h'

section Judgement
variable {inner : Inner σ} (law : C.Lawful stage)
  (hin : ∀ s, C.ready s → Ends inner.finish s fun r t => C.whole r s t)
  {advice : List (Interceptor Case)} (hadv : ∀ i ∈ advice, C.able i)
  {s t : State σ} {label : String} (hs : C.ready s)
include law hin hadv hs

theorem failed_ends (p : Step) (ht : C.goes (s.emit stage (.started label)) t) :
    Ends (Execution.failed stage inner advice p label) t (C.answers s) := by
  have ready := law.told (.failure (label ++ " failed")) (law.ready (law.told _ hs) ht)
  simp only [Execution.failed, Act.emit, ends_bind, ends_modifyWorld, ends_outcome]
  refine ends_mono (adviseEvery_ends law.toAdvised hin .failure p advice hadv true ready) ?_
  intro r u hu
  cases r with
  | error f => exact law.failedRaises hs ht hu
  | ok b =>
    have told := law.failed hs ht hu
    dsimp only
    split
    · exact told.1
    · exact told.2

theorem succeeded_ends (p : Step) (ht : C.goes (s.emit stage (.started label)) t) :
    Ends (Execution.succeeded stage inner advice p label) t (C.answers s) := by
  have ready := law.ready (law.told _ hs) ht
  have accepted : ∀ b u, C.goes t u →
      Ends (if b = true then do Act.emit stage .ended; pure true
        else Execution.failed stage inner advice p label) u (C.answers s) := by
    intro b u hu
    have hu' := law.trans ht hu
    cases b with
    | true => exact law.passed hs hu'
    | false => exact failed_ends law hin hadv hs p hu'
  simp only [Execution.succeeded]
  split
  · refine ends_seq (adviseAll_ends law.toAdvised hin .after p advice hadv ready) accepted ?_
    exact fun f u hu => law.rejected hs ht hu
  · exact ends_seq (P := fun r u => r = .ok true ∧ C.goes t u) ⟨rfl, law.refl ready⟩
      (fun b u hu => accepted b u hu.2) (fun f u hu => by cases hu.1)

theorem raised_ends (p : Step) {f : Fault} (hf : f.isOriginal = true)
    (ht : C.goes (s.emit stage (.started label)) t) :
    Ends (Execution.raised stage inner advice p f) t (C.answers s) := by
  have ready := law.told (.error f) (law.ready (law.told _ hs) ht)
  simp only [Execution.raised, Act.emit, ends_bind, ends_modifyWorld, ends_outcome]
  refine ends_mono (adviseEvery_ends law.toAdvised hin .failure p advice hadv true ready) ?_
  intro r u hu
  cases r with
  | error g => exact law.raised hs hf ht (.inr ⟨g, hu⟩)
  | ok b => exact law.raised hs hf ht (.inl hu)

theorem judge_ends (p : Step) (r : Except Problem Bool)
    (ht : C.attempts (s.emit stage (.started label)) r t) :
    Ends (Execution.judge stage inner advice p label r) t (C.answers s) := by
  rcases r with (f | f | t') | b
  · exact law.reported hs ht
  · exact raised_ends law hin hadv hs p ht.1 ht.2
  · exact raised_ends law hin hadv hs p rfl ht
  · simp only [Execution.judge]
    split
    · exact succeeded_ends law hin hadv hs p ht
    · exact failed_ends law hin hadv hs p ht

end Judgement

theorem moveTo_iff (i : Nat) (s : State σ) (Q : Except Problem Unit → State σ → Prop) :
    Ends (Execution.moveTo i) s Q ↔ Q (.ok ()) (s.standing ((i : Int).bmod Text.word)) := by
  simp only [Execution.moveTo, ends_modifyRun, State.standing, Cursor.moveTo]

theorem hasNext_ends (law : C.Mobile stage) {s : State σ} (hs : C.ready s) :
    Ends (Execution.hasNext : Act σ Fault Bool) s
      fun r t => (∃ b, r = .ok b ∧ (b = true → t.isStopped = false)) ∧ C.goes s t := by
  simp only [Execution.hasNext, ends_bind, ends_get]
  split
  · rename_i h
    simp only [Bool.and_eq_true] at h
    refine ⟨⟨_, rfl, fun running => ?_⟩, law.move hs (.notice h.1)⟩
    rw [Cursor.needsRunning, Bool.and_eq_true] at running
    cases running.1
  · rename_i h
    refine ⟨⟨_, rfl, fun running => ?_⟩, law.refl hs⟩
    rw [Cursor.needsRunning, Bool.and_eq_true, Bool.not_eq_true'] at running
    rw [running.1, Bool.not_false, Bool.and_true, Bool.not_eq_true] at h
    show (s.run.cursor.stopped || s.world.signals.isStopped s.run.signal) = false
    rw [h, running.1]
    rfl

section Step
variable {inner : Inner σ} {block : Nat → Act σ Problem Bool} (law : C.Lawful stage)
  (hin : ∀ s, C.ready s → Ends inner.finish s fun r t => C.whole r s t)
  (hblock : ∀ n, C.Judges (block n))
include law hin hblock

theorem executeStep_ends (p : Step) {s : State σ} (hs : C.ready s) :
    Ends (Execution.executeStep stage inner block p) s
      fun r t => C.answers s (r.map Execution.Outcome.success) t := by
  simp only [Execution.executeStep, ends_bind, ends_getRun]
  split
  · exact law.refl hs
  · have hadv : ∀ i ∈ Aspect.advice s.run.aspect p s.run.row, C.able i :=
      fun i hi => law.able hs (List.mem_filter.1 hi).1
    refine ends_seq (adviseAll_ends law.toAdvised hin .before p _ hadv hs) ?_ fun f t ht => ht
    intro b t ht
    have htr := law.ready hs ht
    split
    · simp only [Act.emit, ends_bind, ends_getRun, ends_modifyWorld, ends_outcome]
      refine ends_mono (keeps_action law.toMobile hblock p.kind _ (law.told _ htr)) fun r u hu => ?_
      refine ends_mono (judge_ends law hin hadv htr p r hu) fun r' v hv => ?_
      have hv' := goes_answers law.toOrder ht hv
      cases r' with
      | ok c => exact hv'
      | error f => exact hv'
    · exact ht

theorem executeCurrent_ends {s : State σ} (hs : C.ready s) (running : s.isStopped = false) :
    Ends (Execution.executeCurrent stage inner block) s
      fun r t => C.answers s (r.map Execution.Outcome.success) t := by
  simp only [Execution.executeCurrent, ends_bind, ends_getRun]
  split
  · simp only [ends_bind, ends_modifyWorld]
    have turned := law.move hs (.progress (.turned (s.run.cursor.current?.getD 0)) rfl running)
    split
    · refine ends_mono (executeStep_ends law hin hblock _ (law.ready hs turned)) fun r t ht => ?_
      exact goes_answers law.toOrder turned ht
    · exact turned
  · exact law.refl hs

end Step

/-- A step to which a run turns keeps the conduct if the steps that it owns do. -/
def Turns (C : Conduct σ) (stage : Stage σ) (inner : Inner σ) : Prop :=
  ∀ block : Nat → Act σ Problem Bool, (∀ n, C.Judges (block n)) →
    ∀ s, C.ready s → s.isStopped = false →
      Ends (Execution.executeCurrent stage inner block) s
        fun r t => C.answers s (r.map Execution.Outcome.success) t

theorem turns {inner : Inner σ} (law : C.Lawful stage)
    (hin : ∀ s, C.ready s → Ends inner.finish s fun r t => C.whole r s t) : C.Turns stage inner :=
  fun _ hblock _ hs running => executeCurrent_ends law hin hblock hs running

section Blocks
variable {inner : Inner σ} (law : C.Mobile stage) (turn : C.Turns stage inner)
include law turn

theorem walk_ends {block : Nat → Act σ Problem Bool} (hblock : ∀ n, C.Judges (block n))
    {s : State σ} (hs : C.ready s) (origin last steps index : Nat) (success : Bool)
    {t : State σ} (ht : C.verdicts s (.ok success) t) :
    Ends (Execution.walk stage inner block origin last steps index success) t (C.verdicts s) := by
  have order := law.toOrder
  have back : ∀ (b : Bool) (u : State σ), C.verdicts s (.ok b) u →
      Ends (Execution.moveTo origin >>= fun _ => pure b) u (C.verdicts s) := by
    intro b u hu
    have ready := law.ready hs (goes_of_verdicts order hu)
    rw [ends_bind, moveTo_iff]
    exact verdicts_goes order hu (law.move ready (.stand _))
  -- on the steps that are left of the block; the walk comes back to `origin` from wherever it ends
  induction steps generalizing index success t with
  | zero => exact back success t ht
  | succ steps ih =>
    have ready := law.ready hs (goes_of_verdicts order ht)
    rw [Execution.walk, ends_bind, ends_isStopped]
    dsimp only
    split
    · exact back success t ht
    · rename_i h
      rw [not_or, Bool.not_eq_true] at h
      have moved := law.move ready (.stand ((index : Int).bmod Text.word))
      have running := (t.isStopped_standing ((index : Int).bmod Text.word)).trans h.2
      rw [ends_bind, moveTo_iff]
      generalize t.standing _ = there at moved running
      have ready' := law.ready ready moved
      simp only [ends_bind, ends_outcome]
      refine ends_mono (turn block hblock _ ready' running) fun r u hu => ?_
      rcases r with f | ⟨b, n⟩
      · have before := law.trans (goes_of_verdicts order ht) moved
        exact law.goes_raises before (law.raises_standing _ ready' hu)
      · have answered : C.verdicts t (.ok b) u := by
          cases b with
          | false => exact law.goes_fails moved hu
          | true => exact law.trans moved hu
        exact ih _ _ (verdicts_and order ht answered)

theorem judges_blockAt (depth count : Nat) :
    C.Judges (Execution.blockAt stage inner depth count) := by
  have order := law.toOrder
  induction depth generalizing count with
  | zero => exact judges_true order
  | succ depth ih =>
    simp only [Execution.blockAt]
    refine judges_bind order (keeps_getRun order) fun r => ?_
    split
    · exact fun s hs => law.refl hs
    · exact fun s hs => walk_ends law turn ih hs _ _ _ _ _ (law.refl hs)

theorem judges_block (count : Nat) : C.Judges (Execution.block stage inner count) :=
  judges_bind law.toOrder (keeps_getRun law.toOrder) fun _ => judges_blockAt law turn _ _

theorem next_ends {s : State σ} (hs : C.ready s) (running : s.isStopped = false) :
    Ends (Execution.next stage inner) s (C.answers s) := by
  have started := law.move hs (.stand (s.run.cursor.startStep).index)
  have hs' := law.ready hs started
  simp only [Execution.next, ends_bind, ends_modifyRun]
  refine ends_mono (turn _ (judges_block law turn) _ hs' running) fun r t ht => ?_
  rcases r with f | ⟨_ | _, n⟩
  · exact law.goes_raises started ht
  · have fails := law.goes_fails started ht
    have moved := law.move (law.ready hs (law.overlook fails))
      (.stand (t.run.cursor.forward (n - 1)).index)
    exact law.fails_goes fails moved
  · have goes := law.trans started ht
    have moved := law.move (law.ready hs goes) (.stand (t.run.cursor.forward (n - 1)).index)
    exact law.trans goes moved

/-- The steps that are left keep to what those before them began in `s`. -/
theorem steps_ends {s : State σ} (hs : C.ready s) (left : Nat) (success : Bool) {t : State σ}
    (ht : C.answers s (.ok success) t) :
    Ends (Execution.steps stage inner left success) t (C.answers s) := by
  have order := law.toOrder
  -- on the steps that are left; what those before them answered is carried along from `s`
  induction left generalizing success t with
  | zero => exact ht
  | succ left ih =>
    have goes : C.goes s t := by
      cases success with
      | true => exact ht
      | false => exact law.overlook ht
    refine ends_seq (hasNext_ends law (law.ready hs goes)) ?_
      fun f u ⟨⟨_, h, _⟩, _⟩ => by cases h
    rintro b u ⟨⟨_, ⟨⟩, running⟩, hu⟩
    have goes' := law.trans goes hu
    have kept : C.answers s (.ok success) u := by
      cases success with
      | true => exact goes'
      | false => exact law.fails_goes ht hu
    split
    · rename_i more
      refine ends_seq (next_ends law turn (law.ready hs goes') (running more)) ?_
        fun f v hv => law.goes_raises goes' hv
      intro c v hv
      refine ih (c && success) ?_
      cases success with
      | false =>
        rw [Bool.and_false]
        cases c with
        | true => exact law.fails_goes kept hv
        | false => exact law.fails_goes kept (law.overlook hv)
      | true =>
        rw [Bool.and_true]
        exact goes_answers order goes' hv
    · exact kept

end Blocks

end Scenario.Conduct

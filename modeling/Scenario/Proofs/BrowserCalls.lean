import Scenario.Proofs.RecordedEntries
import Scenario.Runner

/-!
# Calls of browsers

A browser can keep a log of the launches and commands it is asked for and count the
browsers that it launched. Over an execution its log grows by the launches and commands
on the record, in the same order, and its count by the numbers given to new browsers.
This is an instance of a property that every operation of the world keeps.
-/

set_option autoImplicit false

namespace Scenario
open Scenario.Execution Scenario.Act

variable {σ : Type}

inductive Call where
  | launch (config : Assoc String)
  | command (browser : Nat) (c : Command)
  deriving DecidableEq, Repr

def TraceEntry.call? : TraceEntry → Option Call
  | .launch config => some (.launch config)
  | .command d c => some (.command d c)
  | _ => none

def calls (l : List TraceEntry) : List Call := l.filterMap TraceEntry.call?

/-- The state of a browser with what it was asked, newest first, and how many launches succeeded. -/
structure Logged (σ : Type) where
  state : σ
  calls : List Call := []
  made : Nat := 0
  deriving DecidableEq

/-- A browser that does the same and writes down what it is asked. -/
def Browser.logging (b : Browser σ) : Browser (Logged σ) where
  launch config s :=
    let (r, state) := b.launch config s.state
    (r, ⟨state, .launch config :: s.calls, if r.isOk then s.made + 1 else s.made⟩)
  perform d c s :=
    let (r, state) := b.perform d c s.state
    (r, { s with state, calls := .command d c :: s.calls })
  elapse ms s := { s with state := b.elapse ms s.state }

namespace World

structure Invariant (stage : Stage σ) (F : World σ → Prop) : Prop where
  record : ∀ {w} (e : TraceEntry), e.call? = none → F w → F (w.record e)
  stop : ∀ {w} (g : Signal), F w → F (w.stop g)
  hookCalled : ∀ {w} (note : Option String), F w → F (w.hookCalled note)
  elapse : ∀ {w} (ms : Nat), F w → F (w.elapse stage ms)
  newSession : ∀ {w}, F w → F w.newSession.2
  childSignal : ∀ {w} (g : Signal), F w → F (w.childSignal g).2
  driver : ∀ {w} (k : Session), F w → F (w.driver stage k).2
  perform : ∀ {w} (d : Nat) (c : Command), F w → F (w.perform stage d c).2
  quit : ∀ {w} (k : Session), F w → F (w.quit stage k)

namespace Invariant
variable {stage : Stage σ} {F : World σ → Prop} (inv : Invariant stage F)
include inv

theorem emit {w : World σ} (e : Event) (h : F w) : F (w.emit stage e) := by
  have told : F (w.record (.event e)) := inv.record (.event e) rfl h
  simp only [World.emit]
  split
  · split
    · exact inv.stop _ told
    · exact told
  · exact told

theorem build {w : World σ} (p : Run.Setup) (h : F w) : F (Run.build stage w p).2 := by
  simp only [Run.build]
  cases p.session with
  | some k => exact h
  | none => exact inv.newSession h

theorem move {s t : State σ} (h : F s.world) (moved : Move stage s t) : F t.world := by
  cases moved with
  | row row last => exact h
  | stand i => exact h
  | notice stopped => exact h
  | stop k p => exact inv.record _ rfl (inv.stop _ h)
  | progress e he running =>
    have silent : e.call? = none := by cases e <;> first | rfl | cases he
    exact inv.record e silent h
  | hookCall note => exact inv.hookCalled note h
  | elapse ms => exact inv.elapse ms h
  | driver => exact inv.driver _ h
  | perform d c serves other => exact inv.perform d c h

theorem released {t : State σ} (h : F t.world) : F (t.released stage).world := by
  simp only [State.released]
  split
  · exact inv.quit _ h
  · exact h

theorem givenBack {t : State σ} (c : Case) (last : Run) (h : F t.world) :
    F (givenBack stage c last t).world := by
  rw [Execution.givenBack]
  split
  · exact h
  · exact inv.quit _ h

theorem adviceStart {s : State σ} (c : Case) (p : Step) (k : AdviceKind) (h : F s.world) :
    F (adviceStart stage s c p k).world := by
  have begun : F (s.world.record (.adviceBegun k)) := inv.record _ rfl h
  simp only [Execution.adviceStart]
  exact inv.build _ (inv.childSignal s.run.signal begun)

theorem rowStart {s : State σ} (rows : Rows) (n : Nat) (row : Row) (isLast : Bool)
    (h : F s.world) : F (rowStart stage rows n row isLast s).world := by
  simp only [Execution.rowStart]
  split
  · exact inv.build _ (inv.childSignal _ h)
  · exact inv.build _ (inv.childSignal _ (inv.newSession h))

theorem rowRaised {s v : State σ} (c : Case) (h : F v.world) :
    F (rowRaised stage c s v).world := by
  rw [Execution.rowRaised]
  split
  · exact inv.quit _ h
  · exact h

end Invariant

def invariantCourse (F : World σ → Prop) : Plain σ where
  ready s := F s.world
  able _ := True
  moves _ t := F t.world
  rejects _ t := F t.world
  whole _ t := F t.world
  left _ _ _ t := F t.world

namespace Invariant
variable {stage : Stage σ} {F : World σ → Prop}

theorem lawful (inv : Invariant stage F) : (invariantCourse F).Lawful stage where
  refl h := h
  trans _ h := h
  trans_rejects _ h := h
  ready _ h := h
  able _ _ := trivial
  move h moved := inv.move h moved
  told e h := inv.emit e h
  failure m h := inv.emit (.failure m) h
  error f h := inv.emit (.error f) h
  step _ h := inv.emit .ended h
  suite _ h := inv.emit .closed h
  rejected _ _ h := h
  hookAnswered k b h _ _ := inv.record _ rfl h
  caseAnswered k b h := inv.record _ rfl h
  hookRaised k f h _ _ := by cases k <;> exact inv.record _ rfl h
  caseRaised k f h := by cases k <;> exact inv.record _ rfl h
  advice p k h _ _ := inv.adviceStart _ p k h
  adviceDone _ h := h
  prepared h := h
  aborted h := h
  chainCalled h := h
  reached i passed h := inv.record _ rfl h
  released _ h := inv.released h
  stopSeen _ h _ := inv.record _ rfl h
  rowReady n row isLast h _ := inv.rowStart _ n row isLast h
  rowLeft _ _ h := h
  rowDone _ _ h _ := h
  rowRaised _ _ h := inv.rowRaised _ h
  left_trans _ h := h
  left_suite _ h := inv.emit .closed h
  left_ready _ h := h
  dropped _ h := inv.givenBack _ _ h
  deferred _ _ _ h := inv.givenBack _ _ h

theorem finish (inv : Invariant stage F) (depth : Nat) {s : State σ} (h : F s.world) :
    Ends (Execution.finish stage depth) s fun _ t => F t.world :=
  Plain.finish_ends inv.lawful depth h

theorem topRow (inv : Invariant stage F) (stop : Signal) (c : Case) (shared : Option Session)
    (name : String) (row : Row) {w : World σ} (h : F w) :
    F (Runner.rowStart stage stop c shared name row w).world :=
  inv.build _ (inv.childSignal stop h)

theorem runRows (inv : Invariant stage F) (depth : Nat) (stop : Signal) (c : Case)
    (multiLine : Bool) (shared : Option Session) (l : List Row) (n : Nat) (success : Bool)
    {w : World σ} (h : F w) :
    F (Runner.runRows stage depth stop c multiLine shared n l success w).2 := by
  induction l generalizing n success w with
  | nil => exact h
  | cons row rest ih =>
    rw [Runner.runRows]
    split
    · exact h
    · have done := inv.finish depth
        (inv.topRow stop c shared (Runner.rowName c multiLine n) row h)
      simp only [Ends, exec] at done
      revert done
      generalize StateT.run (ExceptT.run (Execution.finish stage depth)) _ = e
      intro done
      rcases e with ⟨f | b, s⟩
      · exact done
      · exact ih _ _ done

/-- An execution keeps what every operation of the world keeps. -/
theorem run (inv : Invariant stage F) (stop : Signal) (c : Case) (depth : Nat) {w : World σ}
    (h : F w) : F (Runner.run stage stop c w depth).2 := by
  rw [Runner.run]
  split
  · rw [Runner.execute]
    split
    · exact h
    · split
      · exact inv.quit _ (inv.runRows depth stop _ _ _ _ _ _ (inv.newSession h))
      · exact inv.runRows depth stop _ _ _ _ _ _ h
  · exact h

end Invariant

/-- Since an earlier world the browser was asked what is on record, and made those browsers that
were given new numbers. -/
def Faithful (w₀ w : World (Logged σ)) : Prop :=
  ∃ l, w.trace = l ++ w₀.trace ∧ w.browser.calls = calls l ++ w₀.browser.calls ∧
    w.browser.made + w₀.launched = w₀.browser.made + w.launched

section Faithful
variable {b : Browser σ} {stage : Stage (Logged σ)} {w₀ w : World (Logged σ)}

theorem Faithful.record (h : Faithful w₀ w) {e : TraceEntry} (silent : e.call? = none) :
    Faithful w₀ (w.record e) := by
  obtain ⟨l, trace, asked, made⟩ := h
  refine ⟨e :: l, congrArg (e :: ·) trace, ?_, made⟩
  rw [calls, List.filterMap_cons_none silent]
  exact asked

variable (logged : stage.browsers = b.logging)
include logged

theorem Faithful.perform (h : Faithful w₀ w) (d : Nat) (c : Command) :
    Faithful w₀ (w.perform stage d c).2 := by
  obtain ⟨l, trace, asked, made⟩ := h
  simp only [World.perform, World.record, logged, Browser.logging]
  exact ⟨.command d c :: l, congrArg (.command d c :: ·) trace,
    congrArg (Call.command d c :: ·) asked, made⟩

theorem Faithful.driver (h : Faithful w₀ w) (k : Session) : Faithful w₀ (w.driver stage k).2 := by
  obtain ⟨l, trace, asked, made⟩ := h
  have noted := congrArg (Call.launch stage.driverConfig :: ·) asked
  have longer := congrArg (TraceEntry.launch stage.driverConfig :: ·) trace
  cases has : w.driver? k with
  | some d =>
    simp only [World.driver, has]
    exact ⟨l, trace, asked, made⟩
  | none =>
    cases answer : b.launch stage.driverConfig w.browser.state with
    | mk result state =>
      cases result with
      | error t =>
        simp only [World.driver, has, World.record, logged, Browser.logging, answer]
        exact ⟨.launch stage.driverConfig :: l, longer, noted, made⟩
      | ok u =>
        simp only [World.driver, has, World.record, logged, Browser.logging, answer]
        refine ⟨.launch stage.driverConfig :: l, longer, noted, ?_⟩
        show w.browser.made + 1 + w₀.launched = w₀.browser.made + (w.launched + 1)
        omega

theorem invariant_faithful (w₀ : World (Logged σ)) : Invariant stage (Faithful w₀) where
  record e silent h := h.record silent
  stop _ h := h
  hookCalled note h := by
    cases note with
    | none => exact h
    | some n => exact Faithful.record h rfl
  elapse ms h := by
    simp only [World.elapse, logged, Browser.logging]
    exact h
  newSession h := h
  childSignal _ h := h
  driver k h := h.driver logged k
  perform d c h := h.perform logged d c
  quit k h := by
    simp only [World.quit]
    split
    · exact Faithful.perform logged h _ .quit
    · exact h

/-- The launches and commands on the record of an execution are the calls that the browser got
meanwhile, and a new number is given for each launch that succeeds. -/
theorem run_calls (stop : Signal) (c : Case) (w : World (Logged σ)) (depth : Nat) :
    let w' := (Runner.run stage stop c w depth).2
    w'.browser.calls = calls (since w w') ++ w.browser.calls ∧
      w'.browser.made + w.launched = w.browser.made + w'.launched := by
  obtain ⟨l, trace, asked, made⟩ :=
    (invariant_faithful logged w).run stop c depth ⟨[], rfl, rfl, rfl⟩
  intro w'
  rw [since_eq trace]
  exact ⟨asked, made⟩

end Faithful

end World

end Scenario

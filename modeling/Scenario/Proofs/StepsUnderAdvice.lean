import Scenario.Proofs.DescendantRuns
import Scenario.Proofs.PassingAdvice

/-!
# Steps under passing advice

A run is set beside the same run under passing advice. Between two steps both
have the same variables, browsers and place among the steps, and the record of
the second is that of the first with advice cases in it. Unless the first is too
deep, a step does the same in both as long as a level is left to the second for
its advice, and so do all steps of a case.
-/

set_option autoImplicit false

namespace Scenario
open Scenario.Act Scenario.Execution

/-- Errors some of which come of a run beyond the allowed depth. -/
class Sinks (ε : Type) where
  deep : ε → Prop

instance : Sinks Fault := ⟨fun f => ∃ name, f.root = beyond name⟩

instance : Sinks Problem where
  deep
    | .reported f => Sinks.deep f
    | _ => False

def Sunk {ε α : Type} [Sinks ε] (r : Except ε α) : Prop := ∃ e, r = .error e ∧ Sinks.deep e

variable {σ ε α β : Type} [Sinks ε] {stage : Stage σ}

/-- The second record is the first with advice cases in it, from a common past on. -/
structure Filled (past l l' : List TraceEntry) : Prop where
  parts : ∃ k k', l = k ++ past ∧ l' = k' ++ past ∧ k'.foldr TraceEntry.skim (0, []) = (0, k) ∧
    k'.filter TraceEntry.isCall = k.filter TraceEntry.isCall

def TraceEntry.outside : TraceEntry → Bool
  | .adviceBegun _ => false
  | .advised false _ _ => false
  | .adviceRaised false _ _ => false
  | _ => true

section Filled
variable {past l l' : List TraceEntry}

theorem filled_refl (past : List TraceEntry) : Filled past past past :=
  ⟨[], [], rfl, rfl, rfl, rfl⟩

theorem Filled.cons (h : Filled past l l') {e : TraceEntry} (he : e.outside = true) :
    Filled past (e :: l) (e :: l') := by
  obtain ⟨k, k', rfl, rfl, skimmed, called⟩ := h.parts
  refine ⟨e :: k, e :: k', rfl, rfl, ?_, ?_⟩
  · rw [List.foldr_cons, skimmed]
    cases e with
    | adviceBegun _ => cases he
    | advised byHook _ _ =>
      cases byHook with
      | false => cases he
      | true => rfl
    | adviceRaised byHook _ _ =>
      cases byHook with
      | false => cases he
      | true => rfl
    | _ => rfl
  · rw [List.filter_cons, List.filter_cons, called]

theorem Filled.advice (h : Filled past l l') {k : List TraceEntry} (hk : Asides k) :
    Filled past l (k ++ l') := by
  obtain ⟨m, m', rfl, rfl, skimmed, called⟩ := h.parts
  refine ⟨m, k ++ m', rfl, (List.append_assoc ..).symm, ?_, ?_⟩
  · rw [List.foldr_append, skimmed, hk.skimmed]
  · rw [List.filter_append, hk.uncalled, called]
    rfl

end Filled

/-- Worlds since `w₀` that differ in the record of advice cases and in the signals that were given
out for them. Nothing more was stopped, and nothing is that is yet to be given out. -/
inductive World.Attended (w₀ : World σ) : World σ → World σ → Prop
  | intro (w : World σ) (next : Nat) (trace : List TraceEntry)
      (kept : w.signals.stopped = w₀.signals.stopped)
      (fresh : ∀ m ∈ w.signals.stopped, m < w.signals.next)
      (fresh' : ∀ m ∈ w.signals.stopped, m < next) (filled : Filled w₀.trace w.trace trace) :
      Attended w₀ w { w with signals := ⟨next, w.signals.stopped⟩, trace }

/-- A run without interceptors and the same run under passing advice, neither of which was
stopped in `w₀`. -/
inductive Run.Attended (stage : Stage σ) (w₀ : World σ) : Run → Run → Prop
  | intro (r : Run) (own advice inherited : Aspect) (signal : Signal)
      (bare : r.Bare stage fun _ => True) (unadvised : r.aspect = []) (hown : own.Passing)
      (hadvice : advice.Passing) (hinherited : inherited.Passing)
      (running : w₀.signals.isStopped r.signal = false)
      (running' : w₀.signals.isStopped signal = false) :
      Attended stage w₀ r
        { r with case := { r.case with aspect := own }, aspect := advice, inherited, signal }

inductive State.Attended (stage : Stage σ) (w₀ : World σ) : State σ → State σ → Prop
  | intro {w w' : World σ} {r r' : Run} (run : r.Attended stage w₀ r')
      (world : World.Attended w₀ w w') : Attended stage w₀ ⟨w, r⟩ ⟨w', r'⟩

namespace World.Attended
variable {w₀ w w' : World σ}

theorem kept (h : Attended w₀ w w') :
    w.signals.stopped = w₀.signals.stopped ∧ w'.signals.stopped = w₀.signals.stopped := by
  obtain ⟨next, trace, kept⟩ := h
  exact ⟨kept, kept⟩

theorem fresh (h : Attended w₀ w w') :
    (∀ m ∈ w.signals.stopped, m < w.signals.next) ∧
      ∀ m ∈ w'.signals.stopped, m < w'.signals.next := by
  obtain ⟨next, trace, kept, fresh, fresh'⟩ := h
  exact ⟨fresh, fresh'⟩

theorem filled (h : Attended w₀ w w') : Filled w₀.trace w.trace w'.trace := by
  obtain ⟨_, _, _, _, _, filled⟩ := h
  exact filled

theorem browser (h : Attended w₀ w w') : w'.browser = w.browser := by
  obtain ⟨⟩ := h
  rfl

theorem record (h : Attended w₀ w w') {e : TraceEntry} (he : e.outside = true) :
    Attended w₀ (w.record e) (w'.record e) := by
  obtain ⟨next, trace, kept, fresh, fresh', filled⟩ := h
  exact .intro (w.record e) next (e :: trace) kept fresh fresh' (filled.cons he)

theorem emit (unwatched : stage.watch = none) (h : Attended w₀ w w') (e : Event) :
    Attended w₀ (w.emit stage e) (w'.emit stage e) := by
  simp only [World.emit, unwatched]
  exact h.record rfl

theorem driver (h : Attended w₀ w w') (stage : Stage σ) (k : Session) :
    (w'.driver stage k).1 = (w.driver stage k).1 ∧
      Attended w₀ (w.driver stage k).2 (w'.driver stage k).2 := by
  obtain ⟨next, trace, kept, fresh, fresh', filled⟩ := h
  simp only [World.driver, World.driver?]
  cases (w.slots[k.slot]?).bind id with
  | some d => exact ⟨rfl, .intro w next trace kept fresh fresh' filled⟩
  | none =>
    have launched := filled.cons (e := .launch stage.driverConfig) rfl
    simp only [World.record]
    rcases stage.browsers.launch stage.driverConfig w.browser with ⟨_ | _, c⟩
    · refine ⟨rfl, ?_⟩
      exact .intro { w with browser := c, trace := _ } next _ kept fresh fresh' launched
    · refine ⟨rfl, ?_⟩
      exact .intro { w with browser := c, launched := _, slots := _, trace := _ } next _ kept fresh
        fresh' launched

theorem perform (h : Attended w₀ w w') (stage : Stage σ) (d : Nat) (c : Command) :
    (w'.perform stage d c).1 = (w.perform stage d c).1 ∧
      Attended w₀ (w.perform stage d c).2 (w'.perform stage d c).2 := by
  obtain ⟨next, trace, kept, fresh, fresh', filled⟩ := h
  exact ⟨rfl, .intro (w.perform stage d c).2 next _ kept fresh fresh' (filled.cons rfl)⟩

theorem elapse (h : Attended w₀ w w') (stage : Stage σ) (ms : Nat) :
    Attended w₀ (w.elapse stage ms) (w'.elapse stage ms) := by
  obtain ⟨next, trace, kept, fresh, fresh', filled⟩ := h
  exact .intro (w.elapse stage ms) next trace kept fresh fresh' filled

theorem quit (h : Attended w₀ w w') (stage : Stage σ) (k : Session) :
    Attended w₀ (w.quit stage k) (w'.quit stage k) := by
  obtain ⟨next, trace, kept, fresh, fresh', filled⟩ := h
  simp only [World.quit, World.driver?]
  cases (w.slots[k.slot]?).bind id with
  | none => exact .intro w next trace kept fresh fresh' filled
  | some d =>
    exact .intro ({ w with slots := w.slots.set k.slot none }.perform stage d .quit).2 next _ kept
      fresh fresh' (filled.cons rfl)

theorem newSession (h : Attended w₀ w w') :
    w'.newSession.1 = w.newSession.1 ∧ Attended w₀ w.newSession.2 w'.newSession.2 := by
  obtain ⟨next, trace, kept, fresh, fresh', filled⟩ := h
  exact ⟨rfl, .intro w.newSession.2 next trace kept fresh fresh' filled⟩

theorem childSignal (h : Attended w₀ w w') (g g' : Signal) :
    Attended w₀ (w.childSignal g).2 (w'.childSignal g').2 := by
  obtain ⟨next, trace, kept, fresh, fresh', filled⟩ := h
  exact .intro (w.childSignal g).2 (next + 1) trace kept
    (fun m hm => Nat.lt_succ_of_lt (fresh m hm)) (fun m hm => Nat.lt_succ_of_lt (fresh' m hm))
    filled

end World.Attended

namespace State.Attended
variable {w₀ : World σ} {s s' : State σ}

theorem run (h : s.Attended stage w₀ s') : s.run.Attended stage w₀ s'.run := by
  obtain ⟨run, _⟩ := h
  exact run

theorem world (h : s.Attended stage w₀ s') : World.Attended w₀ s.world s'.world := by
  obtain ⟨_, world⟩ := h
  exact world

theorem live (h : s.Attended stage w₀ s') : s.Live ∧ s'.Live := by
  obtain ⟨run, world⟩ := h
  obtain ⟨kept, kept'⟩ := world.kept
  obtain ⟨fresh, fresh'⟩ := world.fresh
  obtain ⟨_, _, _, _, _, _, _, _, _, running, running'⟩ := run
  rw [Signals.isStopped, ← kept] at running
  rw [Signals.isStopped, ← kept'] at running'
  exact ⟨⟨running, fresh⟩, ⟨running', fresh'⟩⟩

theorem onWorld (h : s.Attended stage w₀ s') {w w' : World σ} (hw : World.Attended w₀ w w') :
    State.Attended stage w₀ { s with world := w } { s' with world := w' } :=
  ⟨h.run, hw⟩

theorem blind : Blind stage (State.Attended stage w₀) where
  row := by
    rintro _ _ ⟨⟨⟩, _⟩
    rfl
  step := by
    rintro _ _ ⟨⟨⟩, _⟩
    rfl
  remaining := by
    rintro _ _ ⟨⟨⟩, _⟩
    rfl
  assigned := by
    rintro _ _ row ⟨⟨own, advice, inherited, signal, bare, unadvised, ho, ha, hi, hr, hr'⟩, world⟩
    exact ⟨.intro _ own advice inherited signal ⟨bare.case, bare.inherited⟩ unadvised ho ha hi hr
      hr', world⟩
  driver := by
    rintro s s' h
    have session : s'.run.session = s.run.session := by
      obtain ⟨⟨⟩, _⟩ := h
      rfl
    have driven := h.world.driver stage s.run.session
    rw [session]
    exact ⟨driven.1, h.onWorld driven.2⟩
  performed := by
    rintro s s' d c h
    have performed := h.world.perform stage d c
    exact ⟨performed.1, h.onWorld performed.2⟩
  elapsed := fun ms h => h.onWorld (h.world.elapse stage ms)

end State.Attended

/-- Two acts that do the same unless the first is too deep, one in a run and the other in the
same run under passing advice. -/
def Matched (stage : Stage σ) (w₀ : World σ) (a a' : Act σ ε α) : Prop :=
  ∀ s s', s.Attended stage w₀ s' →
    Both a a' s s' fun r t r' t' => Sunk r ∨ r' = r ∧ t.Attended stage w₀ t'

namespace Attended
open State

variable {w₀ : World σ}

section Rules
variable {s s' : State σ}

theorem matched_of_respects {a : Act σ ε α} (h : Respects (State.Attended stage w₀) a) :
    Matched stage w₀ a a := fun s s' attended => .inr (h s s' attended)

theorem matched_pure (x : α) : Matched stage w₀ (pure x : Act σ ε α) (pure x) :=
  matched_of_respects (respects_pure x)

theorem matched_throw (e : ε) : Matched stage w₀ (throw e : Act σ ε α) (throw e) :=
  matched_of_respects (respects_throw e)

theorem matched_bind {a a' : Act σ ε α} {f f' : α → Act σ ε β} (ha : Matched stage w₀ a a')
    (hf : ∀ x, Matched stage w₀ (f x) (f' x)) : Matched stage w₀ (a >>= f) (a' >>= f') := by
  intro s s' h
  refine both_bind (ha s s' h) ?_
  rintro _ t r t' (⟨e, rfl, deep⟩ | ⟨rfl, h'⟩)
  · exact .inl ⟨e, rfl, deep⟩
  · cases r with
    | ok x => exact hf x t t' h'
    | error e => exact .inr ⟨rfl, h'⟩

theorem matched_attempt {δ : Type} [Sinks δ] {a a' : Act σ ε α} {f f' : Except ε α → Act σ δ β}
    (ha : Matched stage w₀ a a') (hf : ∀ r, Matched stage w₀ (f r) (f' r))
    (sinks : ∀ e t, Sinks.deep e → Ends (f (.error e)) t fun r _ => Sunk r) :
    Matched stage w₀ (outcome a >>= f) (outcome a' >>= f') := by
  intro s s' h
  have tried : Both (outcome a : Act σ δ _) (outcome a' : Act σ δ _) s s' fun r t r' t' =>
      ∃ x x', r = .ok x ∧ r' = .ok x' ∧ (Sunk x ∨ x' = x ∧ t.Attended stage w₀ t') :=
    ⟨_, _, rfl, rfl, ha s s' h⟩
  refine both_bind tried ?_
  rintro _ t _ t' ⟨_, r, rfl, rfl, ⟨e, rfl, deep⟩ | ⟨rfl, h'⟩⟩
  · exact .inl (sinks e t deep)
  · exact hf r t t' h'

theorem matched_getRun {f f' : Run → Act σ ε α}
    (hf : ∀ r r', r.Attended stage w₀ r' → Matched stage w₀ (f r) (f' r')) :
    Matched stage w₀ (getRun >>= f) (getRun >>= f') :=
  fun s s' h => hf s.run s'.run h.run s s' h

theorem attended_cursor {r r' : Run} (h : r.Attended stage w₀ r') (g : Cursor → Cursor) :
    Run.Attended stage w₀ { r with cursor := g r.cursor } { r' with cursor := g r'.cursor } := by
  obtain ⟨own, advice, inherited, signal, bare, unadvised, ho, ha, hi, hr, hr'⟩ := h
  exact .intro _ own advice inherited signal ⟨bare.case, bare.inherited⟩ unadvised ho ha hi hr hr'

theorem matched_cursor (g : Cursor → Cursor) :
    Matched stage w₀ (modifyRun fun r => { r with cursor := g r.cursor } : Act σ ε Unit)
      (modifyRun fun r => { r with cursor := g r.cursor }) :=
  fun _ _ h => .inr ⟨rfl, attended_cursor h.run g, h.world⟩

theorem matched_record {e : TraceEntry} (he : e.outside = true) :
    Matched stage w₀ (modifyWorld fun w => w.record e : Act σ ε Unit)
      (modifyWorld fun w => w.record e) :=
  fun _ _ h => .inr ⟨rfl, h.onWorld (h.world.record he)⟩

theorem matched_emit (unwatched : stage.watch = none) (e : Event) :
    Matched stage w₀ (Act.emit stage e : Act σ ε Unit) (Act.emit stage e) :=
  fun _ _ h => .inr ⟨rfl, h.onWorld (h.world.emit unwatched e)⟩

theorem isStopped_attended (s s' : State σ) (h : s.Attended stage w₀ s') :
    s'.isStopped = s.isStopped := by
  obtain ⟨live, live'⟩ := h.live
  rw [State.isStopped, State.isStopped, live.running, live'.running]
  obtain ⟨⟨⟩, _⟩ := h
  rfl

theorem matched_isStopped : Matched stage w₀ (isStopped : Act σ ε Bool) isStopped :=
  matched_of_respects (Agrees.respects_isStopped isStopped_attended)

theorem attended_allowed {t' : State σ} (h : s.Attended stage w₀ s') (h' : Allowed s' t') :
    s.Attended stage w₀ t' := by
  obtain ⟨run, world⟩ := h
  obtain ⟨w', r'⟩ := t'
  obtain ⟨same, n, l, hn, asides, hw⟩ := h'
  dsimp only at same hw
  subst same hw
  obtain ⟨next, trace, kept, fresh, fresh', filled⟩ := world
  refine ⟨run, .intro _ n (l ++ trace) kept fresh (fun m hm => ?_) (filled.advice asides)⟩
  exact Nat.lt_of_lt_of_le (fresh' m hm) hn

end Rules

section Kinds
variable {block block' : Nat → Act σ Problem Bool}
  (hblock : ∀ n, Matched stage w₀ (block n) (block' n))
include hblock

theorem matched_rounds (size left i : Nat) (success : Bool) :
    Matched stage w₀ (Action.rounds block size left i success)
      (Action.rounds block' size left i success) := by
  induction left generalizing i success with
  | zero => exact matched_pure success
  | succ left ih =>
    simp only [Action.rounds]
    refine matched_bind matched_isStopped fun stopped => ?_
    split
    · exact matched_pure success
    · refine matched_bind (matched_record rfl) fun _ => ?_
      refine matched_bind (matched_of_respects (Attended.blind.respects_assign _ _)) fun _ => ?_
      exact matched_bind (hblock size) fun b => ih _ _

theorem matched_action (k : Step.Kind) :
    Matched stage w₀ (Action.perform stage block k) (Action.perform stage block' k) := by
  have blind : Blind stage (State.Attended stage w₀) := Attended.blind
  cases k with
  | loop =>
    refine matched_bind (matched_of_respects (blind.respects_text _)) fun m => ?_
    refine matched_bind (matched_of_respects (Agrees.respects_number m)) fun count => ?_
    refine matched_bind (matched_of_respects blind.respects_currentStep) fun p => ?_
    refine matched_getRun fun r r' attended => ?_
    obtain ⟨⟩ := attended
    exact matched_rounds hblock _ _ _ _
  | branch =>
    refine matched_bind (matched_of_respects (blind.respects_rawText _)) fun condition => ?_
    refine matched_bind (matched_of_respects blind.respects_currentStep) fun p => ?_
    refine matched_getRun fun r r' attended => ?_
    obtain ⟨⟩ := attended
    dsimp only
    split
    · exact hblock _
    · exact matched_pure true
  | reading m g =>
    cases m with
    | waitFor => exact matched_of_respects (blind.respects_waitFor isStopped_attended g)
    | _ => exact matched_of_respects (blind.respects_steady rfl rfl)
  | _ => exact matched_of_respects (blind.respects_steady rfl rfl)

end Kinds

section Advice
variable {inner inner' : Inner σ} (unwatched : stage.watch = none) (depth : Nat) {l : Aspect}
  (passing : l.Passing) (p : Step) (label : String)

include unwatched in
theorem matched_failed :
    Matched stage w₀ (failed stage inner [] p label) (failed stage inner' [] p label) := by
  simp only [failed, adviseEvery]
  refine matched_bind (matched_emit unwatched _) fun _ => ?_
  refine matched_attempt (matched_pure true) (fun r => ?_) fun f t deep => ⟨f, rfl, deep⟩
  refine matched_bind (matched_emit unwatched _) fun _ => ?_
  cases r with
  | error f => exact matched_throw f
  | ok b =>
    dsimp only
    split
    · exact matched_pure false
    · exact matched_throw _

include passing

theorem failed_passing :
    failed stage inner l p label = failed stage inner [] p label := by
  simp only [failed, Passing.adviseEvery_failure p passing]
  rfl

theorem raised_passing (f : Fault) :
    raised stage inner l p f = raised stage inner [] p f := by
  simp only [raised, Passing.adviseEvery_failure p passing]
  rfl

include unwatched

theorem matched_adviseAll (k : AdviceKind) :
    Matched stage w₀ (adviseAll stage inner k p [])
      (adviseAll stage (innerAt stage (depth + 1)) k p l) := by
  intro s s' h
  show Ends (adviseAll stage (innerAt stage (depth + 1)) k p l) s' fun r t =>
    Sunk (.ok true : Except Fault Bool) ∨ r = .ok true ∧ s.Attended stage w₀ t
  refine ends_mono (Passing.adviseAll_passes unwatched depth p passing h.live.2 k) ?_
  rintro _ t' ⟨rfl, allowed⟩
  exact .inr ⟨rfl, attended_allowed h allowed⟩

theorem matched_succeeded :
    Matched stage w₀ (succeeded stage inner [] p label)
      (succeeded stage (innerAt stage (depth + 1)) l p label) := by
  simp only [succeeded, failed_passing passing]
  have answered : ∀ c, Matched stage w₀
      (if c = true then do Act.emit stage .ended; pure true
        else failed stage inner [] p label)
      (if c = true then do Act.emit stage .ended; pure true
        else failed stage (innerAt stage (depth + 1)) [] p label) := by
    intro c
    cases c with
    | true => exact matched_bind (matched_emit unwatched _) fun _ => matched_pure true
    | false => exact matched_failed unwatched p label
  split
  · exact matched_bind (matched_adviseAll unwatched depth passing p .after) answered
  · exact matched_bind (matched_pure true) answered

theorem matched_raised (f : Fault) :
    Matched stage w₀ (raised stage inner [] p f) (raised stage inner' l p f) := by
  rw [raised_passing passing]
  simp only [raised, adviseEvery]
  refine matched_bind (matched_emit unwatched _) fun _ => ?_
  refine matched_bind (fun _ _ h => .inr ⟨rfl, h⟩) fun _ => ?_
  exact matched_bind (matched_emit unwatched _) fun _ => matched_throw f

theorem matched_judge (r : Except Problem Bool) :
    Matched stage w₀ (judge stage inner [] p label r)
      (judge stage (innerAt stage (depth + 1)) l p label r) := by
  rcases r with (f | f | t) | c
  · exact matched_bind (matched_emit unwatched _) fun _ => matched_throw f
  · exact matched_raised unwatched passing p f
  · exact matched_raised unwatched passing p _
  · simp only [judge]
    split
    · exact matched_succeeded unwatched depth passing p label
    · rw [failed_passing passing]
      exact matched_failed unwatched p label

end Advice

section Steps
variable {inner : Inner σ} (unwatched : stage.watch = none) (depth : Nat)
include unwatched

section Step
variable {block block' : Nat → Act σ Problem Bool}
  (hblock : ∀ n, Matched stage w₀ (block n) (block' n))
include hblock

theorem matched_executeStep (p : Step) :
    Matched stage w₀ (executeStep stage inner block p)
      (executeStep stage (innerAt stage (depth + 1)) block' p) := by
  refine matched_getRun fun r r' attended => ?_
  obtain ⟨own, advice, inherited, signal, bare, unadvised, ho, ha, hi, _, _⟩ := attended
  have none : r.aspect.advice p r.row = [] := by
    rw [unadvised]
    rfl
  have passing := ha.advice p r.row
  dsimp only
  rw [none]
  by_cases skipped : p.isSkipped r.row = true
  · rw [if_pos skipped, if_pos skipped]
    exact matched_pure _
  · rw [if_neg skipped, if_neg skipped]
    refine matched_bind (matched_adviseAll unwatched depth passing p .before) fun c => ?_
    cases c with
    | false => exact matched_pure _
    | true =>
      refine matched_getRun fun q q' attended => ?_
      obtain ⟨⟩ := attended
      refine matched_bind (matched_emit unwatched _) fun _ => ?_
      refine matched_attempt (matched_action hblock p.kind) (fun r => ?_) fun e t deep => ?_
      · exact matched_bind (matched_judge unwatched depth passing p _ r) fun _ => matched_pure _
      · cases e with
        | reported f => exact ⟨f, rfl, deep⟩
        | _ => cases deep

theorem matched_executeCurrent :
    Matched stage w₀ (executeCurrent stage inner block)
      (executeCurrent stage (innerAt stage (depth + 1)) block') := by
  refine matched_getRun fun r r' attended => ?_
  obtain ⟨row, step, cursor, includes⟩ : r'.row = r.row ∧ r'.step? = r.step? ∧
      r'.cursor = r.cursor ∧ ∀ p row, r'.case.includes p row = r.case.includes p row := by
    obtain ⟨⟩ := attended
    exact ⟨rfl, rfl, rfl, fun _ _ => rfl⟩
  rw [step, cursor, row]
  cases r.step? with
  | none => exact matched_pure _
  | some p =>
    refine matched_bind (matched_record rfl) fun _ => ?_
    rw [includes]
    split
    · exact matched_executeStep unwatched depth hblock p
    · exact matched_pure _

theorem matched_walk (origin last steps index : Nat) (success : Bool) :
    Matched stage w₀ (walk stage inner block origin last steps index success)
      (walk stage (innerAt stage (depth + 1)) block' origin last steps index success) := by
  have move : ∀ i, Matched stage w₀ (moveTo i : Act σ Problem Unit) (moveTo i) :=
    fun i => matched_cursor fun c => c.moveTo i
  induction steps generalizing index success with
  | zero => exact matched_bind (move _) fun _ => matched_pure _
  | succ steps ih =>
    simp only [walk]
    refine matched_bind matched_isStopped fun stopped => ?_
    split
    · exact matched_bind (move _) fun _ => matched_pure _
    · refine matched_bind (move _) fun _ => ?_
      refine matched_attempt (matched_executeCurrent unwatched depth hblock) (fun r => ?_)
        fun f t deep => ⟨.reported f, rfl, deep⟩
      cases r with
      | ok o => exact ih _ _
      | error f => exact matched_bind (move _) fun _ => matched_throw _

end Step

theorem matched_blockAt (levels count : Nat) :
    Matched stage w₀ (blockAt stage inner levels count)
      (blockAt stage (innerAt stage (depth + 1)) levels count) := by
  induction levels generalizing count with
  | zero => exact matched_pure true
  | succ levels ih =>
    refine matched_getRun fun r r' attended => ?_
    obtain ⟨⟩ := attended
    dsimp only
    split
    · exact matched_of_respects (Agrees.respects_trouble _)
    · exact matched_walk unwatched depth ih _ _ _ _ _

theorem matched_block (count : Nat) :
    Matched stage w₀ (block stage inner count)
      (block stage (innerAt stage (depth + 1)) count) := by
  refine matched_getRun fun r r' attended => ?_
  obtain ⟨⟩ := attended
  exact matched_blockAt unwatched depth _ _

theorem matched_next :
    Matched stage w₀ (next stage inner) (next stage (innerAt stage (depth + 1))) := by
  refine matched_bind (matched_cursor Cursor.startStep) fun _ => ?_
  refine matched_bind (matched_executeCurrent unwatched depth (matched_block unwatched depth))
    fun o => ?_
  exact matched_bind (matched_cursor fun c => c.forward (o.consumed - 1)) fun _ => matched_pure _

omit unwatched in
theorem matched_hasNext : Matched stage w₀ (hasNext : Act σ ε Bool) hasNext := by
  intro s s' h
  have alive : ∀ {t : State σ}, t.Live → ¬ Ceasing.Over t := by
    intro t live
    rw [Ceasing.Over, live.running]
    exact Bool.false_ne_true
  obtain ⟨live, live'⟩ := h.live
  refine (Blame.hasNext_iff (alive live) _).2 ((Blame.hasNext_iff (alive live') _).2 ?_)
  refine .inr ⟨?_, h⟩
  obtain ⟨⟨⟩, _⟩ := h
  rfl

/-- All steps that are left do the same. -/
theorem matched_steps (left : Nat) (success : Bool) :
    Matched stage w₀ (steps stage inner left success)
      (steps stage (innerAt stage (depth + 1)) left success) := by
  induction left generalizing success with
  | zero => exact matched_pure success
  | succ left ih =>
    refine matched_bind matched_hasNext fun more => ?_
    cases more with
    | true => exact matched_bind (matched_next unwatched depth) fun _ => ih _
    | false => exact matched_pure success

end Steps

end Attended

end Scenario

import Scenario.Proofs.StopFailures

/-!
# Advice that lets every step pass

An advice case of echo and store steps that have their parameters and are not
negated cannot refuse a step. Unless it was stopped its run succeeds, and all
that is left of it is what it put on record.
-/

set_option autoImplicit false

namespace Scenario
open Scenario.Act Scenario.Execution

variable {σ : Type} {stage : Stage σ} {inner : Inner σ} {block : Nat → Act σ Problem Bool}

namespace Execution
variable {p : Step} {label : String}

theorem failed_iff (t : State σ) (Q : Except Fault Bool → State σ → Prop) :
    Ends (failed stage inner [] p label) t Q ↔
      Q (if p.kind.goesOn then .ok false else .error (.verification (label ++ " failed")))
        ((t.emit stage (.failure (label ++ " failed"))).emit stage .ended) := by
  simp only [failed, Act.emit, ends_bind, ends_modifyWorld, ends_outcome]
  cases h : p.kind.goesOn <;> rfl

theorem succeeded_iff (t : State σ) (Q : Except Fault Bool → State σ → Prop) :
    Ends (succeeded stage inner [] p label) t Q ↔ Q (.ok true) (t.emit stage .ended) := by
  simp only [succeeded]
  split <;> rfl

theorem executeStep_unadvised {s : State σ} (unadvised : s.run.aspect = [])
    (Q : Except Fault Outcome → State σ → Prop) :
    Ends (executeStep stage inner block p) s Q ↔
      if p.isSkipped s.run.row then Q (.ok ⟨true, Action.consumed s.run p⟩) s
      else Ends (Action.perform stage block p.kind) (s.emit stage (.started (p.label s.run.row)))
        fun r t => Ends (judge stage inner [] p (p.label s.run.row) r) t fun r' u =>
          Q (r'.map fun c => ⟨c, Action.consumed s.run p⟩) u := by
  have none : s.run.aspect.advice p s.run.row = [] := by
    rw [unadvised]
    rfl
  rw [Blame.executeStep_iff, none]
  generalize Action.consumed s.run p = n
  split
  · rfl
  · simp only [adviseAll, ends_bind, ends_pure, if_true, Blame.carry, ends_getRun, Act.emit,
      ends_modifyWorld, ends_outcome]
    refine iff_of_eq (congrArg (Ends _ _) (funext fun r => funext fun t => ?_))
    refine congrArg (Ends _ t) (funext fun r' => funext fun u => ?_)
    cases r' <;> rfl

end Execution

/-- An echo or a store step that has its parameters and is not negated. -/
structure Step.Passing (p : Step) : Prop where
  affirmed : p.negated = false
  text : ∃ m, p.text? "text" = some m
  kind : p.kind = .echo ∨ p.kind = .store ∧ ∃ m, p.text? "variable" = some m

/-- A case of such steps with neither advice nor a chain. -/
structure Case.Passing (c : Case) : Prop where
  aspect : c.aspect = []
  chain : c.chain = []
  steps : ∀ p ∈ c.steps, p.Passing

/-- Advice before and after steps by such cases, for any steps. -/
inductive Interceptor.Passing : Interceptor Case → Prop
  | intro {q : Option Pointcut} {b a : Option Case} {t : Bool} (before : ∀ c ∈ b, c.Passing)
      (after : ∀ c ∈ a, c.Passing) : Passing (.script q b a none t)

namespace Aspect

def Passing (a : Aspect) : Prop := ∀ i ∈ a, i.Passing

theorem passing_nil : Passing [] := by simp [Passing]

theorem Passing.append {a b : Aspect} (h : a.Passing) (h' : b.Passing) : Passing (a ++ b) :=
  List.forall_mem_append.2 ⟨h, h'⟩

theorem Passing.freeze {a : Aspect} (h : a.Passing) (row : Row) : (a.freeze row).Passing := by
  intro i hi
  obtain ⟨j, hj, rfl⟩ := List.mem_map.1 hi
  obtain ⟨before, after⟩ := h j hj
  exact ⟨before, after⟩

theorem Passing.inherited {a : Aspect} (h : a.Passing) : a.inherited.Passing :=
  fun i hi => h i (List.mem_filter.1 hi).1

theorem Passing.advice {a : Aspect} (h : a.Passing) (p : Step) (row : Row) :
    Passing (a.advice p row) :=
  fun i hi => h i (List.mem_filter.1 hi).1

end Aspect

def TraceEntry.aside : TraceEntry → Bool
  | .event (.failure _) => false
  | .event (.error _) => false
  | .event _ => true
  | .turned _ => true
  | _ => false

namespace State

/-- A run that was not stopped, where no signal was that is yet to be given out. -/
structure Live (s : State σ) : Prop where
  running : s.world.signals.isStopped s.run.signal = false
  fresh : ∀ m ∈ s.world.signals.stopped, m < s.world.signals.next

theorem isStopped_child {signals : Signals} {g : Signal} {n : Nat}
    (running : signals.isStopped g = false) (fresh : ∀ m ∈ signals.stopped, m < n) :
    signals.isStopped ⟨n, g.mark :: g.ancestors⟩ = false := by
  have mark : n ∉ signals.stopped := fun hm => Nat.lt_irrefl n (fresh n hm)
  rw [Signals.isStopped] at running ⊢
  rw [List.any_cons, running, Bool.or_false]
  simpa using mark

structure Passing (s : State σ) : Prop where
  steps : ∀ p ∈ s.run.case.steps, p.Passing
  unadvised : s.run.aspect = []
  borrows : s.run.ownsSession = false
  unchained : s.run.cursor.pending = false
  running : s.run.cursor.stopped = false
  still : s.world.signals.isStopped s.run.signal = false

structure Aside (s t : State σ) : Prop where
  passing : t.Passing
  world : ∃ l, (∀ e ∈ l, e.aside = true) ∧ t.world = { s.world with trace := l ++ s.world.trace }

section Aside
variable {s t u : State σ}

theorem Passing.isStopped (h : s.Passing) : s.isStopped = false := by
  rw [State.isStopped, h.running, h.still]
  rfl

theorem Passing.alive (h : s.Passing) : ¬ Ceasing.Over s := by
  rw [Ceasing.Over, h.still]
  exact Bool.false_ne_true

theorem Aside.trans (h : Aside s t) (h' : Aside t u) : Aside s u := by
  obtain ⟨l, hl, tw⟩ := h.world
  obtain ⟨l', hl', uw⟩ := h'.world
  refine ⟨h'.passing, l' ++ l, List.forall_mem_append.2 ⟨hl', hl⟩, ?_⟩
  rw [uw, tw, List.append_assoc]

theorem aside_record (h : s.Passing) {e : TraceEntry} (he : e.aside = true) :
    Aside s (s.record e) :=
  ⟨⟨h.steps, h.unadvised, h.borrows, h.unchained, h.running, h.still⟩, [e], by simpa using he, rfl⟩

theorem aside_emit (unwatched : stage.watch = none) (h : s.Passing) {e : Event}
    (he : (TraceEntry.event e).aside = true) : Aside s (s.emit stage e) := by
  have told : s.emit stage e = s.record (.event e) := by
    simp only [State.emit, World.emit, unwatched]
    rfl
  rw [told]
  exact aside_record h he

theorem aside_row (h : s.Passing) (row : Row) :
    Aside s { s with run := { s.run with row } } :=
  ⟨⟨h.steps, h.unadvised, h.borrows, h.unchained, h.running, h.still⟩, [], by simp, rfl⟩

theorem aside_standing (h : s.Passing) (i : Int) : Aside s (s.standing i) :=
  ⟨⟨h.steps, h.unadvised, h.borrows, h.unchained, h.running, h.still⟩, [], by simp, rfl⟩

theorem aside_released (h : s.Passing) : Aside s (s.released stage) := by
  have kept : (s.released stage).world = s.world := by
    rw [State.released, h.borrows]
    rfl
  refine ⟨⟨h.steps, h.unadvised, h.borrows, h.unchained, h.running, ?_⟩, [], by simp, ?_⟩
  · rw [kept]
    exact h.still
  · rw [kept]
    rfl

theorem aside_refl (h : s.Passing) : Aside s s := ⟨h, [], by simp, rfl⟩

end Aside

end State

namespace Passing
open State

section Steps
variable {s : State σ} {p : Step}

theorem action_passes (passing : p.Passing) (h : s.Passing) (here : s.run.step? = some p) :
    Ends (Action.perform stage block p.kind) s fun r t => r = .ok true ∧ Aside s t := by
  obtain ⟨m, text⟩ := passing.text
  rcases passing.kind with echo | ⟨store, n, name⟩
  · simp only [echo, Action.perform, Act.text, Act.rawText, Act.currentStep, ends_bind,
      ends_getRun, here, text, ends_pure]
    exact ⟨trivial, aside_refl h⟩
  · simp only [store, Action.perform, Act.text, Act.evaluatedText, Act.rawText, Act.currentStep,
      Act.assign, ends_bind, ends_getRun, here, text, name, ends_pure, ends_modifyRun]
    exact ⟨trivial, aside_row h _⟩

variable (unwatched : stage.watch = none)
include unwatched

theorem executeStep_passes (passing : p.Passing) (h : s.Passing) (here : s.run.step? = some p) :
    Ends (executeStep stage inner block p) s fun r t =>
      (∃ n, r = .ok ⟨true, n⟩) ∧ Aside s t := by
  rw [executeStep_unadvised h.unadvised]
  split
  · exact ⟨⟨_, rfl⟩, aside_refl h⟩
  · have started : Aside s (s.emit stage (.started (p.label s.run.row))) :=
      aside_emit unwatched h rfl
    refine ends_mono (action_passes passing started.passing here) ?_
    rintro _ t ⟨rfl, went⟩
    simp only [judge, passing.affirmed, Bool.bne_false, if_true]
    rw [succeeded_iff]
    exact ⟨⟨_, rfl⟩, (started.trans went).trans (aside_emit unwatched went.passing rfl)⟩

theorem executeCurrent_passes (h : s.Passing) :
    Ends (executeCurrent stage inner block) s fun r t =>
      (∃ n, r = .ok ⟨true, n⟩) ∧ Aside s t := by
  rw [Blame.executeCurrent_iff]
  cases here : s.run.step? with
  | none => exact ⟨⟨_, rfl⟩, aside_refl h⟩
  | some p =>
    have turned : Aside s (s.record (.turned (s.run.cursor.current?.getD 0))) :=
      aside_record h rfl
    have member : p ∈ s.run.case.steps := by
      obtain ⟨i, _, hi⟩ := Option.bind_eq_some_iff.1 here
      exact List.mem_of_getElem? hi
    dsimp only
    split
    · refine ends_mono (executeStep_passes unwatched (h.steps p member) turned.passing here) ?_
      exact fun r t ⟨passes, went⟩ => ⟨passes, turned.trans went⟩
    · exact ⟨⟨_, rfl⟩, turned⟩

theorem next_passes (h : s.Passing) :
    Ends (next stage inner) s fun r t => r = .ok true ∧ Aside s t := by
  have stood : Aside s (s.standing s.run.cursor.startStep.index) := aside_standing h _
  rw [Blame.next_iff, ends_bind]
  refine ends_mono (executeCurrent_passes unwatched stood.passing) ?_
  rintro _ t ⟨⟨n, rfl⟩, went⟩
  exact ⟨rfl, (stood.trans went).trans (aside_standing went.passing _)⟩

theorem steps_passes (left : Nat) (h : s.Passing) :
    Ends (steps stage inner left true) s fun r t => r = .ok true ∧ Aside s t := by
  induction left generalizing s with
  | zero => exact ⟨rfl, aside_refl h⟩
  | succ left ih =>
    rw [Blame.steps_iff inner h.alive]
    split
    · rw [ends_bind]
      refine ends_mono (next_passes unwatched h) ?_
      rintro _ t ⟨rfl, went⟩
      exact ends_mono (ih went.passing) fun _ _ ⟨passes, rest⟩ => ⟨passes, went.trans rest⟩
    · exact ⟨rfl, aside_refl h⟩

end Steps

/-- The run of a passing case succeeds. -/
theorem finish_passes (unwatched : stage.watch = none) {s : State σ} (h : s.Passing) :
    Ends (finishWith stage inner) s fun r t => r = .ok true ∧ Aside s t := by
  have prepared : Aside s (s.prepared stage) := by
    refine ⟨⟨h.steps, ?_, h.borrows, h.unchained, h.running, h.still⟩, [], by simp, rfl⟩
    rw [State.prepared, h.unadvised]
    rfl
  have begun := prepared.trans (aside_emit unwatched prepared.passing
    (e := .opened (s.prepared stage).run.name (s.prepared stage).run.case.script
      (s.prepared stage).run.row) rfl)
  rw [Course.finishWith_iff]
  refine ends_mono (steps_passes unwatched _ begun.passing) ?_
  rintro _ t ⟨rfl, went⟩
  have closed := (begun.trans went).trans
    (aside_emit unwatched went.passing (e := .closed) rfl)
  generalize hc : t.emit stage .closed = c at closed
  have running : (c.released stage).isStopped = false :=
    (isStopped_released stage c).trans closed.passing.isStopped
  dsimp only
  rw [Course.endRun_iff, Cursor.needsChain, went.passing.unchained, Bool.false_and,
    if_neg Bool.false_ne_true, hc, State.ended, running, if_neg Bool.false_ne_true]
  exact ⟨rfl, closed.trans (aside_released closed.passing)⟩

end Passing

namespace TraceEntry

def isCall : TraceEntry → Bool
  | .launch _ => true
  | .command _ _ => true
  | _ => false

/-- How many advice cases are running after an entry, and what is on record outside of them. -/
def skim (e : TraceEntry) (st : Nat × List TraceEntry) : Nat × List TraceEntry :=
  match e with
  | .adviceBegun _ => (st.1 + 1, st.2)
  | .advised false _ _ => (st.1 - 1, st.2)
  | .adviceRaised false _ _ => (st.1 - 1, st.2)
  | e => if st.1 = 0 then (0, e :: st.2) else st

theorem skim_aside {e : TraceEntry} (he : e.aside = true) (n : Nat) (kept : List TraceEntry) :
    e.skim (n + 1, kept) = (n + 1, kept) := by
  cases e with
  | event _ => rfl
  | turned _ => rfl
  | _ => cases he

theorem isCall_aside {e : TraceEntry} (he : e.aside = true) : e.isCall = false := by
  cases e with
  | event _ => rfl
  | turned _ => rfl
  | _ => cases he

end TraceEntry

/-- A record from which advice cases and all that happened in them are deleted. -/
def unadvised (l : List TraceEntry) : List TraceEntry := (l.foldr TraceEntry.skim (0, [])).2

structure Asides (l : List TraceEntry) : Prop where
  skimmed : ∀ kept, l.foldr TraceEntry.skim (0, kept) = (0, kept)
  uncalled : l.filter TraceEntry.isCall = []

section Asides
variable {l l' : List TraceEntry}

theorem asides_nil : Asides [] := ⟨fun _ => rfl, rfl⟩

theorem Asides.append (h : Asides l) (h' : Asides l') : Asides (l' ++ l) where
  skimmed := by
    intro kept
    rw [List.foldr_append, h.skimmed, h'.skimmed]
  uncalled := by rw [List.filter_append, h.uncalled, h'.uncalled, List.append_nil]

theorem asides_case (hl : ∀ e ∈ l, e.aside = true) (k : AdviceKind) (b : Bool) :
    Asides (.advised false k b :: (l ++ [.adviceBegun k])) where
  skimmed := by
    intro kept
    have within : l.foldr TraceEntry.skim (1, kept) = (1, kept) := by
      induction l with
      | nil => rfl
      | cons e l ih =>
        rw [List.foldr_cons, ih fun f hf => hl f (by simp [hf])]
        exact TraceEntry.skim_aside (hl e (by simp)) 0 kept
    rw [List.foldr_cons, List.foldr_append]
    show TraceEntry.skim _ (l.foldr TraceEntry.skim (1, kept)) = (0, kept)
    rw [within]
    rfl
  uncalled := by
    have within : l.filter TraceEntry.isCall = [] :=
      List.filter_eq_nil_iff.2 fun e he => by simp [TraceEntry.isCall_aside (hl e he)]
    simp [within, TraceEntry.isCall]

end Asides

namespace State

structure Allowed (s t : State σ) : Prop where
  run : t.run = s.run
  world : ∃ n l, s.world.signals.next ≤ n ∧ Asides l ∧ t.world =
    { s.world with signals := ⟨n, s.world.signals.stopped⟩, trace := l ++ s.world.trace }

theorem allowed_refl (s : State σ) : Allowed s s :=
  ⟨rfl, s.world.signals.next, [], Nat.le_refl _, asides_nil, rfl⟩

theorem Allowed.trans {s t u : State σ} (h : Allowed s t) (h' : Allowed t u) : Allowed s u := by
  obtain ⟨n, l, hn, hl, tw⟩ := h.world
  obtain ⟨n', l', hn', hl', uw⟩ := h'.world
  rw [tw] at hn'
  refine ⟨h'.run.trans h.run, n', l' ++ l, Nat.le_trans hn hn', hl.append hl', ?_⟩
  rw [uw, tw, List.append_assoc]

theorem Allowed.live {s t : State σ} (h : Allowed s t) (live : s.Live) : t.Live := by
  obtain ⟨n, l, hn, _, tw⟩ := h.world
  refine ⟨?_, ?_⟩
  · rw [h.run, tw]
    exact live.running
  · rw [tw]
    exact fun m hm => Nat.lt_of_lt_of_le (live.fresh m hm) hn

end State

namespace Passing
open State

theorem passing_advice {c : Case} (passing : c.Passing) {s : State σ} (live : s.Live) (p : Step)
    (k : AdviceKind) :
    (adviceStart stage s c p k).Passing where
  steps := passing.steps
  unadvised := by
    show c.aspect ++ [] ++ [] = []
    rw [passing.aspect]
    rfl
  borrows := rfl
  unchained := by
    show (true && !c.chain.isEmpty) = false
    rw [passing.chain]
    rfl
  running := rfl
  still := isStopped_child live.running live.fresh

section Advice
variable (unwatched : stage.watch = none) (depth : Nat) (p : Step) {s : State σ}

theorem advise_failure {i : Interceptor Case} (passing : i.Passing) :
    advise stage inner .failure p i = pure true := by
  obtain ⟨_, _⟩ := passing
  rfl

theorem adviseEvery_failure {l : Aspect} (passing : l.Passing) :
    adviseEvery stage inner .failure p l true = pure true := by
  induction l with
  | nil => rfl
  | cons i l ih =>
    rw [adviseEvery, advise_failure p (passing i (by simp)), pure_bind]
    exact ih fun j hj => passing j (by simp [hj])

include unwatched

theorem case_passes {c : Case} (passing : c.Passing) (live : s.Live) (k : AdviceKind) :
    Ends (recorded false k (runAdvice stage (innerAt stage (depth + 1)) c k p)) s fun r t =>
      r = .ok true ∧ Allowed s t := by
  rw [recorded_ends, runAdvice_ends]
  refine ends_mono (finish_passes unwatched (passing_advice passing live p k)) ?_
  rintro _ v ⟨rfl, went⟩
  obtain ⟨l, hl, hw⟩ := went.world
  refine ⟨rfl, rfl, s.world.signals.next + 1, _, Nat.le_succ _, asides_case hl k true, ?_⟩
  show v.world.record _ = _
  rw [hw]
  simp only [World.record, List.cons_append, List.append_assoc]
  rfl

theorem advise_passes {i : Interceptor Case} (passing : i.Passing) (live : s.Live)
    (k : AdviceKind) :
    Ends (advise stage (innerAt stage (depth + 1)) k p i) s fun r t =>
      r = .ok true ∧ Allowed s t := by
  obtain @⟨q, b, a, t, before, after⟩ := passing
  have silent : Ends (pure true : Act σ Fault Bool) s fun r t => r = .ok true ∧ Allowed s t :=
    ⟨rfl, allowed_refl s⟩
  cases k with
  | before =>
    cases b with
    | none => exact silent
    | some c => exact case_passes unwatched depth p (before c rfl) live .before
  | after =>
    cases a with
    | none => exact silent
    | some c => exact case_passes unwatched depth p (after c rfl) live .after
  | failure => exact silent

theorem adviseAll_passes {l : Aspect} (passing : l.Passing) (live : s.Live) (k : AdviceKind) :
    Ends (adviseAll stage (innerAt stage (depth + 1)) k p l) s fun r t =>
      r = .ok true ∧ Allowed s t := by
  induction l generalizing s with
  | nil => exact ⟨rfl, allowed_refl s⟩
  | cons i l ih =>
    rw [adviseAll, ends_bind]
    refine ends_mono (advise_passes unwatched depth p (passing i (by simp)) live k) ?_
    rintro _ t ⟨rfl, first⟩
    refine ends_mono (ih (fun j hj => passing j (by simp [hj])) (first.live live)) ?_
    rintro r u ⟨rfl, rest⟩
    exact ⟨rfl, first.trans rest⟩

end Advice

end Passing

end Scenario

import Scenario.Proofs.ActEnds
import Scenario.Run.Execution

/-!
# Conduct of a run

What can be said of every run follows from what is said of its moves. A conduct
names relations between the state in which a part of a run begins and a state
that it reaches: by going on, by failing, by raising a fault. It is lawful when
the moves of a run, the advice around its steps and the events that bracket a
step respect these relations. A lawful conduct is kept by all steps of a case.
-/

set_option autoImplicit false

namespace Scenario
open Scenario.Act

variable {σ : Type}

namespace State

def emit (stage : Stage σ) (s : State σ) (e : Event) : State σ :=
  { s with world := s.world.emit stage e }

def record (s : State σ) (e : TraceEntry) : State σ := { s with world := s.world.record e }

def after (s v : State σ) : State σ := { s with world := v.world }

def standing (s : State σ) (i : Int) : State σ :=
  { s with run := { s.run with cursor := { s.run.cursor with index := i } } }

def isStopped (s : State σ) : Bool :=
  s.run.cursor.stopped || s.world.signals.isStopped s.run.signal

theorem isStopped_standing (s : State σ) (i : Int) : (s.standing i).isStopped = s.isStopped := rfl

def Serves (s : State σ) (d : Nat) : Prop :=
  s.run.session.slot < s.world.slots.length → s.world.driver? s.run.session = some d

end State

def TraceEntry.progress : TraceEntry → Bool
  | .turned _ => true
  | .round _ => true
  | _ => false

def TraceEntry.answered (byHook : Bool) (k : AdviceKind) : Except Fault Bool → TraceEntry
  | .ok b => .advised byHook k b
  | .error f => .adviceRaised byHook k f

/-- A move of a run that no listener is told of. -/
inductive Move (stage : Stage σ) (s : State σ) : State σ → Prop
  | row (row : Row) (last : row.last = s.run.row.last) :
      Move stage s { s with run := { s.run with row } }
  | stand (i : Int) : Move stage s (s.standing i)
  | notice (h : s.world.signals.isStopped s.run.signal = true) :
      Move stage s { s with run := { s.run with cursor := s.run.cursor.stop } }
  | stop (k : AdviceKind) (p : Step) : Move stage s
      ⟨(s.world.stop s.run.signal).record (.stopped s.run.signal k p),
        { s.run with cursor := s.run.cursor.stop }⟩
  | progress (e : TraceEntry) (he : e.progress = true) (running : s.isStopped = false) :
      Move stage s (s.record e)
  | hookCall (note : Option String) : Move stage s { s with world := s.world.hookCalled note }
  | elapse (ms : Nat) : Move stage s { s with world := s.world.elapse stage ms }
  | driver : Move stage s { s with world := (s.world.driver stage s.run.session).2 }
  | perform (d : Nat) (c : Command) (hd : s.Serves d) (hc : c ≠ .quit) :
      Move stage s { s with world := (s.world.perform stage d c).2 }

/-- What steps leave of a run. -/
structure Run.Kept (r r' : Run) : Prop where
  name : r'.name = r.name
  case : r'.case = r.case
  session : r'.session = r.session
  owns : r'.ownsSession = r.ownsSession
  aspect : r'.aspect = r.aspect
  inherited : r'.inherited = r.inherited
  signal : r'.signal = r.signal
  pending : r'.cursor.pending = r.cursor.pending
  aborted : r'.aborted = r.aborted
  last : r'.row.last = r.row.last

namespace Run

theorem Kept.refl (r : Run) : Kept r r := ⟨rfl, rfl, rfl, rfl, rfl, rfl, rfl, rfl, rfl, rfl⟩

theorem Kept.trans {r r' r'' : Run} (h : Kept r r') (h' : Kept r' r'') : Kept r r'' where
  name := h'.name.trans h.name
  case := h'.case.trans h.case
  session := h'.session.trans h.session
  owns := h'.owns.trans h.owns
  aspect := h'.aspect.trans h.aspect
  inherited := h'.inherited.trans h.inherited
  signal := h'.signal.trans h.signal
  pending := h'.pending.trans h.pending
  aborted := h'.aborted.trans h.aborted
  last := h'.last.trans h.last

theorem kept_move {stage : Stage σ} {s t : State σ} (h : Move stage s t) : Kept s.run t.run := by
  cases h with
  | row _ last => exact ⟨rfl, rfl, rfl, rfl, rfl, rfl, rfl, rfl, rfl, last⟩
  | _ => exact ⟨rfl, rfl, rfl, rfl, rfl, rfl, rfl, rfl, rfl, rfl⟩

end Run

namespace Interceptor
variable {C : Type}

def isHooks : Interceptor C → Bool
  | .script _ _ _ _ _ => false
  | .hooks _ _ _ _ _ => true

def cases : Interceptor C → List C
  | .script _ before after failure _ => before.toList ++ after.toList ++ failure.toList
  | .hooks _ _ _ _ _ => []

def part (k : AdviceKind) : Interceptor C → Option C
  | .script _ before after failure _ => Execution.pick k before after failure
  | .hooks _ _ _ _ _ => none

theorem mem_cases_of_part {i : Interceptor C} {k : AdviceKind} {c : C} (h : i.part k = some c) :
    c ∈ i.cases := by
  cases i with
  | script _ _ _ _ _ => cases k <;> simp_all [part, cases, Execution.pick]
  | hooks _ _ _ _ _ => cases h

end Interceptor

namespace Execution

def adviceStart (stage : Stage σ) (s : State σ) (c : Case) (p : Step) (k : AdviceKind) : State σ :=
  let (signal, w) := (s.world.record (.adviceBegun k)).childSignal s.run.signal
  let (run, w) := Run.build stage w (adviceSetup s.run signal c p k)
  ⟨w, run⟩

theorem runAdvice_ends (stage : Stage σ) (inner : Inner σ) (c : Case) (k : AdviceKind) (p : Step)
    (s : State σ) (Q : Except Fault Bool → State σ → Prop) :
    Ends (runAdvice stage inner c k p) s Q ↔
      Ends inner.finish (adviceStart stage s c p k) fun r v => Q r (s.after v) := by
  simp only [runAdvice, ends_bind, ends_getRun, ends_modifyWorld, ends_onWorld, ends_inside,
    ends_conclude]
  rfl

theorem recorded_ends (byHook : Bool) (k : AdviceKind) (a : Act σ Fault Bool) (s : State σ)
    (Q : Except Fault Bool → State σ → Prop) :
    Ends (recorded byHook k a) s Q ↔
      Ends a s fun r t => Q r (t.record (TraceEntry.answered byHook k r)) := by
  simp only [recorded, ends_bind, ends_outcome]
  refine iff_of_eq (congrArg (Ends a s) (funext fun r => funext fun t => ?_))
  cases r <;> rfl

end Execution

structure Conduct (σ : Type) where
  /-- What is true of a run before each of its parts. -/
  ready : State σ → Prop
  /-- The interceptors that may advise the run. -/
  able : Interceptor Case → Prop
  goes : State σ → State σ → Prop
  fails : State σ → State σ → Prop
  raises : Fault → State σ → State σ → Prop
  /-- How advice after a step that held may raise a fault. -/
  rejects : Fault → State σ → State σ → Prop
  /-- How advice on a step that failed may raise a fault. -/
  spoils : Fault → State σ → State σ → Prop
  /-- How a run inside the run may end as a whole. -/
  whole : Except Fault Bool → State σ → State σ → Prop

namespace Conduct
variable (C : Conduct σ)

def objects (k : AdviceKind) (f : Fault) : State σ → State σ → Prop :=
  match k with
  | .before => C.raises f
  | .after => C.rejects f
  | .failure => C.spoils f

def heard (k : AdviceKind) (s : State σ) : Except Fault Bool → State σ → Prop
  | .ok _, t => C.goes s t
  | .error f, t => C.objects k f s t

def answers (s : State σ) : Except Fault Bool → State σ → Prop
  | .ok true, t => C.goes s t
  | .ok false, t => C.fails s t
  | .error f, t => C.raises f s t

def attempts {α : Type} (s : State σ) : Except Problem α → State σ → Prop
  | .ok _, t => C.goes s t
  | .error (.reported f), t => C.raises f s t
  | .error (.fault f), t => f.isOriginal = true ∧ C.goes s t
  | .error (.trouble _), t => C.goes s t

def verdicts (s : State σ) : Except Problem Bool → State σ → Prop
  | .ok false, t => C.fails s t
  | r, t => C.attempts s r t

structure Order : Prop where
  refl : ∀ {s}, C.ready s → C.goes s s
  trans : ∀ {s t u}, C.goes s t → C.goes t u → C.goes s u
  overlook : ∀ {s t}, C.fails s t → C.goes s t
  goes_fails : ∀ {s t u}, C.goes s t → C.fails t u → C.fails s u
  fails_goes : ∀ {s t u}, C.fails s t → C.goes t u → C.fails s u
  goes_raises : ∀ {f s t u}, C.goes s t → C.raises f t u → C.raises f s u
  goes_rejects : ∀ {f s t u}, C.goes s t → C.rejects f t u → C.rejects f s u
  goes_spoils : ∀ {f s t u}, C.goes s t → C.spoils f t u → C.spoils f s u
  ready : ∀ {s t}, C.ready s → C.goes s t → C.ready t

/-- The moves of a run respect the conduct. -/
structure Mobile (stage : Stage σ) : Prop extends C.Order where
  move : ∀ {s t}, C.ready s → Move stage s t → C.goes s t
  raises_standing : ∀ {f s t} (i : Int), C.ready s → C.raises f s t → C.raises f s (t.standing i)

structure Advised (stage : Stage σ) : Prop extends C.Mobile stage where
  able : ∀ {s i}, C.ready s → i ∈ s.run.aspect → C.able i
  advice : ∀ {s i c} (p : Step) {k : AdviceKind}, C.ready s → C.able i → i.part k = some c →
    C.ready (Execution.adviceStart stage s c p k)
  hookAnswered : ∀ {s i} (k : AdviceKind) (b : Bool), C.ready s → C.able i → i.isHooks = true →
    C.goes s (s.record (.advised true k b))
  hookRaised : ∀ {s i f} (k : AdviceKind), C.ready s → C.able i → i.isHooks = true →
    C.objects k f s (s.record (.adviceRaised true k f))
  adviceDone : ∀ {s i c p k b v}, C.ready s → C.able i → i.part k = some c →
    C.whole (.ok b) (Execution.adviceStart stage s c p k) v →
    C.goes s ((s.after v).record (.advised false k b))
  adviceRaised : ∀ {s i c p k f v}, C.ready s → C.able i → i.part k = some c →
    C.whole (.error f) (Execution.adviceStart stage s c p k) v →
    C.objects k f s ((s.after v).record (.adviceRaised false k f))

structure Lawful (stage : Stage σ) : Prop extends C.Advised stage where
  told : ∀ {s} (e : Event), C.ready s → C.ready (s.emit stage e)
  passed : ∀ {s t l}, C.ready s → C.goes (s.emit stage (.started l)) t →
    C.goes s (t.emit stage .ended)
  failed : ∀ {s t u l m}, C.ready s → C.goes (s.emit stage (.started l)) t →
    C.goes (t.emit stage (.failure m)) u →
    C.fails s (u.emit stage .ended) ∧ C.raises (.verification m) s (u.emit stage .ended)
  failedRaises : ∀ {s t u l m f}, C.ready s → C.goes (s.emit stage (.started l)) t →
    C.spoils f (t.emit stage (.failure m)) u → C.raises f s (u.emit stage .ended)
  raised : ∀ {s t u l f}, C.ready s → f.isOriginal = true → C.goes (s.emit stage (.started l)) t →
    (C.goes (t.emit stage (.error f)) u ∨ ∃ g, C.spoils g (t.emit stage (.error f)) u) →
    C.raises f s (u.emit stage .ended)
  reported : ∀ {s t l f}, C.ready s → C.raises f (s.emit stage (.started l)) t →
    C.raises f s (t.emit stage .ended)
  rejected : ∀ {s t u l f}, C.ready s → C.goes (s.emit stage (.started l)) t →
    C.rejects f t u → C.raises f s u

variable {C} {stage : Stage σ} {inner : Inner σ}

theorem goes_objects (law : C.Order) {k : AdviceKind} {f : Fault} {s t u : State σ}
    (h : C.goes s t) (h' : C.objects k f t u) : C.objects k f s u := by
  cases k with
  | before => exact law.goes_raises h h'
  | after => exact law.goes_rejects h h'
  | failure => exact law.goes_spoils h h'

theorem goes_heard (law : C.Order) {k : AdviceKind} {r : Except Fault Bool} {s t u : State σ}
    (h : C.goes s t) (h' : C.heard k t r u) : C.heard k s r u := by
  cases r with
  | ok b => exact law.trans h h'
  | error f => exact goes_objects law h h'

theorem callHook_ends (law : C.Mobile stage) (h : Hook) (k : AdviceKind) (p : Step)
    {s : State σ} (hs : C.ready s) :
    Ends (Execution.callHook h k p) s fun _ t => C.goes s t := by
  simp only [Execution.callHook, ends_bind, ends_get, ends_modifyWorld, ends_modifyRun]
  generalize h ⟨s.run.name, k, p, s.run.row, s.world.hookCalls⟩ = a
  have counted := law.move hs (.hookCall a.note)
  have assigned := law.trans counted
    (law.move (law.ready hs counted) (.row (s.run.row.putAll a.assign) rfl))
  have stopped := law.trans assigned (law.move (law.ready hs assigned) (.stop k p))
  cases ha : a.stop with
  | true =>
    simp only [if_true, Act.stop, ends_bind, ends_modifyRun, ends_getRun, ends_modifyWorld,
      ends_conclude]
    exact stopped
  | false =>
    simp only [Bool.false_eq_true, if_false, ends_conclude]
    exact assigned

section Inside
variable (law : C.Advised stage)
  (hin : ∀ s, C.ready s → Ends inner.finish s fun r t => C.whole r s t)
include law hin

theorem advise_ends (k : AdviceKind) (p : Step) {i : Interceptor Case} (hi : C.able i)
    {s : State σ} (hs : C.ready s) :
    Ends (Execution.advise stage inner k p i) s fun r t => C.heard k s r t := by
  -- a part that is missing is no advice at all
  have silent : Ends (pure true : Act σ Fault Bool) s fun r t => C.heard k s r t :=
    law.refl hs
  have byCase : ∀ c, i.part k = some c →
      Ends (Execution.recorded false k (Execution.runAdvice stage inner c k p)) s
        fun r t => C.heard k s r t := by
    intro c hc
    rw [Execution.recorded_ends, Execution.runAdvice_ends]
    refine ends_mono (hin _ (law.advice p hs hi hc)) fun r v hw => ?_
    cases r with
    | ok b => exact law.adviceDone hs hi hc hw
    | error f => exact law.adviceRaised hs hi hc hw
  have byHook : ∀ h, i.isHooks = true →
      Ends (Execution.recorded true k (Execution.callHook h k p)) s
        fun r t => C.heard k s r t := by
    intro h hh
    rw [Execution.recorded_ends]
    refine ends_mono (callHook_ends law.toMobile h k p hs) fun r t hg => ?_
    cases r with
    | ok b => exact law.trans hg (law.hookAnswered k b (law.ready hs hg) hi hh)
    | error f => exact goes_objects law.toOrder hg (law.hookRaised k (law.ready hs hg) hi hh)
  cases i with
  | script q before after failure t =>
    simp only [Execution.advise]
    split
    · rename_i c hc
      exact byCase c hc
    · exact silent
  | hooks q before after failure t =>
    simp only [Execution.advise]
    split
    · exact byHook _ rfl
    · exact silent

theorem adviseAll_ends (k : AdviceKind) (p : Step) (l : List (Interceptor Case))
    (hl : ∀ i ∈ l, C.able i) {s : State σ} (hs : C.ready s) :
    Ends (Execution.adviseAll stage inner k p l) s fun r t => C.heard k s r t := by
  induction l generalizing s with
  | nil => exact law.refl hs
  | cons i l ih =>
    simp only [Execution.adviseAll]
    refine ends_seq (advise_ends law hin k p (hl i (by simp)) hs) ?_ fun _ _ h => h
    intro b t ht
    split
    · exact ends_mono (ih (fun j hj => hl j (by simp [hj])) (law.ready hs ht))
        fun r u hu => goes_heard law.toOrder ht hu
    · exact ht

theorem adviseEvery_ends (k : AdviceKind) (p : Step) (l : List (Interceptor Case))
    (hl : ∀ i ∈ l, C.able i) (b : Bool) {s : State σ} (hs : C.ready s) :
    Ends (Execution.adviseEvery stage inner k p l b) s fun r t => C.heard k s r t := by
  induction l generalizing s b with
  | nil => exact law.refl hs
  | cons i l ih =>
    simp only [Execution.adviseEvery]
    refine ends_seq (advise_ends law hin k p (hl i (by simp)) hs) ?_ fun _ _ h => h
    intro c t ht
    exact ends_mono (ih (fun j hj => hl j (by simp [hj])) _ (law.ready hs ht))
      fun r u hu => goes_heard law.toOrder ht hu

end Inside

end Conduct

end Scenario

import Scenario.Proofs.CaseDisciplines
import Scenario.Proofs.StepReads

/-!
# Runs abreast

Two worlds are of a kind where whatever happens in both leaves them so. Two runs go
abreast in such worlds when steps see the same of both and what steps change of a run
is changed in both.
-/

set_option autoImplicit false

namespace Scenario
open Scenario.Act Scenario.Execution

variable {σ ε δ α β : Type} {stage : Stage σ} {D : Discipline}

namespace World

/-- An event is told in both worlds. Where the watch goes by the same of both records, a stop
comes in both or in neither. -/
theorem emit_kept {K : World σ → World σ → Prop} {w w' : World σ} {e : Event}
    (told : K (w.record (.event e)) (w'.record (.event e)))
    (sees : ∀ watch, stage.watch = some watch →
      watch.stopsAt (w'.record (.event e)).trace = watch.stopsAt (w.record (.event e)).trace)
    (stop : ∀ {v v' : World σ}, K v v' → ∀ g, K (v.stop g) (v'.stop g)) :
    K (w.emit stage e) (w'.emit stage e) := by
  simp only [World.emit]
  cases hw : stage.watch with
  | none => exact told
  | some watch =>
    dsimp only
    rw [sees watch hw]
    split
    · exact stop told _
    · exact told

/-- A relation between worlds that is kept up by whatever happens in both. Hooks under the
discipline do not tell such worlds apart by the number of calls. -/
structure Kin (stage : Stage σ) (D : Discipline) (K : World σ → World σ → Prop) : Prop where
  signals : ∀ {w w'}, K w w' → w'.signals = w.signals
  record : ∀ {w w'} (e : TraceEntry), K w w' → K (w.record e) (w'.record e)
  emit : ∀ {w w'} (e : Event), K w w' → K (w.emit stage e) (w'.emit stage e)
  stop : ∀ {w w'} (g : Signal), K w w' → K (w.stop g) (w'.stop g)
  newSession : ∀ {w w'}, K w w' →
    w'.newSession.1 = w.newSession.1 ∧ K w.newSession.2 w'.newSession.2
  childSignal : ∀ {w w'} (g : Signal), K w w' →
    (w'.childSignal g).1 = (w.childSignal g).1 ∧ K (w.childSignal g).2 (w'.childSignal g).2
  hookCalled : ∀ {w w'} (note : Option String), K w w' → K (w.hookCalled note) (w'.hookCalled note)
  answers : ∀ {w w'} {p : Pointcut} {b a f : Option Hook} {t : Bool} {k : AdviceKind} {h : Hook},
    K w w' → D.able (.hooks p b a f t) → pick k b a f = some h → ∀ call : HookCall,
      h { call with earlier := w'.hookCalls } = h { call with earlier := w.hookCalls }
  driver : ∀ {w w'} (g : Session), K w w' →
    (w'.driver stage g).1 = (w.driver stage g).1 ∧ K (w.driver stage g).2 (w'.driver stage g).2
  perform : ∀ {w w'} (d : Nat) (c : Command), K w w' →
    (w'.perform stage d c).1 = (w.perform stage d c).1 ∧
      K (w.perform stage d c).2 (w'.perform stage d c).2
  elapse : ∀ {w w'} (ms : Nat), K w w' → K (w.elapse stage ms) (w'.elapse stage ms)
  quit : ∀ {w w'} (g : Session), K w w' → K (w.quit stage g) (w'.quit stage g)

variable {K : World σ → World σ → Prop}

theorem Kin.stricter {D' : Discipline} (kin : Kin stage D K) (able : ∀ i, D'.able i → D.able i) :
    Kin stage D' K :=
  { kin with answers := fun h held part => kin.answers h (able _ held) part }

theorem Kin.build (kin : Kin stage D K) {w w' : World σ} (h : K w w') (p : Run.Setup) :
    (Run.build stage w' p).1 = (Run.build stage w p).1 ∧
      K (Run.build stage w p).2 (Run.build stage w' p).2 := by
  simp only [Run.build]
  cases p.session with
  | some _ => exact ⟨rfl, h⟩
  | none =>
    obtain ⟨session, opened⟩ := kin.newSession h
    refine ⟨?_, opened⟩
    dsimp only
    rw [session]

end World

namespace Run

/-- A relation between runs of which steps see the same. What the steps and their advice do
to the variables and to the stop is done to both. -/
structure Paired (V : Run → Run → Prop) : Prop where
  name : ∀ {r r'}, V r r' → r'.name = r.name
  session : ∀ {r r'}, V r r' → r'.session = r.session
  signal : ∀ {r r'}, V r r' → r'.signal = r.signal
  row : ∀ {r r'}, V r r' → r'.row = r.row
  index : ∀ {r r'}, V r r' → r'.cursor.index = r.cursor.index
  stopped : ∀ {r r'}, V r r' → r'.cursor.stopped = r.cursor.stopped
  length : ∀ {r r'}, V r r' → r'.case.steps.length = r.case.steps.length
  rowed : ∀ {r r'} (row : Row), V r r' → V { r with row } { r' with row }
  halted : ∀ {r r'}, V r r' →
    V { r with cursor := r.cursor.stop } { r' with cursor := r'.cursor.stop }

structure Moving (V : Run → Run → Prop) : Prop extends Paired V where
  stood : ∀ {r r'} (i : Int), V r r' →
    V { r with cursor := { r.cursor with index := i } }
      { r' with cursor := { r'.cursor with index := i } }

structure Same (D : Discipline) (r r' : Run) : Prop where
  eq : r' = r
  under : r.Under D

structure Level (V : Run → Run → Prop) (r r' : Run) : Prop where
  pair : V r r'
  step : r'.step? = r.step?

section Paired
variable {V : Run → Run → Prop}

theorem Paired.current (paired : Paired V) {r r' : Run} (h : V r r') :
    r'.cursor.current? = r.cursor.current? := by
  rw [Cursor.current?, Cursor.current?, paired.index h]

theorem Paired.remaining (paired : Paired V) {r r' : Run} (h : V r r') :
    r'.remaining = r.remaining := by
  rw [Run.remaining, Run.remaining, paired.current h, paired.length h]

theorem Paired.owned (paired : Paired V) {r r' : Run} (h : V r r') (x : Step) :
    Action.owned r' x = Action.owned r x := by
  rw [Action.owned, Action.owned, paired.row h, paired.remaining h]

theorem Paired.consumed (paired : Paired V) {r r' : Run} (h : V r r') (x : Step) :
    Action.consumed r' x = Action.consumed r x := by
  rw [Action.consumed, Action.consumed, paired.owned h]

theorem Paired.level (paired : Paired V) : Paired (Level V) where
  name h := paired.name h.pair
  session h := paired.session h.pair
  signal h := paired.signal h.pair
  row h := paired.row h.pair
  index h := paired.index h.pair
  stopped h := paired.stopped h.pair
  length h := paired.length h.pair
  rowed row h := ⟨paired.rowed row h.pair, h.step⟩
  halted h := ⟨paired.halted h.pair, h.step⟩

end Paired

theorem moving_same : Moving (Same D) where
  name h := congrArg Run.name h.eq
  session h := congrArg Run.session h.eq
  signal h := congrArg Run.signal h.eq
  row h := congrArg Run.row h.eq
  index h := congrArg (·.cursor.index) h.eq
  stopped h := congrArg (·.cursor.stopped) h.eq
  length h := congrArg (·.case.steps.length) h.eq
  rowed row h := ⟨by rw [h.eq], h.under.same rfl rfl rfl⟩
  halted h := ⟨by rw [h.eq], h.under.same rfl rfl rfl⟩
  stood i h := ⟨by rw [h.eq], h.under.same rfl rfl rfl⟩

end Run

/-- States of two runs that go abreast. -/
structure Abreast (K : World σ → World σ → Prop) (V : Run → Run → Prop) (s s' : State σ) :
    Prop where
  world : K s.world s'.world
  run : V s.run s'.run

namespace Abreast
variable {K : World σ → World σ → Prop} {V : Run → Run → Prop}

section World
variable (kin : World.Kin stage D K)

theorem respects_modifyWorld {f : World σ → World σ} (hf : ∀ {w w'}, K w w' → K (f w) (f w')) :
    Respects (Abreast K V) (Act.modifyWorld f : Act σ ε Unit) :=
  fun _ _ h => ⟨rfl, hf h.world, h.run⟩

theorem respects_onWorld {f : World σ → α × World σ}
    (hf : ∀ {w w'}, K w w' → (f w').1 = (f w).1 ∧ K (f w).2 (f w').2) :
    Respects (Abreast K V) (Act.onWorld f : Act σ ε α) := by
  intro s s' h
  obtain ⟨same, kept⟩ := hf h.world
  exact ⟨congrArg Except.ok same, kept, h.run⟩

include kin

theorem respects_record (e : TraceEntry) :
    Respects (Abreast K V) (Act.modifyWorld fun w => w.record e : Act σ ε Unit) :=
  respects_modifyWorld (kin.record e)

theorem respects_emit (e : Event) :
    Respects (Abreast K V) (Act.emit stage e : Act σ ε Unit) :=
  respects_modifyWorld (kin.emit e)

theorem respects_quit (g : Session) :
    Respects (Abreast K V) (Act.modifyWorld fun w => w.quit stage g : Act σ ε Unit) :=
  respects_modifyWorld (kin.quit g)

theorem respects_childSignal (g : Signal) :
    Respects (Abreast K V) (Act.onWorld fun w => w.childSignal g : Act σ ε Signal) :=
  respects_onWorld (kin.childSignal g)

theorem yields_built (hstage : Aspect.Under D stage.aspect) {p : Run.Setup}
    (case : p.case.Under D) (inherited : Aspect.Under D p.inherited) :
    Yields (Run.Under D) (Abreast K V) (Abreast K V)
      (Act.onWorld (fun w => Run.build stage w p) : Act σ ε Run)
      (Act.onWorld fun w => Run.build stage w p) := by
  intro s s' h
  obtain ⟨same, kept⟩ := kin.build h.world p
  refine ⟨congrArg Except.ok same, ⟨kept, h.run⟩, ?_⟩
  rintro _ ⟨⟩
  exact Run.under_build hstage s.world case inherited

end World

theorem yields_inside {r : Run} (under : r.Under D) {a : Act σ ε α}
    (ha : Respects (Abreast K (Run.Same D)) a) :
    Yields (fun p => p.2.Under D) (Abreast K V) (Abreast K V)
      (Act.inside r a : Act σ δ (Except ε α × Run)) (Act.inside r a) := by
  intro s s' h
  obtain ⟨same, below⟩ := ha ⟨s.world, r⟩ ⟨s'.world, r⟩ ⟨h.world, rfl, under⟩
  refine ⟨congrArg Except.ok (Prod.ext same below.run.eq), ⟨below.world, h.run⟩, ?_⟩
  rintro _ ⟨⟩
  exact below.run.under

theorem leads_getRun {R' : State σ → State σ → Prop} {f f' : Run → Act σ ε α}
    (hf : ∀ {r r'}, V r r' → Leads (Abreast K V) R' (f r) (f' r')) :
    Leads (Abreast K V) R' (Act.getRun >>= f) (Act.getRun >>= f') :=
  fun s s' h => hf h.run s s' h

section Paired
variable (kin : World.Kin stage D K) (paired : Run.Paired V)
include paired

theorem respects_rowed (f : Row → Row) :
    Respects (Abreast K V) (Act.modifyRun fun r => { r with row := f r.row } : Act σ ε Unit) := by
  intro s s' h
  refine ⟨rfl, h.world, ?_⟩
  show V { s.run with row := f s.run.row } { s'.run with row := f s'.run.row }
  rw [paired.row h.run]
  exact paired.rowed _ h.run

include kin

theorem isStopped_eq {s s' : State σ} (h : Abreast K V s s') : s'.isStopped = s.isStopped := by
  rw [State.isStopped, State.isStopped, paired.stopped h.run, paired.signal h.run,
    kin.signals h.world]

theorem running_eq {s s' : State σ} (h : Abreast K V s s') :
    s'.world.signals.isStopped s'.run.signal = s.world.signals.isStopped s.run.signal := by
  rw [paired.signal h.run, kin.signals h.world]

theorem respects_isStopped : Respects (Abreast K V) (Act.isStopped : Act σ ε Bool) :=
  Agrees.respects_isStopped fun _ _ => isStopped_eq kin paired

theorem respects_stop : Respects (Abreast K V) (Act.stop : Act σ ε Unit) := by
  refine respects_bind (fun s s' h => ⟨rfl, h.world, paired.halted h.run⟩) fun _ => ?_
  refine leads_getRun fun h => ?_
  rw [paired.signal h]
  exact respects_modifyWorld (kin.stop _)

end Paired

end Abreast

end Scenario

import Scenario.Proofs.RunClosing
import Scenario.Proofs.StopScope

/-!
# A single row in two modes

A chained case runs its own chain within each row or once after the last one. For
a case with a single row both modes do the same: the run of the row differs in
what its steps do not see, the chain runs in the same place between its suite and
the end of its browser, and only a run that was stopped answers differently.
-/

set_option autoImplicit false

namespace Scenario
open Scenario.Act Scenario.Execution

variable {σ : Type} {stage : Stage σ} {inner : Inner σ}

namespace Case

/-- The case with its chain run within its rows or after them. -/
def inMode (nested : Bool) (c : Case) : Case := { c with nestedChain := nested }

def nesting (nested : Bool) (c : Case) : Case :=
  { c.inMode nested with
    resolve := c.resolve.map fun read row => (read row).map (inMode nested) }

theorem materialize_nesting (nested : Bool) (c : Case) (row : Row) :
    (c.nesting nested).materialize row = (c.materialize row).map (inMode nested) := by
  cases h : c.resolve with
  | none => simp only [materialize, nesting, inMode, h, Option.map_none, Except.map]
  | some read =>
    simp only [materialize, nesting, h, Option.map_some]
    cases read row <;> rfl

/-- A case with a chain of its own and a single row, whatever it is read from. -/
def IsSingle (stage : Stage σ) (c : Case) : Prop :=
  ∀ seed d, c.materialize seed = .ok d →
    d.hasChain = true ∧ stage.sources d.effectiveLoader.source = some DataSource.none

theorem isDeferred_nested (d : Case) : isDeferred (d.inMode true) = false := Bool.and_false _

theorem isDeferred_deferred {d : Case} (h : d.hasChain = true) :
    isDeferred (d.inMode false) = true := by
  rw [isDeferred, Bool.and_eq_true]
  exact ⟨h, rfl⟩

end Case

/-- Outcomes that agree: answers that go together, or faults with one root. -/
def Concur {α : Type} (ok : α → α → Prop) : Except Fault α → Except Fault α → Prop
  | .ok a, .ok a' => ok a a'
  | .error f, .error f' => f'.root = f.root
  | _, _ => False

theorem Concur.mono {α : Type} {P Q : α → α → Prop} {r r' : Except Fault α} (h : Concur P r r')
    (hq : ∀ a a', P a a' → Q a a') : Concur Q r r' := by
  cases r <;> cases r'
  · exact h
  · exact h.elim
  · exact h.elim
  · exact hq _ _ h

namespace Modes
open Course Closing Case

section Child

def onlyRow : Row := ({} : Row).withLast true

theorem load_none {l : Loader} {sources : String → Option DataSource} {dir : String} {row : Row}
    (h : sources l.source = some DataSource.none) : l.load sources dir row = .ok [onlyRow] := by
  simp [Loader.load, h, DataSource.none, Loader.numbered, onlyRow]

def childRows (s : State σ) (index : Nat) (d : Case) (seed : Row) : Rows where
  case := d
  name := s.run.name ++ "_" ++ Text.natText index ++ "_" ++ d.name
  multiLine := false
  seed := seed
  aspect := s.run.chainAspect

def childStart (stage : Stage σ) (s : State σ) (index : Nat) (d : Case) (seed : Row) : State σ :=
  rowStart stage (childRows s index d seed) 1 onlyRow true s

def RowEnds (stage : Stage σ) (inner : Inner σ) (d : Case) (s : State σ)
    (Q : Except Fault (Bool × Option Row) → State σ → Prop) (r : Except Fault Bool)
    (v : State σ) : Prop :=
  match r with
  | .ok b => Ends (settleChild stage inner d b (some v.run)) (s.after v) Q
  | .error f => Q (.error f) (rowRaised stage d s v)

theorem runChild_iff {c d : Case} {seed : Row} (hm : c.materialize seed = .ok d)
    (hn : stage.sources d.effectiveLoader.source = some DataSource.none) (index : Nat) (s : State σ)
    (Q : Except Fault (Bool × Option Row) → State σ → Prop) :
    Ends (runChild stage inner index c seed) s Q ↔
      if s.world.signals.isStopped s.run.signal then Q (.ok (true, none)) s
      else Ends inner.finish (childStart stage s index d seed) (RowEnds stage inner d s Q) := by
  have single : d.effectiveLoader.isMultiLine stage.sources = false := by
    simp [Loader.isMultiLine, hn, DataSource.none]
  simp only [runChild, ends_bind, ends_getRun, hm, report, ends_pure, load_none hn, single,
    runGroup, Bool.false_eq_true, if_false, ends_outcome, ends_conclude, runRows, ends_get]
  cases s.world.signals.isStopped s.run.signal with
  | true => exact Iff.rfl
  | false =>
    simp only [Bool.false_eq_true, if_false, ends_bind, runRow_iff]
    refine iff_of_eq (congrArg (Ends inner.finish _) (funext fun r => funext fun v => ?_))
    cases r with
    | ok b => simp only [Bool.and_true, ends_pure, RowEnds]
    | error f => rfl

section Ends
variable {d : Case} {v : State σ} (s : State σ)
  (Q : Except Fault (Bool × Option Row) → State σ → Prop)

theorem rowEnds_nested (hd : isDeferred d = false) (hv : v.run.ownsSession = !d.sharesState)
    (r : Except Fault Bool) :
    RowEnds stage inner d s Q r v ↔ Q (r.map fun b => (b, some v.run.row)) (s.after v) := by
  cases r with
  | ok b => simp only [RowEnds, settleChild_iff, hd, Bool.false_eq_true, if_false, Except.map]
  | error f => simp only [RowEnds, rowRaised_owned hv, Except.map]

theorem rowEnds_dropped (hd : isDeferred d = true) (hv : (v.run.aborted || v.isStopped) = true)
    (b : Bool) :
    RowEnds stage inner d s Q (.ok b) v ↔
      Q (.ok (b, some v.run.row)) { s with world := returned stage d v.world v.run.session } := by
  simp only [RowEnds, settleChild_iff, hd, if_true, runDeferred_iff, givenBack_eq, State.after,
    hv, Except.map, Bool.true_and]

theorem rowEnds_chained (hd : isDeferred d = true) (hv : (v.run.aborted || v.isStopped) = false)
    (b : Bool) :
    RowEnds stage inner d s Q (.ok b) v ↔
      Ends inner.chain v fun r u => Q (r.map fun c => (c && b, some v.run.row))
        { s with world := returned stage d u.world v.run.session } := by
  simp only [RowEnds, settleChild_iff, hd, if_true, runDeferred_iff, givenBack_eq, State.after,
    hv, Bool.false_eq_true, if_false]

theorem rowEnds_kept (hv : v.run.ownsSession = false) (f : Fault) :
    RowEnds stage inner d s Q (.error f) v ↔
      Q (.error f) { s with world := returned stage d v.world v.run.session } := by
  simp only [RowEnds, rowRaised_kept hv]

end Ends

end Child

section Alike
variable {k k' : Run.Veil} {s s' : State σ}

theorem isStopped_alike (h : Alike k k' s s') : s'.isStopped = s.isStopped := by
  obtain ⟨r, hw⟩ := h
  simp only [State.isStopped, hw.signals_eq]
  rfl

theorem signal_alike (h : Alike k k' s s') :
    s'.world.signals.isStopped s'.run.signal = s.world.signals.isStopped s.run.signal := by
  obtain ⟨r, hw⟩ := h
  rw [hw.signals_eq]
  rfl

theorem after_alike {w w' : World σ} (h : Alike k k' s s') (hw : w.Alike w') :
    Alike k k' { s with world := w } { s' with world := w' } := by
  obtain ⟨r, _⟩ := h
  exact .intro r hw

theorem record_alike (h : Alike k k' s s') (e : TraceEntry) :
    Alike k k' (s.record e) (s'.record e) := by
  obtain ⟨p, hw⟩ := h
  exact .intro p (hw.record e)

theorem emit_alike (sees : stage.Sees) (h : Alike k k' s s') (e : Event) :
    Alike k k' (s.emit stage e) (s'.emit stage e) := by
  obtain ⟨r, hw⟩ := h
  exact .intro r (hw.emit sees e)

theorem begun_alike (sees : stage.Sees) (h : Alike k k' s s') :
    Alike k k' (s.begun stage) (s'.begun stage) := by
  obtain ⟨r, hw⟩ := h
  rename_i w _
  exact .intro (State.prepared stage ⟨w, r⟩).run (hw.emit sees _)

/-- Two runs go the same way until their steps are over. -/
theorem finishWith_alike (sees : stage.Sees) (depth : Nat) (h : Alike k k' s s')
    {R : Except Fault Bool → State σ → Except Fault Bool → State σ → Prop}
    (ended : ∀ b t t', Alike k k' t t' → Stops.Halts stage (s.begun stage) t →
      Ends (endRun stage (chain stage (innerAt stage depth)) b) t fun r v =>
        Ends (endRun stage (chain stage (innerAt stage depth)) b) t' fun r' v' => R r v r' v')
    (halted : ∀ f t t', Alike k k' t t' →
      Ends (halt stage f) t fun r v => Ends (halt stage f) t' fun r' v' => R r v r' v') :
    Ends (finishWith stage (innerAt stage depth)) s fun r v =>
      Ends (finishWith stage (innerAt stage depth)) s' fun r' v' => R r v r' v' := by
  have same : s'.run.case.steps.length = s.run.case.steps.length := by
    obtain ⟨r, _⟩ := h
    rfl
  have both := Alike.respects_steps sees depth (s.run.case.steps.length + 1) true _ _
    (begun_alike sees h)
  have own : Ends (steps stage (innerAt stage depth) (s.run.case.steps.length + 1) true)
      (s.begun stage) fun _ t => Stops.Halts stage (s.begun stage) t := by
    refine ends_mono (Conduct.steps_ends Stops.conduct.toMobile
      (Conduct.turns Stops.conduct (Course.innerAt_ends Stops.lawful depth).1) trivial _ true
      (Stops.order.refl trivial)) ?_
    intro r t ht
    rcases r with _ | _ | _ <;> exact ht
  simp only [finishWith_iff, same]
  refine ends_mono (ends_and both own) ?_
  rintro (f | b) t ⟨both, own⟩
  · dsimp only
    rw [ends_swap]
    refine ends_mono both ?_
    rintro _ t' ⟨rfl, alike⟩
    exact halted f t t' alike
  · dsimp only
    rw [ends_swap]
    refine ends_mono both ?_
    rintro _ t' ⟨rfl, alike⟩
    exact ended b t t' alike own

end Alike

def rowVeil (d : Case) (nested : Bool) : Run.Veil where
  chain := d.chain
  nestedChain := nested
  ownsSession := nested && !d.sharesState
  pending := nested
  finished := false
  aborted := false

/-- The run of a single row with its chain within the row, and with its chain deferred. -/
def Twins (d : Case) : State σ → State σ → Prop := Alike (rowVeil d true) (rowVeil d false)

namespace Twins
variable {d : Case} {t t' : State σ}

theorem owns (h : Twins d t t') : t.run.ownsSession = !d.sharesState := by
  obtain ⟨p, _⟩ := h
  rfl

theorem kept (h : Twins d t t') : t'.run.ownsSession = false := by
  obtain ⟨p, _⟩ := h
  rfl

theorem aborted (h : Twins d t t') : t'.run.aborted = false := by
  obtain ⟨p, _⟩ := h
  rfl

theorem session (h : Twins d t t') : t'.run.session = t.run.session := by
  obtain ⟨p, _⟩ := h
  rfl

theorem row (h : Twins d t t') : t'.run.row = t.run.row := by
  obtain ⟨p, _⟩ := h
  rfl

theorem name (h : Twins d t t') : t'.run.name = t.run.name := by
  obtain ⟨p, _⟩ := h
  rfl

theorem needs (h : Twins d t t') (running : t.run.cursor.stopped = false) :
    t.run.cursor.needsChain = true := by
  obtain ⟨p, _⟩ := h
  rw [Cursor.needsChain, Bool.and_eq_true, Bool.not_eq_true']
  exact ⟨rfl, running⟩

theorem idle (h : Twins d t t') : t'.run.cursor.needsChain = false := by
  obtain ⟨p, _⟩ := h
  rfl

theorem called (h : Twins d t t') :
    ∃ j j' : Run.Veil, j'.chain = j.chain ∧ Alike j j' t.chainCalled (t'.released stage) := by
  have kept : (t'.released stage).world = t'.world := released_kept h.kept
  have world := h.world
  rw [← kept] at world
  obtain ⟨p, _⟩ := h
  exact ⟨{ rowVeil d true with pending := false }, { rowVeil d false with finished := true }, rfl,
    .intro p world⟩

end Twins

theorem childStart_twins {k k' : Run.Veil} {s s' : State σ} (h : Alike k k' s s') {d : Case}
    (hc : d.hasChain = true) (index : Nat) (seed : Row) :
    Twins d (childStart stage s index (d.inMode true) seed)
      (childStart stage s' index (d.inMode false) seed) := by
  obtain ⟨r, ⟨l, hl⟩⟩ := h
  have chained : ∀ b, (d.inMode b).hasChain = true := fun _ => hc
  simp only [Twins, childStart, rowStart, childRows, rowSetup, Run.build, isDeferred, chained]
  cases hs : d.sharesState with
  | true =>
    simp only [inMode, rowVeil, hs]
    exact .of_veil (.intro l hl) rfl rfl
  | false =>
    simp only [inMode, rowVeil, hs]
    exact .of_veil (.intro l hl) rfl rfl

section Row
variable {k k' : Run.Veil} {s s' : State σ} {d : Case}

/-- What a chained case leaves in the two modes: the same variables, and answers that
differ only in a run that was stopped. -/
structure Joined (k k' : Run.Veil) (r : Except Fault (Bool × Option Row)) (t : State σ)
    (r' : Except Fault (Bool × Option Row)) (t' : State σ) : Prop where
  alike : Alike k k' t t'
  answers : Concur (fun p p' => p'.2 = p.2 ∧
    (p'.1 = p.1 ∨ t.world.signals.isStopped t.run.signal = true)) r r'

def RowsJoin (stage : Stage σ) (inner : Inner σ) (d : Case) (k k' : Run.Veil) (s s' : State σ)
    (r : Except Fault Bool) (v : State σ) (r' : Except Fault Bool) (v' : State σ) : Prop :=
  RowEnds stage inner (d.inMode true) s (fun x u =>
    RowEnds stage inner (d.inMode false) s' (Joined k k' x u) r' v') r v

theorem join_dropped (hc : d.hasChain = true) (h : Alike k k' s s') {t t' v v' : State σ}
    (ht : Twins d t t') (hv : Settled stage t v) (hv' : Settled stage t' v')
    (done : (v'.run.aborted || v'.isStopped) = true) (b : Bool) :
    RowsJoin stage inner d k k' s s' (.ok b) v (.ok b) v' := by
  have worlds : t.world.Alike v'.world := ht.world.trans (hv'.kept ht.kept).symm
  rw [RowsJoin, rowEnds_nested _ _ (isDeferred_nested d) (hv.owns.trans ht.owns),
    rowEnds_dropped _ _ (isDeferred_deferred hc) done]
  refine ⟨after_alike h ?_, ?_, .inl rfl⟩
  · rw [hv'.session, ht.session]
    exact (hv.returned ht.owns).trans (returned_alike worlds d t.run.session)
  · rw [hv'.row, hv.row, ht.row]

theorem join_raised (h : Alike k k' s s') {t t' v v' : State σ} (ht : Twins d t t')
    (hv : Settled stage t v) (hv' : Settled stage t' v') (f : Fault) :
    RowsJoin stage inner d k k' s s' (.error f) v (.error f) v' := by
  have worlds : t.world.Alike v'.world := ht.world.trans (hv'.kept ht.kept).symm
  rw [RowsJoin, rowEnds_nested _ _ (isDeferred_nested d) (hv.owns.trans ht.owns),
    rowEnds_kept _ _ (hv'.owns.trans ht.kept)]
  refine ⟨after_alike h ?_, rfl⟩
  rw [hv'.session, ht.session]
  exact (hv.returned ht.owns).trans (returned_alike worlds d t.run.session)

theorem halted_join (hc : d.hasChain = true) (h : Alike k k' s s') (sees : stage.Sees)
    {t t' : State σ} (ht : Twins d t t') (f : Fault) :
    Ends (halt stage f) t fun r v => Ends (halt stage f) t' fun r' v' =>
      RowsJoin stage inner d k k' s s' r v r' v' := by
  have closed : Twins d (t.emit stage .closed) (t'.emit stage .closed) := emit_alike sees ht .closed
  rw [halt_iff]
  simp only [halt_iff]
  split
  · exact join_dropped hc h closed (settled_aborted t _) (settled_aborted t' _) rfl false
  · rw [ht.name]
    exact join_raised h closed (settled_released _) (settled_released _) _

theorem answers_join {t u : State σ} (below : Stops.Beneath stage s t)
    (chained : Stops.Spares stage t u) (same : u.run = t.run) (running : t.isStopped = false)
    (b c : Bool) :
    (c && b) = (b && c && !u.isStopped) ∨ u.world.signals.isStopped s.run.signal = true := by
  cases stopped : u.isStopped with
  | false =>
    rw [Bool.not_false, Bool.and_true, Bool.and_comm]
    exact .inl rfl
  | true =>
    rw [State.isStopped, Bool.or_eq_false_iff] at running
    rw [State.isStopped, same, running.1, Bool.false_or] at stopped
    exact .inr (below.stopped_above chained running.2 stopped)

theorem chained_join (hc : d.hasChain = true) (h : Alike k k' s s') (sees : stage.Sees)
    (depth : Nat) {t t' : State σ} (ht : Twins d t t') (running : t.isStopped = false)
    (below : Stops.Beneath stage s t) (b : Bool) :
    Ends (chain stage (innerAt stage depth)) t.chainCalled fun r u =>
      match r with
      | .ok c => RowsJoin stage (innerAt stage (depth + 1)) d k k' s s'
          (.ok (b && c && !(u.released stage).isStopped)) (u.ended stage)
          (.ok b) (t'.released stage)
      | .error f => RowsJoin stage (innerAt stage (depth + 1)) d k k' s s'
          (.error (f.inRun t.run.name)) (u.released stage) (.ok b) (t'.released stage) := by
  have deferred := isDeferred_deferred hc
  have beneath : Stops.Beneath stage s t.chainCalled :=
    ⟨below.ancestors, below.made, below.unwatched⟩
  have going : ((t'.released stage).run.aborted || (t'.released stage).isStopped) = false := by
    rw [State.isStopped_released, isStopped_alike ht, running, Bool.or_false]
    exact ht.aborted
  -- in both modes the same chain is about to run, now or after the row
  obtain ⟨j, j', chains, called⟩ :
      ∃ j j' : Run.Veil, j'.chain = j.chain ∧ Alike j j' t.chainCalled (t'.released stage) :=
    ht.called
  have both := Alike.respects_chain sees depth chains _ _ called
  refine ends_mono (ends_and both (Stops.chain_spares stage depth t.chainCalled)) ?_
  rintro r u ⟨both, same, spares⟩
  have owns : u.run.ownsSession = !d.sharesState := by
    rw [same]
    exact ht.owns
  have session : (t'.released stage).run.session = u.run.session := by
    rw [same]
    exact ht.session
  have row : (t'.released stage).run.row = u.run.row := by
    rw [same]
    exact ht.row
  -- whoever owns the browser gives it back, in one mode before and in the other after the chain
  have joined : ∀ {v u' : State σ}, Settled stage u v → u.world.Alike u'.world →
      Alike k k' (s.after v) { s' with
        world := returned stage (d.inMode false) u'.world (t'.released stage).run.session } := by
    intro v u' settled worlds
    rw [session]
    exact after_alike h ((settled.returned owns).trans (returned_alike worlds d u.run.session))
  cases r with
  | error f =>
    have settled : Settled stage u (u.released stage) := settled_released u
    dsimp only
    rw [RowsJoin, rowEnds_nested _ _ (isDeferred_nested d) (settled.owns.trans owns),
      rowEnds_chained _ _ deferred going]
    refine ends_mono both ?_
    rintro _ u' ⟨rfl, alike⟩
    exact ⟨joined settled alike.world, (Fault.root_inRun t.run.name f).symm⟩
  | ok c =>
    have settled : Settled stage u (u.ended stage) := settled_ended u
    dsimp only
    rw [RowsJoin, rowEnds_nested _ _ (isDeferred_nested d) (settled.owns.trans owns),
      rowEnds_chained _ _ deferred going]
    refine ends_mono both ?_
    rintro _ u' ⟨rfl, alike⟩
    refine ⟨joined settled alike.world, ?_, ?_⟩
    · rw [row, settled.row]
    · rw [State.isStopped_released]
      show _ ∨ (u.ended stage).world.signals.isStopped s.run.signal = true
      rw [settled.signals]
      exact answers_join beneath spares same running b c

theorem ended_join (hc : d.hasChain = true) (h : Alike k k' s s') (sees : stage.Sees)
    (depth : Nat) {t t' : State σ} (ht : Twins d t t') (below : Stops.Beneath stage s t) (b : Bool) :
    Ends (endRun stage (chain stage (innerAt stage depth)) b) t fun r v =>
      Ends (endRun stage (chain stage (innerAt stage depth)) b) t' fun r' v' =>
        RowsJoin stage (innerAt stage (depth + 1)) d k k' s s' r v r' v' := by
  have closed : Twins d (t.emit stage .closed) (t'.emit stage .closed) := emit_alike sees ht .closed
  have same := isStopped_alike closed
  cases running : (t.emit stage .closed).isStopped with
  | true =>
    rw [running] at same
    refine ends_mono (endRun_stopped running b) ?_
    rintro _ v ⟨rfl, hv⟩
    refine ends_mono (endRun_stopped same b) ?_
    rintro _ v' ⟨rfl, hv'⟩
    exact join_dropped hc h closed hv hv' (by rw [hv'.stopped, same, Bool.or_true]) false
  | false =>
    rw [running] at same
    have needs : t.run.cursor.needsChain = true := by
      rw [State.isStopped, Bool.or_eq_false_iff] at running
      exact ht.needs running.1
    rw [endRun_iff, if_pos needs]
    simp only [endRun_idle ht.idle same]
    exact chained_join hc h sees depth closed running (below.emit .closed) b

theorem row_join (hc : d.hasChain = true) (h : Alike k k' s s') (sees : stage.Sees)
    (made : ∀ m, Stops.Watched stage m → m < s.world.signals.next) (depth index : Nat)
    (seed : Row) :
    Ends (innerAt stage depth).finish (childStart stage s index (d.inMode true) seed) fun r v =>
      Ends (innerAt stage depth).finish (childStart stage s' index (d.inMode false) seed) fun r' v' =>
        RowsJoin stage (innerAt stage depth) d k k' s s' r v r' v' := by
  have begun : Twins d (childStart stage s index (d.inMode true) seed)
      (childStart stage s' index (d.inMode false) seed) := childStart_twins h hc index seed
  have child : Frame.Child s (childStart stage s index (d.inMode true) seed) :=
    Frame.child_row _ _ _ _ s
  generalize childStart stage s index (d.inMode true) seed = x at begun child ⊢
  generalize childStart stage s' index (d.inMode false) seed = x' at begun ⊢
  cases depth with
  | zero =>
    have told : Twins d (x.emit stage (.error (beyond x.run.name)))
        (x'.emit stage (.error (beyond x.run.name))) := emit_alike sees begun _
    rw [beyond_iff, beyond_iff, begun.name]
    exact join_raised h told (settled_released _) (settled_released _) _
  | succ depth =>
    refine finishWith_alike sees depth begun (fun b t t' ht halts => ?_)
      fun f t t' ht => halted_join hc h sees ht f
    exact ended_join hc h sees depth ht (Stops.beneath_child child made halts) b

/-- A chained case with a single row means the same to the run above it in both modes. -/
theorem runChild_join (h : Alike k k' s s') (sees : stage.Sees)
    (made : ∀ m, Stops.Watched stage m → m < s.world.signals.next) {c : Case}
    (single : c.IsSingle stage) (depth index : Nat) (seed : Row) :
    Ends (runChild stage (innerAt stage depth) index (c.nesting true) seed) s fun r t =>
      Ends (runChild stage (innerAt stage depth) index (c.nesting false) seed) s' fun r' t' =>
        Joined k k' r t r' t' := by
  cases hm : c.materialize seed with
  | error f =>
    have read : ∀ b, (c.nesting b).materialize seed = .error f := by
      intro b
      rw [Case.materialize_nesting, hm]
      rfl
    simp only [runChild, ends_bind, ends_getRun, read, report]
    exact ⟨emit_alike sees h (.error f), rfl⟩
  | ok d =>
    obtain ⟨hc, hn⟩ := single seed d hm
    have read : ∀ b, (c.nesting b).materialize seed = .ok (d.inMode b) := by
      intro b
      rw [Case.materialize_nesting, hm]
      rfl
    rw [runChild_iff (read true) hn]
    simp only [runChild_iff (read false) hn, signal_alike h]
    split
    · exact ⟨h, rfl, .inl rfl⟩
    · exact row_join hc h sees made depth index seed

end Row

end Modes

end Scenario

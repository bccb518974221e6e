import Scenario.Proofs.RunExtent

/-!
# Trees of runs side by side

Two trees mirror each other where a relation between states is kept up by what
chains do themselves and by the steps, the cases and the runs at the same place.
Each run and each chain below the one has then a counterpart below the other, if
that is deep enough.
-/

set_option autoImplicit false

namespace Scenario
open Scenario.Act Scenario.Execution Scenario.Seeds Scenario.Lineage

variable {σ : Type} {stage : Stage σ} {inner : Inner σ}

namespace Mirror

def Same {ε α : Type} (R : State σ → State σ → Prop) (a a' : Act σ ε α) (s s' : State σ) : Prop :=
  Both a a' s s' fun r t r' t' => r' = r ∧ R t t'

theorem Same.exec {ε α : Type} {R : State σ → State σ → Prop} {a a' : Act σ ε α} {s s' t : State σ}
    {r : Except ε α} (h : Same R a a' s s') (executed : a.exec s = (r, t)) :
    ∃ t', a'.exec s' = (r, t') ∧ R t t' := by
  obtain ⟨same, related⟩ := h
  rw [executed] at same related
  exact ⟨(a'.exec s').2, Prod.ext same rfl, related⟩

theorem Same.flip {ε α : Type} {R : State σ → State σ → Prop} {a a' : Act σ ε α} {s s' : State σ}
    (h : Same R a a' s s') : Same (fun t t' => R t' t) a' a s' s :=
  ⟨h.1.symm, h.2⟩

structure Kept (stage : Stage σ) (R : State σ → State σ → Prop) (Q : Rows → Rows → Prop) :
    Prop where
  stopped : ∀ {s s'}, R s s' → s'.isStopped = s.isStopped
  running : ∀ {s s'}, R s s' →
    s'.world.signals.isStopped s'.run.signal = s.world.signals.isStopped s.run.signal
  aborted : ∀ {s s'}, R s s' → s'.run.aborted = s.run.aborted
  waiting : ∀ {s s'}, R s s' → s'.run.cursor.needsChain = s.run.cursor.needsChain
  chain : ∀ {s s'}, R s s' →
    s'.run.case.chain = s.run.case.chain ∧ s'.run.case.takesOver = s.run.case.takesOver
  row : ∀ {s s'}, R s s' → s'.run.row = s.run.row
  rows : ∀ {q q'}, Q q q' → q'.case = q.case
  reached : ∀ {s s'} (i : Nat) (passed : Bool), R s s' →
    R (s.record (.reached i passed)) (s'.record (.reached i passed))
  called : ∀ {s s'}, R s s' →
    R (s.emit stage .closed).chainCalled (s'.emit stage .closed).chainCalled
  rowsOf : ∀ {s s' c d seed} (i : Nat), R s s' → c ∈ s.run.case.chain → c.materialize seed = .ok d →
    Q (rowsOf stage s.run i d seed) (rowsOf stage s'.run i d seed)
  grouped : ∀ {s s' q q'}, Q q q' → R s s' → R (grouped stage q s) (grouped stage q' s')
  ungrouped : ∀ {s s' q q'}, Q q q' → R s s' → R (ungrouped stage q s) (ungrouped stage q' s')
  rowStart : ∀ {s s' q q'} (n : Nat) (row : Row) (isLast : Bool), Q q q' → R s s' →
    R (rowStart stage q n row isLast s) (rowStart stage q' n row isLast s')
  swap : ∀ {s s' v v'}, R s s' → R v v' → R ⟨s.world, v.run⟩ ⟨s'.world, v'.run⟩

section Kept
variable {R : State σ → State σ → Prop} {Q : Rows → Rows → Prop} (kept : Kept stage R Q)
include kept

theorem Kept.flip : Kept stage (fun s s' => R s' s) fun q q' => Q q' q where
  stopped h := (kept.stopped h).symm
  running h := (kept.running h).symm
  aborted h := (kept.aborted h).symm
  waiting h := (kept.waiting h).symm
  chain h := ⟨(kept.chain h).1.symm, (kept.chain h).2.symm⟩
  row h := (kept.row h).symm
  rows h := (kept.rows h).symm
  reached i passed h := kept.reached i passed h
  called h := kept.called h
  rowsOf i h hc read := kept.rowsOf i h (by rwa [← (kept.chain h).1]) read
  grouped hq h := kept.grouped hq h
  ungrouped hq h := kept.ungrouped hq h
  rowStart n row isLast hq h := kept.rowStart n row isLast hq h
  swap h hv := kept.swap h hv

variable {inner inner' : Inner σ} {y y' : State σ} {i : Nat}

structure Chains (stage : Stage σ) (R : State σ → State σ → Prop) (inner inner' : Inner σ)
    (y y' : State σ) : Prop where
  start : R y y'
  child : ∀ {i c rest seed b past past' t t'}, Reaches stage inner y i (c :: rest) seed b past t →
    Reaches stage inner' y' i (c :: rest) seed b past' t' → isPassed c seed = false →
    t.world.signals.isStopped t.run.signal = false → R t t' →
    Same R (runChild stage inner i c seed) (runChild stage inner' i c seed)
      (t.record (.reached i false)) (t'.record (.reached i false))
  finish : ∀ {i n x x'}, Begins stage inner y i n x → Begins stage inner' y' i n x' → R x x' →
    Same R inner.finish inner'.finish x x'

theorem Chains.flip (h : Chains stage R inner inner' y y') :
    Chains stage (fun s s' => R s' s) inner' inner y' y where
  start := h.start
  child reached reached' included running related :=
    (h.child reached' reached included ((kept.running related).symm.trans running) related).flip
  finish begins begins' related := (h.finish begins' begins related).flip

variable (h : Chains stage R inner inner' y y')
include h

theorem reaches_mirrored {rest : List Case} {seed : Row} {b : Bool} {past : List (List Run)}
    {t : State σ} (reached : Reaches stage inner y i rest seed b past t) :
    ∃ past' t', Reaches stage inner' y' i rest seed b past' t' ∧ R t t' := by
  induction reached with
  | first =>
    obtain ⟨chain, _⟩ := kept.chain h.start
    refine ⟨[], y', ?_, h.start⟩
    rw [← chain, ← kept.row h.start]
    exact .first
  | passed before running passed ih =>
    obtain ⟨past', t', reached, related⟩ := ih
    exact ⟨_, _, reached.passed ((kept.running related).trans running) passed,
      kept.reached _ true related⟩
  | @ran i c rest seed b d last past done t u before running included ran answer ih =>
    obtain ⟨past', t', reached, related⟩ := ih
    obtain ⟨u', answer', related'⟩ :=
      (h.child before reached included running related).exec answer
    obtain ⟨done', ran'⟩ := ran_of_answer answer'
    have running' := (kept.running related).trans running
    refine ⟨done' :: past', u', ?_, related'⟩
    rw [← (kept.chain related).2]
    exact reached.ran running' included ran' answer'

theorem arrives_mirrored {rows : Rows} {list : List Row} {g : State σ}
    (arrived : Arrives stage inner y i rows list g) :
    ∃ rows' g', Arrives stage inner' y' i rows' list g' ∧ Q rows rows' ∧ R g g' := by
  cases arrived with
  | @intro c d rest seed b past t _ reached running included read loaded =>
    obtain ⟨past', t', reached', related⟩ := reaches_mirrored kept h reached
    have member : c ∈ t.run.case.chain := by
      rw [reached.left.2.2]
      exact reached.member
    have rows : Q (rowsOf stage t.run i d seed) (rowsOf stage t'.run i d seed) :=
      kept.rowsOf i related member read
    exact ⟨_, _, .intro reached' ((kept.running related).trans running) included read loaded, rows,
      kept.grouped rows (kept.reached i false related)⟩

theorem rowing_mirrored {rows rows' : Rows} {list l : List Row} {g g' t : State σ} {n : Nat}
    {b : Bool} {done : List Run} (arrived : Arrives stage inner y i rows list g)
    (arrived' : Arrives stage inner' y' i rows' list g') (alike : Q rows rows') (related : R g g')
    (went : Rowing stage inner rows list g n l b done t) :
    ∃ done' t', Rowing stage inner' rows' list g' n l b done' t' ∧ R t t' := by
  induction went with
  | first => exact ⟨[], g', .first, related⟩
  | @next n row rest b c done t v before running executed ih =>
    obtain ⟨done', t', before', related⟩ := ih
    have running' := (kept.running related).trans running
    obtain ⟨v', executed', ended⟩ := (h.finish (.intro arrived before running)
      (.intro arrived' before' running') (kept.rowStart n row _ alike related)).exec executed
    exact ⟨_, _, before'.next running' executed', kept.swap ended related⟩

theorem begins_mirrored {n : Nat} {x : State σ} (begins : Begins stage inner y i n x) :
    ∃ x', Begins stage inner' y' i n x' ∧ R x x' := by
  cases begins with
  | @intro rows list rest row b done g t arrived went running =>
    obtain ⟨rows', g', arrived', alike, related⟩ := arrives_mirrored kept h arrived
    obtain ⟨done', t', went', related'⟩ :=
      rowing_mirrored kept h arrived arrived' alike related went
    exact ⟨_, .intro arrived' went' ((kept.running related').trans running),
      kept.rowStart n row _ alike related'⟩

theorem defers_mirrored {n : Nat} {x z : State σ} (defers : Defers stage inner y i n x z) :
    ∃ x' z', Defers stage inner' y' i n x' z' ∧ R x x' ∧ R z z' := by
  cases defers with
  | @intro rows list rest row b c done g t v arrived went running executed last deferred awaited =>
    obtain ⟨rows', g', arrived', alike, related⟩ := arrives_mirrored kept h arrived
    obtain ⟨done', t', went', related'⟩ :=
      rowing_mirrored kept h arrived arrived' alike related went
    have running' := (kept.running related').trans running
    have begun := kept.rowStart n row rest.isEmpty alike related'
    obtain ⟨v', executed', ended⟩ := (h.finish (.intro arrived went running)
      (.intro arrived' went' running') begun).exec executed
    have after : R (t.after v) (t'.after v') := kept.swap ended related'
    have handed := kept.swap (kept.ungrouped alike after) ended
    refine ⟨_, _, .intro arrived' went' running' executed' ?_ ?_ ?_, begun, handed⟩
    · exact last.imp id fun stopped => (kept.running after).trans stopped
    · rw [kept.rows alike]
      exact deferred
    · rw [kept.aborted ended, kept.stopped handed]
      exact awaited

end Kept

/-- Where a run stands on its line. -/
def Place.address (p : Place σ) : Nat × Nat := (p.index, p.row)

/-- Two trees whose steps, chained cases and runs answer alike at the same places. -/
structure Trees (stage : Stage σ) (depth depth' : Nat) (R : State σ → State σ → Prop)
    (s s' : State σ) : Prop where
  start : R s s'
  steps : ∀ {k k' line line' x x'}, k + depth' = k' + depth →
    Descends stage depth s .run (k + 1) line x →
    Descends stage depth' s' .run (k' + 1) line' x' → R x x' →
    Same R (steps stage (innerAt stage k) (x.run.case.steps.length + 1) true)
      (steps stage (innerAt stage k') (x'.run.case.steps.length + 1) true)
      (x.begun stage) (x'.begun stage)
  chains : ∀ {k k' line line' y y'}, k + depth' = k' + depth →
    Descends stage depth s .chain (k + 1) line y →
    Descends stage depth' s' .chain (k' + 1) line' y' → R y y' →
    Chains stage R (innerAt stage k) (innerAt stage k') y y'

/-- The second depth is enough for all that the first one is enough for. -/
def Suffices (stage : Stage σ) (depth depth' : Nat) (s' : State σ) : Prop :=
  ∀ {k k' part line x}, k + depth' = k' + depth →
    Descends stage depth' s' part k' line x → 0 < k'

section Trees
variable {R : State σ → State σ → Prop} {Q : Rows → Rows → Prop} (kept : Kept stage R Q)
  {depth depth' : Nat} {s s' : State σ} (h : Trees stage depth depth' R s s')
include kept h

theorem Trees.flip : Trees stage depth' depth (fun t t' => R t' t) s' s where
  start := h.start
  steps level below below' related := (h.steps level.symm below' below related).flip
  chains level below below' related := (h.chains level.symm below' below related).flip kept

/-- Each run and each chain below the one has a counterpart below the other. -/
theorem descends_mirrored (deep : Suffices stage depth depth' s') {k : Nat} {part : Part}
    {line : List (Place σ)} {x : State σ} (below : Descends stage depth s part k line x) :
    ∃ k' line' x', k + depth' = k' + depth ∧ Descends stage depth' s' part k' line' x' ∧
      line'.map Place.address = line.map Place.address ∧ R x x' := by
  induction below with
  | top => exact ⟨depth' + 1, _, s', by omega, .top, rfl, h.start⟩
  | @chain k line x t b run went waiting ih =>
    obtain ⟨_, line', x', level, run', places, related⟩ := ih
    obtain ⟨k', rfl⟩ := Nat.exists_eq_add_one.2 (deep level run')
    obtain ⟨t', went', related'⟩ := (h.steps (by omega) run run' related).exec went
    exact ⟨_, line', _, level, .chain run' went' ((kept.waiting related').trans waiting), places,
      kept.called related'⟩
  | @row k i n line x y chain begins ih =>
    obtain ⟨_, line', y', level, chain', places, related⟩ := ih
    obtain ⟨k', rfl⟩ := Nat.exists_eq_add_one.2 (deep level chain')
    obtain ⟨x', begins', related'⟩ :=
      begins_mirrored kept (h.chains (by omega) chain chain' related) begins
    exact ⟨k', _, x', by omega, .row chain' begins', by rw [List.map_cons, places]; rfl, related'⟩
  | @deferred k i n line x y z chain defers ih =>
    obtain ⟨_, line', y', level, chain', places, related⟩ := ih
    obtain ⟨k', rfl⟩ := Nat.exists_eq_add_one.2 (deep level chain')
    obtain ⟨x', z', defers', _, related'⟩ :=
      defers_mirrored kept (h.chains (by omega) chain chain' related) defers
    exact ⟨k', _, z', by omega, .deferred chain' defers', by rw [List.map_cons, places]; rfl,
      related'⟩

end Trees

end Mirror

end Scenario

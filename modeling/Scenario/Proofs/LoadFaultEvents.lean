import Scenario.Proofs.RunExtent
import Scenario.Runner

/-!
# Which faults of loading are announced

A case that cannot be read, or whose rows cannot be loaded, is not executed.
A chain that comes to such a case tells the listeners of the fault, and on the
way up to the run at the top nothing is added to that but the ends of suites.
At the top itself the fault is the answer and nobody is told.
-/

set_option autoImplicit false

namespace Scenario
open Scenario.Act Scenario.Execution Scenario.Seeds Scenario.State

variable {σ : Type} {stage : Stage σ} {inner : Inner σ}

/-- The case cannot be read in one row, or its rows cannot be loaded in another. -/
inductive Case.Fails (stage : Stage σ) (c : Case) (row seed : Row) (f : Fault) : Prop
  | unread (read : c.materialize row = .error f) : Fails stage c row seed f
  | unloaded {d : Case} (read : c.materialize row = .ok d)
      (load : d.effectiveLoader.load stage.sources stage.dataDir seed = .error f) :
      Fails stage c row seed f

namespace Lineage

def Closes (l : List TraceEntry) : Prop := ∃ n, told l = List.replicate n .closed

theorem closes_additive : Additive Closes where
  append := by
    rintro l l' ⟨n, hl⟩ ⟨m, hl'⟩
    refine ⟨n + m, ?_⟩
    rw [told_append, hl, hl', List.replicate_append_replicate]
  silent := fun silent => ⟨0, told_silent silent⟩

theorem closes_ungrouped (rows : Rows) (s : State σ) :
    Along Closes s (ungrouped stage rows s) := by
  rw [ungrouped]
  split
  · exact along_emit ⟨1, rfl⟩
  · exact along_same closes_additive rfl

theorem runChild_fails {c : Case} {seed : Row} {f : Fault} (fails : c.Fails stage seed seed f)
    (i : Nat) (s : State σ) :
    (runChild stage inner i c seed).exec s = (.error f, s.emit stage (.error f)) := by
  rw [exec_eq_iff]
  cases fails with
  | unread read =>
    simp only [runChild, ends_bind, ends_getRun, read, report]
    exact ⟨rfl, rfl⟩
  | unloaded read load =>
    simp only [runChild, ends_bind, ends_getRun, read, report, ends_pure, load]
    exact ⟨rfl, rfl⟩

/-- So ends a chain that comes to such a case. -/
theorem chain_fails {y t : State σ} {i : Nat} {c : Case} {rest : List Case} {seed : Row} {b : Bool}
    {past : List (List Run)} {f : Fault}
    (reached : Reaches stage inner y i (c :: rest) seed b past t)
    (running : t.world.signals.isStopped t.run.signal = false)
    (included : isPassed c seed = false) (fails : c.Fails stage seed seed f) :
    (chain stage inner).exec y =
      (.error f, (t.record (.reached i false)).emit stage (.error f)) := by
  rw [reached.exec, runChildren_next running included, exec_bind, runChild_fails fails]

theorem Begins.falls {i n : Nat} {x y v : State σ} {f : Fault} (h : Begins stage inner y i n x)
    (executed : inner.finish.exec x = (.error f, v)) :
    ∃ u, (chain stage inner).exec y = (.error f, u) ∧ Along Closes v u := by
  cases h with
  | @intro rows list rest row b done g t arrived went running =>
    obtain ⟨_, _, _, _, course⟩ := arrived.course
    refine ⟨ungrouped stage rows (rowRaised stage rows.case t v), ?_, ?_⟩
    · rw [exec_eq_iff, course, ends_congr went.exec, Course.runRows_iff, running,
        if_neg Bool.false_ne_true, Ends, executed]
      exact ⟨rfl, rfl⟩
    · have dropped : Along Closes v (rowRaised stage rows.case t v) :=
        along_quits closes_additive (quits_rowDropped rows.case t v)
      exact along_trans closes_additive dropped (closes_ungrouped rows _)

theorem Defers.falls {i n : Nat} {x y z q : State σ} {f : Fault}
    (h : Defers stage inner y i n x z) (executed : inner.chain.exec z = (.error f, q)) :
    ∃ u, (chain stage inner).exec y = (.error f, u) ∧ Along Closes q u := by
  cases h with
  | @intro rows list rest row b c done g t v arrived went running answer last deferred awaited =>
    obtain ⟨_, _, _, _, course⟩ := arrived.course
    refine ⟨givenBack stage rows.case v.run ((ungrouped stage rows (t.after v)).after q), ?_, ?_⟩
    · rw [exec_eq_iff, course, Ends, (went.next running answer).exec, runRows_halted last]
      show Ends (settleChild stage inner rows.case (c && b) (some v.run)) _ _
      rw [Course.settleChild_iff, deferred, if_pos rfl, Course.runDeferred_iff, awaited,
        if_neg Bool.false_ne_true, Ends, executed]
      exact ⟨rfl, rfl⟩
    · exact along_givenBack closes_additive rows.case v.run
        ((ungrouped stage rows (t.after v)).after q)

theorem chain_falls {x t v : State σ} {b : Bool} {f : Fault}
    (went : (steps stage inner (x.run.case.steps.length + 1) true).exec (x.begun stage) =
      (.ok b, t)) (waiting : t.run.cursor.needsChain = true)
    (executed : (chain stage inner).exec (t.emit stage .closed).chainCalled = (.error f, v)) :
    (finishWith stage inner).exec x = (.error (f.inRun t.run.name), v.released stage) := by
  rw [exec_eq_iff, Course.finishWith_iff, Ends, went]
  dsimp only
  rw [Course.endRun_iff, if_pos waiting, Ends, executed]
  exact ⟨rfl, rfl⟩

/-- The run at the top ends with the root of a fault, and after this state listeners are told of
nothing but suites that are closed. -/
def Falls (stage : Stage σ) (depth : Nat) (s : State σ) (f : Fault) (v : State σ) : Prop :=
  ∃ g u, (finishWith stage (innerAt stage depth)).exec s = (.error g, u) ∧ g.root = f.root ∧
    Along Closes v u

theorem Falls.up {depth : Nat} {s v w : State σ} {f g : Fault} (h : Falls stage depth s g w)
    (root : g.root = f.root) (before : Along Closes v w) : Falls stage depth s f v := by
  obtain ⟨e, u, ended, same, after⟩ := h
  exact ⟨e, u, ended, same.trans root, along_trans closes_additive before after⟩

/-- So it does with a fault that ends what is carried out for a run or a chain below it. -/
theorem Descends.falls {depth k : Nat} {s x : State σ} {part : Part} {line : List (Place σ)}
    (h : Descends stage depth s part k line x) {f : Fault} {v : State σ}
    (raised : (act stage k part).exec x = (.error f, v)) : Falls stage depth s f v := by
  induction h generalizing f v with
  | top => exact ⟨f, v, raised, rfl, along_same closes_additive rfl⟩
  | chain run went waiting ih =>
    exact (ih (chain_falls went waiting raised)).up (f.root_inRun _)
      (along_released closes_additive v)
  | row chain begins ih =>
    obtain ⟨u, ended, closed⟩ := begins.falls raised
    exact (ih ended).up rfl closed
  | deferred chain defers ih =>
    obtain ⟨u, ended, closed⟩ := defers.falls raised
    exact (ih ended).up rfl closed

/-- A case that cannot be read or loaded ends the run at the top with its fault wherever a chain
below comes to it, and listeners are told of the fault once and then of suites that are
closed, and of nothing else. Executed by itself it answers with the fault and leaves the
world as it is: no listener is told. -/
theorem load_fault_told (stage : Stage σ) (c : Case) (f : Fault) :
    (∀ (depth k i : Nat) (s y t : State σ) (line : List (Place σ)) (rest : List Case) (seed : Row)
        (b : Bool) (past : List (List Run)),
      Descends stage depth s .chain (k + 1) line y →
      Reaches stage (innerAt stage k) y i (c :: rest) seed b past t →
      t.world.signals.isStopped t.run.signal = false → isPassed c seed = false →
      c.Fails stage seed seed f →
      ∃ g u n, (finishWith stage (innerAt stage depth)).exec s = (.error g, u) ∧
        g.root = f.root ∧
        Along (fun l => told l = .error f :: List.replicate n .closed) t u) ∧
    ∀ (stop : Signal) (w : World σ) (depth : Nat),
      c.Fails stage stage.emptyRow (stage.emptyRow.withLast true) f →
      Runner.run stage stop c w depth = (.error f, w) := by
  constructor
  · intro depth k i s y t line rest seed b past descends reached running included fails
    have raised := chain_fails reached running included fails
    obtain ⟨g, u, ended, root, l, later, n, closed⟩ := descends.falls raised
    have silent : Along (fun l => told l = []) t (t.record (.reached i false)) :=
      along_reached told_excerpt.additive t i false
    have announced : Along (fun l => told l = [.error f]) (t.record (.reached i false))
        ((t.record (.reached i false)).emit stage (.error f)) := along_emit rfl
    have closes : Along (fun l => told l = List.replicate n .closed) _ u := ⟨l, later, closed⟩
    exact ⟨g, u, n, ended, root, told_excerpt.along (told_excerpt.along silent announced) closes⟩
  · intro stop w depth fails
    cases fails with
    | unread read => rw [Runner.run, read]
    | unloaded read load => rw [Runner.run, read]; simp only [Runner.execute, load]

section Example
open Brackets

def orphan : Case where
  script := { name := "orphan" }
  loader := { source := "letters" }

def unknownSource : Fault := .dataSource "letters" (.ofText "unknown data source")

theorem orphan_fails (row seed : Row) : orphan.Fails bare row seed unknownSource :=
  .unloaded rfl rfl

def guardian : Case where
  script := { name := "guardian" }
  chain := [orphan]

theorem orphan_told_in_chain :
    (∃ y g u n, Descends bare 1 (firstState guardian) .chain 2 [⟨0, 0, firstState guardian⟩] y ∧
      (finishWith bare (innerAt bare 1)).exec (firstState guardian) = (.error g, u) ∧
      g.root = unknownSource ∧
      Along (fun l => told l = .error unknownSource :: List.replicate n .closed) y u) ∧
    Runner.run bare ⟨0, []⟩ orphan { browser := () } = (.error unknownSource, { browser := () }) := by
  obtain ⟨chained, direct⟩ := load_fault_told bare orphan unknownSource
  have chain : Descends bare 1 (firstState guardian) .chain 2 [⟨0, 0, firstState guardian⟩] _ :=
    .chain .top rfl rfl
  obtain ⟨g, u, n, ended, root, told⟩ := chained 1 1 1 _ _ _ _ [] _ true [] chain .first
    (by decide +kernel) (by decide +kernel) (orphan_fails _ _)
  exact ⟨⟨_, g, u, n, chain, ended, root, told⟩, direct _ _ _ (orphan_fails _ _)⟩

/-- Executed by itself the case fails as well, and no listener is told. -/
theorem direct_load_fault_untold :
    orphan.Fails bare bare.emptyRow (bare.emptyRow.withLast true) unknownSource ∧
      (Runner.run bare ⟨0, []⟩ orphan { browser := () }).1 = .error unknownSource ∧
      (Runner.run bare ⟨0, []⟩ orphan { browser := () }).2.events = [] :=
  ⟨orphan_fails _ _, rfl, rfl⟩

end Example

end Lineage

end Scenario

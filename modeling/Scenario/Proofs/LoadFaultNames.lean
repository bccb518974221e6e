import Scenario.Proofs.DistinctSuiteNames
import Scenario.Proofs.LoadFaultEvents

/-!
# Whose fault a fault of loading is

Where a chain comes to a case that cannot be read or loaded, the run at the top
ends with that fault under the name of a run. It is the run of the chain only if
the chain runs within its row. A chain that waits for the last row raises the
fault in the chain above it, which answers in its own name or is in turn such a
chain.
-/

set_option autoImplicit false

namespace Scenario
open Scenario.Act Scenario.Execution Scenario.Seeds Scenario.State

variable {σ : Type} {stage : Stage σ} {inner : Inner σ}

namespace Lineage
open Blame Distinct Scenario.Frame Scenario.State.Frame

/-- The name that a fault of a chain is raised under, by the line of the chain's run: the nearest
run on it that is at the top or whose chain runs within its row. -/
def answering : List (Place σ) → String
  | [] => ""
  | [p] => p.start.run.name
  | p :: q :: above =>
    if p.start.run.case.nestedChain then p.start.run.name else answering (q :: above)

section Answering
variable {p : Place σ} {above : List (Place σ)}

theorem answering_own (h : above = [] ∨ p.start.run.case.nestedChain = true) :
    answering (p :: above) = p.start.run.name := by
  cases above with
  | nil => rfl
  | cons q above =>
    rcases h with none | nested
    · cases none
    · rw [answering, if_pos nested]

theorem answering_above (some : above ≠ []) (unnested : p.start.run.case.nestedChain = false) :
    answering (p :: above) = answering above := by
  cases above with
  | nil => exact absurd rfl some
  | cons q above => rw [answering, unnested, if_neg Bool.false_ne_true]

theorem answering_mem (some : above ≠ []) : ∃ q ∈ above, answering above = q.start.run.name := by
  induction above with
  | nil => exact absurd rfl some
  | cons p above ih =>
    by_cases own : above = [] ∨ p.start.run.case.nestedChain = true
    · exact ⟨p, List.mem_cons_self, answering_own own⟩
    · rw [not_or, Bool.not_eq_true] at own
      obtain ⟨q, hq, name⟩ := ih own.1
      exact ⟨q, List.mem_cons_of_mem p hq, (answering_above own.1 own.2).trans name⟩

end Answering

/-- Where a run stands: by its place and the places above that. -/
structure Lies (x : State σ) (p : Place σ) (above : List (Place σ)) : Prop where
  name : x.run.name = p.start.run.name
  case : x.run.case = p.start.run.case
  below : ∀ q ∈ above, Below q.start.run.name p.start.run.name

section Line
variable {x y : State σ} {p : Place σ} {above : List (Place σ)}

theorem Lies.onward (h : Lies x p above) (frame : Frame x y) : Lies y p above :=
  ⟨frame.name.trans h.name, frame.case.trans h.case, h.below⟩

theorem Lies.row (h : Lies y p above) (own : Below y.run.name x.run.name) (i n : Nat) :
    Lies x ⟨i, n, x⟩ (p :: above) := by
  rw [h.name] at own
  refine ⟨rfl, rfl, fun q hq => ?_⟩
  rcases List.mem_cons.1 hq with rfl | hq
  · exact own
  · exact (h.below q hq).trans own

theorem Begins.below {i n : Nat} (h : Begins stage inner y i n x) :
    Below y.run.name x.run.name := by
  cases h with
  | @intro rows list rest row b done g t arrived went running =>
    obtain ⟨_, _, name⟩ := Suites.rowStart_run stage rows n row rest.isEmpty t
    cases arrived with
    | @intro c d later seed _ past t' _ reached _ _ _ _ =>
      have child : Below y.run.name (rowsOf stage t'.run i d seed).name := by
        rw [← reached.left.2.2]
        exact ⟨_, by simp [rowsOf, String.toList_append]; rfl⟩
      have row := within_rowName (rowsOf stage t'.run i d seed) n
      rw [name]
      exact child.within row

variable {depth k : Nat} {s : State σ} {part : Part} {line : List (Place σ)}

theorem Descends.lies (h : Descends stage depth s part k line x) :
    ∃ p above, line = p :: above ∧ Lies x p above := by
  induction h with
  | top => exact ⟨_, [], rfl, rfl, rfl, by simp⟩
  | @chain k line x t b run went waiting ih =>
    have onward := steps_onward stage k (x.run.case.steps.length + 1) (x.begun stage)
    rw [Ends, went] at onward
    have called : Frame t (t.emit stage .closed).chainCalled :=
      (frame_emit t .closed).trans ⟨.refl _, rfl, rfl, rfl, id, id⟩
    obtain ⟨p, above, same, lies⟩ := ih
    exact ⟨p, above, same, lies.onward (((frame_begun x).trans onward.frame).trans called)⟩
  | @row k i n line x y chain begins ih =>
    obtain ⟨p, above, rfl, lies⟩ := ih
    exact ⟨_, _, rfl, lies.row begins.below i n⟩
  | @deferred k i n line x y z chain defers ih =>
    obtain ⟨p, above, rfl, lies⟩ := ih
    obtain ⟨c, v, executed, same⟩ := defers.finished
    have ended := (lies.row defers.begins.below i n).onward
      (framed_exec (framed_innerAt stage k).1 executed)
    exact ⟨_, _, rfl, same ▸ ended.name, same ▸ ended.case, ended.below⟩

theorem nested_of_waiting {i n : Nat} {t : State σ} {b : Bool} (h : Begins stage inner y i n x)
    (went : (steps stage (innerAt stage k) (x.run.case.steps.length + 1) true).exec
      (x.begun stage) = (.ok b, t)) (waiting : t.run.cursor.needsChain = true) :
    x.run.case.nestedChain = true := by
  have onward := steps_onward stage k (x.run.case.steps.length + 1) (x.begun stage)
  rw [Ends, went] at onward
  rw [Cursor.needsChain, Bool.and_eq_true, onward.kept.pending] at waiting
  have pending : x.run.cursor.pending = true := waiting.1
  cases h with
  | @intro rows list rest row b done g t arrived went running =>
    obtain ⟨case, built, _⟩ := Suites.rowStart_run stage rows n row rest.isEmpty t
    rw [built, Bool.and_eq_true] at pending
    rw [case]
    exact pending.1

theorem Defers.unnested {i n : Nat} {z : State σ} (h : Defers stage inner y i n x z) :
    x.run.case.nestedChain = false := by
  cases h with
  | @intro rows list rest row b c done g t v arrived went running executed last deferred =>
    obtain ⟨case, _, _⟩ := Suites.rowStart_run stage rows n row rest.isEmpty t
    rw [isDeferred, Bool.and_eq_true, Bool.not_eq_true'] at deferred
    rw [case]
    exact deferred.2

theorem Lies.answering_iff (h : Lies x p above) :
    answering (p :: above) = p.start.run.name ↔
      above = [] ∨ p.start.run.case.nestedChain = true := by
  refine ⟨fun same => ?_, answering_own⟩
  by_cases own : above = [] ∨ p.start.run.case.nestedChain = true
  · exact own
  · rw [not_or, Bool.not_eq_true] at own
    obtain ⟨q, hq, name⟩ := answering_mem own.1
    rw [answering_above own.1 own.2, name] at same
    exact absurd same.symm (h.below q hq).ne

/-- A fault that has a name keeps it on the way up. -/
theorem Descends.passes {f : Fault} (h : Descends stage depth s part k line x)
    (named : f.isFatal = true) (raised : ((act stage k part).exec x).1 = .error f) :
    ((finishWith stage (innerAt stage depth)).exec s).1 = .error f := by
  induction h with
  | top => exact raised
  | @chain k line x t b run went waiting ih =>
    have ended := chain_raises went waiting (Prod.ext raised rfl)
    rw [Fault.inRun_of_isFatal named] at ended
    exact ih ended
  | row chain begins ih => exact ih (begins.raises (Prod.ext raised rfl))
  | deferred chain defers ih => exact ih (defers.raises (Prod.ext raised rfl))

/-- A fault of a chain is given the name that answers for it. -/
theorem Descends.blames {f : Fault} {p : Part} (h : Descends stage depth s p k line x)
    (chain : p = .chain) (raised : ((act stage k .chain).exec x).1 = .error f) :
    ((finishWith stage (innerAt stage depth)).exec s).1 = .error (f.inRun (answering line)) := by
  induction h with
  | top => cases chain
  | row => cases chain
  | @chain k line x t b run went waiting _ =>
    have ended := run.passes (Fault.isFatal_inRun _ _)
      (chain_raises went waiting (Prod.ext raised rfl))
    have onward := steps_onward stage k (x.run.case.steps.length + 1) (x.begun stage)
    rw [Ends, went] at onward
    have name : t.run.name = x.run.name := onward.frame.name
    rw [ended, name]
    cases run with
    | top => rfl
    | @row _ i n line _ y above begins =>
      have own := nested_of_waiting begins went waiting
      rw [answering_own (p := ⟨i, n, x⟩) (.inr own)]
  | @deferred k i n line x y z above defers ih =>
    obtain ⟨q, rest, rfl, _⟩ := above.lies
    rw [answering_above (List.cons_ne_nil q rest) defers.unnested]
    exact ih rfl (defers.raises (Prod.ext raised rfl))

end Line

/-- Where a chain below comes to a case that cannot be read or loaded, the run at the top ends with
that fault under the name that answers for the chain, and a fault that is new gets it. This is the
name of the run that the chain belongs to if and only if that run is at the top or its chain runs
within its row. -/
theorem load_fault_named (stage : Stage σ) {c : Case} {f : Fault} {depth k i : Nat}
    {s y t : State σ} {p : Place σ} {above : List (Place σ)} {rest : List Case} {seed : Row}
    {b : Bool} {past : List (List Run)}
    (descends : Descends stage depth s .chain (k + 1) (p :: above) y)
    (reached : Reaches stage (innerAt stage k) y i (c :: rest) seed b past t)
    (running : t.world.signals.isStopped t.run.signal = false)
    (included : isPassed c seed = false) (fails : c.Fails stage seed seed f) :
    let answer := ((finishWith stage (innerAt stage depth)).exec s).1
    answer = .error (f.inRun (answering (p :: above))) ∧
      (f.isFatal = false → (answer = .error (.fatal p.start.run.name f) ↔
        above = [] ∨ p.start.run.case.nestedChain = true)) := by
  intro answer
  have raised := congrArg Prod.fst (chain_fails reached running included fails)
  have blamed : answer = .error (f.inRun (answering (p :: above))) := descends.blames rfl raised
  refine ⟨blamed, fun new => ?_⟩
  obtain ⟨_, _, same, lies⟩ := descends.lies
  cases same
  have wrapped : ∀ name, f.inRun name = .fatal name f := by
    intro name
    cases f with
    | fatal _ _ => cases new
    | _ => rfl
  rw [blamed, wrapped, Except.error.injEq, Fault.fatal.injEq, and_iff_left rfl]
  exact lies.answering_iff

section Example
open Brackets

def sourced : Stage Unit :=
  { bare with sources := fun name => if name = "none" then some .none else none }

def elder : Case where
  script := { name := "elder" }
  chain := [guardian]

def council : State Unit :=
  let s := (firstState elder).begun sourced
  (((steps sourced (innerAt sourced 2) 1 true).exec s).2.emit sourced .closed).chainCalled

theorem elder_line :
    Descends sourced 2 (firstState elder) .chain 3 [⟨0, 0, firstState elder⟩] council :=
  .chain .top rfl rfl

def guarded : Rows := rowsOf sourced council.run 1 guardian council.run.row

theorem guardian_arrives :
    Arrives sourced (innerAt sourced 2) council 1 guarded [({} : Row).withLast true]
      (grouped sourced guarded (council.record (.reached 1 false))) := by
  have start : Reaches sourced (innerAt sourced 2) council 1 [guardian] council.run.row true []
      council := .first
  exact .intro start (by decide +kernel) (by decide +kernel) rfl rfl

def watch : State Unit :=
  rowStart sourced guarded 1 (({} : Row).withLast true) true
    (grouped sourced guarded (council.record (.reached 1 false)))

theorem guardian_line :
    ∃ z seed, Descends sourced 2 (firstState elder) .chain 2
        [⟨1, 1, watch⟩, ⟨0, 0, firstState elder⟩] z ∧
      Reaches sourced (innerAt sourced 1) z 1 [orphan] seed true [] z ∧
      z.world.signals.isStopped z.run.signal = false ∧ isPassed orphan seed = false ∧
      orphan.Fails sourced seed seed unknownSource := by
  have defers := Defers.intro guardian_arrives .first (by decide +kernel)
    (c := true) (v := ((innerAt sourced 2).finish.exec watch).2) rfl (.inl rfl) rfl
    (by decide +kernel)
  exact ⟨_, _, .deferred elder_line defers, .first, by decide +kernel, by decide +kernel,
    .unloaded rfl rfl⟩

theorem orphan_named_by_elder :
    ((finishWith sourced (innerAt sourced 2)).exec (firstState elder)).1 =
        .error (.fatal (answering [⟨1, 1, watch⟩, ⟨0, 0, firstState elder⟩]) unknownSource) ∧
      ((finishWith sourced (innerAt sourced 2)).exec (firstState elder)).1 ≠
        .error (.fatal watch.run.name unknownSource) := by
  obtain ⟨z, seed, descends, reached, running, included, fails⟩ := guardian_line
  obtain ⟨named, own⟩ := load_fault_named sourced descends reached running included fails
  refine ⟨named, fun same => ?_⟩
  rcases (own rfl).1 same with top | nested
  · cases top
  · cases nested

/-- The chain of a run comes to a case that cannot be loaded, and the fault at the top has the
name of another run. -/
theorem deferred_fault_named_otherwise :
    (∃ z seed, Descends sourced 2 (firstState elder) .chain 2
        [⟨1, 1, watch⟩, ⟨0, 0, firstState elder⟩] z ∧
      Reaches sourced (innerAt sourced 1) z 1 [orphan] seed true [] z ∧
      z.world.signals.isStopped z.run.signal = false ∧ isPassed orphan seed = false ∧
      orphan.Fails sourced seed seed unknownSource ∧ z.run.name = "elder_1_guardian") ∧
    ((finishWith sourced (innerAt sourced 2)).exec (firstState elder)).1 =
      .error (.fatal "elder" unknownSource) := by
  obtain ⟨z, seed, descends, reached, running, included, fails⟩ := guardian_line
  have raised := congrArg Prod.fst (chain_fails reached running included fails)
  have blamed := descends.blames rfl raised
  have answer : answering [⟨1, 1, watch⟩, ⟨0, 0, firstState elder⟩] = "elder" := by decide +kernel
  rw [answer] at blamed
  obtain ⟨_, _, same, lies⟩ := descends.lies
  cases same
  have name : watch.run.name = "elder_1_guardian" := by decide +kernel
  exact ⟨⟨z, seed, descends, reached, running, included, fails, lies.name.trans name⟩, blamed⟩

end Example

end Lineage

end Scenario

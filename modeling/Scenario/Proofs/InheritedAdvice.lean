import Mathlib.Data.List.Forall2
import Scenario.Proofs.DescendantRuns

/-!
# Advice that runs inherit

A chained run is advised by its own case, then by what the cases above it hand
down, the nearest one first, and at last by the stage. Only what is flagged to
take over is handed down; the advice of the stage is added by each run anew.
On its way down an interceptor may be bound more than once.
-/

set_option autoImplicit false

namespace Scenario
open Scenario.Execution Scenario.Lineage

variable {σ : Type} {stage : Stage σ}

namespace Interceptor

/-- The second is the first with its pointcut bound, any number of times. -/
inductive Bound : Interceptor Case → Interceptor Case → Prop
  | refl (i : Interceptor Case) : Bound i i
  | freeze {i j : Interceptor Case} (row : Row) (h : Bound i j) : Bound i (j.freeze row)

theorem takesOver_freeze (row : Row) (i : Interceptor Case) :
    (i.freeze row).takesOver = i.takesOver := by
  cases i <;> rfl

theorem Bound.takesOver {i j : Interceptor Case} (h : Bound i j) : j.takesOver = i.takesOver := by
  induction h with
  | refl => rfl
  | freeze row _ ih => exact (takesOver_freeze row _).trans ih

end Interceptor

namespace Aspect

/-- The same interceptors in the same order, but for binding. -/
def Bound : Aspect → Aspect → Prop := List.Forall₂ Interceptor.Bound

/-- What a case hands down through those above a run, the nearest first. -/
def handedDown (above : List Case) : Aspect := above.flatMap fun c => inherited c.aspect

/-- The advice of a run of a case, given the cases of the runs above it. -/
def effective (stage : Stage σ) (own : Case) (above : List Case) : Aspect :=
  own.aspect ++ handedDown above ++ (if own.preventsContext then [] else stage.aspect)

section Bound
variable {a b c d : Aspect}

theorem bound_refl (a : Aspect) : Bound a a := List.forall₂_same.2 fun i _ => .refl i

theorem Bound.append (h : Bound a b) (h' : Bound c d) : Bound (a ++ c) (b ++ d) :=
  List.rel_append h h'

theorem Bound.freeze (h : Bound a b) (row : Row) : Bound a (b.freeze row) :=
  List.forall₂_map_right_iff.2 (h.imp fun _ _ hi => .freeze row hi)

theorem Bound.inherited (h : Bound a b) : Bound a.inherited b.inherited :=
  List.rel_filter (fun _ _ hi => iff_of_eq (congrArg (· = true) hi.takesOver.symm)) h

theorem Bound.flagged (h : Bound a b) (flagged : a.inherited = a) :
    ∀ j ∈ b, j.takesOver = true := by
  rw [Aspect.inherited, List.filter_eq_self] at flagged
  induction h with
  | nil => simp
  | cons hi _ ih =>
    rw [List.forall_mem_cons] at flagged ⊢
    exact ⟨hi.takesOver.trans flagged.1, ih flagged.2⟩

theorem inherited_append (a b : Aspect) : (a ++ b).inherited = a.inherited ++ b.inherited :=
  List.filter_append ..

theorem handedDown_inherited (above : List Case) :
    (handedDown above).inherited = handedDown above := by
  rw [inherited, List.filter_eq_self]
  intro i hi
  obtain ⟨c, _, hi⟩ := List.mem_flatMap.1 hi
  exact (List.mem_filter.1 hi).2

end Bound

end Aspect

namespace Inheritance
open Aspect

/-- A run that has the case `own`, below runs of the cases `above`. -/
structure Heir (own : Case) (above : List Case) (r : Run) : Prop where
  case : r.case = own
  inherited : Bound (handedDown above) r.inherited

section Heir
variable {own : Case} {above : List Case} {r : Run}

theorem Heir.stays {s t : State σ} (h : Heir own above s.run) (stays : Stays s t) :
    Heir own above t.run where
  case := stays.case.trans h.case
  inherited := by
    rw [stays.inherited]
    exact h.inherited

theorem Heir.chainAspect (h : Heir own above r) :
    Bound (handedDown (own :: above)) r.chainAspect := by
  have all : Bound (own.aspect ++ handedDown above) (r.case.aspect ++ r.inherited) := by
    rw [h.case]
    exact (bound_refl own.aspect).append h.inherited
  have down := (all.freeze r.row).inherited
  rw [inherited_append, handedDown_inherited] at down
  exact down

end Heir

section Rows
variable {inner : Inner σ} {y x z : State σ} {own : Case} {above : List Case} {i n : Nat}

theorem arrives_aspect (heir : Heir own above y.run) {rows : Rows} {list : List Row} {g : State σ}
    (h : Arrives stage inner y i rows list g) :
    Bound (handedDown (own :: above)) rows.aspect := by
  obtain ⟨reached, _, _, _, _⟩ := h
  have down := heir.chainAspect
  rw [← reached.left.2.2] at down
  exact down

theorem begins_heir (heir : Heir own above y.run) (h : Begins stage inner y i n x) :
    Heir x.run.case (own :: above) x.run := by
  obtain ⟨arrived, _, _⟩ := h
  refine ⟨rfl, ?_⟩
  rw [(rowStart_advice ..).2.1]
  exact arrives_aspect heir arrived

theorem begins_built (h : Begins stage inner y i n x) :
    x.run.aspect = x.run.case.aspect ++ x.run.inherited ++
      (if x.run.case.preventsContext then [] else stage.aspect) := by
  obtain ⟨_, _, _⟩ := h
  exact (rowStart_advice ..).2.2

end Rows

theorem defers_heir {k i n : Nat} {y x z : State σ} {own : Case} {above : List Case}
    (heir : Heir own above y.run) (h : Defers stage (innerAt stage k) y i n x z) :
    Heir x.run.case (own :: above) z.run := by
  obtain ⟨c, v, executed, same⟩ := h.finished
  have stays := finish_stays stage k x
  rw [Act.Ends, executed] at stays
  rw [same]
  exact (begins_heir heir h.begins).stays stays

/-- Each run and each chain on its way down has the case of its place, and has inherited from
the cases above it. -/
theorem descends_heir {depth k : Nat} {s x : State σ} {part : Part} {line : List (Place σ)}
    (root : s.run.inherited = []) (h : Descends stage depth s part k line x) :
    ∃ p above, line = p :: above ∧
      Heir p.start.run.case (above.map fun q => q.start.run.case) x.run := by
  induction h with
  | top =>
    refine ⟨_, [], rfl, rfl, ?_⟩
    rw [root]
    exact .nil
  | @chain k line x t b run went waiting ih =>
    obtain ⟨p, above, rfl, heir⟩ := ih
    have steps := steps_onward stage k (x.run.case.steps.length + 1) (x.begun stage)
    rw [Act.Ends, went] at steps
    have stays : Stays x (t.emit stage .closed).chainCalled :=
      ⟨steps.kept.case, steps.kept.inherited⟩
    exact ⟨p, above, rfl, heir.stays stays⟩
  | row chain begins ih =>
    obtain ⟨p, above, rfl, heir⟩ := ih
    exact ⟨_, p :: above, rfl, begins_heir heir begins⟩
  | deferred chain defers ih =>
    obtain ⟨p, above, rfl, heir⟩ := ih
    exact ⟨_, p :: above, rfl, defers_heir heir defers⟩

/-- A run on its way down is built from its case, from what it inherited and from the stage. -/
theorem descends_built {depth k : Nat} {s x : State σ} {line : List (Place σ)}
    (built : s.run.aspect = s.run.case.aspect ++ s.run.inherited ++
      (if s.run.case.preventsContext then [] else stage.aspect))
    (h : Descends stage depth s .run k line x) :
    x.run.aspect = x.run.case.aspect ++ x.run.inherited ++
        (if x.run.case.preventsContext then [] else stage.aspect) ∧
      ∃ i n above, line = ⟨i, n, x⟩ :: above := by
  cases h with
  | top => exact ⟨built, 0, 0, [], rfl⟩
  | row chain begins => exact ⟨begins_built begins, _, _, _, rfl⟩

/-- A run below one that inherits nothing is advised, in this order and each once but for
binding, by its own case, by what is flagged of the cases of the runs above it, the nearest
first, and by the stage unless its case prevents it. It inherits what the cases above hand
down and nothing else: nothing of the stage and nothing without the flag. -/
theorem descends_effective (stage : Stage σ) (depth : Nat) (w : World σ) (setup : Run.Setup)
    (root : setup.inherited = []) {k : Nat} {line : List (Place σ)} {x : State σ}
    (h : let (run, w) := Run.build stage w setup
      Descends stage depth ⟨w, run⟩ .run k line x) :
    ∃ i n above, line = ⟨i, n, x⟩ :: above ∧
      let cases := above.map fun p => p.start.run.case
      Bound (effective stage x.run.case cases) x.run.aspect ∧
        Bound (effective stage x.run.case cases) (x.begun stage).run.aspect ∧
        Bound (handedDown cases) x.run.inherited ∧ ∀ i ∈ x.run.inherited, i.takesOver = true := by
  obtain ⟨p, above, split, heir⟩ := descends_heir (by exact root) h
  obtain ⟨built, i, n, above', same⟩ := descends_built rfl h
  rw [split] at same
  cases same
  have advised : Bound (effective stage x.run.case (above.map fun p => p.start.run.case))
      x.run.aspect := by
    rw [built]
    exact ((bound_refl _).append heir.inherited).append (bound_refl _)
  exact ⟨i, n, above, split, advised, advised.freeze _, heir.inherited,
    heir.inherited.flagged (handedDown_inherited _)⟩

section Example
open Act Brackets Seeds

def sign (name : String) (takesOver : Bool) : Interceptor Case :=
  .script none (some { script := { name } }) none none takesOver

def grandchild : Case where
  script := { name := "grandchild" }
  aspect := [sign "own" false]

def child : Case where
  script := { name := "child" }
  aspect := [sign "kept" false, sign "near" true]
  chain := [grandchild]
  nestedChain := true

def ancestor : Case where
  script := { name := "ancestor" }
  aspect := [sign "far" true, sign "kept" false]
  chain := [child]

def guided : Stage Unit := { lettered with aspect := [sign "stage" true] }

def ancestorSetup : Run.Setup := { case := ancestor, signal := ⟨0, []⟩ }

def root : State Unit :=
  let (run, w) := Run.build guided { browser := () } ancestorSetup
  ⟨w, run⟩

theorem grandchild_advised :
    ∃ line x, Descends guided 2 root .run 1 line x ∧ line.length = 3 ∧
      Bound [sign "own" false, sign "near" true, sign "far" true, sign "stage" true]
        x.run.aspect := by
  have chain : Descends guided 2 root .chain 3 [⟨0, 0, root⟩] _ := .chain .top rfl rfl
  have row := Descends.row chain
    (.intro (.intro .first rfl (by decide +kernel) rfl rfl) .first rfl)
  have chain' := Descends.chain row rfl rfl
  have row' := Descends.row chain'
    (.intro (.intro .first rfl (by decide +kernel) rfl rfl) .first rfl)
  obtain ⟨_, _, _, ⟨⟩, advised, _⟩ := descends_effective guided 2 _ ancestorSetup rfl row'
  exact ⟨_, _, row', rfl, advised⟩

end Example

end Inheritance

end Scenario

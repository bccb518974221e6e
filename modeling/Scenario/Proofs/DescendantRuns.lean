import Scenario.Proofs.CaseDisciplines
import Scenario.Proofs.ChainVariables
import Scenario.Proofs.FailureEntries

/-!
# Runs below a run

A run begins the runs of the rows of its chained cases, and each of those may
begin more. A chain belongs to a run and begins when the steps of the run are
over, or after the last row of its case if it is deferred. The line of a run
leads from it up to the run at the top.
-/

set_option autoImplicit false

namespace Scenario
open Scenario.Act Scenario.Execution Scenario.Seeds Scenario.State

variable {σ : Type} {stage : Stage σ} {inner : Inner σ}

/-- The case and the cases that it refers to are advised neither by themselves nor by the stage,
and all their steps are as asked for. -/
inductive Case.Bare (stage : Stage σ) (P : Step → Prop) : Case → Prop
  | intro {c : Case} (aspect : c.aspect = [])
      (unimposed : c.preventsContext = true ∨ stage.aspect = [])
      (steps : ∀ p ∈ c.steps, P p)
      (chain : ∀ d ∈ c.chain, Bare stage P d)
      (read : ∀ f, c.resolve = some f → ∀ row d, f row = .ok d → Bare stage P d) : Bare stage P c

structure Run.Bare (stage : Stage σ) (P : Step → Prop) (r : Run) : Prop where
  case : r.case.Bare stage P
  inherited : r.inherited = []

section Bare
variable {P : Step → Prop} {c d : Case} {r : Run}

theorem Case.Bare.aspect (h : c.Bare stage P) : c.aspect = [] := by
  cases h with
  | intro aspect => exact aspect

theorem Case.Bare.steps (h : c.Bare stage P) : ∀ p ∈ c.steps, P p := by
  cases h with
  | intro _ _ steps => exact steps

theorem Case.Bare.chain (h : c.Bare stage P) (hd : d ∈ c.chain) : d.Bare stage P := by
  cases h with
  | intro _ _ _ chain => exact chain d hd

theorem Case.Bare.imposed (h : c.Bare stage P) :
    (if c.preventsContext then [] else stage.aspect) = [] := by
  cases h with
  | intro _ unimposed =>
    rcases unimposed with prevents | free
    · rw [prevents]
      rfl
    · rw [free, ite_self]

theorem Case.Bare.read (h : c.Bare stage P) {row : Row} (read : c.materialize row = .ok d) :
    d.Bare stage P := by
  rw [Case.materialize] at read
  split at read
  · rename_i f hf
    split at read
    · rename_i e he
      cases read
      cases h with
      | intro _ _ _ _ sources =>
        cases sources f hf row e he with
        | intro aspect unimposed steps chain _ =>
          exact .intro aspect unimposed steps chain fun _ none => by cases none
    · cases read
  · cases read
    exact h

theorem Run.Bare.chainAspect (h : r.Bare stage P) : r.chainAspect = [] := by
  rw [Run.chainAspect, h.case.aspect, h.inherited]
  rfl

end Bare

namespace Lineage

theorem rowStart_advice (rows : Rows) (n : Nat) (row : Row) (isLast : Bool) (s : State σ) :
    let r := (rowStart stage rows n row isLast s).run
    r.case = rows.case ∧ r.inherited = rows.aspect ∧
      r.aspect = r.case.aspect ++ r.inherited ++
        (if r.case.preventsContext then [] else stage.aspect) := by
  simp only [rowStart]
  cases rows.case.sharesState <;> exact ⟨rfl, rfl, rfl⟩

theorem rowStart_bare {P : Step → Prop} {rows : Rows} (bare : rows.case.Bare stage P)
    (inherited : rows.aspect = []) (n : Nat) (row : Row) (isLast : Bool) (s : State σ) :
    let r := (rowStart stage rows n row isLast s).run
    r.Bare stage P ∧ r.aspect = [] := by
  obtain ⟨case, same, built⟩ := rowStart_advice rows n row isLast s
  have own : (rowStart stage rows n row isLast s).run.case.Bare stage P := by
    rw [case]
    exact bare
  have none : (rowStart stage rows n row isLast s).run.inherited = [] := same.trans inherited
  refine ⟨⟨own, none⟩, ?_⟩
  rw [built, own.aspect, none, own.imposed]
  rfl

section Chain
variable (stage : Stage σ) (inner : Inner σ) (y : State σ)

/-- A chain has come to the case with this number, has read it and loaded its rows. -/
inductive Arrives : Nat → Rows → List Row → State σ → Prop
  | intro {i : Nat} {c d : Case} {rest : List Case} {seed : Row} {b : Bool}
      {past : List (List Run)} {t : State σ} {list : List Row}
      (reached : Reaches stage inner y i (c :: rest) seed b past t)
      (running : t.world.signals.isStopped t.run.signal = false)
      (included : isPassed c seed = false)
      (read : c.materialize seed = .ok d)
      (loaded : d.effectiveLoader.load stage.sources stage.dataDir seed = .ok list) :
      Arrives i (rowsOf stage t.run i d seed) list
        (grouped stage (rowsOf stage t.run i d seed) (t.record (.reached i false)))

/-- The run of a row begins, known by the number of its case and its own. -/
inductive Begins : Nat → Nat → State σ → Prop
  | intro {i n : Nat} {rows : Rows} {list rest : List Row} {row : Row} {b : Bool}
      {done : List Run} {g t : State σ}
      (arrived : Arrives stage inner y i rows list g)
      (went : Rowing stage inner rows list g n (row :: rest) b done t)
      (running : t.world.signals.isStopped t.run.signal = false) :
      Begins i n (rowStart stage rows n row rest.isEmpty t)

/-- The deferred chain of a case begins in the last run of its rows. -/
inductive Defers : Nat → Nat → State σ → State σ → Prop
  | intro {i n : Nat} {rows : Rows} {list rest : List Row} {row : Row} {b c : Bool}
      {done : List Run} {g t v : State σ}
      (arrived : Arrives stage inner y i rows list g)
      (went : Rowing stage inner rows list g n (row :: rest) b done t)
      (running : t.world.signals.isStopped t.run.signal = false)
      (executed : inner.finish.exec (rowStart stage rows n row rest.isEmpty t) = (.ok c, v))
      (last : rest = [] ∨ (t.after v).world.signals.isStopped (t.after v).run.signal = true)
      (deferred : isDeferred rows.case = true)
      (awaited : (v.run.aborted || isStopped ⟨(ungrouped stage rows (t.after v)).world, v.run⟩) =
        false) :
      Defers i n (rowStart stage rows n row rest.isEmpty t)
        ⟨(ungrouped stage rows (t.after v)).world, v.run⟩

end Chain

theorem Defers.begins {y x z : State σ} {i n : Nat} (h : Defers stage inner y i n x z) :
    Begins stage inner y i n x := by
  cases h with
  | intro arrived went running => exact .intro arrived went running

theorem Defers.finished {y x z : State σ} {i n : Nat} (h : Defers stage inner y i n x z) :
    ∃ c v, inner.finish.exec x = (.ok c, v) ∧ z.run = v.run := by
  cases h with
  | intro arrived went running executed => exact ⟨_, _, executed, rfl⟩

/-- A run on a line, by the numbers of its case and its row and the state in which it begins. -/
structure Place (σ : Type) where
  index : Nat
  row : Nat
  start : State σ

inductive Part where
  | run
  | chain
  deriving DecidableEq, Repr

/-- The runs and the chains below a run, each with the depth that is left for it, the line of
its run, which leads up from it, and the state in which it begins. -/
inductive Descends (stage : Stage σ) (depth : Nat) (s : State σ) :
    Part → Nat → List (Place σ) → State σ → Prop
  | top : Descends stage depth s .run (depth + 1) [⟨0, 0, s⟩] s
  | chain {k : Nat} {line : List (Place σ)} {x t : State σ} {b : Bool}
      (run : Descends stage depth s .run (k + 1) line x)
      (went : (steps stage (innerAt stage k) (x.run.case.steps.length + 1) true).exec
        (x.begun stage) = (.ok b, t))
      (waiting : t.run.cursor.needsChain = true) :
      Descends stage depth s .chain (k + 1) line (t.emit stage .closed).chainCalled
  | row {k i n : Nat} {line : List (Place σ)} {x y : State σ}
      (chain : Descends stage depth s .chain (k + 1) line y)
      (begins : Begins stage (innerAt stage k) y i n x) :
      Descends stage depth s .run k (⟨i, n, x⟩ :: line) x
  | deferred {k i n : Nat} {line : List (Place σ)} {x y z : State σ}
      (chain : Descends stage depth s .chain (k + 1) line y)
      (defers : Defers stage (innerAt stage k) y i n x z) :
      Descends stage depth s .chain k (⟨i, n, x⟩ :: line) z

def act (stage : Stage σ) (k : Nat) : Part → Act σ Fault Bool
  | .run => (innerAt stage k).finish
  | .chain => (innerAt stage k).chain

structure Stays (s t : State σ) : Prop where
  case : t.run.case = s.run.case
  inherited : t.run.inherited = s.run.inherited

theorem Stays.trans {s t u : State σ} (h : Stays s t) (h' : Stays t u) : Stays s u :=
  ⟨h'.case.trans h.case, h'.inherited.trans h.inherited⟩

section Kept
variable (stage) (depth : Nat)

theorem steps_onward (left : Nat) (s : State σ) :
    Ends (steps stage (innerAt stage depth) left true) s fun _ t => Marks.Onward s t := by
  have turns : (Marks.marking σ).Turns stage (innerAt stage depth) :=
    Conduct.turns Marks.marking_lawful fun x _ => Marks.frame_innerAt stage depth x
  exact ends_mono (Conduct.steps_ends Marks.marking_lawful.toMobile turns trivial left true
    (.refl s)) fun _ _ h => Marks.onward_answers h

theorem stays_ended {s t : State σ} (h : Stays s t) : Stays s (t.ended stage) := by
  have released : Stays s (t.released stage) := ⟨h.case, h.inherited⟩
  exact ⟨(congrArg Run.case (ended_run stage t)).trans released.case,
    (congrArg Run.inherited (ended_run stage t)).trans released.inherited⟩

theorem endRun_stays (b : Bool) (s : State σ) :
    Ends (endRun stage (chain stage (innerAt stage depth)) b) s fun _ t => Stays s t := by
  rw [Course.endRun_iff]
  split
  · refine ends_mono ((Course.innerAt_ends (Plain.course_lawful Frame.lawful) (depth + 1)).2 _
      trivial) fun r u hu => ?_
    have called : Stays s (s.emit stage .closed).chainCalled := ⟨rfl, rfl⟩
    have stays : Stays s u :=
      called.trans ⟨congrArg Run.case hu.1, congrArg Run.inherited hu.1⟩
    cases r with
    | error f => exact ⟨stays.case, stays.inherited⟩
    | ok c => exact stays_ended stage stays
  · exact stays_ended stage ⟨rfl, rfl⟩

theorem halt_stays (f : Fault) (s : State σ) :
    Ends (halt stage f) s fun _ t => Stays s t := by
  rw [Course.halt_iff]
  split <;> exact ⟨rfl, rfl⟩

theorem finish_stays (s : State σ) :
    Ends (innerAt stage depth).finish s fun _ t => Stays s t := by
  cases depth with
  | zero =>
    rw [Course.beyond_iff]
    exact ⟨rfl, rfl⟩
  | succ depth =>
    show Ends (finishWith stage (innerAt stage depth)) s _
    rw [Course.finishWith_iff]
    refine ends_mono (steps_onward stage depth _ (s.begun stage)) fun r t went => ?_
    have stays : Stays s t := ⟨went.kept.case, went.kept.inherited⟩
    cases r with
    | ok b => exact ends_mono (endRun_stays stage depth b t) fun _ _ h => stays.trans h
    | error f => exact ends_mono (halt_stays stage f t) fun _ _ h => stays.trans h

end Kept

section Under
variable {D : Discipline} {depth k : Nat} {s x : State σ} {part : Part} {line : List (Place σ)}

theorem begins_under {y : State σ} {i n : Nat} (case : y.run.case.Under D)
    (inherited : Aspect.Under D y.run.inherited) (h : Begins stage inner y i n x) :
    x.run.case.Under D ∧ Aspect.Under D x.run.inherited := by
  obtain ⟨⟨reached, _, _, read, _⟩, _, _⟩ := h
  obtain ⟨own, down, _⟩ := rowStart_advice ..
  rw [own, down]
  refine ⟨(case.chain reached.member).read read, ?_⟩
  show Aspect.Under D (Run.chainAspect _)
  rw [reached.left.2.2]
  exact ((case.aspect.append inherited).frozen _).inherited

/-- The runs and the chains below a run are under its discipline. -/
theorem descends_under (case : s.run.case.Under D) (inherited : Aspect.Under D s.run.inherited)
    (h : Descends stage depth s part k line x) :
    x.run.case.Under D ∧ Aspect.Under D x.run.inherited := by
  have stay : ∀ {y z : State σ}, Stays y z → y.run.case.Under D ∧ Aspect.Under D y.run.inherited →
      z.run.case.Under D ∧ Aspect.Under D z.run.inherited := by
    intro y z stays under
    rw [stays.case, stays.inherited]
    exact under
  induction h with
  | top => exact ⟨case, inherited⟩
  | @chain k line x t b run went waiting ih =>
    have steps := steps_onward stage k (x.run.case.steps.length + 1) (x.begun stage)
    rw [Act.Ends, went] at steps
    exact stay ⟨steps.kept.case, steps.kept.inherited⟩ ih
  | row chain begins ih => exact begins_under ih.1 ih.2 begins
  | @deferred k i n line x y z chain defers ih =>
    obtain ⟨c, v, executed, same⟩ := defers.finished
    have stays := finish_stays stage k x
    rw [Act.Ends, executed] at stays
    rw [same]
    exact stay stays (begins_under ih.1 ih.2 defers.begins)

end Under

end Lineage

end Scenario

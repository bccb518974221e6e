import Scenario.Proofs.ChainVariables
import Scenario.Proofs.SmoothRuns
import Scenario.Proofs.SuiteGrammar

/-!
# Names of suites

Where nothing fails and nothing is passed over, the suites of a run are named
after the tree of its case. A chained case bears the name of the run above it,
its place in the chain and its own name; rows of several lines are numbered
below a suite of that name. A chain that runs within each row is named after
the row, and one that waits for the last row after that one.
-/

set_option autoImplicit false

namespace Scenario
open Scenario.Act Scenario.Execution

variable {σ : Type} {stage : Stage σ}

/-- A tree of cases that are at hand and have no interceptors, and on which the stage imposes
none. -/
inductive Case.Simple (stage : Stage σ) : Case → Prop
  | intro {c : Case} (own : c.aspect = [])
      (imposed : c.preventsContext = true ∨ stage.aspect = []) (read : c.resolve = none)
      (chain : ∀ d ∈ c.chain, Simple stage d) : Simple stage c

structure Run.Simple (stage : Stage σ) (r : Run) : Prop where
  case : r.case.Simple stage
  aspect : r.aspect = []
  inherited : r.inherited = []

namespace Event

def suite? : Event → Option String
  | .opened n _ _ => some n
  | _ => none

end Event

namespace Naming
open Suites State

section Reference

def rowVars (stage : Stage σ) (c : Case) (seed row : Row) : Row :=
  { (seed.withoutNumber.merge row).withLast
      (if isGrouped stage.sources c then row.last else seed.last) with env := stage.env }

/-- A run of a case under a name, begun with some variables, succeeds and leaves others. -/
def Leaves (stage : Stage σ) (name : String) (c : Case) (x y : Row) : Prop :=
  ∃ depth s t, s.run.name = name ∧ s.run.case = c ∧ s.run.row = x ∧
    (innerAt stage depth).finish.exec s = (.ok true, t) ∧ t.run.row = y

def groupNames (sources : String → Option DataSource) (c : Case) (name : String) : List String :=
  if isGrouped sources c then [name] else []

mutual

/-- The names of the suites of chained cases: given the name of the run above them and whether
it takes over variables, the place of the first of them in its chain, and the variables with
which that one begins. -/
inductive ChainNames (stage : Stage σ) :
    String → Bool → Nat → List Case → Row → List String → Prop
  | nil {run : String} {takesOver : Bool} {place : Nat} {seed : Row} :
      ChainNames stage run takesOver place [] seed []
  | rowless {run : String} {takesOver : Bool} {place : Nat} {c : Case} {rest : List Case}
      {seed : Row} {later : List String}
      (loaded : c.effectiveLoader.load stage.sources stage.dataDir seed = .ok [])
      (next : ChainNames stage run takesOver (place + 1) rest seed later) :
      ChainNames stage run takesOver place (c :: rest) seed
        (groupNames stage.sources c (childName run place c) ++ later)
  | rows {run : String} {takesOver : Bool} {place : Nat} {c : Case} {rest : List Case}
      {seed last : Row} {list : List Row} {rows deferred later : List String}
      (loaded : c.effectiveLoader.load stage.sources stage.dataDir seed = .ok list)
      (ran : RowNames stage c (childName run place c) seed 1 list last rows)
      (after : ChainNames stage
        (rowName stage.sources c (childName run place c) list.length) c.takesOver 0
        (deferredChain c) last deferred)
      (next : ChainNames stage run takesOver (place + 1) rest
        (nextSeed takesOver seed (some last)) later) :
      ChainNames stage run takesOver place (c :: rest) seed
        (groupNames stage.sources c (childName run place c) ++ rows ++ deferred ++ later)

/-- The names of the suites of the rows of a chained case: given its name, the variables that it
begins with, the number of the first of the rows, and the variables that the last one leaves. -/
inductive RowNames (stage : Stage σ) :
    Case → String → Row → Nat → List Row → Row → List String → Prop
  | last {c : Case} {name : String} {seed row x : Row} {n : Nat} {nested : List String}
      (left : Leaves stage (rowName stage.sources c name n) c (rowVars stage c seed row) x)
      (chain : ChainNames stage (rowName stage.sources c name n) c.takesOver 0
        (nestedChain c) x nested) :
      RowNames stage c name seed n [row] x (rowName stage.sources c name n :: nested)
  | next {c : Case} {name : String} {seed row x y : Row} {n : Nat} {rest : List Row}
      {nested later : List String}
      (left : Leaves stage (rowName stage.sources c name n) c (rowVars stage c seed row) x)
      (chain : ChainNames stage (rowName stage.sources c name n) c.takesOver 0
        (nestedChain c) x nested)
      (rows : RowNames stage c name seed (n + 1) rest y later) :
      RowNames stage c name seed n (row :: rest) y
        (rowName stage.sources c name n :: (nested ++ later))

end

end Reference

def opened (l : List TraceEntry) : List String := (told l).filterMap Event.suite?

theorem opened_excerpt : Excerpt opened := told_excerpt.filterMap Event.suite?

section Simple
variable {s t : State σ} {r r' : Run}

theorem simple_chain {c d : Case} (h : c.Simple stage) (hd : d ∈ c.chain) : d.Simple stage := by
  cases h with
  | intro _ _ _ chain => exact chain d hd

theorem simple_read {c : Case} (h : c.Simple stage) (seed : Row) : c.materialize seed = .ok c := by
  cases h with
  | intro _ _ read _ => rw [Case.materialize, read]

theorem simple_same (h : r.Simple stage) (case : r'.case = r.case) (aspect : r'.aspect = r.aspect)
    (inherited : r'.inherited = r.inherited) : r'.Simple stage := by
  refine ⟨?_, aspect.trans h.aspect, inherited.trans h.inherited⟩
  rw [case]
  exact h.case

theorem chainAspect_simple (h : r.Simple stage) : r.chainAspect = [] := by
  cases h.case with
  | intro own _ _ _ => rw [Run.chainAspect, own, h.inherited]; rfl

theorem simple_begun (h : s.run.Simple stage) : (s.begun stage).run.Simple stage := by
  refine ⟨h.case, ?_, h.inherited⟩
  show Aspect.freeze _ s.run.aspect = []
  rw [h.aspect]
  rfl

theorem simple_rowStart {rows : Rows} (case : rows.case.Simple stage) (inherited : rows.aspect = [])
    (n : Nat) (row : Row) (isLast : Bool) (s : State σ) :
    (rowStart stage rows n row isLast s).run.Simple stage := by
  have aspect : rows.case.aspect ++ rows.aspect ++
      (if rows.case.preventsContext then [] else stage.aspect) = [] := by
    cases case with
    | intro own imposed _ _ =>
      rw [own, inherited]
      rcases imposed with prevents | bare
      · rw [prevents]
        rfl
      · rw [bare]
        cases rows.case.preventsContext <;> rfl
  simp only [rowStart]
  cases rows.case.sharesState <;> exact ⟨case, aspect, inherited⟩

end Simple

structure Still (s t : State σ) : Prop where
  unopened : Along (fun l => opened l = []) s t
  kept : s.run.Kept t.run

section Still
variable {s t u : State σ}

theorem still_trans (h : Still s t) (h' : Still t u) : Still s u :=
  ⟨along_trans opened_excerpt.additive h.unopened h'.unopened, h.kept.trans h'.kept⟩

theorem still_move (h : Move stage s t) : Still s t :=
  ⟨along_move opened_excerpt.additive h, Run.kept_move h⟩

theorem still_emit (s : State σ) {e : Event} (he : e.suite? = none) : Still s (s.emit stage e) := by
  refine ⟨along_emit ?_, .refl _⟩
  show [e].filterMap Event.suite? = []
  rw [List.filterMap_cons_none he, List.filterMap_nil]

theorem still_around {e e' : Event} (he : e.suite? = none) (he' : e'.suite? = none)
    (h : Still (s.emit stage e) t) : Still s (t.emit stage e') :=
  still_trans (still_trans (still_emit s he) h) (still_emit t he')

theorem still_step {l : String} {e : Event} (h : Still (s.emit stage (.started l)) t)
    (h' : Still (t.emit stage e) u) (he : e.suite? = none) : Still s (u.emit stage .ended) :=
  still_around rfl rfl (still_trans h (still_trans (still_emit t he) h'))

theorem still_record (s : State σ) {e : TraceEntry} (he : e.event? = none) :
    Still s (s.record e) := by
  refine ⟨along_record ?_, .refl _⟩
  rw [opened, told, List.reverse_singleton, List.filterMap_cons_none he]
  rfl

def still (σ : Type) : Conduct σ where
  ready := fun s => ∀ i ∈ s.run.aspect, i.isHooks = true
  able := fun i => i.isHooks = true
  goes := Still
  fails := Still
  raises := fun _ => Still
  rejects := fun _ => Still
  spoils := fun _ => Still
  whole := fun _ _ _ => True

theorem part_of_isHooks {i : Interceptor Case} {k : AdviceKind} {c : Case}
    (hook : i.isHooks = true) : i.part k ≠ some c := by
  cases i with
  | script _ _ _ _ _ => cases hook
  | hooks _ _ _ _ _ => exact fun none => by cases none

theorem still_lawful : (still σ).Lawful stage where
  refl := fun _ => ⟨along_same opened_excerpt.additive rfl, .refl _⟩
  trans := still_trans
  overlook := id
  goes_fails := still_trans
  fails_goes := still_trans
  goes_raises := still_trans
  goes_rejects := still_trans
  goes_spoils := still_trans
  ready := by
    intro s t hooked went i hi
    rw [went.kept.aspect] at hi
    exact hooked i hi
  able := fun hooked hi => hooked _ hi
  move := fun _ h => still_move h
  raises_standing := fun i _ h => still_trans h (still_move (.stand i : Move stage _ _))
  told := fun _ h => h
  advice := fun _ _ _ hook part => absurd part (part_of_isHooks hook)
  hookAnswered := fun _ _ _ _ _ => still_record _ rfl
  hookRaised := by
    intro s i f k _ _ _
    cases k <;> exact still_record s rfl
  adviceDone := fun _ hook part => absurd part (part_of_isHooks hook)
  adviceRaised := fun _ hook part => absurd part (part_of_isHooks hook)
  passed := fun _ h => still_around rfl rfl h
  failed := fun _ h h' => ⟨still_step h h' rfl, still_step h h' rfl⟩
  failedRaises := fun _ h h' => still_step h h' rfl
  raised := by
    rintro s t u l f _ _ h (h' | ⟨_, h'⟩)
    · exact still_step h h' rfl
    · exact still_step h h' rfl
  reported := fun _ h => still_around rfl rfl h
  rejected := fun _ h h' => still_trans (still_trans (still_emit _ rfl) h) h'

theorem steps_still (inner : Inner σ) (hooked : ∀ i ∈ s.run.aspect, i.isHooks = true)
    (left : Nat) :
    Ends (steps stage inner left true) s fun _ t => Still s t := by
  have lawful : (still σ).Lawful stage := still_lawful
  have turn : (still σ).Turns stage inner := Conduct.turns lawful fun _ _ => trivial
  apply ends_mono (Conduct.steps_ends lawful.toMobile turn hooked left true (lawful.refl hooked))
  intro r t went
  rcases r with f | _ | _ <;> exact went

end Still

/-- A run succeeds and opens its own suite, and then those that are named after its chain. -/
structure Named (stage : Stage σ) (s : State σ) (r : Except Fault Bool) (t : State σ) : Prop where
  answer : r = .ok true
  aborted : t.run.aborted = s.run.aborted
  names : ∃ names, Along (fun l => opened l = s.run.name :: names) s t ∧
    ChainNames stage s.run.name s.run.case.takesOver 0 s.run.waiting t.run.row names

structure Finishes (stage : Stage σ) (s : State σ) (r : Except Fault Bool) (t : State σ) :
    Prop where
  simple : t.run.Simple stage
  smoothly : Smoothly (Named stage s r t) s t

structure Links (stage : Stage σ) (place : Nat) (l : List Case) (seed : Row) (b : Bool)
    (s : State σ) (r : Except Fault Bool) (t : State σ) : Prop where
  same : t.run = s.run
  smoothly : Smoothly (r = .ok b ∧ ∃ names, Along (fun l => opened l = names) s t ∧
    ChainNames stage s.run.name s.run.case.takesOver place l seed names) s t

structure Linked (stage : Stage σ) (place : Nat) (c : Case) (seed : Row) (s : State σ)
    (r : Except Fault (Bool × Option Row)) (t : State σ) : Prop where
  same : t.run = s.run
  smoothly : Smoothly (∃ last names, r = .ok (true, last) ∧ Along (fun l => opened l = names) s t ∧
    ∀ takesOver rest later, ChainNames stage s.run.name takesOver (place + 1) rest
        (nextSeed takesOver seed last) later →
      ChainNames stage s.run.name takesOver place (c :: rest) seed (names ++ later)) s t

structure RowRun (stage : Stage σ) (rows : Rows) (n : Nat) (s : State σ) (r : Run) (t : State σ) :
    Prop where
  name : r.name = rowName stage.sources rows.case rows.name n
  case : r.case = rows.case
  aborted : r.aborted = false
  below : Below s r t

structure RowNamed (stage : Stage σ) (rows : Rows) (n : Nat) (row : Row) (s : State σ) (r : Run)
    (t : State σ) : Prop extends RowRun stage rows n s r t where
  left : Leaves stage (rowName stage.sources rows.case rows.name n) rows.case
    (rowVars stage rows.case rows.seed row) r.row
  nested : ∃ nested, Along (fun l => opened l =
      rowName stage.sources rows.case rows.name n :: nested) s t ∧
    ChainNames stage (rowName stage.sources rows.case rows.name n) rows.case.takesOver 0
      (nestedChain rows.case) r.row nested

structure Ran (stage : Stage σ) (rows : Rows) (n : Nat) (row : Row) (rest : List Row) (b : Bool)
    (s : State σ) (r : Except Fault (Bool × Option Run)) (t : State σ) : Prop where
  same : t.run = s.run
  simple : ∀ c v, r = .ok (c, some v) → v.Simple stage
  smoothly : Smoothly (∃ v names, r = .ok (b, some v) ∧
    RowRun stage rows (n + rest.length) s v t ∧ Along (fun l => opened l = names) s t ∧
    RowNames stage rows.case rows.name rows.seed n (row :: rest) v.row names) s t

section Rows
variable {depth : Nat} {rows : Rows} {s t v : State σ} {n : Nat} {row : Row} {isLast c : Bool}
  (multi : rows.multiLine = isGrouped stage.sources rows.case)
include multi

theorem rowStart_vars (n : Nat) (row : Row) (isLast : Bool) (s : State σ) :
    (rowStart stage rows n row isLast s).run.row = rowVars stage rows.case rows.seed row := by
  rw [Seeds.rowStart_row, rowVars, multi]

theorem row_named
    (executed : (innerAt stage depth).finish.exec (rowStart stage rows n row isLast s) =
      (.ok c, v))
    (done : Named stage (rowStart stage rows n row isLast s) (.ok c) v)
    (frame : Frame (rowStart stage rows n row isLast s) v) :
    c = true ∧ RowNamed stage rows n row s v.run (s.after v) := by
  have name := rowStart_name multi n row isLast s
  obtain ⟨case, _, _⟩ := rowStart_run stage rows n row isLast s
  have aborted : (rowStart stage rows n row isLast s).run.aborted = false := by
    simp only [rowStart]
    cases rows.case.sharesState <;> rfl
  obtain ⟨nested, told, chain⟩ := done.names
  rw [name, case, rowStart_waiting] at chain
  rw [name] at told
  cases done.answer
  refine ⟨rfl, ⟨frame.name.trans name, frame.case.trans case, done.aborted.trans aborted, ?_⟩, ?_,
    nested, along_row told, chain⟩
  · exact Frame.child_below (Frame.child_row ..) frame
  · exact ⟨depth, _, v, name, case, rowStart_vars multi n row isLast s, executed, rfl⟩

variable
  (finishes : ∀ s, s.run.Simple stage → Ends (innerAt stage depth).finish s (Finishes stage s))
  (case : rows.case.Simple stage) (inherited : rows.aspect = [])
include finishes case inherited

theorem runRows_first {rest : List Row} {b : Bool} {last : Option Run}
    (hlast : ∀ v, last = some v → v.Simple stage)
    (later : ∀ c v, v.run.Simple stage →
      Smoothly (c = true ∧ RowNamed stage rows n row s v.run (s.after v)) s (s.after v) →
      Ends (runRows stage (innerAt stage depth) rows (n + 1) rest (c && b) (some v.run))
        (s.after v) (Ran stage rows n row rest b s)) :
    Ends (runRows stage (innerAt stage depth) rows n (row :: rest) b last) s
      (Ran stage rows n row rest b s) := by
  rw [Course.runRows_iff]
  split
  · rename_i stopped
    refine ⟨rfl, ?_, smoothly_stopped stopped⟩
    rintro c v ⟨⟩
    exact hlast v rfl
  · have simple := simple_rowStart case inherited n row rest.isEmpty s
    have run : Ends (innerAt stage depth).finish (rowStart stage rows n row rest.isEmpty s)
        fun r v => (innerAt stage depth).finish.exec (rowStart stage rows n row rest.isEmpty s) =
          (r, v) := rfl
    apply ends_mono (ends_and (finishes _ simple) run)
    rintro r v ⟨done, executed⟩
    cases r with
    | ok c =>
      refine later c v done.simple ⟨?_, fun smooth => ?_⟩
      · exact Frame.child_frame (Frame.child_row ..) done.smoothly.frame
      · exact row_named multi executed (done.smoothly.row.holds smooth) done.smoothly.frame
    | error f =>
      have raised : Frame (s.after v) (rowRaised stage rows.case s v) := frame_rowRaised _ _ _
      refine ⟨rowRaised_run stage rows.case s v, ?_, (done.smoothly.row.before raised).mono ?_⟩
      · rintro _ _ ⟨⟩
      · intro named
        cases named.answer

theorem runRows_named (rest : List Row) (n : Nat)
    (row : Row) (b : Bool) (last : Option Run) (hlast : ∀ v, last = some v → v.Simple stage)
    (s : State σ) :
    Ends (runRows stage (innerAt stage depth) rows n (row :: rest) b last) s
      (Ran stage rows n row rest b s) := by
  induction rest generalizing n row b last s with
  | nil =>
    apply runRows_first multi finishes case inherited hlast
    intro c v simple first
    refine ⟨rfl, ?_, first.mono ?_⟩
    · rintro _ _ ⟨⟩
      exact simple
    · rintro ⟨rfl, row⟩
      obtain ⟨nested, told, chain⟩ := row.nested
      exact ⟨v.run, _, rfl, row.toRowRun, told, .last row.left chain⟩
  | cons next rest ih =>
    apply runRows_first multi finishes case inherited hlast
    intro c v simple first
    have hlast : ∀ w, some v.run = some w → w.Simple stage := by
      rintro _ ⟨⟩
      exact simple
    apply ends_mono (ih (n + 1) next (c && b) (some v.run) hlast (s.after v))
    intro r t ran
    refine ⟨ran.same, ran.simple, (first.trans ran.smoothly).mono ?_⟩
    rintro ⟨⟨rfl, row⟩, w, later, answer, last, told', rows⟩
    obtain ⟨nested, told, chain⟩ := row.nested
    have number : n + 1 + rest.length = n + (next :: rest).length := by
      simp
      omega
    have name := last.name
    rw [number] at name
    have below : Below s w t := Frame.below_after first.frame last.below
    exact ⟨w, _, answer, ⟨name, last.case, last.aborted, below⟩,
      opened_excerpt.along told told', .next row.left chain rows⟩

end Rows

section Group
variable {rows : Rows} {s t : State σ}
  (multi : rows.multiLine = isGrouped stage.sources rows.case)

include multi in
theorem opened_grouped (s : State σ) :
    Along (fun l => opened l = groupNames stage.sources rows.case rows.name) s
      (grouped stage rows s) := by
  rw [grouped, multi, groupNames]
  split
  · exact along_emit rfl
  · exact along_same opened_excerpt.additive rfl

theorem opened_ungrouped (s : State σ) :
    Along (fun l => opened l = []) s (ungrouped stage rows s) := by
  rw [ungrouped]
  split
  · exact along_emit rfl
  · exact along_same opened_excerpt.additive rfl

include multi in
theorem ran_grouped {row : Row} {rest : List Row} {b : Bool}
    {r : Except Fault (Bool × Option Run)}
    (h : Ran stage rows 1 row rest b (grouped stage rows s) r t) :
    (ungrouped stage rows t).run = s.run ∧
      Smoothly (∃ v names, r = .ok (b, some v) ∧
        RowRun stage rows (row :: rest).length s v (ungrouped stage rows t) ∧
        Along (fun l => opened l = groupNames stage.sources rows.case rows.name ++ names) s
          (ungrouped stage rows t) ∧
        RowNames stage rows.case rows.name rows.seed 1 (row :: rest) v.row names)
        s (ungrouped stage rows t) := by
  have before : Frame s (grouped stage rows s) := Frame.frame_grouped rows s
  have after : Frame t (ungrouped stage rows t) := Frame.frame_ungrouped rows t
  constructor
  · rw [ungrouped_run, h.same, grouped_run]
  · apply ((h.smoothly.before after).after before).mono
    rintro ⟨v, names, answer, last, told, ran⟩
    have opening : Along _ s (grouped stage rows s) := opened_grouped multi s
    have closing : Along _ t (ungrouped stage rows t) := opened_ungrouped t
    have whole := opened_excerpt.along (opened_excerpt.along opening told) closing
    rw [List.append_nil] at whole
    have name : v.name = rowName stage.sources rows.case rows.name (row :: rest).length := by
      rw [last.name, List.length_cons, Nat.add_comm]
    exact ⟨v, names, answer, ⟨name, last.case, last.aborted, Frame.below_grouped last.below⟩,
      whole, ran⟩

end Group

section Chain
variable {depth : Nat} {s t : State σ}
  (finishes : ∀ s, s.run.Simple stage → Ends (innerAt stage depth).finish s (Finishes stage s))
  (links : ∀ s, s.run.Simple stage →
    Ends (innerAt stage depth).chain s (Links stage 0 s.run.case.chain s.run.row true s))

include links in
theorem runDeferred_named {r : Run} (simple : r.Simple stage) (c : Case) (t : State σ) :
    Ends (runDeferred stage (innerAt stage depth) c r) t fun x u =>
      u.run = t.run ∧ Frame t u ∧ ∀ s, r.aborted = false → Below s r t → Smooth s u →
        x = .ok true ∧ ∃ names, Along (fun l => opened l = names) t u ∧
          ChainNames stage r.name r.case.takesOver 0 r.case.chain r.row names := by
  rw [Course.runDeferred_iff]
  split
  · rename_i halted
    have back : Frame t (givenBack stage c r t) := frame_givenBack (.refl t) c r
    refine ⟨Course.givenBack_run c r t, back, fun s unaborted below smooth => ?_⟩
    have here : Smooth s t := smooth.left below.frame back
    have running : Smooth ⟨t.world, r⟩ ⟨t.world, r⟩ := Smooth.below here below (.refl _)
    rw [unaborted, running.undisturbed.isStopped (.refl _)] at halted
    cases halted
  · apply ends_mono (links ⟨t.world, r⟩ simple)
    intro x v linked
    have went : Frame t (t.after v) := frame_world t linked.smoothly.frame.world
    have back : Frame (t.after v) (givenBack stage c r (t.after v)) :=
      frame_givenBack (.refl _) c r
    refine ⟨Course.givenBack_run c r _, went.trans back, fun s _ below smooth => ?_⟩
    have here : Smooth s (t.after v) := smooth.left (below.frame.trans went) back
    obtain ⟨answer, names, told, chain⟩ :=
      linked.smoothly.holds (here.below below linked.smoothly.frame)
    have returned : Along (fun l => opened l = []) (t.after v) (givenBack stage c r (t.after v)) :=
      along_givenBack opened_excerpt.additive c r (t.after v)
    have whole : Along (fun l => opened l = names ++ []) t (givenBack stage c r (t.after v)) :=
      opened_excerpt.along told returned
    rw [List.append_nil] at whole
    exact ⟨answer, names, whole, chain⟩

include links in
theorem settleChild_named {r : Run} (simple : r.Simple stage) (c : Case) (b : Bool) (t : State σ) :
    Ends (settleChild stage (innerAt stage depth) c b (some r)) t fun x u =>
      u.run = t.run ∧ Frame t u ∧
        ∀ s, r.case = c → r.aborted = false → Below s r t → Smooth s u →
          x = .ok (b, some r.row) ∧ ∃ names, Along (fun l => opened l = names) t u ∧
            ChainNames stage r.name c.takesOver 0 (deferredChain c) r.row names := by
  rw [Course.settleChild_iff]
  split
  · rename_i waits
    apply ends_mono (runDeferred_named links simple c t)
    rintro x u ⟨same, frame, named⟩
    refine ⟨same, frame, fun s case unaborted below smooth => ?_⟩
    obtain ⟨rfl, names⟩ := named s unaborted below smooth
    rw [deferredChain_eq_chain waits, ← case]
    exact ⟨rfl, names⟩
  · rename_i ends
    rw [Bool.not_eq_true] at ends
    rw [deferredChain_eq_nil ends]
    exact ⟨rfl, .refl t, fun s _ _ _ _ =>
      ⟨rfl, [], along_same opened_excerpt.additive rfl, .nil⟩⟩

section Child
variable {c : Case} {seed : Row} {i : Nat}

theorem linked_rowless (loaded : c.effectiveLoader.load stage.sources stage.dataDir seed = .ok [])
    (s : State σ) :
    let rows := rowsOf stage s.run (i + 1) c seed
    Linked stage i c seed s (.ok (true, none)) (ungrouped stage rows (grouped stage rows s)) := by
  intro rows
  refine ⟨?_, (Frame.frame_grouped rows s).trans (Frame.frame_ungrouped rows _), fun _ => ?_⟩
  · rw [ungrouped_run, grouped_run]
  · have opening : Along _ s (grouped stage rows s) := opened_grouped rfl s
    have closing : Along _ (grouped stage rows s) (ungrouped stage rows _) := opened_ungrouped _
    have told := opened_excerpt.along opening closing
    rw [List.append_nil] at told
    exact ⟨none, _, rfl, told, fun _ _ _ later => .rowless loaded later⟩

include finishes links in
theorem runChild_named (hs : s.run.Simple stage) (hc : c.Simple stage) (i : Nat) (seed : Row) :
    Ends (runChild stage (innerAt stage depth) (i + 1) c seed) s (Linked stage i c seed s) := by
  have read := simple_read hc seed
  cases loaded : c.effectiveLoader.load stage.sources stage.dataDir seed with
  | error f =>
    rw [runChild, ends_bind, ends_getRun, read]
    simp only [report, ends_bind, ends_pure, loaded]
    exact ⟨rfl, smoothly_error f⟩
  | ok list =>
    rw [Course.runChild_loaded read loaded, Course.runGroup_iff]
    cases list with
    | nil => exact linked_rowless loaded s
    | cons row rest =>
      let rows := rowsOf stage s.run (i + 1) c seed
      have multi : rows.multiLine = isGrouped stage.sources rows.case := rfl
      have inherited : rows.aspect = [] := chainAspect_simple hs
      apply ends_mono (runRows_named multi finishes hc inherited rest 1 row true none
        (by rintro _ ⟨⟩) _)
      intro r t ran
      obtain ⟨same, named⟩ := ran_grouped rfl ran
      rcases r with f | ⟨b, _ | v⟩
      · exact ⟨same, named.mono (by rintro ⟨_, _, ⟨⟩, _⟩)⟩
      · exact ⟨same, named.mono (by rintro ⟨_, _, ⟨⟩, _⟩)⟩
      · apply ends_mono (settleChild_named links (ran.simple b v rfl) c b _)
        rintro x u ⟨kept, frame, settled⟩
        refine ⟨kept.trans same, named.frame.trans frame, fun smooth => ?_⟩
        obtain ⟨_, names, ⟨⟩, last, told, ran⟩ := named.holds (smooth.left named.frame frame)
        obtain ⟨rfl, deferred, told', after⟩ :=
          settled s last.case last.aborted last.below smooth
        rw [last.name] at after
        exact ⟨_, _, rfl, opened_excerpt.along told told',
          fun _ _ _ later => .rows loaded ran after later⟩

end Child

include finishes links

theorem runChildren_named (l : List Case) (hl : ∀ c ∈ l, c.Simple stage) (place : Nat) (seed : Row)
    (b : Bool) (s : State σ) (hs : s.run.Simple stage) :
    Ends (runChildren stage (innerAt stage depth) (place + 1) l seed b) s
      (Links stage place l seed b s) := by
  -- on the chained cases that are left; a case that is passed over ends the smooth part
  induction l generalizing place seed b s with
  | nil =>
    exact ⟨rfl, .refl s, fun _ => ⟨rfl, [], along_same opened_excerpt.additive rfl, .nil⟩⟩
  | cons c rest ih =>
    have others : ∀ d ∈ rest, d.Simple stage := fun d hd => hl d (List.mem_cons_of_mem c hd)
    rw [Course.runChildren_iff]
    split
    · exact ⟨rfl, smoothly_stopped ‹_›⟩
    · split
      · apply ends_mono (ih others (place + 1) seed b (s.record (.reached (place + 1) true)) hs)
        intro r t linked
        exact ⟨linked.same,
          (smoothly_passed (P := False) (place + 1)).trans linked.smoothly |>.mono (·.1.elim)⟩
      · have came : Along (fun l => opened l = []) s (s.record (.reached (place + 1) false)) :=
          along_reached opened_excerpt.additive s (place + 1) false
        have reached : Frame s (s.record (.reached (place + 1) false)) := Frame.frame_record s _
        apply ends_mono (runChild_named (s := s.record (.reached (place + 1) false)) finishes links
          hs (hl c (by simp)) place seed)
        intro r t child
        have here := child.smoothly.after reached
        cases r with
        | error f => exact ⟨child.same, here.mono (by rintro ⟨_, _, ⟨⟩, _⟩)⟩
        | ok p =>
          have same : t.run = s.run := child.same
          have simple : t.run.Simple stage := by rwa [same]
          apply ends_mono (ih others (place + 1) _ (p.1 && b) t simple)
          intro x u linked
          refine ⟨linked.same.trans same, (here.trans linked.smoothly).mono ?_⟩
          rintro ⟨⟨last, names, ⟨⟩, told, named⟩, answer, later, told', chain⟩
          rw [same] at chain
          refine ⟨answer, names ++ later, ?_, named _ _ _ chain⟩
          exact opened_excerpt.along (opened_excerpt.along came told) told'

theorem chain_named (hs : s.run.Simple stage) :
    Ends (chain stage (innerAt stage depth)) s
      (Links stage 0 s.run.case.chain s.run.row true s) := by
  rw [chain, ends_bind, ends_getRun]
  exact runChildren_named finishes links s.run.case.chain (fun c hc => simple_chain hs.case hc) 0
    s.run.row true s hs

end Chain

section Finish
variable {s t u : State σ} {b : Bool}

theorem opened_begun (s : State σ) :
    Along (fun l => opened l = [s.run.name]) s (s.begun stage) :=
  along_emit (s := s.prepared stage) rfl

theorem opened_closed (went : Still (s.begun stage) t) :
    Along (fun l => opened l = [s.run.name]) s (t.emit stage .closed) :=
  opened_excerpt.along (opened_excerpt.along (opened_begun s) went.unopened)
    (still_emit t rfl).unopened

theorem finishes_ended (simple : u.run.Simple stage) (aborted : u.run.aborted = s.run.aborted)
    (h : Smoothly (b = true ∧ ∃ names, Along (fun l => opened l = s.run.name :: names) s u ∧
      ChainNames stage s.run.name s.run.case.takesOver 0 s.run.waiting u.run.row names) s u) :
    Finishes stage s (.ok (b && !(u.released stage).isStopped)) (u.ended stage) := by
  have ended : Frame u (u.ended stage) := Frame.frame_ended u
  have same : (u.ended stage).run = (u.released stage).run := State.ended_run stage u
  refine ⟨?_, h.frame.trans ended, fun smooth => ?_⟩
  · rw [same]
    exact simple_same simple rfl rfl rfl
  · have here := smooth.left h.frame ended
    obtain ⟨rfl, names, told, chain⟩ := h.holds here
    have running : (u.released stage).isStopped = false := by
      rw [State.isStopped_released]
      exact here.undisturbed.isStopped h.frame
    have later : Along (fun l => opened l = []) u (u.ended stage) :=
      along_ended opened_excerpt.additive rfl u
    refine ⟨by rw [running]; rfl, ?_, names, ?_, ?_⟩
    · rw [same]
      exact aborted
    · have whole := opened_excerpt.along told later
      rwa [List.append_nil] at whole
    · rw [same]
      exact chain

theorem halt_named {f : Fault} (simple : t.run.Simple stage)
    (h : ∀ {P : Prop}, Smoothly P s t) :
    Ends (halt stage f) t (Finishes stage s) := by
  have frame : Ends (halt stage f) t fun _ v => Frame t v := Frame.frame_halt f t
  rw [Course.halt_iff] at frame ⊢
  split
  · rename_i verification
    rw [if_pos verification] at frame
    exact ⟨simple_same simple rfl rfl rfl, h.before frame⟩
  · rename_i fatal
    rw [if_neg fatal] at frame
    exact ⟨simple_same simple rfl rfl rfl, h.before frame⟩

section
variable {depth : Nat}
  (finishes : ∀ s, s.run.Simple stage → Ends (innerAt stage depth).finish s (Finishes stage s))
  (links : ∀ s, s.run.Simple stage →
    Ends (innerAt stage depth).chain s (Links stage 0 s.run.case.chain s.run.row true s))
include finishes links

theorem endRun_named (went : Still (s.begun stage) t) (simple : t.run.Simple stage)
    (h : Smoothly (b = true) s t) :
    Ends (endRun stage (chain stage (innerAt stage depth)) b) t (Finishes stage s) := by
  have pending : t.run.cursor.pending = s.run.cursor.pending := went.kept.pending
  have closed : Frame t (t.emit stage .closed) := Frame.frame_emit t _
  have suite : Along (fun l => opened l = [s.run.name]) s (t.emit stage .closed) :=
    opened_closed went
  rw [Course.endRun_iff]
  split
  · rename_i needs
    have called : Frame t (t.emit stage .closed).chainCalled :=
      closed.trans ⟨.refl _, rfl, rfl, rfl, id, id⟩
    have chains : s.run.waiting = t.run.case.chain := by
      rw [Cursor.needsChain, Bool.and_eq_true, pending] at needs
      rw [Run.waiting, if_pos needs.1]
      exact congrArg Case.chain went.kept.case.symm
    apply ends_mono (chain_named (s := (t.emit stage .closed).chainCalled) finishes links
      (simple_same simple rfl rfl rfl))
    intro x u linked
    have simple' : u.run.Simple stage := by
      rw [linked.same]
      exact simple_same simple rfl rfl rfl
    have whole := (h.before called).trans linked.smoothly
    cases x with
    | error f =>
      have released : Frame u (u.released stage) := Frame.frame_released (.refl u)
      exact ⟨simple_same simple' rfl rfl rfl, (whole.before released).mono (by rintro ⟨_, ⟨⟩, _⟩)⟩
    | ok c =>
      refine finishes_ended simple' ?_ (whole.mono ?_)
      · rw [linked.same]
        exact went.kept.aborted
      · rintro ⟨rfl, ⟨⟩, names, told, chained⟩
        refine ⟨rfl, names, opened_excerpt.along suite told, ?_⟩
        rw [linked.same, chains]
        have name : t.run.name = s.run.name := went.kept.name
        have case : t.run.case = s.run.case := went.kept.case
        rw [← name, ← case]
        exact chained
  · rename_i idle
    refine finishes_ended simple went.kept.aborted ⟨h.frame.trans closed, fun smooth => ?_⟩
    have alone : s.run.waiting = [] := by
      have running : t.run.cursor.stopped = false := smooth.undisturbed.1
      rw [Cursor.needsChain, running, pending] at idle
      rw [Run.waiting, if_neg (by simpa using idle)]
    rw [alone]
    exact ⟨h.holds (smooth.left h.frame closed), [], suite, .nil⟩

/-- A run opens its own suite and then those of its chain. -/
theorem finishWith_named (hs : s.run.Simple stage) :
    Ends (finishWith stage (innerAt stage depth)) s (Finishes stage s) := by
  have begun : (s.begun stage).run.Simple stage := simple_begun hs
  have hooked : ∀ i ∈ (s.begun stage).run.aspect, i.isHooks = true := by
    rw [begun.aspect]
    exact fun _ none => by cases none
  rw [Course.finishWith_iff]
  apply ends_mono (ends_and (steps_still (innerAt stage depth) hooked _)
    (steps_smoothly depth _ (s.begun stage)))
  rintro r t ⟨went, succeeded⟩
  have simple : t.run.Simple stage :=
    simple_same begun went.kept.case went.kept.aspect went.kept.inherited
  have here := succeeded.after (Frame.frame_begun s)
  cases r with
  | error f => exact halt_named simple (here.mono (by rintro ⟨⟩))
  | ok b => exact endRun_named finishes links went simple (here.mono fun h => by cases h; rfl)

end

/-- At any depth the suites of a run and of a chain are named after the tree of its case. -/
theorem innerAt_named (stage : Stage σ) (depth : Nat) :
    (∀ s, s.run.Simple stage → Ends (innerAt stage depth).finish s (Finishes stage s)) ∧
      ∀ s, s.run.Simple stage →
        Ends (innerAt stage depth).chain s
          (Links stage 0 s.run.case.chain s.run.row true s) := by
  induction depth with
  | zero =>
    refine ⟨fun s hs => ?_, fun s _ => ⟨rfl, smoothly_error _⟩⟩
    rw [Course.beyond_iff]
    have released : Frame _ ((s.emit stage (.error (beyond s.run.name))).released stage) :=
      Frame.frame_released (.refl _)
    exact ⟨simple_same hs rfl rfl rfl, (smoothly_error _).before released⟩
  | succ depth ih =>
    exact ⟨fun _ hs => finishWith_named ih.1 ih.2 hs, fun _ hs => chain_named ih.1 ih.2 hs⟩

end Finish

section Leaf
variable {c : Case}

theorem rowNames_leaf (leaf : c.chain = []) {name : String} {seed last : Row} {n : Nat}
    {list : List Row} {names : List String}
    (h : RowNames stage c name seed n list last names) : names.length = list.length := by
  have none : nestedChain c = [] := by rw [nestedChain, leaf, ite_self]
  induction list generalizing n names with
  | nil => cases h
  | cons row rest ih =>
    cases h with
    | last left chain =>
      rw [none] at chain
      cases chain
      rfl
    | next left chain rows =>
      rw [none] at chain
      cases chain
      simp [ih rows]

theorem chainNames_leaf (leaf : c.chain = []) (several : isGrouped stage.sources c = true)
    {run : String} {takesOver : Bool} {place : Nat} {rest : List Case} {seed : Row}
    {names : List String} (h : ChainNames stage run takesOver place (c :: rest) seed names) :
    ∃ list own later next,
      c.effectiveLoader.load stage.sources stage.dataDir seed = .ok list ∧
      names = own ++ later ∧ own.length = list.length + 1 ∧
      ChainNames stage run takesOver (place + 1) rest next later := by
  have none : deferredChain c = [] := by rw [deferredChain, leaf, ite_self]
  have around : groupNames stage.sources c (childName run place c) = [childName run place c] :=
    if_pos several
  cases h with
  | rowless loaded later => exact ⟨[], _, _, _, loaded, rfl, by rw [around]; rfl, later⟩
  | rows loaded ran after later =>
    rw [none] at after
    cases after
    refine ⟨_, _, _, _, loaded, rfl, ?_, later⟩
    rw [around, List.append_nil, List.length_append, rowNames_leaf leaf ran, Nat.add_comm]
    rfl

end Leaf

section Single
variable {fs : Files}

theorem eq_none_of_single {name : String} {d : DataSource} (h : DataSource.ofName? fs name = some d)
    (single : d.multiLine = false) : d = .none := by
  unfold DataSource.ofName? at h
  split at h
  · cases h
    rfl
  · cases h
    cases single
  · cases h
    cases single
  · cases h
    cases single
  · cases h

theorem length_of_load {l : Loader} {dir : String} {row : Row} {list : List Row}
    (single : l.isMultiLine (DataSource.ofName? fs) = false)
    (h : l.load (DataSource.ofName? fs) dir row = .ok list) : list.length = 1 := by
  rw [Loader.isMultiLine] at single
  rw [Loader.load] at h
  cases known : DataSource.ofName? fs l.source with
  | none =>
    rw [known] at h
    cases h
  | some d =>
    rw [known] at single h
    cases eq_none_of_single known single
    cases h
    rfl

theorem chainNames_single {c : Case} (sources : stage.sources = DataSource.ofName? fs)
    (single : isGrouped stage.sources c = false) {run : String} {takesOver : Bool} {place : Nat}
    {rest : List Case} {seed : Row} {names : List String}
    (h : ChainNames stage run takesOver place (c :: rest) seed names) :
    ∃ x own later next, names = childName run place c :: (own ++ later) ∧
      ChainNames stage (childName run place c) c.takesOver 0 c.chain x own ∧
      ChainNames stage run takesOver (place + 1) rest next later := by
  have alone : groupNames stage.sources c (childName run place c) = [] :=
    if_neg (by rw [single]; exact Bool.false_ne_true)
  have name : ∀ n, rowName stage.sources c (childName run place c) n = childName run place c :=
    fun _ => if_neg (by rw [single]; exact Bool.false_ne_true)
  have one : ∀ {list}, c.effectiveLoader.load stage.sources stage.dataDir seed = .ok list →
      list.length = 1 := by
    rw [isGrouped] at single
    rw [sources] at single ⊢
    exact length_of_load single
  cases h with
  | rowless loaded _ => cases one loaded
  | rows loaded ran after later =>
    cases ran with
    | next _ _ rows =>
      have two := one loaded
      cases rows <;> cases two
    | last left chain =>
      rw [name] at chain after
      rw [nestedChain] at chain
      rw [deferredChain] at after
      rw [alone, name, List.nil_append]
      cases hn : c.nestedChain with
      | true =>
        rw [hn] at chain after
        cases after
        refine ⟨_, _, _, _, ?_, chain, later⟩
        rw [List.append_nil]
        rfl
      | false =>
        rw [hn] at chain after
        cases chain
        exact ⟨_, _, _, _, rfl, after, later⟩

end Single

/-- Where every step succeeds and nothing is stopped, passed over or left unread, the suites of a
run are its own and then those of its chain, named after the tree of its case. A chained case of
several lines that has no chain opens one suite more than it has rows. -/
theorem finish_names (stage : Stage σ) (depth : Nat) {s : State σ} (simple : s.run.Simple stage) :
    let t := ((finishWith stage (innerAt stage depth)).exec s).2
    let l := World.since s.world t.world
    Undisturbed s t → (∀ e ∈ l, e.hampers = false) →
      ∃ names, opened l = s.run.name :: names ∧
        ChainNames stage s.run.name s.run.case.takesOver 0 s.run.waiting t.run.row names ∧
        ∀ {run takesOver place c rest seed names},
          ChainNames stage run takesOver place (c :: rest) seed names →
          c.chain = [] → isGrouped stage.sources c = true →
          ∃ list own later next,
            c.effectiveLoader.load stage.sources stage.dataDir seed = .ok list ∧
            names = own ++ later ∧ own.length = list.length + 1 ∧
            ChainNames stage run takesOver (place + 1) rest next later := by
  intro t l undisturbed clear
  obtain ⟨finishes, links⟩ := innerAt_named stage depth
  have finished : Finishes stage s _ t := finishWith_named finishes links simple
  have smooth : Smooth s t :=
    ⟨undisturbed, Frame.along_of_since finished.smoothly.frame clear⟩
  obtain ⟨names, told, chain⟩ := (finished.smoothly.holds smooth).names
  refine ⟨names, along_since told, chain, ?_⟩
  intro _ _ _ _ _ _ _ named leaf several
  exact chainNames_leaf leaf several named

section Example
open Brackets Seeds

def town : Stage Unit :=
  { bare with sources := fun name => if name = "letters" then some letters else some .none }

def house (name : String) (chain : List Case) : Case where
  script := { name }
  steps := [{ kind := .echo, texts := [("text", "hi")] }]
  chain

def street : Case :=
  house "street" [house "lone" [house "yard" []],
    { house "many" [house "room" []] with
      loader := { source := "letters" }, nestedChain := true }]

theorem house_simple (name : String) {chain : List Case} (h : ∀ c ∈ chain, c.Simple town) :
    (house name chain).Simple town := .intro rfl (.inr rfl) rfl h

theorem street_simple : street.Simple town := by
  have yard : (house "yard" []).Simple town := house_simple "yard" (by simp)
  have room : ∀ c ∈ [house "room" []], c.Simple town := by
    simpa using house_simple "room" (by simp)
  have lone : (house "lone" [house "yard" []]).Simple town := house_simple "lone" (by simpa)
  refine house_simple "street" ?_
  rintro c (_ | ⟨_, _ | ⟨_, hc⟩⟩)
  · exact lone
  · exact .intro rfl (.inr rfl) rfl room
  · cases hc

theorem street_names :
    let s := firstState street
    let t := ((finishWith town (innerAt town 3)).exec s).2
    ∃ names, opened (World.since s.world t.world) = "street" :: names ∧
      ChainNames town "street" false 0 street.chain t.run.row names ∧
      names = ["street_1_lone", "street_1_lone_1_yard", "street_2_many", "street_2_many_row_1",
        "street_2_many_row_1_1_room", "street_2_many_row_2", "street_2_many_row_2_1_room"] := by
  intro s t
  have simple : s.run.Simple town := ⟨street_simple, rfl, rfl⟩
  obtain ⟨names, told, chain, _⟩ := finish_names town 3 simple
    ⟨by decide +kernel, by decide +kernel⟩ (by decide +kernel)
  have computed : opened (World.since s.world t.world) = "street" :: ["street_1_lone",
      "street_1_lone_1_yard", "street_2_many", "street_2_many_row_1",
      "street_2_many_row_1_1_room", "street_2_many_row_2", "street_2_many_row_2_1_room"] := by
    decide +kernel
  exact ⟨names, told, chain, List.tail_eq_of_cons_eq (told.symm.trans computed)⟩

end Example

end Naming

end Scenario

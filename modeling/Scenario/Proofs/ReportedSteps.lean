import Mathlib.Data.List.Forall2
import Scenario.Proofs.ToldProblems

/-!
# Which steps a report lists

A roll calls every step that was started to the suite in which it was. The
recorder keeps one step in progress for each open suite, so a step that starts
while another of its suite is in progress puts that one out of the report, and
only then is a step missing in it.
-/

set_option autoImplicit false

namespace Scenario

/-- A step that was started in a suite. -/
structure Started where
  name : String
  /-- The first problem told while no later step of the suite was in progress. -/
  problem : Option String := none
  /-- Another step of the suite was started before this one ended. -/
  parted : Bool := false
  deriving DecidableEq, Repr

def Started.result (p : Started) : StepResult :=
  { name := p.name, success := p.problem.isNone, error := p.problem }

/-- The steps that were started while a suite was the innermost open one. -/
structure Sheet where
  name : String
  script : Option String
  /-- Steps that are not yet ended, the last one first. -/
  progress : List Started := []
  /-- Steps in the order in which they ended. -/
  done : List Started := []
  deriving DecidableEq, Repr

namespace Sheet

def start (s : Sheet) (label : String) : Sheet :=
  { s with
    progress := { name := label } :: s.progress.map fun p => { p with parted := true } }

/-- A problem belongs to the step that was started last of those in progress. -/
def blame (s : Sheet) (message : String) : Sheet :=
  match s.progress with
  | p :: ps => { s with progress := { p with problem := some (p.problem.getD message) } :: ps }
  | [] => s

def finish (s : Sheet) : Sheet :=
  match s.progress with
  | p :: ps => { s with progress := ps, done := s.done ++ [p] }
  | [] => s

/-- Steps that were never ended are over when their suite is closed. -/
def close (s : Sheet) : Sheet := { s with progress := [], done := s.done ++ s.progress }

def unparted (s : Sheet) : List Started := s.done.filter fun p => !p.parted

end Sheet

/-- The sheets of the suites in the order in which they were opened. -/
structure Roll where
  sheets : List Sheet := []
  /-- The numbers of the suites that are open, the innermost first. -/
  stack : List Nat := []
  deriving DecidableEq, Repr

def OpenSuite.blamed (o : OpenSuite) (message : String) : OpenSuite :=
  match o.step with
  | some step =>
    { o with
      result := { o.result with success := false }
      step := some { step with success := false, error := some (step.error.getD message) } }
  | none =>
    { o with result := { o.result with success := false, errors := o.result.errors ++ [message] } }

theorem Recorder.problem_cons {r : Recorder} {top : OpenSuite} {rest : List OpenSuite}
    (hr : r.stack = top :: rest) (m : String) :
    r.problem m = { r with stack := top.blamed m :: rest } := by
  obtain ⟨order, result, step⟩ := top
  rw [problem, hr]
  cases step <;> rfl

theorem OpenSuite.blamed_order (o : OpenSuite) (m : String) : (o.blamed m).order = o.order := by
  obtain ⟨order, result, step⟩ := o
  cases step <;> rfl

namespace Roll

def amend (r : Roll) (f : Sheet → Sheet) : Roll :=
  match r.stack with
  | i :: _ => { r with sheets := r.sheets.modify i f }
  | [] => r

def apply (r : Roll) : Event → Roll
  | .opened suite script _ =>
    { sheets := r.sheets ++ [{ name := suite, script := script.path }]
      stack := r.sheets.length :: r.stack }
  | .started label => r.amend fun s => s.start label
  | .ended => r.amend Sheet.finish
  | .failure m => r.amend fun s => s.blame m
  | .error f => r.amend fun s => s.blame f.line
  | .closed => { r.amend Sheet.close with stack := r.stack.tail }

def ofEvents (es : List Event) : Roll := es.foldl apply {}

end Roll

namespace Sheet

/-- The steps of a sheet that a suite lists, each once. -/
structure Listed (s : Sheet) (r : SuiteResult) : Prop where
  name : r.name = s.name
  script : r.script = s.script
  steps : r.steps = s.unparted.map Started.result

/-- What is kept of steps in progress: the last one, unless it was parted. -/
def slot : List Started → Option StepResult
  | p :: _ => if p.parted then none else some p.result
  | [] => none

structure Shown (s : Sheet) (o : OpenSuite) : Prop where
  listed : s.Listed o.result
  slot : o.step = slot s.progress
  below : ∀ p ∈ s.progress.tail, p.parted = true

structure Filed (s : Sheet) (r : SuiteResult) : Prop extends s.Listed r where
  settled : s.progress = []

theorem Filed.full_iff {s : Sheet} {r : SuiteResult} (h : s.Filed r) :
    r.steps = s.done.map Started.result ↔ ∀ p ∈ s.done, p.parted = false := by
  rw [h.steps]
  constructor
  · intro full
    have length : s.unparted.length = s.done.length := by simpa using congrArg List.length full
    simpa using List.length_filter_eq_length_iff.1 length
  · intro whole
    have all : s.unparted = s.done := List.filter_eq_self.2 (by simpa using whole)
    rw [all]

section Steps
variable {s : Sheet} {o : OpenSuite}

theorem shown_opened (name : String) (script : Option String) (order : Nat) :
    Shown { name, script } ⟨order, { name, script }, none⟩ :=
  ⟨⟨rfl, rfl, rfl⟩, rfl, by simp⟩

theorem Shown.start (h : s.Shown o) (label : String) :
    (s.start label).Shown { o with step := some { name := label } } where
  listed := ⟨h.listed.name, h.listed.script, h.listed.steps⟩
  slot := rfl
  below := by simp [Sheet.start]

theorem Shown.blame (h : s.Shown o) (m : String) : (s.blame m).Shown (o.blamed m) := by
  obtain ⟨order, result, step⟩ := o
  obtain ⟨name, script, progress, done⟩ := s
  have listed := h.listed
  have slot := h.slot
  have below := h.below
  cases progress with
  | nil =>
    cases slot
    exact ⟨⟨listed.name, listed.script, listed.steps⟩, rfl, below⟩
  | cons p ps =>
    cases hp : p.parted with
    | true =>
      have empty : step = none := by simpa [Sheet.slot, hp] using slot
      subst empty
      refine ⟨⟨listed.name, listed.script, listed.steps⟩, ?_, below⟩
      simp [OpenSuite.blamed, Sheet.slot, Sheet.blame, hp]
    | false =>
      have filled : step = some p.result := by simpa [Sheet.slot, hp] using slot
      subst filled
      refine ⟨⟨listed.name, listed.script, listed.steps⟩, ?_, below⟩
      simp [OpenSuite.blamed, Sheet.slot, Sheet.blame, hp, Started.result]

theorem Shown.finish (h : s.Shown o) : s.finish.Shown (Recorder.OpenSuite.settleStep o) := by
  obtain ⟨order, result, step⟩ := o
  obtain ⟨name, script, progress, done⟩ := s
  have listed := h.listed
  have slot := h.slot
  have below := h.below
  cases progress with
  | nil =>
    cases slot
    exact h
  | cons p ps =>
    -- the steps below were parted, so none of them comes to stand in the slot
    have vacant : Sheet.slot ps = none := by
      cases ps with
      | nil => rfl
      | cons q qs => exact if_pos (below q (by simp))
    have deeper : ∀ q ∈ ps.tail, q.parted = true := fun q hq => below q (List.mem_of_mem_tail hq)
    cases hp : p.parted with
    | true =>
      have empty : step = none := by simpa [Sheet.slot, hp] using slot
      subst empty
      refine ⟨⟨listed.name, listed.script, ?_⟩, ?_, deeper⟩
      · simpa [Sheet.finish, Sheet.unparted, Recorder.OpenSuite.settleStep, hp] using listed.steps
      · simp [Sheet.finish, Recorder.OpenSuite.settleStep, vacant]
    | false =>
      have filled : step = some p.result := by simpa [Sheet.slot, hp] using slot
      subst filled
      refine ⟨⟨listed.name, listed.script, ?_⟩, ?_, deeper⟩
      · have steps : result.steps = (done.filter fun q => !q.parted).map Started.result :=
          listed.steps
        simp [Sheet.finish, Sheet.unparted, Recorder.OpenSuite.settleStep, hp, steps]
      · simp [Sheet.finish, Recorder.OpenSuite.settleStep, vacant]

theorem Shown.close (h : s.Shown o) : s.close.Filed (Recorder.OpenSuite.settleStep o).result := by
  obtain ⟨name, script, progress, done⟩ := s
  have settled := h.finish.listed
  refine ⟨⟨settled.name.trans ?_, settled.script.trans ?_, settled.steps.trans ?_⟩, rfl⟩
  · cases progress <;> rfl
  · cases progress <;> rfl
  · cases progress with
    | nil => simp [Sheet.close, Sheet.finish, Sheet.unparted]
    | cons p ps =>
      have hidden : (ps.filter fun q => !q.parted) = [] := by
        simpa [List.filter_eq_nil_iff] using h.below
      simp [Sheet.close, Sheet.finish, Sheet.unparted, List.filter_append, List.filter_cons,
        hidden]

end Steps

end Sheet

namespace Roll
open Sheet

def Holds (sheets : List Sheet) (i : Nat) (o : OpenSuite) : Prop :=
  o.order = i ∧ ∃ s, sheets[i]? = some s ∧ s.Shown o

def Files (sheets : List Sheet) (e : Nat × SuiteResult) : Prop :=
  ∃ s, sheets[e.1]? = some s ∧ s.Filed e.2

structure Kept (roll : Roll) (r : Recorder) : Prop where
  opened : r.opened = roll.sheets.length
  stack : List.Forall₂ (Holds roll.sheets) roll.stack r.stack
  finished : ∀ e ∈ r.finished, Files roll.sheets e
  numbers : (r.finished.map (·.1) ++ roll.stack).Perm (List.range roll.sheets.length)

theorem kept_nil : Kept {} {} :=
  ⟨rfl, .nil, by simp, .refl _⟩

section Sheets
variable {sheets sheets' : List Sheet}

theorem Holds.same {i : Nat} {o : OpenSuite} (h : Holds sheets i o)
    (same : ∀ s, sheets[i]? = some s → sheets'[i]? = some s) : Holds sheets' i o := by
  obtain ⟨order, s, found, shown⟩ := h
  exact ⟨order, s, same s found, shown⟩

theorem Files.same {e : Nat × SuiteResult} (h : Files sheets e)
    (same : ∀ s, sheets[e.1]? = some s → sheets'[e.1]? = some s) : Files sheets' e := by
  obtain ⟨s, found, filed⟩ := h
  exact ⟨s, same s found, filed⟩

end Sheets

section Step
variable {roll : Roll} {r : Recorder}

theorem Kept.nodup (h : Kept roll r) : (r.finished.map (·.1) ++ roll.stack).Nodup :=
  h.numbers.nodup_iff.2 List.nodup_range

theorem Kept.amended (h : Kept roll r) {i : Nat} {is : List Nat} (hs : roll.stack = i :: is)
    (f : Sheet → Sheet) :
    (∀ e ∈ r.finished, Files (roll.sheets.modify i f) e) ∧
      ∀ os, List.Forall₂ (Holds roll.sheets) is os →
        List.Forall₂ (Holds (roll.sheets.modify i f)) is os := by
  have distinct := h.nodup
  rw [hs, List.nodup_append] at distinct
  obtain ⟨-, tail, apart⟩ := distinct
  have other : ∀ j s, i ≠ j → roll.sheets[j]? = some s →
      (roll.sheets.modify i f)[j]? = some s :=
    fun j s hj hs => (List.getElem?_modify_ne f _ hj).trans hs
  constructor
  · intro e he
    refine (h.finished e he).same fun s => other e.1 s ?_
    exact fun same => apart e.1 (List.mem_map_of_mem he) i (by simp) same.symm
  · intro os hos
    have rest : i ∉ is := (List.nodup_cons.1 tail).1
    clear hs tail apart h
    induction hos with
    | nil => exact .nil
    | cons ho _ ih =>
      rw [List.mem_cons, not_or] at rest
      exact .cons (ho.same fun s => other _ s rest.1) (ih rest.2)

theorem modify_self {sheets : List Sheet} {i : Nat} {s : Sheet} (h : sheets[i]? = some s)
    (f : Sheet → Sheet) : (sheets.modify i f)[i]? = some (f s) := by
  rw [List.getElem?_modify_eq, h]
  rfl

theorem Kept.note (h : Kept roll r) {top o : OpenSuite} {rest : List OpenSuite}
    (hr : r.stack = top :: rest) {f : Sheet → Sheet} (order : o.order = top.order)
    (shown : ∀ s, Shown s top → (f s).Shown o) :
    Kept (roll.amend f) { r with stack := o :: rest } := by
  have paired := h.stack
  rw [hr] at paired
  cases hs : roll.stack with
  | nil =>
    rw [hs] at paired
    cases paired
  | cons i is =>
    rw [hs] at paired
    obtain ⟨files, below⟩ := h.amended hs f
    obtain ⟨number, s, found, here⟩ := (List.forall₂_cons.1 paired).1
    have others := below rest (List.forall₂_cons.1 paired).2
    have same : roll.amend f = ⟨roll.sheets.modify i f, i :: is⟩ := by rw [amend, hs]
    have top : Holds (roll.sheets.modify i f) i o :=
      ⟨order.trans number, f s, modify_self found f, shown s here⟩
    rw [same]
    refine ⟨?_, .cons top others, files, ?_⟩
    · rw [List.length_modify]
      exact h.opened
    · rw [List.length_modify, ← hs]
      exact h.numbers

theorem Kept.opening (h : Kept roll r) (name : String) (p : Script) (x : Row) :
    Kept (roll.apply (.opened name p x)) (r.openSuite name p.path) := by
  have old : ∀ (j : Nat) (s : Sheet), roll.sheets[j]? = some s →
      (roll.sheets ++ [{ name, script := p.path }])[j]? = some s := by
    intro j s hj
    rw [List.getElem?_append_left (List.getElem?_eq_some_iff.1 hj).1, hj]
  refine ⟨?_, .cons ⟨h.opened, _, List.getElem?_concat_length, shown_opened name p.path _⟩ ?_,
    ?_, ?_⟩
  · rw [apply, List.length_append, ← h.opened]
    rfl
  · exact h.stack.imp fun i o ho => ho.same (old i)
  · exact fun e he => (h.finished e he).same (old e.1)
  · rw [apply, List.length_append, List.length_singleton, List.range_succ]
    exact List.perm_middle.trans ((h.numbers.cons _).trans (List.perm_append_singleton _ _).symm)

theorem Kept.closing (h : Kept roll r) {top : OpenSuite} {rest : List OpenSuite}
    (hr : r.stack = top :: rest) : Kept (roll.apply .closed) r.closeSuite := by
  have paired := h.stack
  rw [hr] at paired
  cases hs : roll.stack with
  | nil =>
    rw [hs] at paired
    cases paired
  | cons i is =>
    rw [hs] at paired
    obtain ⟨files, below⟩ := h.amended hs Sheet.close
    obtain ⟨rfl, s, found, here⟩ := (List.forall₂_cons.1 paired).1
    have others := below rest (List.forall₂_cons.1 paired).2
    have same : roll.apply .closed = ⟨roll.sheets.modify top.order Sheet.close, is⟩ := by
      rw [apply, amend, hs]
      rfl
    have filed : Files (roll.sheets.modify top.order Sheet.close)
        (top.order, (Recorder.OpenSuite.settleStep top).result) :=
      ⟨s.close, modify_self found Sheet.close, here.close⟩
    rw [same, Recorder.closeSuite, hr]
    refine ⟨?_, others, ?_, ?_⟩
    · rw [List.length_modify]
      exact h.opened
    · exact List.forall_mem_append.2 ⟨files, List.forall_mem_singleton.2 filed⟩
    · rw [List.length_modify, List.map_append, List.append_assoc]
      have numbers := h.numbers
      rwa [hs] at numbers

theorem Kept.idle (h : Kept roll r) (hr : r.stack = []) (f : Sheet → Sheet) :
    roll.stack = [] ∧ roll.amend f = roll := by
  have vacant : roll.stack = [] := by simpa [hr] using h.stack
  exact ⟨vacant, by rw [amend, vacant]⟩

/-- An event is put on the roll as the recorder hears it. -/
theorem Kept.apply (h : Kept roll r) (e : Event) : Kept (roll.apply e) (r.apply e) := by
  cases hr : r.stack with
  | nil =>
    cases e with
    | opened n p x => exact h.opening n p x
    | closed =>
      obtain ⟨vacant, same⟩ := h.idle hr Sheet.close
      rw [Roll.apply, same, vacant, Recorder.apply, Recorder.closeSuite, hr]
      show Kept ⟨roll.sheets, []⟩ r
      rwa [← vacant]
    | started l => rwa [Roll.apply, (h.idle hr _).2, Recorder.apply, Recorder.startStep, hr]
    | ended => rwa [Roll.apply, (h.idle hr _).2, Recorder.apply, Recorder.endStep, hr]
    | failure m => rwa [Roll.apply, (h.idle hr _).2, Recorder.apply, Recorder.problem, hr]
    | error f => rwa [Roll.apply, (h.idle hr _).2, Recorder.apply, Recorder.problem, hr]
  | cons top rest =>
    cases e with
    | opened n p x => exact h.opening n p x
    | closed => exact h.closing hr
    | started l =>
      rw [Recorder.apply, Recorder.startStep, hr]
      exact h.note hr rfl fun s hs => hs.start l
    | ended =>
      rw [Recorder.apply, Recorder.endStep, hr]
      refine h.note hr ?_ fun s hs => hs.finish
      rw [Recorder.OpenSuite.settleStep]
      split <;> rfl
    | failure m =>
      rw [Recorder.apply, Recorder.problem_cons hr]
      exact h.note hr (top.blamed_order m) fun s hs => hs.blame m
    | error f =>
      rw [Recorder.apply, Recorder.problem_cons hr]
      exact h.note hr (top.blamed_order f.line) fun s hs => hs.blame f.line

end Step

theorem kept_ofEvents (es : List Event) : Kept (ofEvents es) (Recorder.ofEvents es) := by
  have run : ∀ {roll r}, Kept roll r → Kept (es.foldl apply roll) (es.foldl Recorder.apply r) := by
    induction es with
    | nil => exact id
    | cons e es ih => exact fun h => ih (h.apply e)
  exact run kept_nil

section Order
open Recorder

theorem insertByOrder_perm (e : Nat × SuiteResult) (l : List (Nat × SuiteResult)) :
    (insertByOrder e l).Perm (e :: l) := by
  induction l with
  | nil => exact .refl _
  | cons f l ih =>
    rw [insertByOrder]
    split
    · exact .refl _
    · exact (ih.cons f).trans (.swap e f l)

theorem insertByOrder_sorted (e : Nat × SuiteResult) {l : List (Nat × SuiteResult)}
    (h : l.Pairwise fun a b => a.1 ≤ b.1) :
    (insertByOrder e l).Pairwise fun a b => a.1 ≤ b.1 := by
  induction l with
  | nil => exact List.pairwise_singleton _ e
  | cons f l ih =>
    rw [List.pairwise_cons] at h
    rw [insertByOrder]
    split
    · rename_i less
      refine List.pairwise_cons.2 ⟨?_, List.pairwise_cons.2 h⟩
      intro g hg
      rcases List.mem_cons.1 hg with rfl | hg
      · exact Nat.le_of_lt less
      · exact Nat.le_trans (Nat.le_of_lt less) (h.1 g hg)
    · rename_i less
      refine List.pairwise_cons.2 ⟨?_, ih h.2⟩
      intro g hg
      rcases (mem_insertByOrder e g l).1 hg with rfl | hg
      · exact Nat.le_of_not_lt less
      · exact h.1 g hg

theorem sorted_finished (l : List (Nat × SuiteResult)) :
    let sorted := l.foldl (fun es e => insertByOrder e es) []
    sorted.Perm l ∧ sorted.Pairwise fun a b => a.1 ≤ b.1 := by
  have run : ∀ (l acc : List (Nat × SuiteResult)), (acc.Pairwise fun a b => a.1 ≤ b.1) →
      (l.foldl (fun es e => insertByOrder e es) acc).Perm (l ++ acc) ∧
        (l.foldl (fun es e => insertByOrder e es) acc).Pairwise fun a b => a.1 ≤ b.1 := by
    intro l
    induction l with
    | nil => exact fun acc h => ⟨.refl _, h⟩
    | cons e l ih =>
      intro acc h
      obtain ⟨perm, sorted⟩ := ih _ (insertByOrder_sorted e h)
      refine ⟨perm.trans ?_, sorted⟩
      exact (List.Perm.append_left l (insertByOrder_perm e acc)).trans List.perm_middle
  simpa using run l [] .nil

theorem Kept.files {roll : Roll} {r : Recorder} (h : Kept roll r) (hs : roll.stack = []) :
    List.Forall₂ Filed roll.sheets r.suites := by
  obtain ⟨perm, sorted⟩ := sorted_finished r.finished
  rw [Recorder.suites]
  revert perm sorted
  generalize r.finished.foldl (fun es e => insertByOrder e es) [] = list
  intro perm sorted
  have numbers : list.map (·.1) = List.range roll.sheets.length := by
    have same := h.numbers
    rw [hs, List.append_nil] at same
    refine List.Perm.eq_of_pairwise (fun a b _ _ => Nat.le_antisymm) ?_ ?_
      ((perm.map _).trans same)
    · exact List.pairwise_map.2 sorted
    · exact List.pairwise_le_range
  have length : list.length = roll.sheets.length := by simpa using congrArg List.length numbers
  rw [List.forall₂_iff_get]
  refine ⟨by rw [List.length_map, length], fun i hi hi' => ?_⟩
  have inside : i < list.length := length ▸ hi
  have place : list[i].1 = i := by
    have at_i := congrArg (·[i]?) numbers
    simpa [inside, hi] using at_i
  obtain ⟨s, found, filed⟩ := h.finished list[i] (perm.mem_iff.1 (List.getElem_mem inside))
  rw [place, List.getElem?_eq_getElem hi] at found
  cases found
  simpa using filed

end Order

section Whole
open Execution

variable {σ : Type}

/-- Every suite is reported in the order in which it was opened, with exactly those of
its steps, each once, that no other step of the suite was started in; such a step failed
if and only if a problem was told while it was the last one in progress. The report holds
every step that was started if and only if none was started in another one. -/
theorem finish_lists (stage : Stage σ) (depth : Nat) (s : State σ) :
    let e := (finishWith stage (innerAt stage depth)).exec s
    let es := told (World.since s.world e.2.world)
    let sheets := (ofEvents es).sheets
    let suites := (Recorder.ofEvents es).suites
    List.Forall₂ Filed sheets suites ∧
      (List.Forall₂ (fun s r => r.steps = s.done.map Started.result) sheets suites ↔
        ∀ s ∈ sheets, ∀ p ∈ s.done, p.parted = false) := by
  intro e es sheets suites
  have shut : Recorder.Shut es := (along_since (Telling.finish_linked stage depth s).1).closed.shut
  have kept : Kept (ofEvents es) (Recorder.ofEvents es) := kept_ofEvents es
  have vacant : (ofEvents es).stack = [] := by
    have closed : (Recorder.ofEvents es).stack = [] := List.eq_nil_of_length_eq_zero (shut {})
    simpa [closed] using kept.stack
  have files : List.Forall₂ Filed sheets suites := kept.files vacant
  refine ⟨files, ?_⟩
  clear_value sheets suites
  induction files with
  | nil => simp
  | cons filed _ ih => rw [List.forall₂_cons, List.forall_mem_cons, ih, filed.full_iff]

section Example
open Brackets

def branching : Case where
  script := { name := "script" }
  steps :=
    [{ kind := .branch, texts := [("condition", "true"), ("subStep", "1")] },
      { kind := .echo, texts := [("text", "hi")] }]

theorem condition_goes_unlisted :
    let s := firstState branching
    let e := (finish bare).exec s
    let es := told (World.since s.world e.2.world)
    e.1 = .ok true ∧
      (Roll.ofEvents es).sheets.map (fun s => s.done.map (·.name)) =
        [["echo text:hi", "if condition:true subStep:1"]] ∧
      (Recorder.ofEvents es).suites.map (fun r => r.steps.map (·.name)) = [["echo text:hi"]] := by
  decide +kernel

end Example

end Whole

end Roll

end Scenario

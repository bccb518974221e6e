import Scenario.Proofs.EventNesting

/-!
# What chained cases begin with

A chain runs its cases one after the other. Each begins with the variables with
which the run above it ended, or with those of the last row that was executed
before, if the run takes them over. Where a chain has come to is described by
the cases that are left, the variables that the next one begins with, and the
rows that the cases before it executed.
-/

set_option autoImplicit false

namespace Scenario
open Scenario.Act Scenario.Execution

variable {σ : Type} {stage : Stage σ} {inner : Inner σ}

namespace Seeds

theorem drop_of_cons {α : Type} {list rest : List α} {x : α} {n : Nat}
    (h : x :: rest = list.drop n) : rest = list.drop (n + 1) := by
  rw [← List.tail_drop, ← h]
  rfl

section Rows
variable {rows : Rows} {list l : List Row} {s t : State σ} {n : Nat} {b : Bool} {done : List Run}

/-- Rows on their way: the number of the next row, the rows from it on, whether all before it
succeeded, and the runs of those from the last to the first. -/
inductive Rowing (stage : Stage σ) (inner : Inner σ) (rows : Rows) (list : List Row)
    (s : State σ) : Nat → List Row → Bool → List Run → State σ → Prop
  | first : Rowing stage inner rows list s 1 list true [] s
  | next {n : Nat} {row : Row} {rest : List Row} {b c : Bool} {done : List Run} {t v : State σ}
      (before : Rowing stage inner rows list s n (row :: rest) b done t)
      (running : t.world.signals.isStopped t.run.signal = false)
      (executed : inner.finish.exec (rowStart stage rows n row rest.isEmpty t) = (.ok c, v)) :
      Rowing stage inner rows list s (n + 1) rest (c && b) (v.run :: done) (t.after v)

theorem runRows_halted (h : l = [] ∨ s.world.signals.isStopped s.run.signal = true) (n : Nat)
    (b : Bool) (last : Option Run) :
    (runRows stage inner rows n l b last).exec s = (.ok (b, last), s) := by
  cases l with
  | nil => rfl
  | cons row rest =>
    rw [exec_eq_iff, Course.runRows_iff, if_pos (h.resolve_left (by simp))]
    exact ⟨rfl, rfl⟩

theorem runRows_next {row : Row} {rest : List Row} {c : Bool} {v : State σ}
    (running : t.world.signals.isStopped t.run.signal = false)
    (executed : inner.finish.exec (rowStart stage rows n row rest.isEmpty t) = (.ok c, v))
    (last : Option Run) :
    (runRows stage inner rows n (row :: rest) b last).exec t =
      (runRows stage inner rows (n + 1) rest (c && b) (some v.run)).exec (t.after v) := by
  apply exec_eq_of_ends
  intro Q
  rw [Course.runRows_iff, running, if_neg Bool.false_ne_true, Ends, executed]

theorem runRows_raised {row : Row} {rest : List Row} {f : Fault} {v : State σ}
    (running : t.world.signals.isStopped t.run.signal = false)
    (executed : inner.finish.exec (rowStart stage rows n row rest.isEmpty t) = (.error f, v))
    (last : Option Run) :
    (runRows stage inner rows n (row :: rest) b last).exec t =
      (.error f, rowRaised stage rows.case t v) := by
  rw [exec_eq_iff, Course.runRows_iff, running, if_neg Bool.false_ne_true, Ends, executed]
  exact ⟨rfl, rfl⟩

theorem Rowing.exec (h : Rowing stage inner rows list s n l b done t) :
    (runRows stage inner rows 1 list true none).exec s =
      (runRows stage inner rows n l b done.head?).exec t := by
  induction h with
  | first => rfl
  | next before running executed ih => rw [ih, runRows_next running executed]; rfl

theorem Rowing.left (h : Rowing stage inner rows list s n l b done t) :
    n = done.length + 1 ∧ l = list.drop done.length ∧ t.run = s.run := by
  induction h with
  | first => exact ⟨rfl, rfl, rfl⟩
  | next before running executed ih =>
    exact ⟨congrArg (· + 1) ih.1, drop_of_cons ih.2.1, ih.2.2⟩

theorem Rowing.ends (h : Rowing stage inner rows list s n l b done t) {c : Bool}
    {last : Option Run} {u : State σ}
    (answer : (runRows stage inner rows n l b done.head?).exec t = (.ok (c, last), u)) :
    ∃ m rest ran, Rowing stage inner rows list s m rest c ran u ∧ last = ran.head? ∧
      (rest = [] ∨ u.world.signals.isStopped u.run.signal = true) := by
  induction l generalizing n b done t with
  | nil =>
    cases answer
    exact ⟨n, [], done, h, rfl, .inl rfl⟩
  | cons row rest ih =>
    cases halted : t.world.signals.isStopped t.run.signal with
    | true =>
      rw [runRows_halted (.inr halted)] at answer
      cases answer
      exact ⟨n, row :: rest, done, h, rfl, .inr halted⟩
    | false =>
      rcases executed : inner.finish.exec (rowStart stage rows n row rest.isEmpty t) with ⟨f | d, v⟩
      · rw [runRows_raised halted executed] at answer
        cases answer
      · rw [runRows_next halted executed] at answer
        exact ih (.next h halted executed) answer

theorem rowStart_row (rows : Rows) (n : Nat) (row : Row) (isLast : Bool) (s : State σ) :
    (rowStart stage rows n row isLast s).run.row =
      { (rows.seed.withoutNumber.merge row).withLast
          (if rows.multiLine then row.last else rows.seed.last) with env := stage.env } := by
  simp only [rowStart]
  cases rows.case.sharesState <;> rfl

end Rows

section Child
variable {i : Nat} {c : Case} {seed : Row} {s u : State σ} {b : Bool} {last : Option Row}
  {done : List Run}

/-- The runs of the rows that a chained case executes, from the last to the first. -/
inductive Ran (stage : Stage σ) (inner : Inner σ) (i : Nat) (c : Case) (seed : Row)
    (s : State σ) : List Run → Prop
  | rows {d : Case} {list rest : List Row} {n : Nat} {b : Bool} {done : List Run} {t : State σ}
      (read : c.materialize seed = .ok d)
      (loaded : d.effectiveLoader.load stage.sources stage.dataDir seed = .ok list)
      (went : Rowing stage inner (rowsOf stage s.run i d seed) list
        (grouped stage (rowsOf stage s.run i d seed) s) n rest b done t)
      (ended : rest = [] ∨ t.world.signals.isStopped t.run.signal = true) :
      Ran stage inner i c seed s done

theorem runChild_exec {d : Case} {list : List Row} (read : c.materialize seed = .ok d)
    (loaded : d.effectiveLoader.load stage.sources stage.dataDir seed = .ok list) (s : State σ) :
    (runChild stage inner i c seed).exec s =
      (runGroup stage inner (rowsOf stage s.run i d seed) list >>= fun p =>
        settleChild stage inner d p.1 p.2).exec s := by
  apply exec_eq_of_ends
  intro Q
  rw [Course.runChild_loaded read loaded, ends_bind]
  refine iff_of_eq (congrArg (Ends _ _) (funext fun r => funext fun t => ?_))
  cases r <;> rfl

theorem settleChild_last (d : Case) (b : Bool) (last : Option Run) (s : State σ) :
    Ends (settleChild stage inner d b last) s fun r t =>
      t.run = s.run ∧ ∀ p, r = .ok p → p.2 = last.map Run.row := by
  cases last with
  | none =>
    refine ⟨rfl, ?_⟩
    rintro _ ⟨⟩
    rfl
  | some last =>
    rw [Course.settleChild_iff]
    split
    · refine ends_mono (Course.runDeferred_run d last s) fun r t same => ⟨same, ?_⟩
      cases r with
      | ok c =>
        rintro _ ⟨⟩
        rfl
      | error f =>
        rintro _ ⟨⟩
    · refine ⟨rfl, ?_⟩
      rintro _ ⟨⟩
      rfl

theorem Ran.answer (h : Ran stage inner i c seed s done)
    (answer : (runChild stage inner i c seed).exec s = (.ok (b, last), u)) :
    last = done.head?.map Run.row ∧ u.run = s.run := by
  obtain @⟨d, list, rest, n, e, _, t, read, loaded, went, ended⟩ := h
  rw [exec_eq_iff, Course.runChild_loaded read loaded, Course.runGroup_iff, Ends, went.exec,
    runRows_halted ended] at answer
  have settles : Ends (settleChild stage inner d e done.head?)
      (ungrouped stage (rowsOf stage s.run i d seed) t) _ := settleChild_last d e done.head? _
  obtain ⟨⟨answered, rfl⟩, kept, answers⟩ := ends_and answer settles
  refine ⟨answers _ answered, ?_⟩
  rw [kept, ungrouped_run, went.left.2.2, grouped_run]

theorem ran_of_answer (answer : (runChild stage inner i c seed).exec s = (.ok (b, last), u)) :
    ∃ done, Ran stage inner i c seed s done := by
  cases read : c.materialize seed with
  | error f =>
    simp only [exec_eq_iff, runChild, ends_bind, ends_getRun, read, report] at answer
    cases answer.1
  | ok d =>
    cases loaded : d.effectiveLoader.load stage.sources stage.dataDir seed with
    | error f =>
      simp only [exec_eq_iff, runChild, ends_bind, ends_getRun, read, report, ends_pure, loaded]
        at answer
      cases answer.1
    | ok list =>
      rw [exec_eq_iff, Course.runChild_loaded read loaded, Course.runGroup_iff] at answer
      generalize hrows : rowsOf stage s.run i d seed = rows at answer
      rcases executed : (runRows stage inner rows 1 list true none).exec (grouped stage rows s) with
        ⟨f | ⟨e, last'⟩, t⟩
      · rw [Ends, executed] at answer
        cases answer.1
      · subst hrows
        obtain ⟨n, rest, done, went, _, ended⟩ := Rowing.first.ends executed
        exact ⟨done, .rows read loaded went ended⟩

end Child

section Chain
variable {i : Nat} {c : Case} {rest : List Case} {seed : Row} {s t u : State σ} {b : Bool}
  {past : List (List Run)}

theorem runChildren_passed (running : t.world.signals.isStopped t.run.signal = false)
    (passed : isPassed c seed = true) :
    (runChildren stage inner i (c :: rest) seed b).exec t =
      (runChildren stage inner (i + 1) rest seed b).exec (t.record (.reached i true)) := by
  apply exec_eq_of_ends
  intro Q
  rw [Course.runChildren_iff, running, passed]
  rfl

theorem runChildren_next (running : t.world.signals.isStopped t.run.signal = false)
    (included : isPassed c seed = false) :
    (runChildren stage inner i (c :: rest) seed b).exec t =
      (runChild stage inner i c seed >>= fun p => runChildren stage inner (i + 1) rest
        (nextSeed t.run.case.takesOver seed p.2) (p.1 && b)).exec
          (t.record (.reached i false)) := by
  apply exec_eq_of_ends
  intro Q
  rw [Course.runChildren_iff, running, included, if_neg Bool.false_ne_true,
    if_neg Bool.false_ne_true, ends_bind]
  refine iff_of_eq (congrArg (Ends _ _) (funext fun r => funext fun u => ?_))
  cases r <;> rfl

/-- A chain on its way: the number of the next case, the cases from it on, the variables that it
begins with, whether all before it succeeded, and for each of those, from the last to the
first, the runs of the rows that it executed. -/
inductive Reaches (stage : Stage σ) (inner : Inner σ) (s : State σ) :
    Nat → List Case → Row → Bool → List (List Run) → State σ → Prop
  | first : Reaches stage inner s 1 s.run.case.chain s.run.row true [] s
  | passed {i : Nat} {c : Case} {rest : List Case} {seed : Row} {b : Bool}
      {past : List (List Run)} {t : State σ}
      (before : Reaches stage inner s i (c :: rest) seed b past t)
      (running : t.world.signals.isStopped t.run.signal = false)
      (passed : isPassed c seed = true) :
      Reaches stage inner s (i + 1) rest seed b ([] :: past) (t.record (.reached i true))
  | ran {i : Nat} {c : Case} {rest : List Case} {seed : Row} {b d : Bool} {last : Option Row}
      {past : List (List Run)} {done : List Run} {t u : State σ}
      (before : Reaches stage inner s i (c :: rest) seed b past t)
      (running : t.world.signals.isStopped t.run.signal = false)
      (included : isPassed c seed = false)
      (ran : Ran stage inner i c seed (t.record (.reached i false)) done)
      (answer : (runChild stage inner i c seed).exec (t.record (.reached i false)) =
        (.ok (d, last), u)) :
      Reaches stage inner s (i + 1) rest (nextSeed t.run.case.takesOver seed last) (d && b)
        (done :: past) u

/-- A chain on its way goes on to what it ends in from the start. -/
theorem Reaches.exec (h : Reaches stage inner s i rest seed b past t) :
    (chain stage inner).exec s = (runChildren stage inner i rest seed b).exec t := by
  induction h with
  | first => rfl
  | passed before running passed ih => rw [ih, runChildren_passed running passed]
  | ran before running included ran answer ih =>
    rw [ih, runChildren_next running included, exec_bind, answer]

theorem Reaches.left (h : Reaches stage inner s i rest seed b past t) :
    i = past.length + 1 ∧ rest = s.run.case.chain.drop past.length ∧ t.run = s.run := by
  induction h with
  | first => exact ⟨rfl, rfl, rfl⟩
  | passed before running passed ih =>
    exact ⟨congrArg (· + 1) ih.1, drop_of_cons ih.2.1, ih.2.2⟩
  | ran before running included ran answer ih =>
    exact ⟨congrArg (· + 1) ih.1, drop_of_cons ih.2.1, (ran.answer answer).2.trans ih.2.2⟩

theorem Reaches.member (h : Reaches stage inner s i (c :: rest) seed b past t) :
    c ∈ s.run.case.chain :=
  List.mem_of_mem_drop (h.left.2.1 ▸ List.mem_cons_self)

/-- The variables that a chain hands to the case after others: those of the run, or if it takes
them over those of the last row of the most recent case that executed one. -/
def handed (parent : Run) (past : List (List Run)) : Row :=
  if parent.case.takesOver then
    ((past.findSome? List.head?).map fun last => last.row.withLast parent.row.last).getD parent.row
  else parent.row

theorem handed_last (parent : Run) (past : List (List Run)) :
    (handed parent past).last = parent.row.last := by
  rw [handed]
  split
  · cases past.findSome? List.head? <;> rfl
  · rfl

theorem nextSeed_handed (parent : Run) (past : List (List Run)) (done : List Run) :
    nextSeed parent.case.takesOver (handed parent past) (done.head?.map Run.row) =
      handed parent (done :: past) := by
  cases done with
  | nil => rfl
  | cons last done =>
    cases takes : parent.case.takesOver with
    | false => simp [nextSeed, handed, takes]
    | true =>
      show last.row.withLast (handed parent past).last = handed parent ((last :: done) :: past)
      rw [handed_last, handed, takes]
      rfl

theorem Reaches.begins (h : Reaches stage inner s i rest seed b past t) :
    seed = handed s.run past := by
  induction h with
  | first => simp [handed]
  | passed before running passed ih => exact ih
  | ran before running included ran answer ih =>
    rw [(ran.answer answer).1, before.left.2.2, ih, nextSeed_handed]

/-- Where a chain ends, or a case of it raises a fault, cases before were on their way. -/
theorem Reaches.ends (h : Reaches stage inner s i rest seed b past t) :
    ∃ j l x d ran u, Reaches stage inner s j l x d ran u ∧
      (((l = [] ∨ u.world.signals.isStopped u.run.signal = true) ∧
          (chain stage inner).exec s = (.ok d, u)) ∨
        ∃ c r f v, l = c :: r ∧
          (runChild stage inner j c x).exec (u.record (.reached j false)) = (.error f, v) ∧
          (chain stage inner).exec s = (.error f, v)) := by
  induction rest generalizing i seed b past t with
  | nil => exact ⟨i, [], seed, b, past, t, h, .inl ⟨.inl rfl, h.exec⟩⟩
  | cons c rest ih =>
    cases halted : t.world.signals.isStopped t.run.signal with
    | true =>
      refine ⟨i, c :: rest, seed, b, past, t, h, .inl ⟨.inr halted, ?_⟩⟩
      rw [h.exec, exec_eq_iff, Course.runChildren_iff, if_pos halted]
      exact ⟨rfl, rfl⟩
    | false =>
      cases passed : isPassed c seed with
      | true => exact ih (.passed h halted passed)
      | false =>
        rcases answer : (runChild stage inner i c seed).exec (t.record (.reached i false)) with
          ⟨f | ⟨d, last⟩, u⟩
        · refine ⟨i, c :: rest, seed, b, past, t, h, .inr ⟨c, rest, f, u, rfl, answer, ?_⟩⟩
          rw [h.exec, runChildren_next halted passed, exec_bind, answer]
        · obtain ⟨done, ran⟩ := ran_of_answer answer
          exact ih (.ran h halted passed ran answer)

end Chain

section Example
open Brackets

def letters : DataSource where
  multiLine := true
  isLoadable := fun _ => true
  rows := fun _ _ _ => .ok [{ vars := [("letter", "a")] }, { vars := [("letter", "b")] }]

def lettered : Stage Unit := { bare with sources := fun _ => some letters }

def storing : Case where
  script := { name := "storing" }
  steps := [{ kind := .store,
              texts := [("variable", "seen"), ("text", "x${letter}")] }]

end Example

end Seeds

end Scenario

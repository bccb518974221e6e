import Scenario.Proofs.PassingAdvice

/-!
# Visits of steps

A run visits a step when the step is started. The relation `Visits` follows a
part of a run from the state in which the part begins to the state of a visit,
through the steps, blocks and rounds that lie between, and remembers the round
of the innermost loop on the way.
-/

set_option autoImplicit false

namespace Scenario
open Scenario.Act Scenario.Execution Scenario.Marks

variable {σ : Type} {stage : Stage σ} {depth : Nat}

namespace Visiting

theorem ends_executed {ε α : Type} {a : Act σ ε α} {s t : State σ} {r : Except ε α}
    {Q : Except ε α → State σ → Prop} (h : Ends a s Q) (executed : a.exec s = (r, t)) : Q r t := by
  rwa [Ends, executed] at h

theorem ends_exec {ε α : Type} {a : Act σ ε α} {s : State σ} {Q : Except ε α → State σ → Prop}
    (h : Ends a s Q) : Ends a s fun r t => a.exec s = (r, t) ∧ Q r t := ⟨rfl, h⟩

def blockOf (stage : Stage σ) (inner : Inner σ) : Option Nat → Nat → Act σ Problem Bool
  | none => block stage inner
  | some depth => blockAt stage inner depth

/-- A round of a loop that owns a number of steps, after the state before it. -/
structure Round (σ : Type) where
  level : Option Nat
  size : Nat
  number : Nat
  before : State σ

def Round.began (r : Round σ) : State σ := Blame.counted r.before r.number

/-- A part of a run: the steps that are left of the list, the step on which the cursor
stands, the rounds that are left of a loop from number `i` on, a block of steps, or the steps
from `index` to `last` that are left of one. -/
inductive Part where
  | steps (left : Nat)
  | current (level : Option Nat)
  | rounds (level : Option Nat) (size left i : Nat)
  | block (level : Option Nat) (size : Nat)
  | walk (level last left index : Nat)
  deriving DecidableEq

def Round.part (r : Round σ) : Part := .block r.level r.size

section Relation
variable (stage : Stage σ) (inner : Inner σ)

/-- The step on which the cursor stands is included, and the advice before it lets it begin. -/
structure Begins (s : State σ) (p : Step) (u : State σ) : Prop where
  here : s.run.step? = some p
  included : s.run.case.includes p s.run.row = true
  wanted : p.isSkipped s.run.row = false
  allowed : (adviseAll stage inner .before p (s.run.aspect.advice p s.run.row)).exec
    (s.record (.turned (s.run.cursor.current?.getD 0))) = (.ok true, u)

def started (p : Step) (u : State σ) : State σ := u.emit stage (.started (p.label u.run.row))

/-- A part of a run that begins in a state visits a step in another, within the given round of
the innermost loop of that part. -/
inductive Visits : Part → State σ → Option (Round σ) → State σ → Prop
  | next {left : Nat} {s u t : State σ} {o : Option (Round σ)}
      (more : (hasNext : Act σ Fault Bool).exec s = (.ok true, u))
      (inside : Visits (.current none) (u.standing u.run.cursor.startStep.index) o t) :
      Visits (.steps (left + 1)) s o t
  | onward {left : Nat} {s u v t : State σ} {o : Option (Round σ)} {c : Bool}
      (more : (hasNext : Act σ Fault Bool).exec s = (.ok true, u))
      (past : (Execution.next stage inner).exec u = (.ok c, v))
      (rest : Visits (.steps left) v o t) : Visits (.steps (left + 1)) s o t
  | here {level : Option Nat} {s u : State σ} {p : Step} (begins : Begins stage inner s p u) :
      Visits (.current level) s none (started stage p u)
  | loop {level : Option Nat} {s u t : State σ} {p : Step} {n : Nat} {o : Option (Round σ)}
      (begins : Begins stage inner s p u) (kind : p.kind = .loop)
      (count : ((Act.text "count" >>= Action.number).exec (started stage p u)).1 = .ok n)
      (inside : Visits (.rounds level (Action.owned u.run p) n 1) (started stage p u) o t) :
      Visits (.current level) s o t
  | branch {level : Option Nat} {s u t : State σ} {p : Step} {condition : String}
      {o : Option (Round σ)}
      (begins : Begins stage inner s p u) (kind : p.kind = .branch)
      (text : p.text? "condition" = some condition)
      (holds : u.run.row.evaluate condition = true)
      (inside : Visits (.block level (Action.owned u.run p)) (started stage p u) o t) :
      Visits (.current level) s o t
  | round {level : Option Nat} {size left i : Nat} {s t : State σ} {o : Option (Round σ)}
      (running : s.isStopped = false)
      (inside : Visits (.block level size) (Blame.counted s i) o t) :
      Visits (.rounds level size (left + 1) i) s (o.or (some ⟨level, size, i, s⟩)) t
  | again {level : Option Nat} {size left i : Nat} {s u t : State σ} {o : Option (Round σ)}
      {c : Bool} (running : s.isStopped = false)
      (past : (blockOf stage inner level size).exec (Blame.counted s i) = (.ok c, u))
      (rest : Visits (.rounds level size left (i + 1)) u o t) :
      Visits (.rounds level size (left + 1) i) s o t
  | top {size : Nat} {s t : State σ} {o : Option (Round σ)}
      (inside : Visits (.block (some (s.run.case.steps.length + 1)) size) s o t) :
      Visits (.block none size) s o t
  | block {level size origin : Nat} {s t : State σ} {o : Option (Round σ)}
      (stands : s.run.cursor.current? = some origin)
      (inside : let last := min (origin + size) (s.run.case.steps.length - 1)
        Visits (.walk level last (last - origin + 1) (origin + 1)) s o t) :
      Visits (.block (some (level + 1)) size) s o t
  | step {level last left index : Nat} {s t : State σ} {o : Option (Round σ)}
      (within : index ≤ last) (running : s.isStopped = false)
      (inside : Visits (.current (some level)) (s.standing ((index : Int).bmod Text.word)) o t) :
      Visits (.walk level last (left + 1) index) s o t
  | past {level last left index : Nat} {s u t : State σ} {o : Option (Round σ)} {done : Outcome}
      (within : index ≤ last) (running : s.isStopped = false)
      (past : (executeCurrent stage inner (blockOf stage inner (some level))).exec
        (s.standing ((index : Int).bmod Text.word)) = (.ok done, u))
      (rest : Visits (.walk level last left (index + done.consumed)) u o t) :
      Visits (.walk level last (left + 1) index) s o t

end Relation

section Flow
variable {block : Nat → Act σ Problem Bool} {p : Step} {s : State σ}
  {Q : Except Problem Bool → State σ → Prop}

theorem loop_ends (here : s.run.step? = some p) (kind : p.kind = .loop)
    (fails : ∀ e, ((Act.text "count" >>= Action.number).exec s).1 = .error e → Q (.error e) s)
    (goes : ∀ n, ((Act.text "count" >>= Action.number).exec s).1 = .ok n →
      Ends (Action.rounds block (Action.owned s.run p) n 1 true) s Q) :
    Ends (Action.perform stage block p.kind) s Q := by
  have read : Ends (Act.text "count" >>= Action.number : Act σ Problem Nat) s fun r t =>
      t = s ∧ ((Act.text "count" >>= Action.number).exec s).1 = r := by
    refine ⟨?_, rfl⟩
    show Ends _ s fun _ t => t = s
    simp only [Act.text, Act.rawText, Act.currentStep, ends_bind, ends_getRun, here, ends_pure]
    cases p.text? "count" with
    | none => rfl
    | some raw =>
      simp only [ends_pure, Action.number]
      split <;> rfl
  have whole : Ends ((Act.text "count" >>= Action.number : Act σ Problem Nat) >>= fun n => do
      let p ← Act.currentStep
      let r ← Act.getRun
      Action.rounds block (Action.owned r p) n 1 true) s Q := by
    apply ends_seq read
    · rintro n _ ⟨rfl, known⟩
      simp only [Act.currentStep, ends_bind, ends_getRun, here, ends_pure]
      exact goes n known
    · rintro e _ ⟨rfl, known⟩
      exact fails e known
  rw [kind]
  rw [bind_assoc] at whole
  exact whole

theorem branch_ends (here : s.run.step? = some p) (kind : p.kind = .branch)
    (fails : p.text? "condition" = none → ∀ e, Q (.error e) s)
    (leaves : ∀ condition, p.text? "condition" = some condition →
      s.run.row.evaluate condition ≠ true → Q (.ok true) s)
    (goes : ∀ condition, p.text? "condition" = some condition →
      s.run.row.evaluate condition = true → Ends (block (Action.owned s.run p)) s Q) :
    Ends (Action.perform stage block p.kind) s Q := by
  rw [kind]
  simp only [Action.perform, Act.rawText, Act.currentStep, ends_bind, ends_getRun, here, ends_pure]
  cases text : p.text? "condition" with
  | none => exact fails text _
  | some condition =>
    simp only [ends_pure, here]
    by_cases holds : s.run.row.evaluate condition = true
    · rw [if_pos holds]
      exact goes condition text holds
    · rw [if_neg holds]
      exact leaves condition text holds

end Flow

section Kept
variable {s t u v : State σ} {o : Option (Round σ)}

theorem kept_standing (s : State σ) (i : Int) : s.run.Kept (s.standing i).run :=
  ⟨rfl, rfl, rfl, rfl, rfl, rfl, rfl, rfl, rfl, rfl⟩

theorem kept_hasNext (stage : Stage σ) {b : Bool}
    (more : (hasNext : Act σ Fault Bool).exec s = (.ok b, u)) :
    s.run.Kept u.run ∧ (b = true → u.isStopped = false) := by
  have mobile : (marking σ).Mobile stage := marking_lawful.toMobile
  obtain ⟨⟨_, ⟨⟩, running⟩, went⟩ := ends_executed (Conduct.hasNext_ends mobile trivial) more
  exact ⟨Onward.kept went, running⟩

variable (stage depth)

theorem kept_next {r : Except Fault Bool}
    (past : (Execution.next stage (innerAt stage depth)).exec s = (r, u))
    (running : s.isStopped = false) : s.run.Kept u.run := by
  have mobile : (marking σ).Mobile stage := marking_lawful.toMobile
  have ends := Conduct.next_ends mobile (Blame.turns_marking stage depth) trivial running
  exact (onward_answers (ends_executed ends past)).kept

theorem judges_blockOf (level : Option Nat) (size : Nat) :
    (marking σ).Judges (blockOf stage (innerAt stage depth) level size) := by
  have mobile : (marking σ).Mobile stage := marking_lawful.toMobile
  cases level with
  | none => exact Conduct.judges_block mobile (Blame.turns_marking stage depth) size
  | some level => exact Conduct.judges_blockAt mobile (Blame.turns_marking stage depth) level size

theorem kept_block {level : Option Nat} {size : Nat} {r : Except Problem Bool}
    (past : (blockOf stage (innerAt stage depth) level size).exec s = (r, u)) :
    s.run.Kept u.run := by
  have marks : (marking σ).Lawful stage := marking_lawful
  have order : (marking σ).Order := marks.toOrder
  have verdict := ends_executed (judges_blockOf stage depth level size s trivial) past
  exact (onward_attempts (Conduct.attempts_of_verdicts order verdict)).kept

theorem kept_action (level : Option Nat) (t : State σ) (k : Step.Kind) :
    Ends (Action.perform stage (blockOf stage (innerAt stage depth) level) k) t
      fun _ u => t.run.Kept u.run := by
  have mobile : (marking σ).Mobile stage := marking_lawful.toMobile
  exact ends_mono (Conduct.keeps_action mobile (judges_blockOf stage depth level) k t trivial)
    fun _ _ attempted => (onward_attempts attempted).kept

theorem kept_current {level : Option Nat} {r : Except Fault Outcome}
    (past : (executeCurrent stage (innerAt stage depth)
      (blockOf stage (innerAt stage depth) level)).exec s = (r, u))
    (running : s.isStopped = false) : s.run.Kept u.run := by
  have judges := judges_blockOf stage depth level
  have ends := Blame.turns_marking stage depth _ judges s trivial running
  have answered := ends_executed ends past
  exact (onward_answers answered).kept

variable {stage depth}

theorem kept_begins {p : Step} (begins : Begins stage (innerAt stage depth) s p u) :
    s.run.Kept (started stage p u).run := by
  have turned : s.run.Kept (s.record (.turned (s.run.cursor.current?.getD 0))).run := .refl _
  have marks : (marking σ).Lawful stage := marking_lawful
  have heard := Conduct.adviseAll_ends marks.toAdvised
    (fun x _ => frame_innerAt stage depth x) .before p (s.run.aspect.advice p s.run.row)
    (fun _ _ => trivial) (s := s.record (.turned (s.run.cursor.current?.getD 0))) trivial
  exact turned.trans (onward_heard (ends_executed heard begins.allowed)).kept

/-- The run is kept up to a visit, and up to the round in which it lies. -/
def KeptTo (s : State σ) (o : Option (Round σ)) (t : State σ) : Prop :=
  s.run.Kept t.run ∧ ∀ r, o = some r → s.run.Kept r.began.run

theorem KeptTo.before (h : KeptTo u o t) (kept : s.run.Kept u.run) : KeptTo s o t :=
  ⟨kept.trans h.1, fun r hr => kept.trans (h.2 r hr)⟩

theorem Visits.kept {part : Part} (visit : Visits stage (innerAt stage depth) part s o t) :
    KeptTo s o t := by
  induction visit with
  | next more _ ih =>
    exact (ih.before (kept_standing _ _)).before (kept_hasNext stage more).1
  | onward more past _ ih =>
    obtain ⟨kept, running⟩ := kept_hasNext stage more
    exact (ih.before (kept_next stage depth past (running rfl))).before kept
  | here begins => exact ⟨kept_begins begins, fun _ h => by cases h⟩
  | loop begins _ _ _ ih => exact ih.before (kept_begins begins)
  | branch begins _ _ _ _ ih => exact ih.before (kept_begins begins)
  | @round _ _ _ i s t o _ _ ih =>
    have counted : s.run.Kept (Blame.counted s i).run := (Blame.onward_counted s i).kept
    apply And.intro (ih.before counted).1
    intro r hr
    cases o with
    | none =>
      cases hr
      exact counted
    | some r' =>
      cases hr
      exact counted.trans (ih.2 _ rfl)
  | @again _ _ _ i s _ _ _ _ _ past _ ih =>
    exact (ih.before (kept_block stage depth past)).before (Blame.onward_counted s i).kept
  | top _ ih => exact ih
  | block _ _ ih => exact ih
  | step _ _ _ ih => exact ih.before (kept_standing _ _)
  | past _ running past _ ih =>
    have kept := kept_current stage depth past ((State.isStopped_standing _ _).trans running)
    exact (ih.before kept).before (kept_standing _ _)

end Kept

end Visiting

end Scenario

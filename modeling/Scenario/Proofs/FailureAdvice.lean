import Scenario.Proofs.EventNesting

/-!
# Whom failure advice asks

On a step that failed every selected interceptor is to be asked, each once and
in their order. They are, up to the first that raises a fault; it keeps those
after it from being asked, and where none raises one the answer is whether all
agreed.
-/

set_option autoImplicit false

namespace Scenario.Asking
open Scenario.Act Scenario.Execution

variable {σ : Type}

section Asked
variable (stage : Stage σ) (inner : Inner σ) (k : AdviceKind) (p : Step)

/-- Asks every interceptor once and in order, whatever those before it answered: their answers,
and the state in which the last one leaves the run. -/
def askAll : List (Interceptor Case) → State σ → List (Except Fault Bool) × State σ
  | [], s => ([], s)
  | i :: r, s =>
    let (answer, t) := (advise stage inner k p i).exec s
    let (answers, u) := askAll r t
    (answer :: answers, u)

end Asked

/-- How many interceptors were asked when the first fault was raised, that one included. -/
def untilFault : List (Except Fault Bool) → Nat
  | [] => 0
  | .ok _ :: r => untilFault r + 1
  | .error _ :: _ => 1

/-- The first fault, or whether all answers agree. -/
def verdict : List (Except Fault Bool) → Except Fault Bool
  | [] => .ok true
  | .ok b :: r => (verdict r).map (b && ·)
  | .error f :: _ => .error f

theorem verdict_answered (bs : List Bool) : verdict (bs.map .ok) = .ok (bs.all id) := by
  induction bs with
  | nil => rfl
  | cons b bs ih => simp [verdict, ih, Except.map]

theorem untilFault_le (answers : List (Except Fault Bool)) :
    untilFault answers ≤ answers.length := by
  induction answers with
  | nil => exact Nat.le_refl 0
  | cons a r ih => cases a <;> simp [untilFault, ih]

theorem untilFault_eq_length {answers : List (Except Fault Bool)} :
    untilFault answers = answers.length ↔
      ∀ before f after, answers = before ++ .error f :: after → after = [] := by
  induction answers with
  | nil => simp [untilFault]
  | cons a r ih =>
    cases a with
    | ok b =>
      rw [untilFault, List.length_cons, Nat.add_right_cancel_iff, ih]
      constructor
      · intro last before f after split
        cases before with
        | nil => cases split
        | cons _ before => exact last before f after (List.cons.inj split).2
      · intro last before f after split
        exact last (.ok b :: before) f after (by rw [split, List.cons_append])
    | error g =>
      rw [untilFault, List.length_cons]
      constructor
      · intro one before f after split
        have none : r = [] := List.eq_nil_of_length_eq_zero (by omega)
        subst none
        cases before with
        | nil => exact (List.cons.inj split).2.symm
        | cons _ before => simp at split
      · intro last
        rw [last [] g r rfl]
        rfl

section Asked
variable (stage : Stage σ) (inner : Inner σ) (p : Step)

theorem length_askAll (k : AdviceKind) (l : List (Interceptor Case)) (s : State σ) :
    (askAll stage inner k p l s).1.length = l.length := by
  induction l generalizing s with
  | nil => rfl
  | cons i r ih => exact congrArg (· + 1) (ih _)

theorem askAll_take (k : AdviceKind) (n : Nat) (l : List (Interceptor Case)) (s : State σ) :
    (askAll stage inner k p (l.take n) s).1 = (askAll stage inner k p l s).1.take n := by
  induction l generalizing n s with
  | nil => simp [askAll]
  | cons i r ih =>
    cases n with
    | zero => rfl
    | succ n => exact congrArg (List.cons _) (ih n _)

/-- What failure advice leaves is left by the interceptors up to the first that raises a fault. -/
theorem adviseEvery_exec (k : AdviceKind) (l : List (Interceptor Case)) (b : Bool) (s : State σ) :
    let answers := (askAll stage inner k p l s).1
    (adviseEvery stage inner k p l b).exec s =
      ((verdict answers).map (· && b),
        (askAll stage inner k p (l.take (untilFault answers)) s).2) := by
  induction l generalizing b s with
  | nil => rfl
  | cons i r ih =>
    rcases asked : (advise stage inner k p i).exec s with ⟨f | c, t⟩
    · simp only [adviseEvery, exec_bind, askAll, asked, verdict, untilFault, List.take_succ_cons,
        List.take_zero, Except.map]
    · simp only [adviseEvery, exec_bind, askAll, asked, verdict, untilFault, List.take_succ_cons,
        ih]
      cases verdict (askAll stage inner k p r t).1 with
      | error f => rfl
      | ok d => simp [Except.map, Bool.and_comm, Bool.and_left_comm]

/-- The interceptors that are selected for a step that failed or raised an error are asked for
their failure advice once each and in order, up to the first that raises a fault, which is
then the answer; where none does, the answer is whether all agreed. So all of them are asked
if and only if no fault is raised by one that another one follows. -/
theorem failure_advice_asks (l : List (Interceptor Case)) (s : State σ) :
    let answers := (askAll stage inner .failure p l s).1
    let asked := l.take (untilFault answers)
    (adviseEvery stage inner .failure p l true).exec s =
        (verdict answers, (askAll stage inner .failure p asked s).2) ∧
      (askAll stage inner .failure p asked s).1 = answers.take (untilFault answers) ∧
      (asked = l ↔ ∀ before f after, answers = before ++ .error f :: after → after = []) ∧
      ∀ bs : List Bool, verdict (bs.map .ok) = .ok (bs.all id) := by
  intro answers asked
  have length : answers.length = l.length := length_askAll stage inner p .failure l s
  have within : untilFault answers ≤ answers.length := untilFault_le answers
  have alone : (verdict answers).map (· && true) = verdict answers := by
    cases verdict answers <;> simp [Except.map]
  refine ⟨?_, askAll_take .., ?_, verdict_answered⟩
  · rw [adviseEvery_exec, alone]
  · rw [← untilFault_eq_length]
    constructor
    · intro whole
      have taken : asked.length = l.length := congrArg List.length whole
      rw [List.length_take] at taken
      omega
    · intro all
      exact List.take_of_length_le (by omega)

end Asked

section Example
open Brackets

def noting (note : String) (result : Except Fault Bool) : Interceptor Case :=
  .hooks .any none none (some fun _ => { note := some note, result }) false

def pair : List (Interceptor Case) :=
  [noting "first" (.error (.step "a" [.text "hook failure"])), noting "second" (.ok true)]

/-- The second of them is to be asked and is not. -/
theorem raising_hook_silences_next :
    let s := firstState (greeting none none)
    let inner := innerAt bare 0
    (askAll bare inner .failure { kind := .echo } pair s).2.world.notes = ["first", "second"] ∧
      ((adviseEvery bare inner .failure { kind := .echo } pair true).exec s).2.world.notes =
        ["first"] := by
  decide +kernel

end Example

end Scenario.Asking

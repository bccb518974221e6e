import Scenario.Report

/-!
# Problems in reports

A recorder blames the innermost open suite for a problem, and a suite that was
blamed stays so when it is closed. A problem that arrives while no suite is
open leaves no mark.
-/

set_option autoImplicit false

namespace Scenario

def Event.isProblem : Event → Bool
  | .failure _ => true
  | .error _ => true
  | _ => false

namespace Recorder

/-- A suite that is open or was closed has failed. -/
def Blamed (r : Recorder) : Prop :=
  (∃ e ∈ r.finished, e.2.success = false) ∨ ∃ s ∈ r.stack, s.result.success = false

def hear (r : Recorder) (es : List Event) : Recorder := es.foldl apply r

theorem ofEvents_eq_hear (es : List Event) : ofEvents es = hear {} es := rfl

theorem hear_append (r : Recorder) (es es' : List Event) :
    r.hear (es ++ es') = (r.hear es).hear es' := List.foldl_append

theorem settleStep_success (s : OpenSuite) :
    (OpenSuite.settleStep s).result.success = s.result.success := by
  rw [OpenSuite.settleStep]
  split <;> rfl

inductive Hears (r : Recorder) : Event → Recorder → Prop
  | opened (n : String) (p : Script) (x : Row) : Hears r (.opened n p x) (r.openSuite n p.path)
  | closed (top : OpenSuite) (rest : List OpenSuite) (result : SuiteResult)
      (hr : r.stack = top :: rest) (hs : result.success = top.result.success) :
      Hears r .closed { r with stack := rest, finished := r.finished ++ [(top.order, result)] }
  | noted {e : Event} (top s : OpenSuite) (rest : List OpenSuite) (hr : r.stack = top :: rest)
      (ho : ∀ n p x, e ≠ .opened n p x) (hc : e ≠ .closed)
      (hs : s.result.success = (top.result.success && !e.isProblem)) :
      Hears r e { r with stack := s :: rest }
  | idle {e : Event} (hr : r.stack = []) (ho : ∀ n p x, e ≠ .opened n p x) : Hears r e r

theorem problem_success (r : Recorder) (m : String) {top : OpenSuite} {rest : List OpenSuite}
    (hr : r.stack = top :: rest) :
    ∃ s, s.result.success = false ∧ r.problem m = { r with stack := s :: rest } := by
  rw [problem, hr]
  refine ⟨_, ?_, rfl⟩
  split <;> rfl

theorem hears_apply (r : Recorder) (e : Event) : Hears r e (r.apply e) := by
  cases hr : r.stack with
  | nil =>
    cases e with
    | opened n p x => exact .opened n p x
    | started _ =>
      rw [apply, startStep, hr]
      exact .idle hr (by simp)
    | ended =>
      rw [apply, endStep, hr]
      exact .idle hr (by simp)
    | failure _ =>
      rw [apply, problem, hr]
      exact .idle hr (by simp)
    | error _ =>
      rw [apply, problem, hr]
      exact .idle hr (by simp)
    | closed =>
      rw [apply, closeSuite, hr]
      exact .idle hr (by simp)
  | cons top rest =>
    cases e with
    | opened n p x => exact .opened n p x
    | started _ =>
      rw [apply, startStep, hr]
      exact .noted top _ rest hr (by simp) (by simp) (Bool.and_true _).symm
    | ended =>
      rw [apply, endStep, hr]
      refine .noted top _ rest hr (by simp) (by simp) ?_
      exact (settleStep_success top).trans (Bool.and_true _).symm
    | failure m =>
      obtain ⟨s, hs, same⟩ := problem_success r m hr
      rw [apply, same]
      exact .noted top s rest hr (by simp) (by simp) (hs.trans (Bool.and_false _).symm)
    | error f =>
      obtain ⟨s, hs, same⟩ := problem_success r f.line hr
      rw [apply, same]
      exact .noted top s rest hr (by simp) (by simp) (hs.trans (Bool.and_false _).symm)
    | closed =>
      rw [apply, closeSuite, hr]
      exact .closed top rest _ hr (settleStep_success top)

theorem Hears.blamed {r t : Recorder} {e : Event} (h : Hears r e t) :
    t.Blamed ↔ r.Blamed ∨ (e.isProblem = true ∧ r.stack ≠ []) := by
  cases h with
  | opened n p x => simp [Blamed, openSuite, Event.isProblem]
  | closed top rest result hr hs =>
    simp [Blamed, hr, hs, Event.isProblem, or_and_right, exists_or, or_assoc]
  | noted top s rest hr ho hc hs =>
    simp only [Blamed, hr, hs, List.mem_cons, exists_eq_or_imp]
    cases top.result.success <;> cases e.isProblem <;> simp
  | idle hr _ => simp [hr]

theorem Hears.problem {r t : Recorder} {e : Event} (h : Hears r e t) (he : e.isProblem = true)
    (hr : r.stack = []) : t = r := by
  cases h with
  | opened n p x => cases he
  | closed _ _ _ _ _ => cases he
  | noted _ _ _ h _ _ _ => simp [hr] at h
  | idle _ _ => rfl

theorem Hears.length {r t : Recorder} {e : Event} (h : Hears r e t)
    (ho : ∀ n p x, e ≠ .opened n p x) (hc : e ≠ .closed) :
    t.stack.length = r.stack.length := by
  cases h with
  | opened n p x => exact absurd rfl (ho n p x)
  | closed _ _ _ _ _ => exact absurd rfl hc
  | noted _ _ _ hr _ _ _ => rw [hr, List.length_cons, List.length_cons]
  | idle _ _ => rfl

theorem blamed_apply (r : Recorder) (e : Event) :
    (r.apply e).Blamed ↔ r.Blamed ∨ (e.isProblem = true ∧ r.stack ≠ []) :=
  (hears_apply r e).blamed

theorem blamed_hear {r : Recorder} (es : List Event) (h : r.Blamed) : (r.hear es).Blamed := by
  induction es generalizing r with
  | nil => exact h
  | cons e es ih => exact ih ((blamed_apply r e).2 (.inl h))

theorem exists_problem {r : Recorder} {es : List Event} (h : (r.hear es).Blamed)
    (hr : ¬ r.Blamed) : ∃ e ∈ es, e.isProblem = true := by
  induction es generalizing r with
  | nil => exact absurd h hr
  | cons e es ih =>
    by_cases he : e.isProblem = true
    · exact ⟨e, by simp, he⟩
    · have unblamed : ¬ (r.apply e).Blamed := by simp [blamed_apply, hr, he]
      obtain ⟨f, hf, hp⟩ := ih h unblamed
      exact ⟨f, by simp [hf], hp⟩

theorem mem_insertByOrder (e f : Nat × SuiteResult) (l : List (Nat × SuiteResult)) :
    f ∈ insertByOrder e l ↔ f = e ∨ f ∈ l := by
  induction l with
  | nil => simp [insertByOrder]
  | cons g l ih =>
    rw [insertByOrder]
    split
    · simp
    · rw [List.mem_cons, ih, List.mem_cons]
      exact or_left_comm

theorem mem_suites (r : Recorder) (s : SuiteResult) :
    s ∈ r.suites ↔ ∃ e ∈ r.finished, e.2 = s := by
  have sorted : ∀ (l acc : List (Nat × SuiteResult)) (f : Nat × SuiteResult),
      f ∈ l.foldl (fun es e => insertByOrder e es) acc ↔ f ∈ l ∨ f ∈ acc := by
    intro l
    induction l with
    | nil => simp
    | cons e l ih =>
      intro acc f
      rw [List.foldl_cons, ih, mem_insertByOrder, List.mem_cons, or_left_comm, or_assoc]
  simp [suites, sorted]

/-- Once all suites are closed, a report claims success if none was blamed. -/
theorem report_success {r : Recorder} (name : String) (hr : r.stack = []) :
    (r.report name).success = true ↔ ¬ r.Blamed := by
  rw [report, List.all_eq_true]
  constructor
  · rintro h (⟨e, he, hb⟩ | ⟨s, hs, _⟩)
    · have good := h e.2 ((mem_suites r e.2).2 ⟨e, he, rfl⟩)
      rw [hb] at good
      cases good
    · rw [hr] at hs
      cases hs
  · intro h s hs
    obtain ⟨e, he, rfl⟩ := (mem_suites r s).1 hs
    cases hb : e.2.success with
    | true => rfl
    | false => exact absurd (.inl ⟨e, he, hb⟩) h

def Shut (es : List Event) : Prop :=
  ∀ r : Recorder, (r.hear es).stack.length = r.stack.length

def Charged (es : List Event) : Prop := ∀ r : Recorder, r.stack ≠ [] → (r.hear es).Blamed

/-- The events blame a suite. -/
def Failed (es : List Event) : Prop := ∀ r : Recorder, (r.hear es).Blamed

theorem shut_nil : Shut [] := fun _ => rfl

theorem Shut.append {es es' : List Event} (h : Shut es) (h' : Shut es') : Shut (es ++ es') := by
  intro r
  rw [hear_append, h', h]

theorem shut_single {e : Event} (ho : ∀ n p x, e ≠ .opened n p x) (hc : e ≠ .closed) :
    Shut [e] := fun r => (hears_apply r e).length ho hc

theorem Shut.suite {es : List Event} (h : Shut es) (n : String) (p : Script) (x : Row) :
    Shut (.opened n p x :: (es ++ [.closed])) := by
  intro r
  show ((r.openSuite n p.path).hear (es ++ [.closed])).stack.length = r.stack.length
  rw [hear_append]
  have inside := h (r.openSuite n p.path)
  revert inside
  generalize (r.openSuite n p.path).hear es = r'
  intro inside
  obtain ⟨opened, stack, finished⟩ := r'
  cases stack with
  | nil => simp [openSuite] at inside
  | cons top rest => exact Nat.succ.inj inside

theorem Shut.stays_open {es : List Event} (h : Shut es) {r : Recorder} (hr : r.stack ≠ []) :
    (r.hear es).stack ≠ [] := by
  intro he
  have same := h r
  rw [he] at same
  exact hr (List.eq_nil_of_length_eq_zero same.symm)

theorem Failed.charged {es : List Event} (h : Failed es) : Charged es := fun r _ => h r

theorem Charged.left {es : List Event} (h : Charged es) (es' : List Event) :
    Charged (es ++ es') := by
  intro r hr
  rw [hear_append]
  exact blamed_hear es' (h r hr)

theorem Charged.right {es es' : List Event} (h : Charged es') (hs : Shut es) :
    Charged (es ++ es') := by
  intro r hr
  rw [hear_append]
  exact h _ (hs.stays_open hr)

theorem Failed.left {es : List Event} (h : Failed es) (es' : List Event) : Failed (es ++ es') := by
  intro r
  rw [hear_append]
  exact blamed_hear es' (h r)

theorem Failed.right {es' : List Event} (h : Failed es') (es : List Event) :
    Failed (es ++ es') := by
  intro r
  rw [hear_append]
  exact h _

theorem charged_problem {e : Event} (he : e.isProblem = true) : Charged [e] :=
  fun r hr => (blamed_apply r e).2 (.inr ⟨he, hr⟩)

theorem Charged.suite {es : List Event} (h : Charged es) (n : String) (p : Script) (x : Row)
    (es' : List Event) : Failed (.opened n p x :: (es ++ es')) := by
  intro r
  show ((r.openSuite n p.path).hear (es ++ es')).Blamed
  rw [hear_append]
  exact blamed_hear es' (h _ (by simp [openSuite]))

theorem Charged.exists_problem {es : List Event} (h : Charged es) :
    ∃ e ∈ es, e.isProblem = true := by
  have blamed := h (openSuite {} "" none) (by simp [openSuite])
  refine Recorder.exists_problem blamed ?_
  rintro (⟨_, hf, _⟩ | ⟨s, hs, hb⟩)
  · cases hf
  · rcases List.mem_cons.1 hs with rfl | hs
    · cases hb
    · cases hs

end Recorder

end Scenario

import Scenario.Loading
import Scenario.Proofs.RunTreeLaws

/-!
# Disciplines of trees of cases

A discipline says which interceptors a case may have and with which faults a
case may refuse to be read. A case is under it when it and all cases that it
refers to keep to it. Runs of such a case begin advice and rows under the same
discipline.
-/

set_option autoImplicit false

namespace Scenario
open Scenario.Execution

variable {σ : Type} {stage : Stage σ}

structure Discipline where
  able : Interceptor Case → Prop
  refuses : Fault → Prop
  freeze : ∀ {i} (row : Row), able i → able (i.freeze row)

variable {D : Discipline}

/-- The case and the cases that it refers to keep to a discipline. -/
inductive Case.Under (D : Discipline) : Case → Prop
  | intro {c : Case} (able : ∀ i ∈ c.aspect, D.able i)
      (advice : ∀ i ∈ c.aspect, ∀ d ∈ i.cases, Under D d)
      (chain : ∀ d ∈ c.chain, Under D d)
      (refused : ∀ f, c.resolve = some f → ∀ row e, f row = .error e → D.refuses e)
      (read : ∀ f, c.resolve = some f → ∀ row d, f row = .ok d → Under D d) : Under D c

namespace Interceptor

structure Under (D : Discipline) (i : Interceptor Case) : Prop where
  able : D.able i
  cases : ∀ c ∈ i.cases, c.Under D

theorem cases_freeze (i : Interceptor Case) (row : Row) : (i.freeze row).cases = i.cases := by
  cases i <;> rfl

theorem Under.frozen {i : Interceptor Case} (h : i.Under D) (row : Row) :
    (i.freeze row).Under D := by
  refine ⟨D.freeze row h.able, ?_⟩
  rw [cases_freeze]
  exact h.cases

end Interceptor

namespace Aspect

def Under (D : Discipline) (a : Aspect) : Prop := ∀ i ∈ a, i.Under D

theorem under_nil : Under D [] := fun _ h => by cases h

theorem Under.append {a b : Aspect} (ha : Under D a) (hb : Under D b) : Under D (a ++ b) :=
  List.forall_mem_append.2 ⟨ha, hb⟩

theorem Under.frozen {a : Aspect} (h : Under D a) (row : Row) : Under D (a.freeze row) := by
  intro i hi
  obtain ⟨j, hj, rfl⟩ := List.mem_map.1 hi
  exact (h j hj).frozen row

theorem Under.inherited {a : Aspect} (h : Under D a) : Under D a.inherited :=
  fun i hi => h i (List.mem_filter.1 hi).1

end Aspect

namespace Case

theorem Under.aspect {c : Case} (h : c.Under D) : Aspect.Under D c.aspect := by
  cases h with
  | intro able advice _ _ _ => exact fun i hi => ⟨able i hi, advice i hi⟩

theorem Under.chain {c d : Case} (h : c.Under D) (hd : d ∈ c.chain) : d.Under D := by
  cases h with
  | intro _ _ chain _ _ => exact chain d hd

theorem Under.same {c d : Case} (h : c.Under D) (ha : d.aspect = c.aspect)
    (hc : d.chain = c.chain) (hr : d.resolve = c.resolve) : d.Under D := by
  cases h with
  | intro able advice chain refused read =>
    refine .intro ?_ ?_ ?_ ?_ ?_
    · rwa [ha]
    · rwa [ha]
    · rwa [hc]
    · rwa [hr]
    · rwa [hr]

theorem Under.refused {c : Case} {row : Row} {e : Fault} (h : c.Under D)
    (he : c.materialize row = .error e) : D.refuses e := by
  cases h with
  | intro _ _ _ refused _ =>
    rw [materialize] at he
    split at he
    · rename_i f hf
      split at he
      · cases he
      · rename_i e' he'
        cases he
        exact refused f hf row _ he'
    · cases he

theorem Under.read {c d : Case} {row : Row} (h : c.Under D) (hd : c.materialize row = .ok d) :
    d.Under D := by
  rw [materialize] at hd
  split at hd
  · rename_i f hf
    split at hd
    · rename_i e he
      cases hd
      cases h with
      | intro _ _ _ _ read =>
        have under := read f hf row e he
        exact .intro (fun i hi => (under.aspect i hi).able) (fun i hi => (under.aspect i hi).cases)
          (fun _ hx => under.chain hx) (fun _ hx => by cases hx) (fun _ hx => by cases hx)
    · cases hd
  · cases hd
    exact h

end Case

/-- The case of an entry of a script, read at once or when a run reaches it. -/
theorem Loading.under_scriptCase {load : String → Except Trouble Case} {dir : String}
    {shares : Bool} {e : Document.ScriptEntry} {c : Case}
    (hload : ∀ path d, load path = .ok d → d.Under D)
    (hrefuses : ∀ path t, D.refuses (.load path t)) (h : scriptCase load dir shares e = .ok c) :
    c.Under D := by
  have imposed : ∀ {d : Case}, d.Under D → (impose e dir shares d).Under D :=
    fun hd => hd.same rfl rfl rfl
  rw [scriptCase] at h
  split at h
  · cases h
    refine .intro (fun _ hm => by cases hm) (fun _ hm => by cases hm) (fun _ hm => by cases hm) ?_ ?_
    · rintro f ⟨⟩ row g hg
      dsimp only at hg
      split at hg
      · cases hg
      · cases hg
        exact hrefuses _ _
    · rintro f ⟨⟩ row d hd
      dsimp only at hd
      split at hd
      · rename_i d' hd'
        cases hd
        exact imposed (hload _ d' hd')
      · cases hd
  · split at h
    · rename_i d hd
      cases h
      exact imposed (hload _ d hd)
    · cases h

structure Run.Under (D : Discipline) (r : Run) : Prop where
  case : r.case.Under D
  aspect : Aspect.Under D r.aspect
  inherited : Aspect.Under D r.inherited

theorem Run.Under.same {r r' : Run} (h : r.Under D) (hc : r'.case = r.case)
    (ha : r'.aspect = r.aspect) (hi : r'.inherited = r.inherited) : r'.Under D := by
  refine ⟨?_, ?_, ?_⟩
  · rw [hc]
    exact h.case
  · rw [ha]
    exact h.aspect
  · rw [hi]
    exact h.inherited

theorem Run.under_build (hstage : Aspect.Under D stage.aspect) (w : World σ) {p : Setup}
    (hc : p.case.Under D) (hi : Aspect.Under D p.inherited) :
    (Run.build stage w p).1.Under D := by
  have aspect : (Run.build stage w p).1.aspect = p.case.aspect ++ p.inherited ++
      (if p.case.preventsContext then [] else stage.aspect) := by
    simp [Run.build]
  refine ⟨hc, ?_, hi⟩
  rw [aspect]
  refine (hc.aspect.append hi).append ?_
  split
  · exact Aspect.under_nil
  · exact hstage

section Below
variable (hstage : Aspect.Under D stage.aspect)

theorem Run.Under.prepared {s : State σ} (hs : s.run.Under D) : (s.prepared stage).run.Under D :=
  ⟨hs.case, hs.aspect.frozen _, hs.inherited⟩

include hstage

theorem under_adviceStart {s : State σ} {i : Interceptor Case} {c : Case} (p : Step)
    (k : AdviceKind) (hi : i.Under D) (hc : c ∈ i.cases) :
    (adviceStart stage s c p k).run.Under D := by
  have same : ({ c with preventsContext := true } : Case).settled.Under D :=
    (hi.cases c hc).same rfl rfl rfl
  simp only [adviceStart]
  exact Run.under_build hstage _ same Aspect.under_nil

theorem under_rowStart {s : State σ} {rows : Rows} (n : Nat) (row : Row) (isLast : Bool)
    (hs : s.run.Under D) (hr : Suits stage rows s) :
    (rowStart stage rows n row isLast s).run.Under D := by
  obtain ⟨i, child, hc, hm, _⟩ := hr.child
  have case : rows.case.Under D := (hs.case.chain (List.mem_of_getElem? hc)).read hm
  have inherited : Aspect.Under D rows.aspect := by
    rw [hr.aspect]
    exact ((hs.case.aspect.append hs.inherited).frozen _).inherited
  simp only [rowStart]
  cases rows.case.sharesState <;> exact Run.under_build hstage _ case inherited

end Below

theorem Run.Under.unread {s : State σ} {f : Fault} (hs : s.run.Under D) (hf : Unread f s) :
    f.isOriginal = true ∨ D.refuses f := by
  rcases hf with original | ⟨child, hc, seed, hm⟩
  · exact .inl original
  · exact .inr ((hs.case.chain hc).refused hm)

end Scenario

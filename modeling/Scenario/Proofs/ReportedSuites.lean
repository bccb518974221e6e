import Mathlib.Data.List.Induction
import Scenario.Proofs.ReportedSteps

/-!
# Which suites a report lists

Suites are numbered as they are opened, and a suite is known by its number, as
its name may be that of another. Whatever the order in which events come, a
report lists the suites that were closed by rising number, and a suite failed
exactly if a problem was told while it was the innermost open one.
-/

set_option autoImplicit false

namespace Scenario.Register

/-- The suites that were opened, by name and script, in order. -/
def openings (es : List Event) : List (String × Option String) :=
  es.filterMap fun
    | .opened suite script _ => some (suite, script.path)
    | _ => none

/-- The number of suites that were opened, and the numbers of those that are open. -/
def place : Nat × List Nat → Event → Nat × List Nat
  | (n, stack), .opened _ _ _ => (n + 1, n :: stack)
  | (n, stack), .closed => (n, stack.tail)
  | here, _ => here

/-- The numbers of the open suites, the innermost first. -/
def standing (es : List Event) : List Nat := (es.foldl place (0, [])).2

/-- An event of a sort came while the suite was the innermost open one. -/
def Met (sort : Event → Prop) (es : List Event) (k : Nat) : Prop :=
  ∃ before e after, es = before ++ e :: after ∧ sort e ∧ (standing before).head? = some k

def Closed (es : List Event) (k : Nat) : Prop := Met (fun e => e = .closed) es k

def Blamed (es : List Event) (k : Nat) : Prop := Met (fun e => e.isProblem = true) es k

section Events
variable {sort : Event → Prop} {es : List Event} {e : Event} {k : Nat}

theorem met_nil : ¬ Met sort [] k := by
  rintro ⟨before, e, after, none, _⟩
  simp at none

/-- The last event meets the suite that is the innermost one when it comes. -/
theorem met_concat :
    Met sort (es ++ [e]) k ↔ Met sort es k ∨ (sort e ∧ (standing es).head? = some k) := by
  constructor
  · rintro ⟨before, e', after, whole, he, top⟩
    rcases List.eq_nil_or_concat after with rfl | ⟨after, last, rfl⟩
    · obtain ⟨rfl, same⟩ := List.append_inj' whole rfl
      cases same
      exact .inr ⟨he, top⟩
    · rw [List.concat_eq_append, ← List.cons_append, ← List.append_assoc] at whole
      obtain ⟨rfl, _⟩ := List.append_inj' whole rfl
      exact .inl ⟨before, e', after, rfl, he, top⟩
  · rintro (⟨before, e', after, rfl, he, top⟩ | ⟨he, top⟩)
    · exact ⟨before, e', after ++ [e], by simp, he, top⟩
    · exact ⟨es, e, [], rfl, he, top⟩

theorem met_concat_of_not (h : ¬ (sort e ∧ (standing es).head? = some k)) :
    Met sort (es ++ [e]) k ↔ Met sort es k := by
  rw [met_concat, or_iff_left h]

end Events

section Numbers
open Roll

theorem length_amend (roll : Roll) (f : Sheet → Sheet) :
    (roll.amend f).sheets.length = roll.sheets.length := by
  rw [amend]
  split
  · exact List.length_modify ..
  · rfl

theorem stack_amend (roll : Roll) (f : Sheet → Sheet) : (roll.amend f).stack = roll.stack := by
  rw [amend]
  split <;> rfl

theorem place_roll (roll : Roll) (e : Event) :
    place (roll.sheets.length, roll.stack) e =
      ((roll.apply e).sheets.length, (roll.apply e).stack) := by
  cases e with
  | opened n p x => simp [place, Roll.apply]
  | closed => simp [place, Roll.apply, length_amend]
  | _ => simp [place, Roll.apply, length_amend, stack_amend]

theorem standing_eq (es : List Event) : standing es = (Roll.ofEvents es).stack := by
  have run : ∀ (es : List Event) (roll : Roll),
      es.foldl place (roll.sheets.length, roll.stack) =
        ((es.foldl Roll.apply roll).sheets.length, (es.foldl Roll.apply roll).stack) := by
    intro es
    induction es with
    | nil => exact fun _ => rfl
    | cons e es ih =>
      intro roll
      rw [List.foldl_cons, place_roll, ih, List.foldl_cons]
  exact congrArg Prod.snd (run es {})

def headed (s : Sheet) : String × Option String := (s.name, s.script)

theorem map_modify_headed (sheets : List Sheet) (i : Nat) {f : Sheet → Sheet}
    (same : ∀ s, headed (f s) = headed s) :
    (sheets.modify i f).map headed = sheets.map headed := by
  induction sheets generalizing i with
  | nil => cases i <;> rfl
  | cons s rest ih =>
    cases i with
    | zero => rw [List.modify_zero_cons, List.map_cons, same, List.map_cons]
    | succ i => rw [List.modify_succ_cons, List.map_cons, ih, List.map_cons]

theorem headed_amend (roll : Roll) {f : Sheet → Sheet} (same : ∀ s, headed (f s) = headed s) :
    (roll.amend f).sheets.map headed = roll.sheets.map headed := by
  rw [amend]
  split
  · exact map_modify_headed _ _ same
  · rfl

theorem headed_blame (s : Sheet) (m : String) : headed (s.blame m) = headed s := by
  rw [Sheet.blame]
  split <;> rfl

theorem headed_finish (s : Sheet) : headed s.finish = headed s := by
  rw [Sheet.finish]
  split <;> rfl

theorem headed_apply (roll : Roll) {e : Event} (ho : ∀ n p x, e ≠ .opened n p x) :
    (roll.apply e).sheets.map headed = roll.sheets.map headed := by
  cases e with
  | opened n p x => exact absurd rfl (ho n p x)
  | started l => exact headed_amend roll (f := fun s => s.start l) fun _ => rfl
  | ended => exact headed_amend roll headed_finish
  | failure m => exact headed_amend roll fun s => headed_blame s m
  | error f => exact headed_amend roll fun s => headed_blame s f.line
  | closed => exact headed_amend roll (f := Sheet.close) fun _ => rfl

theorem openings_eq (es : List Event) :
    openings es = (Roll.ofEvents es).sheets.map headed := by
  induction es using List.reverseRecOn with
  | nil => rfl
  | append_singleton es e ih =>
    have last : openings (es ++ [e]) = openings es ++ openings [e] := List.filterMap_append
    have step : Roll.ofEvents (es ++ [e]) = (Roll.ofEvents es).apply e := List.foldl_append
    rw [last, ih, step]
    cases e with
    | opened n p x =>
      rw [Roll.apply, List.map_append]
      rfl
    | _ => exact (List.append_nil _).trans (headed_apply _ (by simp)).symm

theorem numbers_lt {es : List Event} {k : Nat} (h : k ∈ standing es) :
    k < (openings es).length := by
  have numbers := (kept_ofEvents es).numbers
  rw [standing_eq] at h
  rw [openings_eq, List.length_map]
  exact List.mem_range.1 (numbers.mem_iff.1 (List.mem_append_right _ h))

theorem Met.lt {sort : Event → Prop} {es : List Event} {k : Nat} (h : Met sort es k) :
    k < (openings es).length := by
  obtain ⟨before, e, after, rfl, _, top⟩ := h
  have grown : openings (before ++ e :: after) = openings before ++ openings (e :: after) :=
    List.filterMap_append
  rw [grown, List.length_append]
  exact Nat.lt_add_right _ (numbers_lt (List.mem_of_head? top))

end Numbers

section Past
open Roll

structure Fair (es : List Event) (r : Recorder) : Prop where
  stack : ∀ o ∈ r.stack, o.result.success = false ↔ Blamed es o.order
  finished : ∀ e ∈ r.finished, e.2.success = false ↔ Blamed es e.1
  closed : ∀ k, k ∈ r.finished.map (·.1) ↔ Closed es k

theorem fair_nil : Fair [] {} :=
  ⟨by simp, by simp, fun _ => ⟨by simp, fun h => absurd h met_nil⟩⟩

variable {es : List Event} {r : Recorder} {e : Event}

theorem orders_eq (kept : Kept (Roll.ofEvents es) r) : r.stack.map (·.order) = standing es := by
  have paired := kept.stack
  rw [standing_eq]
  generalize (Roll.ofEvents es).stack = numbers at paired ⊢
  generalize r.stack = suites at paired ⊢
  induction paired with
  | nil => rfl
  | cons holds _ ih => rw [List.map_cons, ih, holds.1]

theorem head_eq (kept : Kept (Roll.ofEvents es) r) {top : OpenSuite} {rest : List OpenSuite}
    (hr : r.stack = top :: rest) : (standing es).head? = some top.order := by
  rw [← orders_eq kept, hr]
  rfl

theorem orders_nodup (kept : Kept (Roll.ofEvents es) r) :
    (r.finished.map (·.1) ++ r.stack.map (·.order)).Nodup := by
  rw [orders_eq kept, standing_eq]
  exact kept.nodup

theorem standing_noted (ho : ∀ n p x, e ≠ .opened n p x) (hc : e ≠ .closed) :
    standing (es ++ [e]) = standing es := by
  rw [standing, List.foldl_append]
  cases e with
  | opened n p x => exact absurd rfl (ho n p x)
  | closed => exact absurd rfl hc
  | _ => rfl

theorem Fair.apply (h : Fair es r) (kept : Kept (Roll.ofEvents es) r)
    (kept' : Kept (Roll.ofEvents (es ++ [e])) (r.apply e)) :
    Fair (es ++ [e]) (r.apply e) := by
  have heard := Recorder.hears_apply r e
  generalize r.apply e = t at heard kept'
  -- one case for each thing that an event makes of the recorder; only a problem in a suite blames
  -- one
  cases heard with
  | opened n p x =>
    have calm : ∀ k, Blamed (es ++ [.opened n p x]) k ↔ Blamed es k := fun k =>
      met_concat_of_not (by simp [Event.isProblem])
    -- no suite had the new number, so nothing was blamed under it
    have fresh : ¬ Blamed es r.opened := fun blamed => by
      have below := blamed.lt
      rw [openings_eq, List.length_map, ← kept.opened] at below
      exact Nat.lt_irrefl _ below
    refine ⟨?_, fun f hf => (h.finished f hf).trans (calm _).symm, fun k => ?_⟩
    · intro o ho
      rcases List.mem_cons.1 ho with rfl | ho
      · exact ⟨by simp, fun blamed => absurd ((calm _).1 blamed) fresh⟩
      · exact (h.stack o ho).trans (calm _).symm
    · exact (h.closed k).trans (met_concat_of_not (by simp)).symm
  | closed top rest result hr hs =>
    have calm : ∀ k, Blamed (es ++ [.closed]) k ↔ Blamed es k := fun k =>
      met_concat_of_not (by simp [Event.isProblem])
    have innermost := h.stack top (by simp [hr])
    refine ⟨fun o ho => ?_, fun f hf => ?_, fun k => ?_⟩
    · exact (h.stack o (by simp [hr, ho])).trans (calm _).symm
    · rcases List.mem_append.1 hf with hf | hf
      · exact (h.finished f hf).trans (calm _).symm
      · rw [List.mem_singleton.1 hf, calm, hs]
        exact innermost
    · have last : Closed (es ++ [.closed]) k ↔ Closed es k ∨ top.order = k := by
        simp [Closed, met_concat, head_eq kept hr]
      rw [last, List.map_append, List.mem_append, h.closed, List.map_singleton,
        List.mem_singleton, eq_comm]
  | noted top s rest hr ho hc hs =>
    have number : s.order = top.order := by
      have before := head_eq kept hr
      rw [← standing_noted ho hc, head_eq kept' rfl] at before
      exact Option.some.inj before
    have distinct := orders_nodup kept
    rw [hr, List.nodup_append] at distinct
    obtain ⟨-, below, apart⟩ := distinct
    -- numbers are distinct, so that only the innermost suite is concerned
    have others : ∀ k, top.order ≠ k → (Blamed (es ++ [e]) k ↔ Blamed es k) := fun k hk =>
      met_concat_of_not (by simp [head_eq kept hr, hk])
    refine ⟨fun o ho => ?_, fun f hf => ?_, fun k => ?_⟩
    · rcases List.mem_cons.1 ho with rfl | ho
      · have innermost := h.stack top (by simp [hr])
        rw [Blamed, met_concat, number, head_eq kept hr, hs, Bool.and_eq_false_iff, innermost]
        simp [Blamed]
      · have alone : top.order ∉ rest.map (·.order) := (List.nodup_cons.1 below).1
        have other : top.order ≠ o.order := by
          intro same
          rw [same] at alone
          exact alone (List.mem_map_of_mem ho)
        exact (h.stack o (by simp [hr, ho])).trans (others _ other).symm
    · have other : top.order ≠ f.1 := fun same =>
        apart f.1 (List.mem_map_of_mem hf) top.order (by simp) same.symm
      exact (h.finished f hf).trans (others _ other).symm
    · exact (h.closed k).trans (met_concat_of_not (by simp [hc])).symm
  | idle hr ho =>
    have none : (standing es).head? = none := by rw [← orders_eq kept, hr]; rfl
    refine ⟨by simp [hr], fun f hf => ?_, fun k => ?_⟩
    · exact (h.finished f hf).trans (met_concat_of_not (by simp [none])).symm
    · exact (h.closed k).trans (met_concat_of_not (by simp [none])).symm

theorem fair_ofEvents (es : List Event) : Fair es (Recorder.ofEvents es) := by
  induction es using List.reverseRecOn with
  | nil => exact fair_nil
  | append_singleton es e ih =>
    have step : Recorder.ofEvents (es ++ [e]) = (Recorder.ofEvents es).apply e :=
      List.foldl_append
    have kept' := kept_ofEvents (es ++ [e])
    rw [step] at kept' ⊢
    exact ih.apply (kept_ofEvents es) kept'

/-- What is reported of a suite with a number. -/
structure Reports (es : List Event) (k : Nat) (suite : SuiteResult) : Prop where
  opening : (openings es)[k]? = some (suite.name, suite.script)
  failed : suite.success = false ↔ Blamed es k

/-- After any events, well nested or not, a report lists each suite that was closed once and no
other, in the order in which they were opened. Of these suites those failed in which a failure
or an error was told while they were the innermost open ones, and the report claims success
exactly if none of them failed. -/
theorem report_lists (es : List Event) (name : String) :
    let report := (Recorder.ofEvents es).report name
    (∃ numbers : List Nat, numbers.Pairwise (· < ·) ∧ (∀ k, k ∈ numbers ↔ Closed es k) ∧
      List.Forall₂ (Reports es) numbers report.suites) ∧
      (report.success = true ↔ ∀ suite ∈ report.suites, suite.success = true) ∧
      report.name = name := by
  intro report
  have kept := kept_ofEvents es
  have fair := fair_ofEvents es
  obtain ⟨perm, sorted⟩ := sorted_finished (Recorder.ofEvents es).finished
  refine ⟨?_, List.all_eq_true, rfl⟩
  have suites : report.suites =
      ((Recorder.ofEvents es).finished.foldl
        (fun es e => Recorder.insertByOrder e es) []).map (·.2) := rfl
  rw [suites]
  generalize (Recorder.ofEvents es).finished.foldl
    (fun es e => Recorder.insertByOrder e es) [] = list at perm sorted
  refine ⟨list.map (·.1), ?_, fun k => ?_, ?_⟩
  · have distinct : (list.map (·.1)).Nodup :=
      (perm.map _).nodup_iff.2 (List.nodup_append.1 kept.nodup).1
    have rising : (list.map (·.1)).Pairwise (· ≤ ·) := List.pairwise_map.2 sorted
    exact (rising.and distinct).imp fun h => Nat.lt_of_le_of_ne h.1 h.2
  · exact (perm.map (·.1)).mem_iff.trans (fair.closed k)
  · rw [List.forall₂_map_left_iff, List.forall₂_map_right_iff, List.forall₂_same]
    intro e he
    have mem := perm.mem_iff.1 he
    obtain ⟨s, found, filed⟩ := kept.finished e mem
    refine ⟨?_, fair.finished e mem⟩
    rw [openings_eq, List.getElem?_map, found, filed.name, filed.script]
    rfl

end Past

end Scenario.Register

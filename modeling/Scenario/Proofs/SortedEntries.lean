import Mathlib.Data.String.Basic
import Scenario.Proofs.LoadedRows

/-!
# Entries by rising key

Sorted entries have each key once, and with it the last value that was given
under it. Sorting looks at keys only.
-/

set_option autoImplicit false

namespace Scenario.Assoc
variable {α β : Type} {m : Assoc α}

theorem mem_of_get? {key : String} {v : α} (h : get? m key = some v) : (key, v) ∈ m := by
  induction m with
  | nil => cases h
  | cons e m ih =>
    rw [get?] at h
    split at h
    · rename_i same
      cases h
      rw [← same]
      exact List.mem_cons_self
    · exact List.mem_cons_of_mem e (ih h)

theorem get?_append (m m' : Assoc α) (key : String) :
    get? (m ++ m') key = (get? m key).or (get? m' key) := by
  induction m with
  | nil => rfl
  | cons e m ih =>
    rw [List.cons_append, get?, get?, ih]
    split <;> rfl

theorem get?_mapValues (f : α → β) (m : Assoc α) (key : String) :
    get? (mapValues f m) key = (get? m key).map f := by
  induction m with
  | nil => rfl
  | cons e m ih =>
    rw [mapValues, List.map_cons, get?, get?]
    split
    · rfl
    · exact ih

theorem get?_putSorted (m : Assoc α) (k : String) (v : α) (key : String) :
    get? (putSorted m k v) key = if k = key then some v else get? m key := by
  induction m with
  | nil => rfl
  | cons e m ih =>
    obtain ⟨k', v'⟩ := e
    rw [putSorted]
    split
    · rename_i same
      subst same
      simp only [get?]
      split <;> rfl
    · split
      · rfl
      · rename_i other _
        simp only [get?, ih]
        split <;> split <;> simp_all

/-- Of equal keys the last one is kept. -/
theorem get?_sorted (m : Assoc α) (key : String) : get? (sorted m) key = get? m.reverse key := by
  have step : ∀ acc : Assoc α, get? (m.foldl (fun m e => putSorted m e.1 e.2) acc) key =
      (get? m.reverse key).or (get? acc key) := by
    induction m with
    | nil => exact fun _ => rfl
    | cons e m ih =>
      intro acc
      rw [List.foldl_cons, ih, List.reverse_cons, get?_append, get?_putSorted, get?, get?]
      split <;> simp
  rw [sorted, step, get?, Option.or_none]

theorem get?_reverse (distinct : (keys m).Nodup) (key : String) :
    get? m.reverse key = get? m key := by
  induction m with
  | nil => rfl
  | cons e m ih =>
    obtain ⟨absent, distinct⟩ := List.nodup_cons.1 distinct
    rw [List.reverse_cons, get?_append, ih distinct]
    simp only [get?]
    split
    · rename_i same
      rw [← same, get?_eq_none absent]
      rfl
    · exact Option.or_none

theorem putSorted_mapValues (f : α → β) (m : Assoc α) (k : String) (v : α) :
    putSorted (mapValues f m) k (f v) = mapValues f (putSorted m k v) := by
  induction m with
  | nil => rfl
  | cons e m ih =>
    simp only [mapValues, List.map_cons, putSorted] at ih ⊢
    split
    · rfl
    · split
      · rfl
      · rw [ih]
        rfl

theorem sorted_mapValues (f : α → β) (m : Assoc α) :
    sorted (mapValues f m) = mapValues f (sorted m) := by
  have step : ∀ acc : Assoc α,
      (mapValues f m).foldl (fun m e => putSorted m e.1 e.2) (mapValues f acc) =
        mapValues f (m.foldl (fun m e => putSorted m e.1 e.2) acc) := by
    induction m with
    | nil => exact fun _ => rfl
    | cons e m ih =>
      intro acc
      have first := ih (putSorted acc e.1 e.2)
      rw [← putSorted_mapValues] at first
      exact first
  exact step []

theorem mem_putSorted {k : String} {v : α} {e : String × α} (h : e ∈ putSorted m k v) :
    e = (k, v) ∨ e ∈ m := by
  induction m with
  | nil => exact .inl (List.mem_singleton.1 h)
  | cons e' m ih =>
    obtain ⟨k', v'⟩ := e'
    rw [putSorted] at h
    split at h
    · exact (List.mem_cons.1 h).imp_right (List.mem_cons_of_mem _)
    · split at h
      · exact List.mem_cons.1 h
      · rcases List.mem_cons.1 h with first | later
        · exact .inr (List.mem_cons.2 (.inl first))
        · exact (ih later).imp_right (List.mem_cons_of_mem _)

theorem mem_sorted {e : String × α} (h : e ∈ sorted m) : e ∈ m := by
  have step : ∀ acc : Assoc α, e ∈ m.foldl (fun m e => putSorted m e.1 e.2) acc →
      e ∈ m ∨ e ∈ acc := by
    clear h
    induction m with
    | nil => exact fun _ mem => .inr mem
    | cons e' m ih =>
      intro acc mem
      rcases ih _ mem with later | first
      · exact .inl (List.mem_cons_of_mem e' later)
      · rcases mem_putSorted first with rfl | before
        · exact .inl List.mem_cons_self
        · exact .inr before
  exact (step [] h).resolve_right List.not_mem_nil

def Ordered (m : Assoc α) : Prop := (keys m).Pairwise (· < ·)

theorem Ordered.putSorted (h : Ordered m) (k : String) (v : α) : Ordered (putSorted m k v) := by
  induction m with
  | nil => exact List.pairwise_singleton _ k
  | cons e m ih =>
    obtain ⟨k', v'⟩ := e
    obtain ⟨first, later⟩ := List.pairwise_cons.1 h
    rw [Assoc.putSorted]
    split
    · rename_i same
      rw [same] at first
      exact List.pairwise_cons.2 ⟨first, later⟩
    · rename_i other
      split
      · rename_i less
        refine List.pairwise_cons.2 ⟨fun key mem => ?_, h⟩
        rcases List.mem_cons.1 mem with same | mem
        · rw [same]
          exact less
        · exact less.trans (first key mem)
      · rename_i notLess
        refine List.pairwise_cons.2 ⟨fun key mem => ?_, ih later⟩
        obtain ⟨e, stands, rfl⟩ := List.mem_map.1 mem
        rcases mem_putSorted stands with rfl | before
        · exact lt_of_le_of_ne (not_lt.1 notLess) other
        · exact first e.1 (List.mem_map_of_mem before)

theorem ordered_sorted (m : Assoc α) : Ordered (sorted m) := by
  have step : ∀ acc : Assoc α, Ordered acc →
      Ordered (m.foldl (fun m e => Assoc.putSorted m e.1 e.2) acc) := by
    induction m with
    | nil => exact fun _ ordered => ordered
    | cons e m ih => exact fun _ ordered => ih _ (ordered.putSorted e.1 e.2)
  exact step [] List.Pairwise.nil

theorem nodup_sorted (m : Assoc α) : (keys (sorted m)).Nodup :=
  (ordered_sorted m).imp fun less => ne_of_lt less

end Scenario.Assoc

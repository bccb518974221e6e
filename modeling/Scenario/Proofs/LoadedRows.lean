import Scenario.DataSource

/-!
# Rows as they are delivered

A source delivers rows that name each of their columns once. A loader numbers
the rows of several lines by their places and marks the last one, and a row
that is laid over other variables brings all its columns with it.
-/

set_option autoImplicit false

namespace Scenario
open Scenario.Text

namespace Assoc
variable {α : Type}

theorem get?_eq_none {m : Assoc α} {key : String} (absent : key ∉ keys m) : get? m key = none := by
  induction m with
  | nil => rfl
  | cons e rest ih =>
    obtain ⟨other, later⟩ := not_or.1 (mt List.mem_cons.2 absent)
    rw [get?, if_neg (Ne.symm other)]
    exact ih later

theorem nodup_put {m : Assoc α} (distinct : (keys m).Nodup) (key : String) (v : α) :
    (keys (put m key v)).Nodup := by
  rw [keys_put]
  split
  · exact distinct
  · rename_i absent
    rw [List.nodup_append]
    refine ⟨distinct, by simp, fun k hk other ho same => absent ?_⟩
    rw [← List.mem_singleton.1 ho, ← same]
    exact hk

theorem get?_putAll (m : Assoc α) {entries : Assoc α} (key : String)
    (distinct : (keys entries).Nodup) :
    get? (putAll m entries) key = (get? entries key).or (get? m key) := by
  induction entries generalizing m with
  | nil => rfl
  | cons e rest ih =>
    obtain ⟨k, v⟩ := e
    obtain ⟨absent, distinct⟩ := List.nodup_cons.1 distinct
    have later := ih (put m k v) distinct
    by_cases same : k = key
    · subst same
      rw [get?_eq_none absent, get?_put_same] at later
      rw [get?, if_pos rfl]
      exact later
    · rw [get?_put_other m v (Ne.symm same)] at later
      rw [get?, if_neg same]
      exact later

theorem nodup_putAll {m : Assoc α} (distinct : (keys m).Nodup) (entries : Assoc α) :
    (keys (putAll m entries)).Nodup := by
  induction entries generalizing m with
  | nil => exact distinct
  | cons e rest ih => exact ih (nodup_put distinct e.1 e.2)

end Assoc

namespace DataSource

/-- Rows that name each of their columns once. -/
def Distinct (rows : List Row) : Prop := ∀ row ∈ rows, (Assoc.keys row.vars).Nodup

instance (rows : List Row) : Decidable (Distinct rows) :=
  inferInstanceAs (Decidable (∀ row ∈ rows, (Assoc.keys row.vars).Nodup))

theorem distinct_cons {vars : Assoc String} {rows : List Row} (h : Distinct rows) :
    Distinct (ofVars vars :: rows) := by
  intro row hr
  rcases List.mem_cons.1 hr with rfl | later
  · have none : (Assoc.keys ([] : Assoc String)).Nodup := List.nodup_nil
    exact Assoc.nodup_putAll none vars
  · exact h row later

theorem distinct_csvRows {header : List String} {records : List (List (List UInt8))}
    {rows : List Row} (h : csvRows header records = .ok rows) : Distinct rows := by
  induction records generalizing rows with
  | nil =>
    cases h
    exact fun _ none => by cases none
  | cons record rest ih =>
    rw [csvRows] at h
    split at h
    · split at h
      · split at h
        · rename_i later
          cases h
          exact distinct_cons (ih later)
        · cases h
      · cases h
    · cases h

theorem distinct_csvTable {records : List (List (List UInt8))} {rows : List Row}
    (h : csvTable records = .ok rows) : Distinct rows := by
  cases records with
  | nil =>
    cases h
    exact fun _ none => by cases none
  | cons header rest =>
    rw [csvTable] at h
    split at h
    · exact distinct_csvRows h
    · cases h

theorem distinct_jsonRows {items : List Json} {rows : List Row} (h : jsonRows items = .ok rows) :
    Distinct rows := by
  induction items generalizing rows with
  | nil =>
    cases h
    exact fun _ none => by cases none
  | cons v rest ih =>
    rw [jsonRows] at h
    cases hv : jsonRow v with
    | error t =>
      rw [hv] at h
      cases h
    | ok row =>
      cases later : jsonRows rest with
      | error t =>
        rw [hv, later] at h
        cases h
      | ok others =>
        rw [hv, later] at h
        cases h
        cases v with
        | obj members =>
          cases hv
          exact distinct_cons (ih later)
        | _ => cases hv

theorem distinct_jsonTable {v : Json} {rows : List Row} (h : jsonTable v = .ok rows) :
    Distinct rows := by
  cases v with
  | arr items => exact distinct_jsonRows h
  | _ => cases h

theorem distinct_csv {fs : Files} {config : Assoc String} {dirs : List String} {seed : Row}
    {rows : List Row} (h : (csv fs).rows config dirs seed = .ok rows) : Distinct rows := by
  simp only [csv, bind, Except.bind] at h
  split at h
  · cases h
  · split at h
    · cases h
    · split at h
      · cases h
      · exact distinct_csvTable h
      · cases h

theorem distinct_json {fs : Files} {config : Assoc String} {dirs : List String} {seed : Row}
    {rows : List Row} (h : (json fs).rows config dirs seed = .ok rows) : Distinct rows := by
  simp only [json, bind, Except.bind] at h
  split at h
  · cases h
  · split at h
    · cases h
    · split at h
      · exact distinct_jsonTable h
      · cases h

theorem distinct_manual {config : Assoc String} {dirs : List String} {seed : Row}
    {rows : List Row} (h : manual.rows config dirs seed = .ok rows) : Distinct rows := by
  simp only [manual, bind, Except.bind] at h
  split at h
  · cases h
  · split at h
    · exact distinct_jsonTable h
    · cases h

/-- The built-in sources deliver such rows. -/
theorem distinct_ofName? {fs : Files} {name : String} {source : DataSource}
    {config : Assoc String} {dirs : List String} {seed : Row} {rows : List Row}
    (known : ofName? fs name = some source) (delivered : source.rows config dirs seed = .ok rows) :
    Distinct rows := by
  unfold ofName? at known
  split at known
  · cases known
    cases delivered
    intro row hr
    rw [List.mem_singleton.1 hr]
    exact List.nodup_nil
  · cases known
    exact distinct_csv delivered
  · cases known
    exact distinct_json delivered
  · cases known
    exact distinct_manual delivered
  · cases known

end DataSource

namespace Row

section Columns
variable {seed row : Row} (distinct : (Assoc.keys row.vars).Nodup)
include distinct

theorem merged_number (number : String) :
    (seed.withoutNumber.merge (row.put rowNumberKey number)).get? rowNumberKey =
      some number := by
  have keys := Assoc.nodup_put distinct rowNumberKey number
  rw [get?, merge, putAll, put, Assoc.get?_putAll _ _ keys, Assoc.get?_put_same]
  rfl

theorem merged_column (number : String) {key v : String} (other : key ≠ rowNumberKey)
    (column : row.get? key = some v) :
    (seed.withoutNumber.merge (row.put rowNumberKey number)).get? key = some v := by
  have keys := Assoc.nodup_put distinct rowNumberKey number
  rw [get?] at column
  rw [get?, merge, putAll, put, Assoc.get?_putAll _ _ keys,
    Assoc.get?_put_other _ _ other, column]
  rfl

end Columns

end Row

theorem Loader.getElem?_numbered (raw : List Row) (first m : Nat) :
    (numbered true first raw)[m]? = raw[m]?.map fun row =>
      (row.put Row.rowNumberKey (natText (first + m))).withLast (decide (m + 1 = raw.length)) := by
  induction raw generalizing first m with
  | nil => rfl
  | cons row rest ih =>
    cases m with
    | zero =>
      cases rest with
      | nil => rfl
      | cons _ _ => simp [numbered]
    | succ m =>
      have shifted : first + 1 + m = first + (m + 1) := by omega
      simp [numbered, ih, shifted]

end Scenario

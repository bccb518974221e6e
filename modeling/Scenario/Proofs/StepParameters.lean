import Mathlib.Data.List.Induction
import Mathlib.Data.List.Nodup
import Scenario.Proofs.SortedEntries
import Scenario.Step.Edit

/-!
# Parameters of edited steps

The texts, the locators and the bytes of a step are three tables. An edit that
writes a parameter puts it into the table of its sort and takes its key out of
the other two, so that each table holds the values of its sort that were written
last. A key that was written and not removed since is in one of the tables, and no
key is in two of them, however often the step is built and taken up again.
-/

set_option autoImplicit false

namespace Scenario.Assoc
variable {α β : Type} {m : Assoc α} {k key : String}

theorem has_iff (m : Assoc α) (key : String) : has m key = true ↔ key ∈ keys m := by
  constructor
  · intro found
    obtain ⟨v, value⟩ := Option.isSome_iff_exists.1 found
    exact List.mem_map_of_mem (mem_of_get? value)
  · intro present
    induction m with
    | nil => cases present
    | cons e m ih =>
      rw [has, get?]
      split
      · rfl
      · rename_i other
        exact ih ((List.mem_cons.1 present).resolve_left (Ne.symm other))

theorem keys_erase (m : Assoc α) (k : String) : keys (erase m k) = (keys m).erase k := by
  induction m with
  | nil => rfl
  | cons e m ih =>
    obtain ⟨k', v⟩ := e
    by_cases same : k' = k <;> simp_all [erase, keys]

theorem nodup_erase (distinct : (keys m).Nodup) (k : String) : (keys (erase m k)).Nodup := by
  rw [keys_erase]
  exact distinct.erase k

theorem not_mem_keys_erase (distinct : (keys m).Nodup) (k : String) : k ∉ keys (erase m k) := by
  rw [keys_erase]
  exact distinct.not_mem_erase

def store (m : Assoc α) (k : String) : Option α → Assoc α
  | some v => put m k v
  | none => erase m k

theorem get?_store (distinct : (keys m).Nodup) (k : String) (v : Option α) (key : String) :
    get? (store m k v) key = if k = key then v else get? m key := by
  split
  · rename_i same
    subst same
    cases v with
    | none => exact get?_eq_none (not_mem_keys_erase distinct k)
    | some v => exact get?_put_same m k v
  · rename_i other
    cases v with
    | none => exact get?_erase_other m (Ne.symm other)
    | some v => exact get?_put_other m v (Ne.symm other)

theorem nodup_store (distinct : (keys m).Nodup) (k : String) (v : Option α) :
    (keys (store m k v)).Nodup := by
  cases v with
  | none => exact nodup_erase distinct k
  | some v => exact nodup_put distinct k v

end Scenario.Assoc

namespace Scenario.Step
open Scenario.Assoc

namespace Param

def text? : Param → Option String
  | .text v => some v
  | _ => none

def locator? : Param → Option Locator
  | .locator l => some l
  | _ => none

def bytes? : Param → Option (List UInt8)
  | .bytes bs => some bs
  | _ => none

theorem text?_eq_some_iff {p : Param} {v : String} : p.text? = some v ↔ p = .text v := by
  cases p <;> simp [text?]

theorem locator?_eq_some_iff {p : Param} {l : Locator} : p.locator? = some l ↔ p = .locator l := by
  cases p <;> simp [locator?]

theorem bytes?_eq_some_iff {p : Param} {bs : List UInt8} : p.bytes? = some bs ↔ p = .bytes bs := by
  cases p <;> simp [bytes?]

end Param

namespace Edit
variable {β : Type} {m : Assoc β} {e : Edit} {key : String}

/-- What an edit does to the table of one sort, whatever the other tables hold. -/
def change (f : Param → Option β) (e : Edit) (m : Assoc β) : Assoc β :=
  match e.written?, e.key? with
  | some (key, p), _ => store m key (f p)
  | none, some key => Assoc.erase m key
  | none, none => m

theorem key?_of_written {p : Param} (h : e.written? = some (key, p)) : e.key? = some key := by
  cases e <;> simp_all [written?, key?]

theorem nodup_change (distinct : (keys m).Nodup) (f : Param → Option β) (e : Edit) :
    (keys (e.change f m)).Nodup := by
  unfold change
  split
  · exact nodup_store distinct _ _
  · exact nodup_erase distinct _
  · exact distinct

theorem get?_change (distinct : (keys m).Nodup) (f : Param → Option β) (e : Edit) (key : String) :
    get? (e.change f m) key =
      if e.key? = some key then e.written?.bind fun w => f w.2 else get? m key := by
  unfold change
  cases written : e.written? with
  | some w =>
    obtain ⟨k, p⟩ := w
    rw [key?_of_written written]
    simp [get?_store distinct]
  | none =>
    cases touched : e.key? with
    | none => simp
    | some k =>
      have removed := get?_store distinct k none key
      simpa [store] using removed

end Edit

/-- One of the edits writes the value under the key, and none after it writes or removes the key. -/
def Stands (es : List Edit) (key : String) (p : Param) : Prop :=
  ∃ earlier e later, es = earlier ++ e :: later ∧ e.written? = some (key, p) ∧
    ∀ d ∈ later, d.key? ≠ some key

section History
variable {es : List Edit} {e : Edit} {key : String} {p q : Param}

theorem not_stands_nil : ¬ Stands [] key p := by
  rintro ⟨earlier, e, later, whole, -⟩
  simp at whole

theorem stands_concat :
    Stands (es ++ [e]) key p ↔
      e.written? = some (key, p) ∨ (e.key? ≠ some key ∧ Stands es key p) := by
  constructor
  · rintro ⟨earlier, d, later, whole, written, after⟩
    rcases List.eq_nil_or_concat later with rfl | ⟨later, last, rfl⟩
    · obtain ⟨-, same⟩ := List.append_inj' whole rfl
      obtain rfl := List.singleton_inj.1 same
      exact .inl written
    · rw [List.concat_eq_append, ← List.cons_append, ← List.append_assoc] at whole
      obtain ⟨rfl, same⟩ := List.append_inj' whole rfl
      obtain rfl := List.singleton_inj.1 same
      exact .inr ⟨after e (by simp), earlier, d, later, rfl, written,
        fun d hd => after d (by simp [hd])⟩
  · rintro (written | ⟨untouched, earlier, d, later, rfl, written, after⟩)
    · exact ⟨es, e, [], rfl, written, by simp⟩
    · refine ⟨earlier, d, later ++ [e], by simp, written, ?_⟩
      intro c hc
      rcases List.mem_append.1 hc with before | last
      · exact after c before
      · rw [List.mem_singleton.1 last]
        exact untouched

theorem stands_touched (touched : e.key? = some key) :
    Stands (es ++ [e]) key p ↔ e.written? = some (key, p) := by
  rw [stands_concat]
  exact or_iff_left fun h => h.1 touched

theorem stands_untouched (untouched : e.key? ≠ some key) :
    Stands (es ++ [e]) key p ↔ Stands es key p := by
  rw [stands_concat]
  constructor
  · rintro (written | ⟨-, stands⟩)
    · exact absurd (Edit.key?_of_written written) untouched
    · exact stands
  · exact fun stands => .inr ⟨untouched, stands⟩

theorem Stands.unique (left : Stands es key p) (right : Stands es key q) : p = q := by
  induction es using List.reverseRecOn with
  | nil => exact absurd left not_stands_nil
  | append_singleton es e ih =>
    by_cases touched : e.key? = some key
    · rw [stands_touched touched] at left right
      simpa using left.symm.trans right
    · rw [stands_untouched touched] at left right
      exact ih left right

end History

/-- A table of builders that begins empty and that each edit changes by itself, as far as it
concerns one sort of parameters. -/
structure Tabulates {β : Type} (t : Builder → Assoc β) (f : Param → Option β) : Prop where
  empty : ∀ kind, t { kind } = []
  apply : ∀ (e : Edit) (b : Builder), t (e.apply b) = e.change f (t b)

theorem tabulates_texts : Tabulates Builder.texts Param.text? where
  empty _ := rfl
  apply e _ := by cases e <;> rfl

theorem tabulates_locators : Tabulates Builder.locators Param.locator? where
  empty _ := rfl
  apply e _ := by cases e <;> rfl

theorem tabulates_binaries : Tabulates Builder.binaries Param.bytes? where
  empty _ := rfl
  apply e _ := by cases e <;> rfl

theorem Builder.edited_concat (b : Builder) (es : List Edit) (e : Edit) :
    b.edited (es ++ [e]) = e.apply (b.edited es) := by
  rw [edited, List.foldl_concat, edited]

section Tables
variable {β : Type} {t : Builder → Assoc β} {f : Param → Option β} (tabulates : Tabulates t f)
  (kind : Kind) (es : List Edit)
include tabulates

theorem Tabulates.nodup : (keys (t (Builder.edited { kind } es))).Nodup := by
  induction es using List.reverseRecOn with
  | nil =>
    rw [Builder.edited, List.foldl_nil, tabulates.empty]
    exact List.nodup_nil
  | append_singleton es e ih =>
    rw [Builder.edited_concat, tabulates.apply]
    exact Edit.nodup_change ih f e

/-- A table holds the values of its sort that were written last. -/
theorem Tabulates.get?_edited (key : String) (v : β) :
    get? (t (Builder.edited { kind } es)) key = some v ↔ ∃ p, Stands es key p ∧ f p = some v := by
  induction es using List.reverseRecOn with
  | nil =>
    rw [Builder.edited, List.foldl_nil, tabulates.empty]
    constructor
    · intro found
      cases found
    · rintro ⟨p, stands, -⟩
      exact absurd stands not_stands_nil
  | append_singleton es e ih =>
    rw [Builder.edited_concat, tabulates.apply, Edit.get?_change (tabulates.nodup kind es)]
    by_cases touched : e.key? = some key
    · simp only [if_pos touched, stands_touched touched, Option.bind_eq_some_iff]
      constructor
      · rintro ⟨⟨k, p⟩, written, value⟩
        obtain rfl : k = key := by
          rw [Edit.key?_of_written written] at touched
          exact Option.some.inj touched
        exact ⟨p, written, value⟩
      · rintro ⟨p, written, value⟩
        exact ⟨(key, p), written, value⟩
    · simp only [if_neg touched, stands_untouched touched]
      exact ih

theorem Tabulates.mem_keys (key : String) :
    key ∈ keys (t (Builder.edited { kind } es)) ↔ ∃ p, Stands es key p ∧ (f p).isSome = true := by
  rw [← has_iff, Assoc.has, Option.isSome_iff_exists]
  simp only [tabulates.get?_edited, Option.isSome_iff_exists]
  constructor
  · rintro ⟨v, p, stands, value⟩
    exact ⟨p, stands, v, value⟩
  · rintro ⟨p, stands, v, value⟩
    exact ⟨v, p, stands, value⟩

/-- No key is in the tables of two sorts, since one value stands under it. -/
theorem Tabulates.disjoint {γ : Type} {u : Builder → Assoc γ} {g : Param → Option γ}
    (other : Tabulates u g) (apart : ∀ p, (f p).isSome = true → (g p).isSome = true → False) :
    (keys (t (Builder.edited { kind } es))).Disjoint (keys (u (Builder.edited { kind } es))) := by
  intro key here there
  obtain ⟨p, stands, value⟩ := (tabulates.mem_keys kind es key).1 here
  obtain ⟨q, stands', value'⟩ := (other.mem_keys kind es key).1 there
  obtain rfl := stands.unique stands'
  exact apart p value value'

end Tables

theorem nodup_edited (kind : Kind) (es : List Edit) :
    let b := Builder.edited { kind } es
    (keys b.texts ++ keys b.locators ++ keys b.binaries).Nodup := by
  have textsLocators := tabulates_texts.disjoint kind es tabulates_locators
    (fun p => by cases p <;> simp [Param.text?, Param.locator?])
  have textsBinaries := tabulates_texts.disjoint kind es tabulates_binaries
    (fun p => by cases p <;> simp [Param.text?, Param.bytes?])
  have locatorsBinaries := tabulates_locators.disjoint kind es tabulates_binaries
    (fun p => by cases p <;> simp [Param.locator?, Param.bytes?])
  have two := (tabulates_texts.nodup kind es).append (tabulates_locators.nodup kind es)
    textsLocators
  exact two.append (tabulates_binaries.nodup kind es)
    (List.disjoint_append_left.2 ⟨textsBinaries, locatorsBinaries⟩)

theorem has_iff_tables (s : Step) (key : String) :
    s.has key = true ↔ key ∈ keys s.texts ∨ key ∈ keys s.locators ∨ key ∈ keys s.binaries := by
  rw [Step.has, Bool.or_eq_true, Bool.or_eq_true, Assoc.has_iff, Assoc.has_iff, Assoc.has_iff,
    or_assoc]

theorem has_edited (kind : Kind) (es : List Edit) (key : String) :
    (Builder.edited { kind } es).build.has key = true ↔ ∃ p, Stands es key p := by
  have tables := has_iff_tables (Builder.edited { kind } es).build key
  simp only [Builder.texts_build, Builder.locators_build, Builder.binaries_build,
    tabulates_texts.mem_keys, tabulates_locators.mem_keys, tabulates_binaries.mem_keys] at tables
  refine tables.trans ⟨?_, ?_⟩
  · rintro (⟨p, stands, -⟩ | ⟨p, stands, -⟩ | ⟨p, stands, -⟩)
    · exact ⟨p, stands⟩
    · exact ⟨p, stands⟩
    · exact ⟨p, stands⟩
  · rintro ⟨p, stands⟩
    cases p with
    | text v => exact .inl ⟨_, stands, rfl⟩
    | locator l => exact .inr (.inl ⟨_, stands, rfl⟩)
    | bytes bs => exact .inr (.inr ⟨_, stands, rfl⟩)

theorem foldl_edited (s : Step) (rounds : List (List Edit)) :
    rounds.foldl edited s = (s.builder.edited rounds.flatten).build := by
  induction rounds generalizing s with
  | nil => rfl
  | cons es rounds ih =>
    rw [List.foldl_cons, ih, edited, builder_build, List.flatten_cons, Builder.edited,
      Builder.edited, Builder.edited, List.foldl_append]

/-- Each key has one value, in the table of its sort: the value that was written last, unless the
key was removed since. It does not matter when the step was built and taken up again in between:
each of the rounds begins with the step that the round before ends with. -/
theorem one_sort_per_key (kind : Kind) (rounds : List (List Edit)) :
    let s := rounds.foldl edited { kind }
    let es := rounds.flatten
    (keys s.texts ++ keys s.locators ++ keys s.binaries).Nodup ∧
    (∀ key v, get? s.texts key = some v ↔ Stands es key (.text v)) ∧
    (∀ key l, get? s.locators key = some l ↔ Stands es key (.locator l)) ∧
    (∀ key bs, get? s.binaries key = some bs ↔ Stands es key (.bytes bs)) ∧
    ∀ key, s.has key = true ↔ ∃ p, Stands es key p := by
  intro s es
  have made : s = (Builder.edited { kind } es).build := foldl_edited { kind } rounds
  rw [made]
  refine ⟨nodup_edited kind es, ?_, ?_, ?_, has_edited kind es⟩
  · intro key v
    have table := tabulates_texts.get?_edited kind es key v
    simpa [Param.text?_eq_some_iff] using table
  · intro key l
    have table := tabulates_locators.get?_edited kind es key l
    simpa [Param.locator?_eq_some_iff] using table
  · intro key bs
    have table := tabulates_binaries.get?_edited kind es key bs
    simpa [Param.bytes?_eq_some_iff] using table

example :
    let s := edited { kind := .echo } [.put "target" "x", .locate "target" ⟨"css", "#x"⟩]
    s.texts = [] ∧ s.locators = [("target", ⟨"css", "#x"⟩)] := by decide

end Scenario.Step

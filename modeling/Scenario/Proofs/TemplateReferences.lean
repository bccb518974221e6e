import Mathlib.Data.List.TakeWhile
import Scenario.Row

/-!
# Where references begin and end

A reference stands in a text from its mark to its closing brace. A text is read
from the left as references and characters outside of them, and a substitution
treats each of these by itself; in particular, nothing that no reference runs
across is looked at from both sides.
-/

set_option autoImplicit false

namespace Scenario.Template

def Form.Reads (f : Form) (name : List Char) : Prop := name ≠ [] ∧ ∀ c ∈ name, f.isName c = true

def Form.written (f : Form) (name : List Char) : List Char := f.mark :: '{' :: (name ++ ['}'])

/-- Names hold no braces, and the mark is no closing brace. -/
structure Form.Delimited (f : Form) : Prop where
  opening : f.isName '{' = false
  closing : f.isName '}' = false
  mark : f.mark ≠ '}'

theorem expressions_delimited : expressions.Delimited := ⟨by decide, by decide, by decide⟩

theorem keys_delimited : keys.Delimited := ⟨by decide, by decide, by decide⟩

section Begin
variable {f : Form} {s name : List Char}

theorem Form.reference?_eq_some (h : f.reference? s = some name) :
    ∃ rest, s = f.written name ++ rest ∧ f.Reads name := by
  unfold reference? at h
  split at h
  · rename_i m r
    dsimp only at h
    split at h
    · rename_i found
      obtain ⟨rfl, nonempty, closed⟩ := found
      cases h
      have parts := List.takeWhile_append_dropWhile (p := f.isName) (l := r)
      have rest : (r.takeWhile f.isName ++ r.dropWhile f.isName).drop
          (r.takeWhile f.isName).length = r.dropWhile f.isName := List.drop_left
      rw [parts] at rest
      rw [rest] at closed
      obtain ⟨tail, after⟩ := List.head?_eq_some_iff.1 closed
      rw [after] at parts
      refine ⟨tail, ?_, nonempty, fun c hc => List.mem_takeWhile_imp hc⟩
      simp only [written, List.cons_append, List.append_assoc, List.nil_append, parts]
    · cases h
  · cases h

theorem Form.substituteFrom_of_not_infix (f : Form) (value : List Char → Option (List Char))
    {s : List Char} (h : ¬ [f.mark, '{'] <:+: s) : f.substituteFrom value 0 s = s := by
  induction s with
  | nil => rfl
  | cons c r ih =>
    rw [List.infix_cons_iff, not_or] at h
    have none : f.reference? (c :: r) = none := by
      cases found : f.reference? (c :: r) with
      | none => rfl
      | some name =>
        obtain ⟨rest, whole, _⟩ := Form.reference?_eq_some found
        exact absurd ⟨name ++ ['}'] ++ rest, whole.symm⟩ h.1
    rw [substituteFrom, none]
    exact congrArg (c :: ·) (ih h.2)

theorem Form.reference?_of_head {c : Char} {r : List Char} (h : r.head? ≠ some '{') :
    f.reference? (c :: r) = none := by
  cases r with
  | nil => rfl
  | cons d r =>
    have other : d ≠ '{' := fun same => h (congrArg some same)
    simp [reference?, other]

theorem head?_inside {kept : List Char} (h : '{' ∉ kept) (rest : List Char) :
    (kept ++ '}' :: rest).head? ≠ some '{' := by
  cases kept with
  | nil => simp
  | cons c kept =>
    rintro ⟨⟩
    exact h List.mem_cons_self

end Begin

section Reading
variable {f : Form} (value : List Char → Option (List Char))

theorem Form.names_kept {c : Char} {r : List Char} (h : f.reference? (c :: r) = none) :
    f.names (c :: r) = f.names r := by
  rw [names, namesFrom, h]
  rfl

theorem Form.substitute_cons {c : Char} {r : List Char}
    (h : ∀ name, f.reference? (c :: r) = some name → value name = none) :
    f.substitute value (c :: r) = c :: f.substitute value r := by
  rw [substitute, substituteFrom]
  cases found : f.reference? (c :: r) with
  | none => rfl
  | some name =>
    rw [Option.bind_some, h name found]
    rfl

theorem Form.substitute_kept {c : Char} {r : List Char} (h : f.reference? (c :: r) = none) :
    f.substitute value (c :: r) = c :: f.substitute value r :=
  substitute_cons value fun name found => by simp [h] at found

theorem Form.substitute_keep {kept : List Char} (h : f.mark ∉ kept) (rest : List Char) :
    f.substitute value (kept ++ rest) = kept ++ f.substitute value rest := by
  induction kept with
  | nil => rfl
  | cons c kept ih =>
    rw [List.mem_cons, not_or] at h
    rw [List.cons_append, substitute_kept value (f.reference?_of_ne _ (Ne.symm h.1)), ih h.2]
    rfl

theorem Form.substituteFrom_pass (passed rest : List Char) :
    f.substituteFrom value passed.length (passed ++ rest) = f.substitute value rest := by
  induction passed with
  | nil => rfl
  | cons c passed ih => exact ih

theorem Form.namesFrom_pass (passed rest : List Char) :
    f.namesFrom passed.length (passed ++ rest) = f.names rest := by
  induction passed with
  | nil => rfl
  | cons c passed ih => exact ih

variable (delimited : f.Delimited) {name : List Char}
include delimited

theorem Form.reference?_written (reads : f.Reads name) (rest : List Char) :
    f.reference? (f.written name ++ rest) = some name := by
  have whole : f.written name ++ rest = f.mark :: '{' :: (name ++ '}' :: rest) := by
    simp [written]
  have taken : (name ++ '}' :: rest).takeWhile f.isName = name := by
    rw [List.takeWhile_append_of_pos reads.2, List.takeWhile_cons, delimited.closing]
    exact List.append_nil name
  have left : (name ++ '}' :: rest).drop name.length = '}' :: rest := List.drop_left
  rw [whole, reference?, taken, left]
  exact if_pos ⟨rfl, reads.1, rfl⟩

theorem Form.substitute_inside {kept : List Char} (h : '{' ∉ kept) (rest : List Char) :
    f.substitute value (kept ++ '}' :: rest) = kept ++ '}' :: f.substitute value rest := by
  induction kept with
  | nil => exact substitute_kept value (f.reference?_of_ne rest delimited.mark.symm)
  | cons c kept ih =>
    have later : '{' ∉ kept := fun mem => h (List.mem_cons_of_mem c mem)
    rw [List.cons_append, substitute_kept value (reference?_of_head (head?_inside later rest)),
      ih later]
    rfl

theorem Form.substitute_written (reads : f.Reads name) (rest : List Char) :
    f.substitute value (f.written name ++ rest) =
      (value name).getD (f.written name) ++ f.substitute value rest := by
  have found := reference?_written delimited reads rest
  have whole : f.written name ++ rest = f.mark :: (('{' :: (name ++ ['}'])) ++ rest) := rfl
  rw [whole] at found ⊢
  rw [substitute, substituteFrom, found]
  cases h : value name with
  | some v =>
    have length : name.length + 2 = ('{' :: (name ++ ['}'])).length := by simp
    simp only [Option.bind_some, h, Option.map_some, Option.getD_some, length,
      substituteFrom_pass]
  | none =>
    have inside : '{' ∉ name := fun mem => by simpa [delimited.opening] using reads.2 _ mem
    have opening : f.substitute value ('{' :: (name ++ '}' :: rest)) =
        '{' :: (name ++ '}' :: f.substitute value rest) := by
      rw [substitute_kept value (reference?_of_head (head?_inside inside rest)),
        substitute_inside value delimited inside]
    simp only [Option.bind_some, h, Option.map_none, Option.getD_none, written,
      List.cons_append, List.append_assoc, List.nil_append]
    exact congrArg (f.mark :: ·) opening

theorem Form.names_written (reads : f.Reads name) (rest : List Char) :
    f.names (f.written name ++ rest) = name :: f.names rest := by
  have found := reference?_written delimited reads rest
  have whole : f.written name ++ rest = f.mark :: (('{' :: (name ++ ['}'])) ++ rest) := rfl
  have length : name.length + 2 = ('{' :: (name ++ ['}'])).length := by simp
  rw [whole] at found ⊢
  rw [names, namesFrom, found]
  dsimp only
  rw [length, namesFrom_pass]

/-- A text as it is read from the left. -/
inductive Form.Scanned (f : Form) : List Char → Prop
  | done : Scanned f []
  | kept {c : Char} {r : List Char} (none : f.reference? (c :: r) = none) (later : Scanned f r) :
    Scanned f (c :: r)
  | found {name r : List Char} (reads : f.Reads name) (later : Scanned f r) :
    Scanned f (f.written name ++ r)

omit delimited in
theorem Form.scanned (f : Form) (s : List Char) : f.Scanned s := by
  induction h : s.length using Nat.strongRecOn generalizing s with
  | ind n ih =>
    cases s with
    | nil => exact .done
    | cons c r =>
      cases found : f.reference? (c :: r) with
      | none => exact .kept found (ih r.length (by simp [← h]) r rfl)
      | some name =>
        obtain ⟨rest, whole, reads⟩ := reference?_eq_some found
        rw [whole] at h ⊢
        exact .found reads (ih rest.length (by simp [← h, written]; omega) rest rfl)

/-- The text ends while a reference is open: its mark and brace stand before `t`, which may
still become a name. -/
def Form.Opening (f : Form) (s t : List Char) : Prop :=
  f.mark :: '{' :: t <:+ s ∧ ∀ c ∈ t, f.isName c = true

omit delimited in
theorem Form.Opening.append {s t : List Char} (h : f.Opening s t) (before : List Char) :
    f.Opening (before ++ s) t :=
  ⟨h.1.trans (List.suffix_append before s), h.2⟩

theorem Form.Opening.of_across {d : Char} (brace : d ≠ '{' ∧ d ≠ '}') {s rest name : List Char}
    (apart : f.reference? s = none) (across : f.reference? (s ++ d :: rest) = some name)
    (nonempty : s ≠ []) :
    ∃ t u, f.Opening s t ∧ f.Reads name ∧ name = t ++ d :: u := by
  obtain ⟨tail, whole, reads⟩ := reference?_eq_some across
  match s, nonempty with
  | [c], _ =>
    obtain ⟨-, rest⟩ := List.cons.inj whole
    exact absurd (List.cons.inj rest).1 brace.1
  | c :: o :: t, _ =>
    have split : t ++ d :: rest = name ++ '}' :: tail := by
      have := (List.cons.inj (List.cons.inj whole).2).2
      simpa using this
    have head : c :: o :: t = f.mark :: '{' :: t := by
      rw [(List.cons.inj whole).1, (List.cons.inj (List.cons.inj whole).2).1]
    rcases List.append_eq_append_iff.1 split with ⟨u, longer, after⟩ | ⟨u, shorter, after⟩
    · cases u with
      | nil => exact absurd (List.cons.inj after).1 brace.2
      | cons d' u =>
        obtain rfl : d = d' := (List.cons.inj after).1
        subst longer
        have inside : ∀ c ∈ t, f.isName c = true := fun c hc =>
          reads.2 c (List.mem_append_left _ hc)
        exact ⟨t, u, ⟨head ▸ List.suffix_refl _, inside⟩, reads, rfl⟩
    · cases u with
      | nil => exact absurd (List.cons.inj after).1.symm brace.2
      | cons d' u =>
        obtain rfl : '}' = d' := (List.cons.inj after).1
        have begins : c :: o :: t = f.written name ++ u := by
          rw [head, shorter]
          simp [written]
        rw [begins, reference?_written delimited reads] at apart
        cases apart

/-- Two texts are read each by itself if a character stands between them that no name which has
a value runs across. -/
theorem Form.substitute_across {d : Char} (plain : d ≠ f.mark ∧ d ≠ '{' ∧ d ≠ '}')
    {s : List Char}
    (ends : ∀ t u, f.Opening s t → f.Reads (t ++ d :: u) → value (t ++ d :: u) = none)
    (rest : List Char) :
    f.substitute value (s ++ d :: rest) =
      f.substitute value s ++ d :: f.substitute value rest := by
  have alone := substitute_kept value (f.reference?_of_ne rest plain.1)
  induction f.scanned s with
  | done => exact alone
  | @kept c r none later ih =>
    have tail := ih fun t u opens => ends t u (opens.append [c])
    rw [substitute_kept value none, List.cons_append, List.cons_append, ← tail]
    refine substitute_cons value fun name found => ?_
    obtain ⟨t, u, opens, reads, rfl⟩ :=
      Opening.of_across delimited plain.2 none found (List.cons_ne_nil c r)
    exact ends t u opens reads
  | @found name r reads later ih =>
    have tail := ih fun t u opens => ends t u (opens.append _)
    rw [List.append_assoc, substitute_written value delimited reads,
      substitute_written value delimited reads, tail, List.append_assoc]

end Reading
end Scenario.Template

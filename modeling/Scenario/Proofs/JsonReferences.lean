import Scenario.Proofs.JsonLetters
import Scenario.Proofs.SortedEntries
import Scenario.Proofs.TemplateExpansion

/-!
# References in JSON strings

No letter of an escape belongs to the notation of references, so a text and its
letters hold the same references, each under the letters of its name. What a
round makes of the letters is then spelled as what it makes of the text, as long
as each name is found by its letters and brings the letters of its value, and
the closing quotation mark is part of no name.
-/

set_option autoImplicit false

namespace Scenario

namespace Json
open Template
open Expansion (isPlain isName_of_isPlain)

theorem forall_control (P : Char → Prop) (h : ∀ n < 32, P (Char.ofNat n)) {c : Char}
    (low : c.toNat < 32) : P c := by
  have there := h c.toNat low
  rwa [Char.ofNat_toNat] at there

theorem escapeChar_eq_self {c : Char} (quote : c ≠ '"') (slash : c ≠ '\\') (printed : 32 ≤ c.toNat) :
    escapeChar c = [c] := by
  have other : ∀ d : Char, d.toNat < 32 → c ≠ d := by
    rintro d low rfl
    omega
  have low : ∀ n < 32, c.toNat ≠ n := fun n h => by omega
  rw [escapeChar, if_neg quote, if_neg slash, if_neg (other '\n' (by decide)),
    if_neg (other '\r' (by decide)), if_neg (other '\t' (by decide)), if_neg (low 8 (by decide)),
    if_neg (low 12 (by decide)), if_neg (by omega)]

theorem escapeChar_cases (c : Char) :
    escapeChar c = [c] ∨ '\\' ∈ escapeChar c ∧ ∀ d ∈ escapeChar c, isPlain d = true := by
  simp only [← List.all_eq_true]
  by_cases quote : c = '"'
  · subst quote
    exact .inr (by decide)
  by_cases slash : c = '\\'
  · subst slash
    exact .inr (by decide)
  by_cases printed : 32 ≤ c.toNat
  · exact .inl (escapeChar_eq_self quote slash printed)
  · refine .inr (forall_control (fun c => '\\' ∈ escapeChar c ∧
      (escapeChar c).all isPlain = true) (by decide) (not_le.1 printed))

variable {s t name : List Char} {c d : Char}

theorem escapeChar_of_not_plain (h : isPlain c = false) : escapeChar c = [c] := by
  have four : c = '$' ∨ c = '!' ∨ c = '{' ∨ c = '}' := by
    by_contra none
    simp only [not_or] at none
    simp [isPlain, none] at h
  rcases four with rfl | rfl | rfl | rfl <;> rfl

theorem letters_eq_nil (h : letters s = []) : s = [] := by
  have long := length_letters s
  rw [h] at long
  exact List.length_eq_zero_iff.1 (Nat.le_zero.1 long)

/-- Where the notation stands among letters it stands in the text. -/
theorem letters_eq_append (sign : isPlain d = false) {before after : List Char}
    (h : letters s = before ++ d :: after) :
    ∃ b a, s = b ++ d :: a ∧ letters b = before ∧ letters a = after := by
  induction s generalizing before with
  | nil => simp [letters] at h
  | cons c s ih =>
    rw [letters_cons] at h
    rcases List.append_eq_append_iff.1 h with ⟨m, longer, rest⟩ | ⟨m, shorter, rest⟩
    · obtain ⟨b, a, rfl, hb, ha⟩ := ih rest
      exact ⟨c :: b, a, rfl, by rw [letters_cons, hb, longer], ha⟩
    cases m with
    | nil =>
      have first : letters s = [] ++ d :: after := rest.symm
      obtain ⟨b, a, rfl, hb, ha⟩ := ih first
      rw [letters_eq_nil hb]
      exact ⟨[c], a, rfl, by simpa [letters] using shorter, ha⟩
    | cons d' m =>
      obtain ⟨rfl, last⟩ := List.cons.inj rest
      have mem : d ∈ escapeChar c := by simp [shorter]
      rcases escapeChar_cases c with self | ⟨-, plain⟩
      · rw [self] at shorter
        cases before with
        | nil =>
          obtain ⟨rfl, rfl⟩ := List.cons.inj shorter
          exact ⟨[], s, rfl, rfl, last.symm⟩
        | cons _ _ => simp at shorter
      · rw [plain d mem] at sign
        cases sign

theorem letters_eq_cons (sign : isPlain d = false) {after : List Char}
    (h : letters s = d :: after) : ∃ a, s = d :: a ∧ letters a = after := by
  have parts : letters s = [] ++ d :: after := h
  obtain ⟨b, a, rfl, hb, ha⟩ := letters_eq_append sign parts
  rw [letters_eq_nil hb]
  exact ⟨a, rfl, ha⟩

theorem not_mem_letters (sign : isPlain d = false) (h : d ∉ s) : d ∉ letters s := by
  intro mem
  obtain ⟨before, after, parts⟩ := List.append_of_mem mem
  obtain ⟨b, a, rfl, -, -⟩ := letters_eq_append sign parts
  exact h (by simp)

/-- The mark of a form stands for itself, and the letters of names make names. -/
structure Lettered (f : Form) : Prop where
  mark : isPlain f.mark = false
  isName : ∀ c, f.isName c = true ↔ ∀ d ∈ escapeChar c, f.isName d = true

theorem expressions_lettered : Lettered expressions where
  mark := rfl
  isName c := by
    rcases escapeChar_cases c with self | ⟨slash, plain⟩
    · simp [self]
    · refine ⟨fun _ d hd => isName_of_isPlain (plain d hd), fun _ => ?_⟩
      by_contra brace
      have sign : isPlain c = false := by
        cases h : isPlain c with
        | false => rfl
        | true => exact absurd (isName_of_isPlain h) brace
      rw [escapeChar_of_not_plain sign, List.mem_singleton] at slash
      subst slash
      cases sign

theorem escapeChar_of_key (h : keys.isName c = true) : escapeChar c = [c] := by
  refine escapeChar_eq_self ?_ ?_ ?_
  · rintro rfl
    cases h
  · rintro rfl
    cases h
  · by_contra low
    have none := forall_control (keys.isName · = false) (by decide) (not_le.1 low)
    rw [h] at none
    cases none

theorem keys_lettered : Lettered keys where
  mark := rfl
  isName c := by
    rcases escapeChar_cases c with self | ⟨slash, plain⟩
    · simp [self]
    · refine ⟨fun h => ?_, fun h => absurd (h _ slash) (by decide)⟩
      rw [escapeChar_of_key h, List.mem_singleton] at slash
      subst slash
      cases h

section References
variable {f : Form} (lettered : Lettered f)
include lettered

theorem reads_letters : f.Reads (letters name) ↔ f.Reads name := by
  have empty : letters name ≠ [] ↔ name ≠ [] :=
    not_congr ⟨letters_eq_nil, fun h => by rw [h]; rfl⟩
  have all : (∀ d ∈ letters name, f.isName d = true) ↔ ∀ c ∈ name, f.isName c = true := by
    constructor
    · intro h c hc
      exact (lettered.isName c).2 fun d hd => h d (List.mem_flatMap.2 ⟨c, hc, hd⟩)
    · intro h d hd
      obtain ⟨c, hc, hd⟩ := List.mem_flatMap.1 hd
      exact (lettered.isName c).1 (h c hc) d hd
  exact and_congr empty all

theorem letters_written (name : List Char) :
    letters (f.written name) = f.written (letters name) := by
  rw [Form.written, letters_cons, letters_cons, letters_append,
    escapeChar_of_not_plain lettered.mark]
  rfl

variable (delimited : f.Delimited)
include delimited

theorem reference?_letters (self : escapeChar c = [c]) (h : f.reference? (c :: s) = none) :
    f.reference? (c :: letters s) = none := by
  cases found : f.reference? (c :: letters s) with
  | none => rfl
  | some name =>
    obtain ⟨rest, whole, reads⟩ := Form.reference?_eq_some found
    have parts : letters (c :: s) = f.mark :: '{' :: name ++ '}' :: rest := by
      rw [letters_cons, self, List.singleton_append, whole]
      simp [Form.written]
    obtain ⟨_, a, same, marked, -⟩ := letters_eq_append (d := '}') rfl parts
    obtain ⟨_, rfl, opened⟩ := letters_eq_cons lettered.mark marked
    obtain ⟨b, rfl, rfl⟩ := letters_eq_cons (d := '{') rfl opened
    have begins : c :: s = f.written b ++ a := by
      rw [same]
      simp [Form.written]
    rw [begins, Form.reference?_written delimited ((reads_letters lettered).1 reads)] at h
    cases h

/-- A substitution in letters spells the substitution in the text. -/
theorem substitute_letters (value : List Char → Option (List Char))
    (inside : ∀ name ∈ f.names s, f.Reads name → value (letters name) = (value name).map letters) :
    f.substitute value (letters s) = letters (f.substitute value s) := by
  induction f.scanned s with
  | done => rfl
  | @kept c r none later ih =>
    rw [Form.names_kept none] at inside
    rw [Form.substitute_kept value none, letters_cons, letters_cons, ← ih inside]
    rcases escapeChar_cases c with self | ⟨-, plain⟩
    · rw [self]
      exact Form.substitute_kept value (reference?_letters lettered delimited self none)
    · refine Form.substitute_keep value (fun mem => ?_) _
      have marked := plain _ mem
      rw [lettered.mark] at marked
      cases marked
  | @found name r reads later ih =>
    rw [Form.names_written delimited reads] at inside
    have known := inside name List.mem_cons_self reads
    have tail := ih fun other mem => inside other (List.mem_cons_of_mem _ mem)
    rw [letters_append, letters_written lettered,
      Form.substitute_written value delimited ((reads_letters lettered).2 reads),
      Form.substitute_written value delimited reads, letters_append, tail, known]
    cases value name with
    | none => simp [letters_written lettered]
    | some v => rfl

omit delimited in
theorem opening_letters (h : f.Opening (letters s) t) : ∃ u, f.Opening s u ∧ t = letters u := by
  obtain ⟨⟨before, whole⟩, named⟩ := h
  obtain ⟨b, a, rfl, -, ha⟩ := letters_eq_append lettered.mark whole.symm
  obtain ⟨u, rfl, rfl⟩ := letters_eq_cons (d := '{') rfl ha
  refine ⟨u, ⟨List.suffix_append b _, fun c hc => ?_⟩, rfl⟩
  exact (lettered.isName c).2 fun d hd => named d (List.mem_flatMap.2 ⟨c, hc, hd⟩)

end References

theorem letters_eq_self (h : ∀ c ∈ s, escapeChar c = [c]) : letters s = s := by
  induction s with
  | nil => rfl
  | cons c s ih =>
    rw [letters_cons, h c List.mem_cons_self, ih fun d hd => h d (List.mem_cons_of_mem c hd)]
    rfl

theorem keyValue?_letters (reads : keys.Reads name) :
    Row.keyValue? (letters name) = (Row.keyValue? name).map letters := by
  have codes : ∀ e ∈ Row.keyCodes,
      letters [Char.ofNat (0xE000 + e.2)] = [Char.ofNat (0xE000 + e.2)] := by decide
  rw [letters_eq_self fun c hc => escapeChar_of_key (reads.2 c hc)]
  unfold Row.keyValue?
  split
  · rename_i key
    cases found : Assoc.get? Row.keyCodes (String.ofList key) with
    | none => rfl
    | some n => exact congrArg some (codes _ (Assoc.mem_of_get? found)).symm
  · rfl

end Json

namespace Row
open Json Template

/-- A round treats a text between quotation marks as it treats the text alone: each reference is
found by the letters of its name and brings the letters of its value, and where the text ends
with a reference open, the quotation mark makes it no name that has a value. -/
structure Spellable (r : Row) (s : List Char) : Prop where
  inside : ∀ name ∈ expressions.names s, r.value? (letters name) = (r.value? name).map letters
  across : ∀ t u, expressions.Opening s t → expressions.Reads (letters t ++ '"' :: u) →
    r.value? (letters t ++ '"' :: u) = none

variable {r : Row} {s : List Char}

theorem Spellable.substitute_letters (h : r.Spellable s) (rest : List Char) :
    r.substitute (letters s ++ '"' :: rest) =
      letters (r.substitute s) ++ '"' :: r.substitute rest := by
  have opened : ∀ t u, expressions.Opening (letters s) t → expressions.Reads (t ++ '"' :: u) →
      r.value? (t ++ '"' :: u) = none := by
    intro t u opens reads
    obtain ⟨t', inner, rfl⟩ := opening_letters expressions_lettered opens
    exact h.across t' u inner reads
  have closed : ∀ t u, keys.Opening (letters (expressions.substitute r.value? s)) t →
      keys.Reads (t ++ '"' :: u) → keyValue? (t ++ '"' :: u) = none := by
    intro t u _ reads
    have named : keys.isName '"' = true := reads.2 _ (by simp)
    cases named
  rw [substitute, Form.substitute_across _ expressions_delimited (by decide) opened,
    Json.substitute_letters expressions_lettered expressions_delimited _
      fun name mem _ => h.inside name mem,
    Form.substitute_across _ keys_delimited (by decide) closed,
    Json.substitute_letters keys_lettered keys_delimited _ fun name _ reads =>
      keyValue?_letters reads]
  rfl

end Row

end Scenario

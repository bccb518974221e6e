import Mathlib.Data.List.Induction
import Scenario.Expression

/-!
# Texts with the look of a number

A text of a row takes part in an expression as an integer if and only if it is
the numeral of one that fits 64 bits: without a plus sign, without leading zeros
and without a minus before zero. A text without a point is given back by its
value, whatever it looks like, so that different texts have different values.
-/

set_option autoImplicit false

namespace Scenario.Text
open Scenario.Decimal (isDigit natOf)

/-- The digits of a number without leading zeros. -/
structure Numeral (cs : List Char) (n : Nat) : Prop where
  nonempty : cs ≠ []
  digits : ∀ c ∈ cs, isDigit c = true
  leading : cs.head? = some '0' → cs = ['0']
  value : natOf cs = n

/-- The numeral of an integer: only negative numbers have a sign, which is a minus. -/
inductive SignedNumeral : List Char → Int → Prop
  | natural {cs : List Char} {n : Nat} (digits : Numeral cs n) : SignedNumeral cs n
  | negative {cs : List Char} {n : Nat} (digits : Numeral cs n) (nonzero : n ≠ 0) :
      SignedNumeral ('-' :: cs) (-n)

section Digits
variable {c : Char} {cs : List Char} {d n : Nat}

theorem toNat_decimalDigit (h : d < 10) : (decimalDigit d).toNat = 48 + d := by
  have digits : ∀ d < 10, (decimalDigit d).toNat = 48 + d := by decide
  exact digits d h

theorem isDigit_decimalDigit (h : d < 10) : isDigit (decimalDigit d) = true := by
  rw [isDigit, toNat_decimalDigit h]
  simp
  omega

theorem decimalDigit_of_isDigit (h : isDigit c = true) : ∃ d < 10, c = decimalDigit d := by
  simp only [isDigit, Bool.and_eq_true, decide_eq_true_eq] at h
  refine ⟨c.toNat - 48, by omega, ?_⟩
  rw [decimalDigit, Nat.add_sub_cancel' h.1, Char.ofNat_toNat]

theorem natOf_concat (cs : List Char) (h : d < 10) :
    natOf (cs ++ [decimalDigit d]) = natOf cs * 10 + d := by
  simp [natOf, toNat_decimalDigit h]

theorem Numeral.eq_natDigits (h : Numeral cs n) : cs = natDigits n := by
  induction cs using List.reverseRecOn generalizing n with
  | nil => exact absurd rfl h.nonempty
  | append_singleton front c ih =>
    obtain ⟨d, small, rfl⟩ := decimalDigit_of_isDigit (h.digits c (by simp))
    have value : natOf front * 10 + d = n := by rw [← h.value, natOf_concat front small]
    by_cases single : front = []
    · subst single
      have same : d = n := by simpa [natOf] using value
      rw [natDigits, if_pos (same ▸ small), same, List.nil_append]
    · -- No zero leads the text, so none leads the digits before the last one.
      have nonzero : front.head? ≠ some '0' := by
        intro zero
        have whole := h.leading (by rw [List.head?_append, zero]; rfl)
        have length := congrArg List.length whole
        simp [single] at length
      have digits : front = natDigits (natOf front) := ih {
        nonempty := single
        digits := fun c hc => h.digits c (List.mem_append_left _ hc)
        leading := fun zero => absurd zero nonzero
        value := rfl }
      have positive : natOf front ≠ 0 := by
        intro zero
        rw [zero] at digits
        rw [digits] at nonzero
        exact nonzero (by rw [natDigits]; rfl)
      have quotient : n / 10 = natOf front := by omega
      have remainder : n % 10 = d := by omega
      rw [natDigits, if_neg (by omega), quotient, remainder, ← digits]

theorem numeral_natDigits (n : Nat) : Numeral (natDigits n) n := by
  induction n using natDigits.induct with
  | case1 n small =>
    rw [natDigits, if_pos small]
    refine ⟨by simp, by simpa using isDigit_decimalDigit small, by simp, ?_⟩
    simpa [natOf] using natOf_concat [] small
  | case2 n large ih =>
    have last : n % 10 < 10 := Nat.mod_lt n (by decide)
    rw [natDigits, if_neg large]
    refine ⟨by simp, ?_, ?_, ?_⟩
    · intro c hc
      rcases List.mem_append.1 hc with front | last'
      · exact ih.digits c front
      · rw [List.mem_singleton.1 last']
        exact isDigit_decimalDigit last
    · intro zero
      obtain ⟨c, cs, front⟩ := List.exists_cons_of_ne_nil ih.nonempty
      have value := ih.value
      rw [front, List.cons_append, List.head?_cons] at zero
      rw [ih.leading (by rw [front, List.head?_cons, zero])] at value
      have none : n / 10 = 0 := value.symm
      omega
    · rw [natOf_concat _ last, ih.value]
      omega

end Digits

theorem toList_intText_ofNat (n : Nat) : (intText n).toList = natDigits n := by
  show (natText n).toList = natDigits n
  rw [natText, String.toList_ofList]

theorem toList_intText_negSucc (n : Nat) :
    (intText (.negSucc n)).toList = '-' :: natDigits (n + 1) := by
  simp [intText, natText]

theorem signedNumeral_iff {raw : String} {i : Int} :
    SignedNumeral raw.toList i ↔ intText i = raw := by
  rw [← String.toList_inj]
  constructor
  · intro h
    generalize raw.toList = cs at h
    cases h with
    | natural digits => rw [toList_intText_ofNat, digits.eq_natDigits]
    | @negative _ n digits nonzero =>
      obtain ⟨m, rfl⟩ := Nat.exists_eq_succ_of_ne_zero nonzero
      exact (toList_intText_negSucc m).trans (by rw [digits.eq_natDigits])
  · intro h
    rw [← h]
    cases i with
    | ofNat n =>
      rw [Int.ofNat_eq_natCast, toList_intText_ofNat]
      exact .natural (numeral_natDigits n)
    | negSucc n =>
      rw [toList_intText_negSucc]
      exact .negative (numeral_natDigits (n + 1)) (Nat.succ_ne_zero n)

theorem digitsFrom_lt {base limit acc n : Nat} {cs : List Char} (start : acc < limit)
    (h : digitsFrom base limit acc cs = .ok n) : n < limit := by
  induction cs generalizing acc with
  | nil =>
    cases h
    exact start
  | cons c cs ih =>
    rw [digitsFrom] at h
    split at h
    · cases h
    · split at h
      · rename_i fits
        exact ih fits h
      · cases h

theorem readSigned_range {raw : String} {i : Int} (h : readSigned raw = some i) :
    -(signedWord : Int) ≤ i ∧ i < signedWord := by
  have unsigned : ∀ cs : List Char,
      (digitsFrom 10 signedWord 0 cs).toOption.map Int.ofNat = some i →
        -(signedWord : Int) ≤ i ∧ i < signedWord := by
    intro cs read
    cases digits : digitsFrom 10 signedWord 0 cs with
    | error f => simp [digits, Except.toOption] at read
    | ok n =>
      have bound : n < signedWord := digitsFrom_lt (by decide) digits
      have same : (n : Int) = i := by simpa [digits, Except.toOption] using read
      omega
  rw [readSigned, readSignedIn.eq_def] at h
  split at h
  · split at h
    · rename_i n digits
      have bound : n < signedWord + 1 := digitsFrom_lt (by decide) digits
      have same : -(n : Int) = i := by simpa using h
      have positive : 0 < signedWord := by decide
      omega
    · cases h
  · exact unsigned _ h
  · cases h
  · exact unsigned _ h

theorem readSignedIn_unsigned (base : Nat) {cs : List Char} (nonempty : cs ≠ []) (minus : '-' ∉ cs)
    (plus : '+' ∉ cs) :
    readSignedIn base cs = (digitsFrom base signedWord 0 cs).toOption.map Int.ofNat := by
  cases cs with
  | nil => exact absurd rfl nonempty
  | cons c r =>
    have notMinus : c ≠ '-' := fun h => minus (by simp [h])
    have notPlus : c ≠ '+' := fun h => plus (by simp [h])
    simp [readSignedIn, notMinus, notPlus]

theorem readSigned_intText {i : Int} (low : -(signedWord : Int) ≤ i) (high : i < signedWord) :
    readSigned (intText i) = some i := by
  cases i with
  | ofNat n =>
    rw [Int.ofNat_eq_natCast] at high ⊢
    have read := digitsFrom_natDigits (Int.ofNat_lt.1 high)
    rw [readSigned, toList_intText_ofNat, readSignedIn_unsigned 10 (natDigits_ne_nil n)
      (not_mem_natDigits (by decide) n) (not_mem_natDigits (by decide) n), read]
    rfl
  | negSucc n =>
    have bound : n + 1 < signedWord + 1 := by omega
    have read := digitsFrom_natDigits bound
    rw [readSigned, toList_intText_negSucc]
    cases digits : natDigits (n + 1) with
    | nil => exact absurd digits (natDigits_ne_nil (n + 1))
    | cons c cs =>
      rw [digits] at read
      rw [readSignedIn, read]
      rfl

end Scenario.Text

namespace Scenario.Expression
open Scenario.Text

theorem typed_eq_int_iff {raw : String} {i : Int} :
    typed raw = .int i ↔ readSigned raw = some i ∧ intText i = raw := by
  constructor
  · intro h
    unfold typed at h
    split at h
    · next j value =>
      cases h
      obtain ⟨read, text⟩ := Option.filter_eq_some_iff.1 value
      exact ⟨read, by simpa using text⟩
    · dsimp only at h
      split at h
      · cases h
      · split at h
        · cases h
        · split at h <;> cases h
  · rintro ⟨read, text⟩
    simp [typed, read, Option.filter, text]

theorem typed_pointless {raw : String} (pointless : '.' ∉ raw.toList) :
    (∃ i, typed raw = .int i) ∨ (typed raw = .bool true ∧ raw = "true") ∨
      (typed raw = .bool false ∧ raw = "false") ∨ typed raw = .str raw := by
  have noPoint : raw.toList.contains '.' = false := by simpa using pointless
  unfold typed
  split
  · next i value => exact .inl ⟨i, rfl⟩
  · simp only [noPoint, Bool.false_and, Bool.false_eq_true, if_false]
    split
    · next yes => exact .inr (.inl ⟨rfl, yes⟩)
    · split
      · next no => exact .inr (.inr (.inl ⟨rfl, no⟩))
      · exact .inr (.inr (.inr rfl))

theorem scalar_typed {raw : String} (pointless : '.' ∉ raw.toList) :
    (typed raw).toJson.map Json.scalar = some raw := by
  rcases typed_pointless pointless with ⟨i, int⟩ | ⟨yes, rfl⟩ | ⟨no, rfl⟩ | text
  · rw [int]
    exact congrArg some (typed_eq_int_iff.1 int).2
  · rw [yes]
    rfl
  · rw [no]
    rfl
  · rw [text]
    rfl

/-- Values of texts without a point are the same only if they are equal. -/
theorem eq_of_same {a b : String} (pointless : '.' ∉ a.toList) (pointless' : '.' ∉ b.toList)
    (h : Cel.same (typed a) (typed b) = true) : typed a = typed b := by
  rcases typed_pointless pointless with ⟨i, left⟩ | ⟨left, -⟩ | ⟨left, -⟩ | left <;>
    rcases typed_pointless pointless' with ⟨j, right⟩ | ⟨right, -⟩ | ⟨right, -⟩ | right <;>
    rw [left, right] at h ⊢ <;> simp_all [Cel.same]

/-- The value of a text is an integer if and only if the text is the numeral of that integer and the
integer fits 64 bits. Different texts without a point have different values. -/
theorem typed_keeps_text :
    (∀ (raw : String) (i : Int), typed raw = .int i ↔
      SignedNumeral raw.toList i ∧ -9223372036854775808 ≤ i ∧ i ≤ 9223372036854775807) ∧
    ∀ a b : String, '.' ∉ a.toList → '.' ∉ b.toList → a ≠ b →
      typed a ≠ typed b ∧ Cel.same (typed a) (typed b) = false := by
  have word : (signedWord : Int) = 9223372036854775808 := by decide
  constructor
  · intro raw i
    rw [typed_eq_int_iff, signedNumeral_iff]
    constructor
    · rintro ⟨read, text⟩
      have range := readSigned_range read
      exact ⟨text, by omega, by omega⟩
    · rintro ⟨rfl, low, high⟩
      exact ⟨readSigned_intText (by omega) (by omega), rfl⟩
  · intro a b pointless pointless' different
    have values : typed a ≠ typed b := by
      intro same
      have text := scalar_typed pointless
      rw [same, scalar_typed pointless'] at text
      exact different (Option.some.inj text).symm
    refine ⟨values, ?_⟩
    rw [← Bool.not_eq_true]
    exact fun same => values (eq_of_same pointless pointless' same)

theorem largest_integer_kept :
    SignedNumeral "9223372036854775807".toList 9223372036854775807 ∧
    typed "9223372036854775807" = .int 9223372036854775807 ∧
    '.' ∉ "9223372036854775807".toList ∧ '.' ∉ "9223372036854775808".toList ∧
    typed "9223372036854775807" ≠ typed "9223372036854775808" := by
  have digits : Numeral "9223372036854775807".toList 9223372036854775807 := by
    refine ⟨by decide, ?_, by decide, by decide⟩
    rw [← List.all_eq_true]
    decide
  have pointless : '.' ∉ "9223372036854775807".toList := by decide
  have pointless' : '.' ∉ "9223372036854775808".toList := by decide
  refine ⟨.natural digits, ?_, pointless, pointless', ?_⟩
  · exact (typed_keeps_text.1 _ _).2 ⟨.natural digits, by decide, by decide⟩
  · exact (typed_keeps_text.2 _ _ pointless pointless' (by decide)).1

end Scenario.Expression

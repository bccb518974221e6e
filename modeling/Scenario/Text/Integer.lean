/-!
# Whole numbers written in decimal

A number is read digit by digit; the first character that is no digit and the
first digit that leaves the range end the reading, whichever comes first.
-/

set_option autoImplicit false

namespace Scenario.Text

inductive IntegerFault where
  | empty
  | invalidDigit
  | tooLarge
  deriving DecidableEq, Repr

def IntegerFault.message : IntegerFault → String
  | .empty => "cannot parse integer from empty string"
  | .invalidDigit => "invalid digit found in string"
  | .tooLarge => "number too large to fit in target type"

def digit? (base : Nat) (c : Char) : Option Nat :=
  let n := c.toNat
  let v := if 48 ≤ n ∧ n ≤ 57 then n - 48
    else if 97 ≤ n ∧ n ≤ 122 then n - 87
    else if 65 ≤ n ∧ n ≤ 90 then n - 55
    else base
  if v < base then some v else none

def digitsFrom (base limit : Nat) : Nat → List Char → Except IntegerFault Nat
  | acc, [] => .ok acc
  | acc, c :: r =>
    match digit? base c with
    | none => .error .invalidDigit
    | some d =>
      if acc * base + d < limit then digitsFrom base limit (acc * base + d) r
      else .error .tooLarge

def readNatIn (base limit : Nat) : List Char → Except IntegerFault Nat
  | [] => .error .empty
  | '+' :: c :: r => digitsFrom base limit 0 (c :: r)
  | cs => digitsFrom base limit 0 cs

def word : Nat := 0x10000000000000000

def signedWord : Nat := 0x8000000000000000

def readWord (s : String) : Except IntegerFault Nat := readNatIn 10 word s.toList

def readSignedIn (base : Nat) (cs : List Char) : Option Int :=
  match cs with
  | '-' :: c :: r =>
    match digitsFrom base (signedWord + 1) 0 (c :: r) with
    | .ok n => some (-(n : Int))
    | .error _ => none
  | '+' :: c :: r => (digitsFrom base signedWord 0 (c :: r)).toOption.map Int.ofNat
  | [] => none
  | cs => (digitsFrom base signedWord 0 cs).toOption.map Int.ofNat

def readSigned (s : String) : Option Int := readSignedIn 10 s.toList

def decimalDigit (d : Nat) : Char := Char.ofNat (48 + d)

def natDigits (n : Nat) : List Char :=
  if n < 10 then [decimalDigit n] else natDigits (n / 10) ++ [decimalDigit (n % 10)]

def natText (n : Nat) : String := String.ofList (natDigits n)

def intText : Int → String
  | .ofNat n => natText n
  | .negSucc n => "-" ++ natText (n + 1)

def upperHex (n : Nat) : Char := if n < 10 then Char.ofNat (48 + n) else Char.ofNat (55 + n)

def upperHexDigits : Nat → Nat → List Char
  | 0, _ => []
  | w + 1, n => upperHexDigits w (n / 16) ++ [upperHex (n % 16)]

def hexDigits : Nat → Nat → List Char
  | 0, _ => []
  | w + 1, n => hexDigits w (n / 16) ++
      [if n % 16 < 10 then Char.ofNat (48 + n % 16) else Char.ofNat (87 + n % 16)]

def padded (width : Nat) (n : Nat) : String :=
  let ds := natDigits n
  String.ofList (List.replicate (width - ds.length) '0' ++ ds)

theorem digit?_decimalDigit {d : Nat} (h : d < 10) : digit? 10 (decimalDigit d) = some d := by
  have cases : ∀ d < 10, digit? 10 (decimalDigit d) = some d := by decide
  exact cases d h

theorem natDigits_ne_nil (n : Nat) : natDigits n ≠ [] := by
  rw [natDigits]
  split <;> simp

theorem decimalDigit_of_mem {n : Nat} {c : Char} (h : c ∈ natDigits n) :
    ∃ d < 10, c = decimalDigit d := by
  induction n using natDigits.induct with
  | case1 n hn =>
    rw [natDigits, if_pos hn] at h
    exact ⟨n, hn, List.mem_singleton.1 h⟩
  | case2 n hn ih =>
    rw [natDigits, if_neg hn, List.mem_append, List.mem_singleton] at h
    rcases h with h | h
    · exact ih h
    · exact ⟨n % 10, Nat.mod_lt n (by decide), h⟩

theorem not_mem_natDigits {c : Char} (h : ∀ d < 10, c ≠ decimalDigit d) (n : Nat) :
    c ∉ natDigits n := by
  intro hc
  obtain ⟨d, hd, e⟩ := decimalDigit_of_mem hc
  exact h d hd e

theorem digitsFrom_append (base limit acc n : Nat) (a b : List Char)
    (h : digitsFrom base limit acc a = .ok n) :
    digitsFrom base limit acc (a ++ b) = digitsFrom base limit n b := by
  induction a generalizing acc with
  | nil =>
    cases h
    rfl
  | cons c r ih =>
    simp only [digitsFrom, List.cons_append] at h ⊢
    split at h
    · cases h
    · split at h
      · rename_i d hd fits
        rw [if_pos fits]
        exact ih _ h
      · cases h

theorem digitsFrom_natDigits {n limit : Nat} (h : n < limit) :
    digitsFrom 10 limit 0 (natDigits n) = .ok n := by
  induction n using natDigits.induct with
  | case1 n hn =>
    rw [natDigits, if_pos hn]
    simp [digitsFrom, digit?_decimalDigit hn, h]
  | case2 n hn ih =>
    have front := ih (by omega)
    have last : n % 10 < 10 := Nat.mod_lt n (by decide)
    have whole : n / 10 * 10 + n % 10 = n := Nat.div_add_mod' n 10
    rw [natDigits, if_neg hn, digitsFrom_append _ _ _ _ _ _ front]
    simp [digitsFrom, digit?_decimalDigit last, whole, h]

theorem natDigits_injective {n m : Nat} (h : natDigits n = natDigits m) : n = m := by
  have left : digitsFrom 10 (n + m + 1) 0 (natDigits n) = .ok n := digitsFrom_natDigits (by omega)
  have right : digitsFrom 10 (n + m + 1) 0 (natDigits m) = .ok m := digitsFrom_natDigits (by omega)
  rw [h, right] at left
  cases left
  rfl

theorem readNatIn_eq_digitsFrom (base limit : Nat) {cs : List Char} (hne : cs ≠ [])
    (hplus : '+' ∉ cs) : readNatIn base limit cs = digitsFrom base limit 0 cs := by
  cases cs with
  | nil => exact absurd rfl hne
  | cons c r =>
    have hc : c ≠ '+' := fun h => hplus (by simp [h])
    simp [readNatIn, hc]

theorem readWord_natText {n : Nat} (h : n < word) : readWord (natText n) = .ok n := by
  rw [readWord, natText, String.toList_ofList, readNatIn_eq_digitsFrom 10 word
    (natDigits_ne_nil n) (not_mem_natDigits (by decide) n)]
  exact digitsFrom_natDigits h

end Scenario.Text

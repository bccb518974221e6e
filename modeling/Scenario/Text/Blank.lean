/-!
# Blanks and trimming

A blank is a character of the White_Space property of the Unicode standard.
Trimming removes blanks at both ends and nothing between.
-/

set_option autoImplicit false

namespace Scenario.Text

def isBlank (c : Char) : Bool :=
  let n := c.toNat
  (9 ≤ n && n ≤ 13) || n == 0x20 || n == 0x85 || n == 0xA0 || n == 0x1680 ||
  (0x2000 ≤ n && n ≤ 0x200A) || n == 0x2028 || n == 0x2029 || n == 0x202F ||
  n == 0x205F || n == 0x3000

def dropBlanks : List Char → List Char
  | [] => []
  | c :: r => if isBlank c then dropBlanks r else c :: r

def trimChars (s : List Char) : List Char :=
  (dropBlanks (dropBlanks s).reverse).reverse

def trim (s : String) : String := String.ofList (trimChars s.toList)

theorem isBlank_of_isWhitespace (c : Char) (h : c.isWhitespace = true) : isBlank c = true := by
  simp only [Char.isWhitespace, Bool.or_eq_true, decide_eq_true_eq] at h
  rcases h with ((rfl | rfl) | rfl) | rfl <;> decide

theorem dropBlanks_eq_self {c : Char} {r : List Char} (h : isBlank c = false) :
    dropBlanks (c :: r) = c :: r := by
  simp [dropBlanks, h]

theorem trim_eq_self {s : String} (h : ∀ c ∈ s.toList, isBlank c = false) : trim s = s := by
  have drop : ∀ l : List Char, (∀ c ∈ l, isBlank c = false) → dropBlanks l = l := by
    intro l hl
    cases l with
    | nil => rfl
    | cons c r => exact dropBlanks_eq_self (hl c (by simp))
  rw [trim, trimChars, drop _ h, drop _ fun c hc => h c (List.mem_reverse.1 hc)]
  simp

def lowerAscii (s : String) : String := s.map Char.toLower

def eqIgnoringCase (a b : String) : Bool := lowerAscii a == lowerAscii b

def startsWith (s p : String) : Bool := p.toList.isPrefixOf s.toList

def endsWith (s p : String) : Bool := p.toList.isSuffixOf s.toList

def occursIn {α : Type} [BEq α] (p : List α) : List α → Bool
  | [] => p.isEmpty
  | c :: r => p.isPrefixOf (c :: r) || occursIn p r

def contains (s p : String) : Bool := occursIn p.toList s.toList

/-- Replaces every occurrence of a nonempty pattern, from the left and
without overlap. `skip` counts the characters of a match still to pass. -/
def replaceFrom (p r : List Char) : Nat → List Char → List Char
  | _, [] => []
  | k + 1, _ :: s => replaceFrom p r k s
  | 0, c :: s =>
    if !p.isEmpty && p.isPrefixOf (c :: s) then r ++ replaceFrom p r (p.length - 1) s
    else c :: replaceFrom p r 0 s

def replaceChars (p r s : List Char) : List Char := replaceFrom p r 0 s

def replace (s p r : String) : String :=
  String.ofList (replaceChars p.toList r.toList s.toList)

end Scenario.Text

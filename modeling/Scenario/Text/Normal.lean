import Scenario.Text.CodeMap
import Scenario.Text.Normal.Table

/-!
# Canonical normal form

Texts that differ only in how marks are composed with their letters have one normal form:
everything is decomposed, marks are put in the order of their classes, and what can be composed
is composed again. Syllables of Hangul are computed.
-/

set_option autoImplicit false

namespace Scenario.Text

def decompositions : List CodeRun := codeRuns decompositionLines

def combiningClasses : List (Nat × CharSet) := combiningLines.map fun e => (e.1, .ofLines e.2)

def uncomposedSet : CharSet := .ofLines uncomposedLines

def combiningClass (n : Nat) : Nat :=
  match combiningClasses.find? fun e => e.2.hasCode n with
  | some e => e.1
  | none => 0

namespace Hangul

def firstSyllable : Nat := 0xAC00
def firstLead : Nat := 0x1100
def firstVowel : Nat := 0x1161
def noTail : Nat := 0x11A7
def leads : Nat := 19
def vowels : Nat := 21
def tails : Nat := 28

def isSyllable (n : Nat) : Bool := firstSyllable ≤ n && n < firstSyllable + leads * vowels * tails

def parts (n : Nat) : List Nat :=
  let i := n - firstSyllable
  let tail := noTail + i % tails
  [firstLead + i / (vowels * tails), firstVowel + i % (vowels * tails) / tails] ++
    (if tail = noTail then [] else [tail])

def compose? (a b : Nat) : Option Nat :=
  if firstLead ≤ a ∧ a < firstLead + leads ∧ firstVowel ≤ b ∧ b < firstVowel + vowels then
    some (firstSyllable + ((a - firstLead) * vowels + (b - firstVowel)) * tails)
  else if isSyllable a ∧ (a - firstSyllable) % tails = 0 ∧ noTail < b ∧ b < noTail + tails then
    some (a + (b - noTail))
  else none

end Hangul

def decomposed : Nat → Nat → List Nat
  | 0, n => [n]
  | depth + 1, n =>
    if Hangul.isSyllable n then Hangul.parts n
    else match imageOf decompositions n with
      | some ns => ns.flatMap (decomposed depth)
      | none => [n]

def decompositionDepth : Nat := 8

def insertMark (n : Nat) : List Nat → List Nat
  | [] => [n]
  | m :: r =>
    if combiningClass m ≠ 0 ∧ combiningClass m < combiningClass n then m :: insertMark n r
    else n :: m :: r

def orderMarks : List Nat → List Nat
  | [] => []
  | n :: r => insertMark n (orderMarks r)

def composites : List ((Nat × Nat) × Nat) :=
  decompositions.filterMap fun r =>
    match r.image with
    | [a, b] => if uncomposedSet.hasCode r.first then none else some ((a, b), r.first)
    | _ => none

def composite? (a b : Nat) : Option Nat := (Hangul.compose? a b).or (composites.lookup (a, b))

/-- Composes marks with the character `base` before them; `marks` are those that it could not
take up, the last one first. A mark is out of reach behind one of its class or a higher one. -/
def composeFrom (base : Nat) (marks : List Nat) : List Nat → List Nat
  | [] => base :: marks.reverse
  | n :: r =>
    let reaches := match marks with
      | [] => true
      | m :: _ => combiningClass m < combiningClass n
    match (if reaches then composite? base n else none) with
    | some c => composeFrom c marks r
    | none =>
      if combiningClass n = 0 then base :: (marks.reverse ++ composeFrom n [] r)
      else composeFrom base (n :: marks) r

def composed : List Nat → List Nat
  | [] => []
  | n :: r => if combiningClass n = 0 then composeFrom n [] r else n :: composed r

def normalCodes (ns : List Nat) : List Nat :=
  composed (orderMarks (ns.flatMap (decomposed decompositionDepth)))

def normalForm (cs : List Char) : List Char := (normalCodes (cs.map Char.toNat)).map Char.ofNat

end Scenario.Text

import Scenario.Decimal.Reading
import Scenario.Json.Basic

/-!
# Spelled JSON

A JSON text as it is spelled: strings and numbers are in pieces that may or
may not make up a value, and containers nest without limit. A value has
containers less than 128 deep. Whole numbers are exact while they fit 64 bits;
any other number becomes a double, its digits gathered into a word and scaled
by a power of ten. These limits and this rounding are those of `serde_json`.
-/

set_option autoImplicit false

namespace Scenario.Json

/-- A character of a string, or the code unit that an escape names. -/
inductive Piece where
  | char (c : Char)
  | unit (n : Nat)
  deriving DecidableEq, Repr

structure Numeral where
  negative : Bool
  whole : List Char
  fraction : List Char
  exponent : Option Int
  deriving DecidableEq, Repr

inductive Spelling where
  | null
  | bool (b : Bool)
  | number (n : Numeral)
  | text (pieces : List Piece)
  | list (items : List Spelling)
  | object (members : List (List Piece × Spelling))
  deriving Inhabited, Repr

def joinPieces : List Piece → Option (List Char)
  | [] => some []
  | .char c :: r => (joinPieces r).map (c :: ·)
  | .unit u :: .unit v :: r =>
    if 0xD800 ≤ u ∧ u < 0xDC00 then
      if 0xDC00 ≤ v ∧ v < 0xE000 then
        (joinPieces r).map (Char.ofNat (0x10000 + (u - 0xD800) * 0x400 + (v - 0xDC00)) :: ·)
      else none
    else if 0xDC00 ≤ u ∧ u < 0xE000 then none
    else (joinPieces (.unit v :: r)).map (Char.ofNat u :: ·)
  | .unit u :: r =>
    if 0xD800 ≤ u ∧ u < 0xE000 then none else (joinPieces r).map (Char.ofNat u :: ·)

def pieceText (ps : List Piece) : Option String := (joinPieces ps).map String.ofList

def powerOfTen (n : Nat) : Float := Float.ofScientific 1 false n

def scale : Nat → Float → Int → Option Float
  | 0, x, _ => some x
  | fuel + 1, x, e =>
    if e.natAbs ≤ 308 then
      if e ≥ 0 then
        let y := x * powerOfTen e.toNat
        if y.isInf then none else some y
      else some (x / powerOfTen e.natAbs)
    else if x == 0.0 then some x
    else if e ≥ 0 then none
    else scale fuel (x / 1e308) (e + 308)

/-- Gathers digits while they fit a word; the number of digits taken. -/
def gather : Nat → Nat → List Char → Nat × Nat
  | acc, n, [] => (acc, n)
  | acc, n, c :: r =>
    let next := acc * 10 + (c.toNat - 48)
    if next < Text.word then gather next (n + 1) r else (acc, n)

def wordFloat (n : Nat) : Float := (UInt64.ofNat n).toFloat

/-- A number that is no 64-bit integer: digits before the point that no longer
fit count as powers of ten, those after it are dropped. -/
def decimalNumber (negative : Bool) (whole fraction : List Char) (exponent : Int) :
    Option Json :=
  let (sig, used) := gather 0 0 whole
  let shift : Int := whole.length - used
  let (sig, taken) := gather sig 0 fraction
  let e := shift - taken + exponent
  let magnitude := if e.natAbs > 2000000 then
      if sig = 0 ∨ e < 0 then some 0.0 else none
    else scale 8000 (wordFloat sig) e
  magnitude.map fun x => .float (if negative then -x else x)

def Numeral.toJson? (n : Numeral) : Option Json :=
  let i := Decimal.natOf n.whole
  if n.fraction.isEmpty ∧ n.exponent.isNone ∧ i < Text.word ∧
      (!n.negative || (0 < i && i ≤ Text.signedWord)) then
    some (.int (if n.negative then -(i : Int) else i))
  else decimalNumber n.negative n.whole n.fraction (n.exponent.getD 0)

namespace Spelling

def depthLimit : Nat := 127

mutual
def toJson? : Nat → Spelling → Option Json
  | _, .null => some .null
  | _, .bool b => some (.bool b)
  | _, .number n => n.toJson?
  | _, .text ps => (pieceText ps).map .str
  | depth + 1, .list items => (itemsToJson? depth items).map .arr
  | depth + 1, .object members => (membersToJson? depth members).map .obj
  | 0, .list _ => none
  | 0, .object _ => none
def itemsToJson? : Nat → List Spelling → Option (List Json)
  | _, [] => some []
  | depth, v :: r =>
    match v.toJson? depth, itemsToJson? depth r with
    | some j, some js => some (j :: js)
    | _, _ => none
def membersToJson? : Nat → List (List Piece × Spelling) → Option (List (String × Json))
  | _, [] => some []
  | depth, (k, v) :: r =>
    match pieceText k, v.toJson? depth, membersToJson? depth r with
    | some k, some j, some js => some ((k, j) :: js)
    | _, _, _ => none
end

end Spelling

end Scenario.Json

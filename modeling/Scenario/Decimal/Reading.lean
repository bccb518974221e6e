import Scenario.Text.Integer

/-!
# Reading decimal fractions

The text of a decimal is an optional sign, digits with at most one point among
or around them, and an optional exponent. The double it names is the nearest.
-/

set_option autoImplicit false

namespace Scenario.Decimal
open Scenario.Text

/-- A decimal as written: `digits * 10 ^ exponent`, of which `count` digits. -/
structure Written where
  digits : Nat
  exponent : Int
  count : Nat
  deriving Repr, DecidableEq

def isDigit (c : Char) : Bool := 48 ≤ c.toNat && c.toNat ≤ 57

def natOf (cs : List Char) : Nat := cs.foldl (fun n c => n * 10 + (c.toNat - 48)) 0

def spanDigits : List Char → List Char × List Char
  | [] => ([], [])
  | c :: r =>
    if isDigit c then
      let (ds, rest) := spanDigits r
      (c :: ds, rest)
    else ([], c :: r)

def readExponent : List Char → Option Int
  | [] => some 0
  | e :: r =>
    if e = 'e' ∨ e = 'E' then
      let (negative, ds) := match r with
        | '-' :: r => (true, r)
        | '+' :: r => (false, r)
        | r => (false, r)
      if ds.isEmpty ∨ !ds.all isDigit then none
      else some (if negative then -(natOf ds : Int) else natOf ds)
    else none

def readUnsigned (cs : List Char) : Option Written :=
  let (whole, rest) := spanDigits cs
  let (fraction, rest) := match rest with
    | '.' :: r => spanDigits r
    | r => ([], r)
  if whole.isEmpty ∧ fraction.isEmpty then none
  else (readExponent rest).map fun e =>
    ⟨natOf (whole ++ fraction), e - fraction.length, whole.length + fraction.length⟩

/-- The nearest double; magnitudes outside the range of doubles are settled
before any power is formed. -/
def toFloat (w : Written) : Float :=
  let top := w.exponent + w.count
  if w.digits = 0 then 0.0
  else if top > 400 + w.count then 1.0 / 0.0
  else if top < -400 then 0.0
  else if w.exponent ≥ 0 then Float.ofScientific w.digits false w.exponent.toNat
  else Float.ofScientific w.digits true (-w.exponent).toNat

def special (cs : List Char) : Option Float :=
  let t := cs.map Char.toLower
  if t = "inf".toList ∨ t = "infinity".toList then some (1.0 / 0.0)
  else if t = "nan".toList then some (0.0 / 0.0)
  else none

def readFloat (cs : List Char) : Option Float :=
  let (negative, body) := match cs with
    | '-' :: r => (true, r)
    | '+' :: r => (false, r)
    | r => (false, r)
  let magnitude := match special body with
    | some x => some x
    | none => (readUnsigned body).map toFloat
  magnitude.map fun x => if negative then -x else x

end Scenario.Decimal

import Scenario.Decimal.Reading
import Scenario.Decimal.Shortest
import Scenario.Text.Blank
import Scenario.Text.Integer

/-!
# Lengths of time as text

As the `cel` library spells it, a length of time is read as a sign and a run of
numbers with units, and written in hours, minutes and seconds, or below one
second in its largest whole unit.
-/

set_option autoImplicit false

namespace Scenario.Cel.Period
open Scenario.Text

def unit? : List Char → Option (Nat × List Char)
  | 'm' :: 's' :: r => some (1000000, r)
  | 'u' :: 's' :: r => some (1000, r)
  | 'n' :: 's' :: r => some (1, r)
  | 'h' :: r => some (3600000000000, r)
  | 'm' :: r => some (60000000000, r)
  | 's' :: r => some (1000000000, r)
  | _ => none

def sign : List Char → List Char × List Char
  | '-' :: r => (['-'], r)
  | '+' :: r => (['+'], r)
  | r => ([], r)

/-- What a text begins with: a number, none, or one that breaks off in its exponent. -/
inductive Start where
  | number (x : Float) (rest : List Char)
  | nothing
  | broken

def exponent : List Char → Option (List Char × List Char)
  | c :: r =>
    if c = 'e' ∨ c = 'E' then
      let (s, r) := sign r
      let (ds, r) := Decimal.spanDigits r
      if ds.isEmpty then none else some (c :: s ++ ds, r)
    else some ([], c :: r)
  | [] => some ([], [])

def infinity : Float := 1.0 / 0.0

def namedNumber (cs : List Char) : Start :=
  let name := lowerAscii (String.ofList (cs.take 3))
  if name = "nan" then .number (infinity - infinity) (cs.drop 3)
  else if name = "inf" then .number infinity (cs.drop 3)
  else .nothing

def start (cs : List Char) : Start :=
  let (s, r) := sign cs
  let (whole, r) := Decimal.spanDigits r
  let (fraction, r) := match r with
    | '.' :: r =>
      let (ds, rest) := Decimal.spanDigits r
      if whole.isEmpty && ds.isEmpty then ([], '.' :: r) else ('.' :: ds, rest)
    | r => ([], r)
  if whole.isEmpty && fraction.isEmpty then namedNumber cs
  else
    match exponent r with
    | none => .broken
    | some (e, r) =>
      match Decimal.readFloat (s ++ whole ++ fraction ++ e) with
      | some x => .number x r
      | none => .nothing

def parts : Nat → Option Int → List Char → Option Int
  | 0, _, _ => none
  | fuel + 1, sum, cs =>
    match start cs with
    | .broken => none
    | .nothing => sum
    | .number x r =>
      match unit? r with
      | some (n, r) =>
        let nanos := (x * (UInt64.ofNat n).toFloat).toInt64.toInt
        parts fuel (some (sum.getD 0 + nanos)) r
      | none => sum

/-- Nanoseconds of a written length of time; text after the last unit is ignored. -/
def read (s : String) : Option Int :=
  let (negative, cs) := match s.toList with
    | '-' :: r => (true, r)
    | r => (false, r)
  if cs = ['0'] then some 0
  else (parts (cs.length + 1) none cs).map fun n => if negative then -n else n

def fraction (places n : Nat) : List Char :=
  let ds := natDigits (n % Decimal.tens places)
  let ds := List.replicate (places - ds.length) '0' ++ ds
  let kept := (ds.reverse.dropWhile (· == '0')).reverse
  natDigits (n / Decimal.tens places) ++ (if n % Decimal.tens places = 0 then [] else '.' :: kept)

def magnitude (n : Nat) : String :=
  if n = 0 then "0s"
  else if n < 1000 then natText n ++ "ns"
  else if n < 1000000 then String.ofList (fraction 3 n) ++ "µs"
  else if n < 1000000000 then String.ofList (fraction 6 n) ++ "ms"
  else
    let seconds := n / 1000000000
    let rest := n - seconds / 60 * 60000000000
    let tail := String.ofList (fraction 9 rest) ++ "s"
    if seconds < 60 then tail
    else if seconds < 3600 then natText (seconds / 60) ++ "m" ++ tail
    else natText (seconds / 3600) ++ "h" ++ natText (seconds / 60 % 60) ++ "m" ++ tail

/-- The nanoseconds as a word of 64 bits, in which a negative length counts down from the end;
one that is too long is first cut to seconds. -/
def wordOf (nanos : Int) : Nat :=
  let fits := -(signedWord : Int) ≤ nanos ∧ nanos < signedWord
  let n := if fits then nanos else nanos.tdiv 1000000000 * 1000000000
  (n.emod word).toNat

def text (nanos : Int) : String :=
  (if nanos < 0 then "-" else "") ++ magnitude (wordOf nanos)

end Scenario.Cel.Period

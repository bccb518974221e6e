/-!
# Shortest decimal text of a double

A finite double stands for all reals that round to it. Its digits are the
fewest with which a decimal lies among them, and of two such decimals the
nearer one. Where the point and the exponent go is a `Layout`.
-/

set_option autoImplicit false

namespace Scenario.Decimal

/-- The magnitude `m * 2 ^ q` of a finite double. -/
structure Binary where
  m : Nat
  q : Int
  deriving Repr, DecidableEq

inductive Parts where
  | nan
  | infinite (negative : Bool)
  | finite (negative : Bool) (value : Binary)
  deriving Repr, DecidableEq

def implicitBit : Nat := 1 <<< 52

def tens (n : Nat) : Nat := Nat.pow 10 n

def partsOfBits (bits : Nat) : Parts :=
  let negative := (bits >>> 63) % 2 == 1
  let exponent : Nat := (bits >>> 52) % 2048
  let fraction : Nat := bits % implicitBit
  if exponent = 2047 then
    if fraction = 0 then .infinite negative else .nan
  else if exponent = 0 then .finite negative ⟨fraction, -1074⟩
  else .finite negative ⟨fraction + implicitBit, (exponent : Int) - 1075⟩

def parts (x : Float) : Parts := partsOfBits x.toBits.toNat

structure Digits where
  digits : Nat
  exponent : Int
  deriving Repr, DecidableEq

/-- The value and its two half-way neighbours over a common scale: a decimal
`d * 10 ^ e` reads back when `d * unit` lies between `low` and `high`, the ends
included iff the value is even. -/
structure Interval where
  low : Nat
  mid : Nat
  high : Nat
  unit : Nat
  closed : Bool

def interval (b : Binary) (e : Int) : Interval :=
  let lowStep := if b.m = implicitBit ∧ b.q > -1074 then 1 else 2
  let up2 := if b.q ≥ 0 then 1 <<< b.q.toNat else 1
  let down2 := if b.q ≥ 0 then 1 else 1 <<< (-b.q).toNat
  let up10 := if e ≥ 0 then tens e.toNat else 1
  let down10 := if e ≥ 0 then 1 else tens (-e).toNat
  let scale := up2 * down10
  { low := (4 * b.m - lowStep) * scale
    mid := 4 * b.m * scale
    high := (4 * b.m + 2) * scale
    unit := 4 * up10 * down2
    closed := b.m % 2 = 0 }

def Interval.holds (i : Interval) (d : Nat) : Bool :=
  if i.closed then i.low ≤ d * i.unit && d * i.unit ≤ i.high
  else i.low < d * i.unit && d * i.unit < i.high

/-- The nearest point of the grid `10 ^ e` that reads back, ties to the even
digit. -/
def onGrid (b : Binary) (e : Int) : Option Nat :=
  let i := interval b e
  let below := i.mid / i.unit
  let above := below + 1
  match i.holds below, i.holds above with
  | true, true =>
    let toBelow := i.mid - below * i.unit
    let toAbove := above * i.unit - i.mid
    if toBelow < toAbove then some below
    else if toAbove < toBelow then some above
    else if below % 2 = 0 then some below else some above
  | true, false => some below
  | false, true => some above
  | false, false => none

def width (n : Nat) : Nat := if n < 10 then 1 else width (n / 10) + 1

def leading (b : Binary) : Int :=
  if b.q ≥ 0 then (width (b.m <<< b.q.toNat) : Int) - 1
  else
    let k := (-b.q).toNat
    let whole := b.m >>> k
    if whole > 0 then (width whole : Int) - 1
    else (width ((b.m * tens 400) >>> k) : Int) - 401

def search (b : Binary) (top : Int) : Nat → Nat → Digits
  | 0, _ => ⟨0, 0⟩
  | left + 1, n =>
    let e := top + 1 - n
    match onGrid b e with
    | some d => ⟨d, e⟩
    | none => search b top left (n + 1)

def Digits.normal : Nat → Digits → Digits
  | 0, d => d
  | n + 1, d =>
    if d.digits ≠ 0 ∧ d.digits % 10 = 0 then normal n ⟨d.digits / 10, d.exponent + 1⟩ else d

def shortest (b : Binary) : Digits :=
  if b.m = 0 then ⟨0, 0⟩ else (search b (leading b) 17 1).normal 400

/-- How a decimal is written: positionally when the exponent of its leading
digit lies from `least` to `most`, otherwise with a signed exponent of at least
`exponentWidth` digits; `point` keeps `.0` on whole numbers. -/
structure Layout where
  least : Int
  most : Int
  exponentWidth : Nat
  point : Bool

def digitsText (n : Nat) : List Char :=
  if n < 10 then [Char.ofNat (48 + n)]
  else digitsText (n / 10) ++ [Char.ofNat (48 + n % 10)]

def positional (point : Bool) (ds : List Char) (e : Int) : List Char :=
  if e ≥ 0 then
    ds ++ List.replicate e.toNat '0' ++ (if point then ['.', '0'] else [])
  else
    let k := (-e).toNat
    if ds.length > k then ds.take (ds.length - k) ++ '.' :: ds.drop (ds.length - k)
    else '0' :: '.' :: (List.replicate (k - ds.length) '0' ++ ds)

def scientific (width : Nat) (ds : List Char) (top : Int) : List Char :=
  let exponent := digitsText top.natAbs
  let mantissa := match ds with
    | [] => []
    | [c] => [c]
    | c :: r => c :: '.' :: r
  mantissa ++ 'e' :: (if top < 0 then '-' else '+') ::
    (List.replicate (width - exponent.length) '0' ++ exponent)

def Layout.write (l : Layout) (d : Digits) : List Char :=
  let ds := digitsText d.digits
  let top := d.exponent + ds.length - 1
  if d.digits = 0 then if l.point then ['0', '.', '0'] else ['0']
  else if l.least ≤ top ∧ top ≤ l.most then positional l.point ds d.exponent
  else scientific l.exponentWidth ds top

def Layout.text (l : Layout) (x : Float) : String :=
  match parts x with
  | .nan => "NaN"
  | .infinite negative => if negative then "-inf" else "inf"
  | .finite negative b =>
    String.ofList ((if negative then ['-'] else []) ++ l.write (shortest b))

end Scenario.Decimal

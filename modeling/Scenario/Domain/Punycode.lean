import Scenario.Text.Integer

/-!
# Punycode

A text in ASCII: the ASCII characters of a text, and after a hyphen the other ones in ascending
order, each as the number of steps from the one before it. Numbers have digits of base 36 whose
weights adapt to the size of the numbers so far.
-/

set_option autoImplicit false

namespace Scenario.Domain

def digitOf? (c : Char) : Option Nat :=
  if c.isLower then some (c.toNat - 97)
  else if c.isUpper then some (c.toNat - 65)
  else if c.isDigit then some (c.toNat - 22)
  else none

def digitChar (d : Nat) : Char := Char.ofNat (if d < 26 then 97 + d else 22 + d)

/-- A digit at least as great as the threshold is followed by another one. -/
def threshold (k bias : Nat) : Nat :=
  if k ≤ bias then 1 else if bias + 26 ≤ k then 26 else k - bias

theorem threshold_pos (k bias : Nat) : 1 ≤ threshold k bias := by
  unfold threshold
  split
  · omega
  · split <;> omega

theorem threshold_le (k bias : Nat) : threshold k bias ≤ 26 := by
  unfold threshold
  split
  · omega
  · split <;> omega

def shrink (delta k : Nat) : Nat :=
  if 455 < delta then shrink (delta / 35) (k + 36) else k + 36 * delta / (delta + 38)
termination_by delta
decreasing_by exact Nat.div_lt_self (by omega) (by omega)

def adapt (delta size : Nat) (isFirst : Bool) : Nat :=
  let d := if isFirst then delta / 700 else delta / 2
  shrink (d + d / size) 0

def wordLimit : Nat := 0x100000000

def readNumber (bias : Nat) : Nat → Nat → Nat → List Char → Option (Nat × List Char)
  | _, _, _, [] => none
  | k, weight, i, c :: r => do
    let d ← digitOf? c
    let i := i + d * weight
    let t := threshold k bias
    if wordLimit ≤ i then none
    else if d < t then some (i, r)
    else if wordLimit ≤ weight * (36 - t) then none
    else readNumber bias (k + 36) (weight * (36 - t)) i r

def readInsertions : Nat → Nat → Nat → Nat → List Char → List Char → Option (List Char)
  | 0, _, _, _, _, _ => none
  | fuel + 1, n, i, bias, text, cs =>
    if cs.isEmpty then some text
    else do
      let (j, r) ← readNumber bias 36 1 i cs
      let size := text.length + 1
      let n := n + j / size
      let spot := j % size
      if n.isValidChar then
        readInsertions fuel n (spot + 1) (adapt (j - i) size (i == 0))
          (text.take spot ++ Char.ofNat n :: text.drop spot) r
      else none

def splitHyphen (cs : List Char) : List Char × List Char :=
  let code := cs.reverse.takeWhile (· != '-')
  let plain := (cs.take (cs.length - code.length)).dropLast
  if plain.isEmpty then ([], cs) else (plain, code.reverse)

def decode? (cs : List Char) : Option (List Char) :=
  let (plain, code) := splitHyphen cs
  readInsertions (code.length + 1) 128 0 72 plain code

def numberDigits (bias k q : Nat) : List Char :=
  let t := threshold k bias
  if q < t then [digitChar q]
  else digitChar (t + (q - t) % (36 - t)) :: numberDigits bias (k + 36) ((q - t) / (36 - t))
termination_by q
decreasing_by
  have := threshold_pos k bias
  have := threshold_le k bias
  calc (q - threshold k bias) / (36 - threshold k bias)
      ≤ q - threshold k bias := Nat.div_le_self _ _
    _ < q := by omega

structure Encoder where
  digits : List Char := []
  delta : Nat := 0
  bias : Nat := 72
  written : Nat

def Encoder.pass (plain n : Nat) (e : Encoder) (c : Char) : Encoder :=
  if c.toNat < n then { e with delta := e.delta + 1 }
  else if c.toNat = n then
    { digits := e.digits ++ numberDigits e.bias 36 e.delta
      delta := 0
      bias := adapt e.delta (e.written + 1) (e.written == plain)
      written := e.written + 1 }
  else e

/-- Writes all characters with the code points, which come in ascending order from `n` on. -/
def Encoder.write (text : List Char) (plain : Nat) : Nat → List Nat → Encoder → Encoder
  | _, [], e => e
  | n, m :: r, e =>
    let e :=
      text.foldl (Encoder.pass plain m) { e with delta := e.delta + (m - n) * (e.written + 1) }
    Encoder.write text plain (m + 1) r { e with delta := e.delta + 1 }

def encode (text : List Char) : List Char :=
  let plain := text.filter fun c => c.toNat < 128
  let codes := ((text.filter fun c => 128 ≤ c.toNat).map Char.toNat).mergeSort.eraseDups
  plain ++ (if plain.isEmpty then [] else ['-']) ++
    (Encoder.write text plain.length 128 codes { written := plain.length }).digits

end Scenario.Domain

/-!
# UTF-8

Bytes to characters and back. Decoding is strict or repairs each longest
prefix of a character that breaks off with the replacement character.
-/

set_option autoImplicit false

namespace Scenario.Text

def encodeChar (c : Char) : List UInt8 :=
  let n := c.toNat
  if n < 0x80 then [UInt8.ofNat n]
  else if n < 0x800 then [UInt8.ofNat (0xC0 + n / 64), UInt8.ofNat (0x80 + n % 64)]
  else if n < 0x10000 then
    [UInt8.ofNat (0xE0 + n / 4096), UInt8.ofNat (0x80 + n / 64 % 64), UInt8.ofNat (0x80 + n % 64)]
  else
    [UInt8.ofNat (0xF0 + n / 262144), UInt8.ofNat (0x80 + n / 4096 % 64),
     UInt8.ofNat (0x80 + n / 64 % 64), UInt8.ofNat (0x80 + n % 64)]

def encodeUtf8 (cs : List Char) : List UInt8 := cs.flatMap encodeChar

/-- The bytes that may follow a leading byte at once, and how many follow. -/
def followers (a : Nat) : Option (Nat × Nat × Nat) :=
  if 0xC2 ≤ a ∧ a ≤ 0xDF then some (1, 0x80, 0xBF)
  else if a = 0xE0 then some (2, 0xA0, 0xBF)
  else if a = 0xED then some (2, 0x80, 0x9F)
  else if 0xE1 ≤ a ∧ a ≤ 0xEF then some (2, 0x80, 0xBF)
  else if a = 0xF0 then some (3, 0x90, 0xBF)
  else if 0xF1 ≤ a ∧ a ≤ 0xF3 then some (3, 0x80, 0xBF)
  else if a = 0xF4 then some (3, 0x80, 0x8F)
  else none

/-- Takes the remaining bytes of a character; the second part tells how many
bytes were good when it breaks off. -/
def tail : Nat → Nat → Nat → Nat → Nat → List UInt8 → Except Nat (Nat × List UInt8)
  | 0, _, _, acc, _, r => .ok (acc, r)
  | n + 1, lo, hi, acc, good, b :: r =>
    if lo ≤ b.toNat ∧ b.toNat ≤ hi then
      tail n 0x80 0xBF (acc * 64 + (b.toNat - 0x80)) (good + 1) r
    else .error good
  | _ + 1, _, _, _, good, [] => .error good

def nextChar (a : UInt8) (r : List UInt8) : Except Nat (Char × List UInt8) :=
  let n := a.toNat
  if n < 0x80 then .ok (Char.ofNat n, r)
  else match followers n with
    | none => .error 1
    | some (k, lo, hi) =>
      let lead := if k = 1 then n - 0xC0 else if k = 2 then n - 0xE0 else n - 0xF0
      match tail k lo hi lead 1 r with
      | .ok (code, r) => .ok (Char.ofNat code, r)
      | .error good => .error good

def decodeWith (repair : Bool) : Nat → List UInt8 → Option (List Char)
  | 0, _ => some []
  | _, [] => some []
  | fuel + 1, a :: r =>
    match nextChar a r with
    | .ok (c, r) => (decodeWith repair fuel r).map (c :: ·)
    | .error n =>
      if repair then
        (decodeWith repair fuel ((a :: r).drop n)).map (Char.ofNat 0xFFFD :: ·)
      else none

def decodeUtf8? (bs : List UInt8) : Option (List Char) := decodeWith false bs.length bs

def decodeUtf8Repaired (bs : List UInt8) : List Char :=
  (decodeWith true bs.length bs).getD []

end Scenario.Text

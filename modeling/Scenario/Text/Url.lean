import Scenario.Text.Integer
import Scenario.Text.Utf8

/-!
# Texts inside addresses

Form encoding keeps ASCII letters, digits and `*-._`, writes a blank as a plus
sign, and every other byte as a percent sign with two hexadecimal digits.
-/

set_option autoImplicit false

namespace Scenario.Text

def isFormSafe (n : Nat) : Bool :=
  (48 ≤ n && n ≤ 57) || (65 ≤ n && n ≤ 90) || (97 ≤ n && n ≤ 122) ||
    n == 42 || n == 45 || n == 46 || n == 95

def percentByte (b : UInt8) : List Char :=
  ['%', upperHex (b.toNat / 16), upperHex (b.toNat % 16)]

def formByte (b : UInt8) : List Char :=
  if isFormSafe b.toNat then [Char.ofNat b.toNat]
  else if b.toNat = 32 then ['+']
  else percentByte b

def formEncode (s : String) : String :=
  String.ofList ((encodeUtf8 s.toList).flatMap formByte)

end Scenario.Text

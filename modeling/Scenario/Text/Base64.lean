/-!
# Base64

Three bytes become four letters; the end is padded.
-/

set_option autoImplicit false

namespace Scenario.Text

def base64Alphabet : Array Char :=
  "ABCDEFGHIJKLMNOPQRSTUVWXYZabcdefghijklmnopqrstuvwxyz0123456789+/".toList.toArray

def base64Letter (n : Nat) : Char := base64Alphabet[n % 64]?.getD 'A'

def base64Chars : List UInt8 → List Char
  | [] => []
  | [a] =>
    let n := a.toNat * 65536
    [base64Letter (n / 262144), base64Letter (n / 4096), '=', '=']
  | [a, b] =>
    let n := a.toNat * 65536 + b.toNat * 256
    [base64Letter (n / 262144), base64Letter (n / 4096), base64Letter (n / 64), '=']
  | a :: b :: c :: r =>
    let n := a.toNat * 65536 + b.toNat * 256 + c.toNat
    base64Letter (n / 262144) :: base64Letter (n / 4096) :: base64Letter (n / 64) ::
      base64Letter n :: base64Chars r

def base64 (bs : List UInt8) : String := String.ofList (base64Chars bs)

end Scenario.Text

import Scenario.Text.Integer
import Scenario.Text.Property

/-!
# Quoted texts

A text between double quotes, in which quotes, backslashes, line ends and
whatever does not print are escaped.
-/

set_option autoImplicit false

namespace Scenario.Text

/-- Printed as it stands: no control, format, private, unassigned or joining
character, and no blank but the common one. -/
def isPlain (c : Char) : Bool :=
  if c.toNat < 128 then 32 ≤ c.toNat && c.toNat < 127
  else !(["Cc", "Cf", "Cn", "Co", "Cs", "Zl", "Zp", "Zs"].contains (categoryOf c)) &&
    !graphemeExtendSet.mem c

def hexText (n : Nat) : List Char :=
  match (hexDigits 6 n).dropWhile (· == '0') with
  | [] => ['0']
  | ds => ds

def quotedChar (c : Char) : List Char :=
  if c = '"' then ['\\', '"']
  else if c = '\\' then ['\\', '\\']
  else if c = '\n' then ['\\', 'n']
  else if c = '\r' then ['\\', 'r']
  else if c = '\t' then ['\\', 't']
  else if c.toNat = 0 then ['\\', '0']
  else if isPlain c then [c]
  else ['\\', 'u', '{'] ++ hexText c.toNat ++ ['}']

def quoted (s : String) : String :=
  String.ofList ('"' :: (s.toList.flatMap quotedChar ++ ['"']))

end Scenario.Text

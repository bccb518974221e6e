import Scenario.Assoc
import Scenario.Decimal.Shortest
import Scenario.Text.Integer

/-!
# JSON values

The modules of JSON stand for the library `serde_json`, which reads and prints
these values.

Objects keep their members as written; `normal` sorts them and keeps the last
of equal keys, which is how a value is compared and printed.
-/

set_option autoImplicit false

namespace Scenario

inductive Json where
  | null
  | bool (b : Bool)
  | int (i : Int)
  | float (x : Float)
  | str (s : String)
  | arr (items : List Json)
  | obj (members : List (String × Json))
  deriving Inhabited, Repr

namespace Json

/-- Numbers are positional from `1e-5` to `1e15`; an exponent has a sign and
two digits at least. -/
def numberLayout : Decimal.Layout := ⟨-5, 15, 2, true⟩

mutual
def normal : Json → Json
  | .arr items => .arr (normalItems items)
  | .obj members => .obj (Assoc.sorted (normalMembers members))
  | v => v
def normalItems : List Json → List Json
  | [] => []
  | v :: r => normal v :: normalItems r
def normalMembers : List (String × Json) → List (String × Json)
  | [] => []
  | (k, v) :: r => (k, normal v) :: normalMembers r
end

def escapeChar (c : Char) : List Char :=
  if c = '"' then ['\\', '"']
  else if c = '\\' then ['\\', '\\']
  else if c = '\n' then ['\\', 'n']
  else if c = '\r' then ['\\', 'r']
  else if c = '\t' then ['\\', 't']
  else if c.toNat = 8 then ['\\', 'b']
  else if c.toNat = 12 then ['\\', 'f']
  else if c.toNat < 32 then '\\' :: 'u' :: Text.hexDigits 4 c.toNat
  else [c]

def quoteChars (s : List Char) : List Char :=
  '"' :: (s.flatMap escapeChar ++ ['"'])

def quote (s : String) : String := String.ofList (quoteChars s.toList)

/-- Infinities and NaN have no JSON text; they read null. -/
def floatText (x : Float) : String :=
  if x.isFinite then numberLayout.text x else "null"

mutual
def compact : Json → String
  | .null => "null"
  | .bool b => if b then "true" else "false"
  | .int i => Text.intText i
  | .float x => floatText x
  | .str s => quote s
  | .arr items => "[" ++ compactItems items ++ "]"
  | .obj members => "\x7b" ++ compactMembers members ++ "\x7d"
def compactItems : List Json → String
  | [] => ""
  | [v] => compact v
  | v :: r => compact v ++ "," ++ compactItems r
def compactMembers : List (String × Json) → String
  | [] => ""
  | [(k, v)] => quote k ++ ":" ++ compact v
  | (k, v) :: r => quote k ++ ":" ++ compact v ++ "," ++ compactMembers r
end

def indent (n : Nat) : String := String.ofList (List.replicate (2 * n) ' ')

mutual
def pretty (level : Nat) : Json → String
  | .arr [] => "[]"
  | .arr items => "[\n" ++ prettyItems (level + 1) items ++ "\n" ++ indent level ++ "]"
  | .obj [] => "\x7b\x7d"
  | .obj members =>
    "\x7b\n" ++ prettyMembers (level + 1) members ++ "\n" ++ indent level ++ "\x7d"
  | v => compact v
def prettyItems (level : Nat) : List Json → String
  | [] => ""
  | [v] => indent level ++ pretty level v
  | v :: r => indent level ++ pretty level v ++ ",\n" ++ prettyItems level r
def prettyMembers (level : Nat) : List (String × Json) → String
  | [] => ""
  | [(k, v)] => indent level ++ quote k ++ ": " ++ pretty level v
  | (k, v) :: r =>
    indent level ++ quote k ++ ": " ++ pretty level v ++ ",\n" ++ prettyMembers level r
end

/-- A value as the text of a parameter: strings bare, null empty, all else
compact with sorted keys. -/
def scalar : Json → String
  | .str s => s
  | .null => ""
  | v => compact v.normal

def get? (v : Json) (key : String) : Option Json :=
  match v with
  | .obj members => Assoc.get? members key
  | _ => none

def str? : Json → Option String
  | .str s => some s
  | _ => none

end Json

end Scenario

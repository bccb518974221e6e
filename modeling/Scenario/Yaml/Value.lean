import Scenario.Yaml.Node

/-!
# Values of YAML

The modules of YAML stand for the library `serde_yaml`, and for the scanner of
tokens below it.

A plain scalar is null, a truth value or a number if its text spells one, and
a text otherwise. Digits after a leading zero are a text. Keys are values of
any kind, unless only their texts are wanted.
-/

set_option autoImplicit false

namespace Scenario.Yaml
open Scenario.Text

inductive Value where
  | null
  | bool (b : Bool)
  | int (i : Int)
  | float (x : Float)
  | text (s : String)
  | list (items : List Value)
  | map (entries : List (Value × Value))
  deriving Inhabited, Repr

namespace Value

mutual
def ofJson : Json → Value
  | .null => .null
  | .bool b => .bool b
  | .int i => .int i
  | .float x => .float x
  | .str s => .text s
  | .arr items => .list (ofItems items)
  | .obj members => .map (ofMembers members)
def ofItems : List Json → List Value
  | [] => []
  | v :: r => ofJson v :: ofItems r
def ofMembers : List (String × Json) → List (Value × Value)
  | [] => []
  | (k, v) :: r => (.text k, ofJson v) :: ofMembers r
end

mutual
def toJson? : Value → Option Json
  | .null => some .null
  | .bool b => some (.bool b)
  | .int i => some (.int i)
  | .float x => some (if x.isFinite then .float x else .null)
  | .text s => some (.str s)
  | .list items => (toItems? items).map .arr
  | .map entries => (toMembers? entries).map .obj
def toItems? : List Value → Option (List Json)
  | [] => some []
  | v :: r => do some ((← toJson? v) :: (← toItems? r))
def toMembers? : List (Value × Value) → Option (List (String × Json))
  | [] => some []
  | (.text k, v) :: r => do some ((k, ← toJson? v) :: (← toMembers? r))
  | _ => none
end

end Value

def isNullText (s : String) : Bool := ["null", "Null", "NULL", "~"].contains s

def boolText? (s : String) : Option Bool :=
  if ["true", "True", "TRUE"].contains s then some true
  else if ["false", "False", "FALSE"].contains s then some false
  else none

def isSign (c : Char) : Bool := c == '+' || c == '-'

def signed (cs : List Char) : Bool := cs.head?.any isSign

def isPaddedNumber (cs : List Char) : Bool :=
  match (if signed cs then cs.drop 1 else cs) with
  | '0' :: c :: r => (c :: r).all Decimal.isDigit
  | _ => false

def basedDigits? : List Char → Option (Nat × List Char)
  | '0' :: 'x' :: r => some (16, r)
  | '0' :: 'o' :: r => some (8, r)
  | '0' :: 'b' :: r => some (2, r)
  | _ => none

def digitsBelow (limit base : Nat) (cs : List Char) : Option Nat :=
  if cs.isEmpty || signed cs then none else (readNatIn base limit cs).toOption

def unsigned? (limit : Nat) (cs : List Char) : Option Nat :=
  let bare := if cs.head? == some '+' then cs.drop 1 else cs
  match basedDigits? bare with
  | some (base, r) => digitsBelow limit base r
  | none => if isPaddedNumber cs then none else digitsBelow limit 10 bare

def negative? (limit : Nat) (cs : List Char) : Option Int :=
  match cs with
  | '-' :: r =>
    let n := match basedDigits? r with
      | some (base, r) => digitsBelow (limit + 1) base r
      | none => if isPaddedNumber cs then none else digitsBelow (limit + 1) 10 r
    n.map fun n => -(n : Int)
  | _ => none

def float? (cs : List Char) : Option Float :=
  let bare := if cs.head? == some '+' then cs.drop 1 else cs
  if cs.head? == some '+' && signed bare then none
  else if [".inf", ".Inf", ".INF"].contains (String.ofList bare) then some (1.0 / 0.0)
  else if ["-.inf", "-.Inf", "-.INF"].contains (String.ofList cs) then some (-1.0 / 0.0)
  else if [".nan", ".NaN", ".NAN"].contains (String.ofList cs) then some (0.0 / 0.0)
  else (Decimal.readFloat bare).filter Float.isFinite

/-- A whole number of 64 bits; larger ones up to 128 bits have no value. -/
def int? (cs : List Char) : Option (Option Value) :=
  match unsigned? word cs, negative? signedWord cs with
  | some n, _ => some (some (.int n))
  | none, some i => some (some (.int i))
  | none, none =>
    if (unsigned? (word * word) cs).isSome || (negative? (signedWord * word) cs).isSome then
      some none
    else none

def plainValue (s : String) : Option Value :=
  let cs := s.toList
  if s.isEmpty || isNullText s then some .null
  else match boolText? s with
    | some b => some (.bool b)
    | none =>
      match int? cs with
      | some v => v
      | none =>
        match (if isPaddedNumber cs then none else float? cs) with
        | some x => some (.float x)
        | none => some (.text s)

def isOwnTag (tag : String) : Bool := tag.toList.head? == some '!'

def coreTag (name : String) : String := coreStem ++ name

/-- The value of a scalar: its tag decides if it has one, and its text if it is plain. -/
def scalarValue (tag : Option String) (style : Style) (s : String) : Option Value :=
  match tag with
  | none => if style = .plain then plainValue s else some (.text s)
  | some t =>
    if isOwnTag t then none
    else if t = coreTag "bool" then (boolText? s).map .bool
    else if t = coreTag "int" then (int? s.toList).bind id
    else if t = coreTag "float" then (float? s.toList).map .float
    else if t = coreTag "null" then if isNullText s then some .null else none
    else some (.text s)

/-- A reading may fail; its state is how many aliases it may still follow. -/
abbrev Reads (α : Type) := StateT Nat Option α

namespace Graph
variable (g : Graph)

def follow : Node → Reads Node
  | .alias number => fun left =>
    match left with
    | 0 => none
    | left + 1 => (g.find? number).map fun n => (n, left)
  | n => pure n

def text (n : Node) : Reads String := do
  match ← g.follow n with
  | .scalar _ _ s => pure s
  | _ => failure

/-- A value with no more than `depth` nodes inside one another, all tags known. With `texts`,
keys are texts as written. -/
def valueAt (texts : Bool) : Nat → Node → Reads Value
  | depth, n => do
    match ← g.follow n, depth with
    | .scalar tag style s, _ => StateT.lift (scalarValue tag style s)
    | .list tag items, depth + 1 =>
      if tag.any isOwnTag then failure else .list <$> items.mapM (valueAt texts depth)
    | .map tag entries, depth + 1 =>
      if tag.any isOwnTag then failure
      else .map <$> entries.mapM fun (k, v) => do
        let k ← if texts then .text <$> g.text k else valueAt texts depth k
        pure (k, ← valueAt texts depth v)
    | _, _ => failure

def depthLimit : Nat := 128

/-- A hundred aliases may be followed for each node and end. -/
def aliasLimit : Nat := 100 * g.root.weight

def read {α : Type} (r : Reads α) : Option α := r.run' g.aliasLimit

def toJson : Option Json := (g.read (g.valueAt true depthLimit g.root)).bind Value.toJson?

end Graph

end Scenario.Yaml

import Scenario.Json.Parser
import Scenario.Yaml.Value

/-!
# Reading of documents

A reading says how nodes of some kind of tree are taken as texts, numbers,
lists and records. Values are taken strictly, and so is JSON text. In YAML a
scalar is a text as written wherever a text is wanted, and an empty one is an
empty list or record. What no field asks for is never looked into.
-/

set_option autoImplicit false

namespace Scenario.Document
open Yaml (Reads Value)

structure Reading (N : Type) where
  follow : N → Reads N
  text : N → Reads String
  isNull : N → Reads Bool
  bool : N → Reads Bool
  word : N → Reads Nat
  choice : N → Reads String
  list : N → Reads (List N)
  /-- Named values; a known name may stand only once. -/
  fields : List String → N → Reads (List (String × N))
  members : N → Reads (List (String × N))
  json : N → Reads Json
  value : N → Reads Value

def just {α : Type} (o : Option α) : Reads α := StateT.lift o

def repeats {N : Type} (names : List String) (fields : List (String × N)) : Bool :=
  names.any fun n => 1 < (fields.filter fun e => e.1 == n).length

def distinct {N : Type} (names : List String) (fields : List (String × N)) :
    Option (List (String × N)) :=
  if repeats names fields then none else some fields

/-- Members under their names; a number stands for the field at that place. -/
def named (names : List String) : List (Value × Value) → Option (List (String × Value))
  | [] => some []
  | (.text k, v) :: r => (named names r).map ((k, v) :: ·)
  | (.int i, v) :: r =>
    if i < 0 then none
    else match names[i.toNat]?, named names r with
      | some k, some es => some ((k, v) :: es)
      | none, es => es
      | _, none => none
  | _ => none

def textKeys : List (Value × Value) → Option (List (String × Value))
  | [] => some []
  | (.text k, v) :: r => (textKeys r).map ((k, v) :: ·)
  | _ => none

/-- Strict reading: every value has its own kind. A list gives the fields in order. -/
def strict : Reading Value where
  follow := pure
  text
    | .text s => pure s
    | _ => failure
  isNull
    | .null => pure true
    | _ => pure false
  bool
    | .bool b => pure b
    | _ => failure
  word
    | .int i => if 0 ≤ i ∧ i < Text.word then pure i.toNat else failure
    | _ => failure
  choice
    | .text s => pure s
    | .map [(.text k, .null)] => pure k
    | _ => failure
  list
    | .list items => pure items
    | _ => failure
  fields names
    | .map entries => just ((named names entries).bind (distinct names))
    | .list items => if items.length ≤ names.length then pure (names.zip items) else failure
    | _ => failure
  members
    | .map entries => just (textKeys entries)
    | _ => failure
  json v := just v.toJson?
  value := pure

def keyed (depth : Nat) : List (List Json.Piece × Json.Spelling) →
    Option (List (String × Nat × Json.Spelling))
  | [] => some []
  | (k, v) :: r =>
    match Json.pieceText k, keyed depth r with
    | some k, some es => some ((k, depth, v) :: es)
    | _, _ => none

def spelled : Reading (Nat × Json.Spelling) where
  follow := pure
  text
    | (_, .text ps) => just (Json.pieceText ps)
    | _ => failure
  isNull
    | (_, .null) => pure true
    | _ => pure false
  bool
    | (_, .bool b) => pure b
    | _ => failure
  word
    | (d, n) => just ((n.toJson? d).map Value.ofJson) >>= strict.word
  choice
    | (d, n) => just ((n.toJson? d).map Value.ofJson) >>= strict.choice
  list
    | (d + 1, .list items) => pure (items.map (d, ·))
    | _ => failure
  fields names
    | (d + 1, .object es) => just ((keyed d es).bind (distinct names))
    | (d + 1, .list items) =>
      if items.length ≤ names.length then pure (names.zip (items.map (d, ·))) else failure
    | _ => failure
  members
    | (d + 1, .object es) => just (keyed d es)
    | _ => failure
  json := fun (d, n) => just (n.toJson? d)
  value := fun (d, n) => just ((n.toJson? d).map Value.ofJson)

section Yaml
open Yaml
variable (g : Graph)

def isEmptyScalar : Node → Bool
  | .scalar _ .plain s => s.isEmpty
  | _ => false

/-- A scalar may spell a value if it is plain, or literal under the tag for such values. -/
def mayMean (name : String) (tag : Option String) (style : Style) : Bool :=
  style == .plain || (style == .literal && tag == some (coreTag name))

def entriesOf (depth : Nat) (n : Node) : Reads (List (String × Nat × Node)) := do
  match ← g.follow n, depth with
  | .map _ entries, depth + 1 => entries.mapM fun (k, v) => do pure (← g.text k, depth, v)
  | n, _ => if isEmptyScalar n then pure [] else failure

def yaml : Reading (Nat × Node) where
  follow := fun (d, n) => (d, ·) <$> g.follow n
  text := fun (_, n) => g.text n
  isNull := fun (_, n) => do
    match ← g.follow n with
    | .scalar none .plain s => pure (s.isEmpty || isNullText s)
    | .scalar (some t) .plain s =>
      if t = coreTag "null" then (if isNullText s then pure true else failure) else pure false
    | _ => pure false
  bool := fun (_, n) => do
    match ← g.follow n with
    | .scalar tag style s => if mayMean "bool" tag style then just (boolText? s) else failure
    | _ => failure
  word := fun (_, n) => do
    match ← g.follow n with
    | .scalar tag style s =>
      if mayMean "int" tag style then just (unsigned? Text.word s.toList) else failure
    | _ => failure
  choice := fun (_, n) => do
    match ← g.follow n with
    | .scalar (some t) style s =>
      if !isOwnTag t then pure s
      else if style == .plain && (s.isEmpty || isNullText s) then
        pure (if t = "!" then t else String.ofList (t.toList.drop 1))
      else failure
    | .scalar none _ s => pure s
    | _ => failure
  list := fun (d, n) => do
    match ← g.follow n, d with
    | .list _ items, d + 1 => pure (items.map (d, ·))
    | n, _ => if isEmptyScalar n then pure [] else failure
  fields names := fun (d, n) => do just (distinct names (← entriesOf g d n))
  members := fun (d, n) => entriesOf g d n
  json := fun (d, n) => do just (← g.valueAt true d n).toJson?
  value := fun (d, n) => g.valueAt false d n

end Yaml

namespace Reading
variable {N α : Type} (R : Reading N)

def required (f : N → Reads α) (field : Option N) : Reads α :=
  match field with
  | none => failure
  | some n => f n

def optional (f : N → Reads α) (field : Option N) : Reads (Option α) :=
  match field with
  | none => pure none
  | some n => do
    let n ← R.follow n
    if ← R.isNull n then pure none else some <$> f n

def defaulted (f : N → Reads α) (default : α) (field : Option N) : Reads α :=
  match field with
  | none => pure default
  | some n => f n

def listOf (f : N → Reads α) (n : N) : Reads (List α) := do (← R.list n).mapM f

def any (n : N) : Reads Json := Json.normal <$> R.json n

def object (n : N) : Reads (Assoc Json) := do
  Assoc.sorted <$> (← R.members n).mapM fun e => (e.1, ·) <$> R.any e.2

def texts (n : N) : Reads (Assoc String) := do
  Assoc.sorted <$> (← R.members n).mapM fun e => (e.1, ·) <$> R.text e.2

end Reading

/-- Something that a document may hold, however the document is written. -/
abbrev Decoder (α : Type) := {N : Type} → Reading N → N → Reads α

def ofValue {α : Type} (f : Decoder α) (v : Json) : Option α :=
  (f strict (.ofJson v.normal)).run' 0

def ofJsonText {α : Type} (f : Decoder α) (cs : List Char) : Option α :=
  (Json.spell cs).bind fun s => (f spelled (Json.Spelling.depthLimit, s)).run' 0

def ofYamlText {α : Type} (f : Decoder α) (cs : List Char) : Option α :=
  (Yaml.parseChars cs).bind fun g => g.read (f (yaml g) (Yaml.Graph.depthLimit, g.root))

end Scenario.Document

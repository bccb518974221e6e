import Scenario.Assoc
import Scenario.Text.Utf8
import Scenario.Yaml.Scalar

/-!
# Tags of YAML

A tag is written whole in angle brackets, or as a handle and a name. A handle
stands for the stem of its tags; directives may declare handles. Tags are read
as `serde_yaml` reads them.
-/

set_option autoImplicit false

namespace Scenario.Yaml
open Scenario.Text

def isNameChar (c : Char) : Bool := c.isAlphanum || c == '-' || c == '_'

/-- The characters of a tag's name; brackets and commas only where it is written whole. -/
def isTagChar (whole : Bool) (c : Char) : Bool :=
  isNameChar c ||
  [';', '/', '?', ':', '@', '&', '=', '+', '$', '.', '!', '~', '*', '\'', '(', ')'].contains c ||
  (whole && [',', '[', ']'].contains c)

def tagBytes (whole : Bool) : List Char → Option (List UInt8 × List Char)
  | '%' :: a :: b :: r =>
    match digit? 16 a, digit? 16 b, tagBytes whole r with
    | some h, some l, some (bs, r) => some (UInt8.ofNat (16 * h + l) :: bs, r)
    | _, _, _ => none
  | c :: r =>
    if isTagChar whole c then (tagBytes whole r).map fun (bs, r) => (encodeChar c ++ bs, r)
    else if c = '%' then none
    else some ([], c :: r)
  | [] => some ([], [])

def tagName (whole : Bool) (cs : List Char) : Option (String × List Char) := do
  let (bs, r) ← tagBytes whole cs
  some (String.ofList (← decodeUtf8? bs), r)

def tagHandle : List Char → Option (List Char × List Char)
  | '!' :: r =>
    let name := r.takeWhile isNameChar
    match r.drop name.length with
    | '!' :: r => some ('!' :: name ++ ['!'], r)
    | r => some ('!' :: name, r)
  | _ => none

def tagParts (cs : List Char) : Option (Option String × String × List Char) :=
  match cs with
  | '!' :: '<' :: r => do
    match ← tagName true r with
    | (name, '>' :: r) => if name.isEmpty then none else some (none, name, r)
    | _ => none
  | cs => do
    let (handle, r) ← tagHandle cs
    let (name, r) ← tagName false r
    if 1 < handle.length && handle.getLast? == some '!' then
      if name.isEmpty then none else some (some (String.ofList handle), name, r)
    else
      let name := String.ofList (handle.drop 1) ++ name
      if name.isEmpty then some (none, "!", r) else some (some "!", name, r)

def coreStem : String := "tag:yaml.org,2002:"

def usualHandle? : String → Option String
  | "!" => some "!"
  | "!!" => some coreStem
  | _ => none

def endsDirective (cs : List Char) : Bool :=
  match cs.dropWhile isSpace with
  | [] => true
  | c :: _ => c == '#'

def isSupportedVersion (cs : List Char) : Bool :=
  let number (ds : List Char) : Option Nat :=
    if ds.isEmpty || 9 < ds.length then none else (readNatIn 10 word ds).toOption
  let cs := cs.dropWhile isSpace
  let major := cs.takeWhile Char.isDigit
  match cs.drop major.length with
  | '.' :: r =>
    let minor := r.takeWhile Char.isDigit
    number major == some 1 && (number minor == some 1 || number minor == some 2) &&
      endsDirective (r.drop minor.length)
  | _ => false

def tagDeclaration (cs : List Char) : Option (String × String) := do
  let (handle, r) ← tagHandle (cs.dropWhile isSpace)
  let (stem, after) ← tagName true (r.dropWhile isSpace)
  if (1 < handle.length && handle.getLast? != some '!') || !(r.head?.any isSpace) || stem.isEmpty ||
      !isGap after || !endsDirective after then none
  else some (String.ofList handle, stem)

end Scenario.Yaml

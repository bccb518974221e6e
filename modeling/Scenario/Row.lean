import Scenario.Assoc
import Scenario.Expression
import Scenario.Template

/-!
# Rows of variables

A row is an ordered list of named texts with a mark on the last row of a
series and the properties of the environment. Templates are bound in a row by
substituting again and again until nothing changes, at most 32 times.
-/

set_option autoImplicit false

namespace Scenario
open Scenario.Text

structure Row where
  vars : Assoc String := []
  last : Bool := false
  env : Assoc String := []
  deriving DecidableEq, Repr, Inhabited

namespace Row

def rowNumberKey : String := "_rowNumber"

def get? (r : Row) (key : String) : Option String := Assoc.get? r.vars key

def has (r : Row) (key : String) : Bool := Assoc.has r.vars key

def put (r : Row) (key value : String) : Row := { r with vars := Assoc.put r.vars key value }

def putAll (r : Row) (other : Assoc String) : Row := { r with vars := Assoc.putAll r.vars other }

/-- Lays the variables of another row over this one; mark and environment stay. -/
def merge (r other : Row) : Row := r.putAll other.vars

def erase (r : Row) (key : String) : Row := { r with vars := Assoc.erase r.vars key }

def withoutNumber (r : Row) : Row := r.erase rowNumberKey

def withLast (r : Row) (last : Bool) : Row := { r with last }

def number? (r : Row) : Option Nat := (r.get? rowNumberKey).bind fun n => (readWord n).toOption

def visible (r : Row) : Assoc String := r.vars.filter fun e => !startsWith e.1 "_"

/-- Equal up to the order of variables. -/
def same (a b : Row) : Bool :=
  Assoc.sameEntries a.vars b.vars && a.last == b.last && a.env == b.env

def environmentMark : List Char := ['e', 'n', 'v', '.']

/-- The value of a reference: a variable, or else a property after `env.`. -/
def value? (r : Row) (name : List Char) : Option (List Char) :=
  let key := trimChars name
  match r.get? (String.ofList key) with
  | some v => some v.toList
  | none =>
    if environmentMark.isPrefixOf key then
      (Assoc.get? r.env (String.ofList (key.drop 4))).map String.toList
    else none

/-- The keys of the keyboard, with the offset of their code above `E000`. -/
def keyCodes : List (String × Nat) :=
  [("NULL", 0x00), ("CANCEL", 0x01), ("HELP", 0x02), ("BACK_SPACE", 0x03), ("BACKSPACE", 0x03),
   ("TAB", 0x04), ("CLEAR", 0x05), ("RETURN", 0x06), ("ENTER", 0x07), ("SHIFT", 0x08),
   ("CONTROL", 0x09), ("ALT", 0x0A), ("PAUSE", 0x0B), ("ESCAPE", 0x0C), ("SPACE", 0x0D),
   ("PAGE_UP", 0x0E), ("PAGE_DOWN", 0x0F), ("END", 0x10), ("HOME", 0x11), ("LEFT", 0x12),
   ("ARROW_LEFT", 0x12), ("UP", 0x13), ("ARROW_UP", 0x13), ("RIGHT", 0x14),
   ("ARROW_RIGHT", 0x14), ("DOWN", 0x15), ("ARROW_DOWN", 0x15), ("INSERT", 0x16),
   ("DELETE", 0x17), ("SEMICOLON", 0x18), ("EQUALS", 0x19), ("F1", 0x31), ("F2", 0x32),
   ("F3", 0x33), ("F4", 0x34), ("F5", 0x35), ("F6", 0x36), ("F7", 0x37), ("F8", 0x38),
   ("F9", 0x39), ("F10", 0x3A), ("F11", 0x3B), ("F12", 0x3C), ("META", 0x3D),
   ("COMMAND", 0x3D)]

def keyValue? (name : List Char) : Option (List Char) :=
  match name with
  | 'K' :: 'E' :: 'Y' :: '_' :: r =>
    (Assoc.get? keyCodes (String.ofList r)).map fun n => [Char.ofNat (0xE000 + n)]
  | _ => none

/-- One round: first the variables, then the keys. -/
def substitute (r : Row) (s : List Char) : List Char :=
  Template.keys.substitute keyValue? (Template.expressions.substitute r.value? s)

def rounds : Nat := 32

def settle (r : Row) : Nat → List Char → List Char
  | 0, s => s
  | n + 1, s =>
    let next := r.substitute s
    if next = s then s else settle r n next

def bindChars (r : Row) (s : List Char) : List Char := r.settle rounds s

def bind (r : Row) (template : String) : String := String.ofList (r.bindChars template.toList)

def evaluateAll (r : Row) : List (List Char) → Option (List (List Char × List Char))
  | [] => some []
  | e :: rest =>
    match Expression.evaluate (String.ofList e) r.vars, r.evaluateAll rest with
    | .ok v, some vs => some ((e, v.toList) :: vs)
    | _, _ => none

def valueIn (values : List (List Char × List Char)) (e : List Char) : Option (List Char) :=
  (values.find? fun p => p.1 == e).map (·.2)

/-- Binds a template and evaluates what references are left; if one of them
has no value the bound text stands as it is. -/
def evaluateString (r : Row) (template : String) : String :=
  let bound := r.bindChars template.toList
  match r.evaluateAll (Template.expressions.names bound) with
  | some values => String.ofList (Template.expressions.substitute (valueIn values) bound)
  | none => String.ofList bound

def evaluate (r : Row) (template : String) : Bool :=
  eqIgnoringCase (trim (r.evaluateString template)) "true"

theorem get?_put_same (r : Row) (k v : String) : (r.put k v).get? k = some v := by
  simp [get?, put]

theorem get?_put_other (r : Row) {k key : String} (v : String) (h : key ≠ k) :
    (r.put k v).get? key = r.get? key := by
  simp [get?, put, Assoc.get?_put_other _ _ h]

theorem bind_eq_self (r : Row) {s : String} (he : Template.expressions.mark ∉ s.toList)
    (hk : Template.keys.mark ∉ s.toList) : r.bind s = s := by
  have round : r.substitute s.toList = s.toList := by
    rw [substitute, Template.Form.substitute, Template.Form.substitute,
      Template.expressions.substituteFrom_of_not_mem _ _ he,
      Template.keys.substituteFrom_of_not_mem _ _ hk]
  rw [bind, bindChars, rounds, settle, if_pos round, String.ofList_toList]

theorem evaluateString_eq_self (r : Row) {s : String}
    (he : Template.expressions.mark ∉ s.toList) (hk : Template.keys.mark ∉ s.toList) :
    r.evaluateString s = s := by
  have bound : r.bindChars s.toList = s.toList := by
    have same := congrArg String.toList (r.bind_eq_self he hk)
    rwa [bind, String.toList_ofList] at same
  have plain : r.evaluateAll (Template.expressions.names s.toList) = some [] := by
    rw [Template.expressions.names_of_not_mem _ he]
    rfl
  simp only [evaluateString, bound, plain, Template.Form.substitute,
    Template.expressions.substituteFrom_of_not_mem _ _ he, String.ofList_toList]

end Row

end Scenario

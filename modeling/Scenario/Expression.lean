import Scenario.Cel.Eval
import Scenario.Json.Basic
import Scenario.Text.Property

/-!
# Expressions over a row

A row's texts take part in expressions with the type that they look like. The
answer is a text again: a string as it stands, nothing for null, and compact
JSON with sorted keys for all else.
-/

set_option autoImplicit false

namespace Scenario
open Scenario.Text

namespace Expression

inductive Fault where
  | compile
  | execution
  | convert
  deriving DecidableEq, Repr

def wholePart (raw : List Char) : List Char :=
  (match raw with
    | '-' :: r => r
    | r => r).takeWhile (· != '.')

/-- The part before the point is no number, or has a leading zero. -/
def isZeroPadded (raw : List Char) : Bool :=
  match wholePart raw with
  | [] => true
  | c :: r => !(c :: r).all Decimal.isDigit || (c == '0' && !r.isEmpty)

/-- A whole number in its shortest spelling, a finite number with a point, or a
truth value; all else is text. -/
def typed (raw : String) : Cel.Value :=
  match (readSigned raw).filter fun i => intText i == raw with
  | some i => .int i
  | none =>
    let number :=
      if raw.toList.contains '.' && !isZeroPadded raw.toList then
        (Decimal.readFloat raw.toList).filter Float.isFinite
      else none
    match number with
    | some x => .float x
    | none =>
      if raw = "true" then .bool true
      else if raw = "false" then .bool false
      else .str raw

def isIdentifier (key : String) : Bool :=
  match key.toList with
  | [] => false
  | c :: r => (c == '_' || c.isAlpha) && r.all fun c => c == '_' || c.isAlphanum

/-- Calls of `len` become calls of `size`; `inWord` says whether the character
before belongs to a word. -/
def renameLength (inWord : Bool) : List Char → List Char
  | 'l' :: 'e' :: 'n' :: '(' :: r =>
    if inWord then 'l' :: 'e' :: 'n' :: '(' :: renameLength false r
    else "size(".toList ++ renameLength false r
  | c :: r => c :: renameLength (isWord c) r
  | [] => []

/-- Strict comparisons are read as the plain ones. -/
def normalize (source : String) : String :=
  let renamed := String.ofList (renameLength false source.toList)
  replace (replace renamed "!==" "!=") "===" "=="

def scope (vars : Assoc String) : Cel.Scope :=
  (vars.filter fun e => isIdentifier e.1).map fun e => (e.1, typed e.2)

def evaluate (source : String) (vars : Assoc String) : Except Fault String :=
  match Cel.parse (normalize source) with
  | none => .error .compile
  | some e =>
    match e.eval (scope vars) with
    | none => .error .execution
    | some v =>
      match v.toJson with
      | none => .error .convert
      | some j => .ok j.scalar

end Expression

end Scenario

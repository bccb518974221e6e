import Scenario.Text.Utf8

/-!
# Comma-separated records

This module stands for the `csv` library, which splits a table into records.

Records end with a line feed, a carriage return, or both; empty lines count for
nothing. A field that begins with a quote ends with one and may hold anything;
two quotes inside it are one, and text after its end is kept.
-/

set_option autoImplicit false

namespace Scenario.Csv

inductive State where
  | startRecord
  | startField
  | field
  | quotedField
  | afterQuote
  deriving DecidableEq, Repr

def quote : UInt8 := 34

def isLineEnd (b : UInt8) : Bool := b == 10 || b == 13

/-- Fields and records are kept in reverse while reading. -/
structure Reading where
  state : State := .startRecord
  field : List UInt8 := []
  fields : List (List UInt8) := []
  records : List (List (List UInt8)) := []

namespace Reading

def endField (r : Reading) : Reading :=
  { r with state := .startField, field := [], fields := r.field.reverse :: r.fields }

def endRecord (r : Reading) : Reading :=
  { state := .startRecord, records := (r.field.reverse :: r.fields).reverse :: r.records }

def keep (r : Reading) (b : UInt8) (s : State) : Reading :=
  { r with state := s, field := b :: r.field }

def unquoted (delimiter : UInt8) (r : Reading) (b : UInt8) : Reading :=
  if b = delimiter then r.endField
  else if isLineEnd b then r.endRecord
  else r.keep b .field

def next (delimiter : UInt8) (r : Reading) (b : UInt8) : Reading :=
  match r.state with
  | .startRecord =>
    if isLineEnd b then r
    else if b = quote then { r with state := .quotedField }
    else r.unquoted delimiter b
  | .startField =>
    if b = quote then { r with state := .quotedField } else r.unquoted delimiter b
  | .field => r.unquoted delimiter b
  | .quotedField => if b = quote then { r with state := .afterQuote } else r.keep b .quotedField
  | .afterQuote => if b = quote then r.keep b .quotedField else r.unquoted delimiter b

def finish (r : Reading) : List (List (List UInt8)) :=
  match r.state with
  | .startRecord => r.records.reverse
  | _ => r.endRecord.records.reverse

end Reading

def byteOrderMark : List UInt8 := [0xEF, 0xBB, 0xBF]

def records (delimiter : UInt8) (bytes : List UInt8) : List (List (List UInt8)) :=
  let bytes := if byteOrderMark.isPrefixOf bytes then bytes.drop 3 else bytes
  (bytes.foldl (Reading.next delimiter) {}).finish

def texts : List (List UInt8) → Option (List String)
  | [] => some []
  | f :: r =>
    match Text.decodeUtf8? f, texts r with
    | some cs, some ts => some (String.ofList cs :: ts)
    | _, _ => none

end Scenario.Csv

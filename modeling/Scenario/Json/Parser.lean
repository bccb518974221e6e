import Scenario.Json.Spelling

/-!
# Reading JSON text

One value with blanks around it, first as it is spelled and then as a value;
what is accepted is what `serde_json` accepts.
-/

set_option autoImplicit false

namespace Scenario.Json
open Scenario.Decimal (isDigit spanDigits natOf)

def skipBlanks : List Char → List Char
  | [] => []
  | c :: r =>
    if c = ' ' ∨ c = '\n' ∨ c = '\t' ∨ c = '\r' then skipBlanks r else c :: r

def hex4 : List Char → Option (Nat × List Char)
  | a :: b :: c :: d :: r => do
    let a ← Text.digit? 16 a
    let b ← Text.digit? 16 b
    let c ← Text.digit? 16 c
    let d ← Text.digit? 16 d
    some (((a * 16 + b) * 16 + c) * 16 + d, r)
  | _ => none

def simpleEscape (c : Char) : Option Char :=
  match c with
  | '"' => some '"'
  | '\\' => some '\\'
  | '/' => some '/'
  | 'b' => some (Char.ofNat 8)
  | 'f' => some (Char.ofNat 12)
  | 'n' => some '\n'
  | 'r' => some '\r'
  | 't' => some '\t'
  | _ => none

def stringBody : Nat → List Piece → List Char → Option (List Piece × List Char)
  | 0, _, _ => none
  | fuel + 1, acc, cs =>
    match cs with
    | [] => none
    | '"' :: r => some (acc.reverse, r)
    | '\\' :: 'u' :: r =>
      match hex4 r with
      | some (u, r) => stringBody fuel (.unit u :: acc) r
      | none => none
    | '\\' :: c :: r =>
      match simpleEscape c with
      | some c => stringBody fuel (.char c :: acc) r
      | none => none
    | c :: r => if c.toNat < 32 then none else stringBody fuel (.char c :: acc) r

def exponent? : List Char → Option (Option Int × List Char)
  | e :: r =>
    if e = 'e' ∨ e = 'E' then
      let (minus, r) := match r with
        | '-' :: r => (true, r)
        | '+' :: r => (false, r)
        | r => (false, r)
      let (ds, r) := spanDigits r
      if ds.isEmpty then none
      else some (some (if minus then -(natOf ds : Int) else natOf ds), r)
    else some (none, e :: r)
  | [] => some (none, [])

def fraction? : List Char → Option (List Char × List Char)
  | '.' :: r =>
    let (ds, r) := spanDigits r
    if ds.isEmpty then none else some (ds, r)
  | r => some ([], r)

def number (negative : Bool) (cs : List Char) : Option (Spelling × List Char) := do
  let (whole, r) := spanDigits cs
  match whole with
  | [] => none
  | '0' :: _ :: _ => none
  | _ =>
    let (fraction, r) ← fraction? r
    let (exponent, r) ← exponent? r
    some (.number ⟨negative, whole, fraction, exponent⟩, r)

def literal (word : List Char) (v : Spelling) (cs : List Char) : Option (Spelling × List Char) :=
  if word.isPrefixOf cs then some (v, cs.drop word.length) else none

mutual
def value : Nat → List Char → Option (Spelling × List Char)
  | 0, _ => none
  | fuel + 1, cs =>
    match skipBlanks cs with
    | [] => none
    | '"' :: r => (stringBody (r.length + 1) [] r).map fun (s, r) => (.text s, r)
    | '[' :: r =>
      match skipBlanks r with
      | ']' :: r => some (.list [], r)
      | r => (items fuel r).map fun (vs, r) => (.list vs, r)
    | '{' :: r =>
      match skipBlanks r with
      | '}' :: r => some (.object [], r)
      | r => (members fuel r).map fun (vs, r) => (.object vs, r)
    | '-' :: r => number true r
    | c :: r =>
      if c = 't' then literal ['t', 'r', 'u', 'e'] (.bool true) (c :: r)
      else if c = 'f' then literal ['f', 'a', 'l', 's', 'e'] (.bool false) (c :: r)
      else if c = 'n' then literal ['n', 'u', 'l', 'l'] .null (c :: r)
      else number false (c :: r)
def items : Nat → List Char → Option (List Spelling × List Char)
  | 0, _ => none
  | fuel + 1, cs =>
    match value fuel cs with
    | none => none
    | some (v, r) =>
      match skipBlanks r with
      | ',' :: r => (items fuel r).map fun (vs, r) => (v :: vs, r)
      | ']' :: r => some ([v], r)
      | _ => none
def members : Nat → List Char → Option (List (List Piece × Spelling) × List Char)
  | 0, _ => none
  | fuel + 1, cs =>
    match skipBlanks cs with
    | '"' :: r =>
      match stringBody (r.length + 1) [] r with
      | none => none
      | some (k, r) =>
        match skipBlanks r with
        | ':' :: r =>
          match value fuel r with
          | none => none
          | some (v, r) =>
            match skipBlanks r with
            | ',' :: r => (members fuel r).map fun (vs, r) => ((k, v) :: vs, r)
            | '}' :: r => some ([(k, v)], r)
            | _ => none
        | _ => none
    | _ => none
end

def spell (cs : List Char) : Option Spelling :=
  match value (2 * cs.length + 2) cs with
  | some (v, r) => if (skipBlanks r).isEmpty then some v else none
  | none => none

def parseChars (cs : List Char) : Option Json := (spell cs).bind (·.toJson? Spelling.depthLimit)

def parse (s : String) : Option Json := parseChars s.toList

end Scenario.Json

import Scenario.Decimal.Reading
import Scenario.Text.Integer
import Scenario.Text.Utf8

/-!
# Tokens of expressions

The tokens of the `cel` library. The longest one wins. Blanks and comments
separate tokens; a character that starts none spoils the whole text.
-/

set_option autoImplicit false

namespace Scenario.Cel
open Scenario.Text

inductive Token where
  | int (digits : List Char)
  | hex (digits : List Char)
  | uint (digits : List Char)
  | hexUint (digits : List Char)
  | float (text : List Char)
  | str (s : List Char)
  | bytes (bs : List UInt8)
  | name (s : String)
  | escapedName (s : String)
  | op (s : String)
  deriving DecidableEq, Repr

def charEscape (c : Char) : Option Char :=
  match c with
  | 'a' => some (Char.ofNat 7)
  | 'b' => some (Char.ofNat 8)
  | 'f' => some (Char.ofNat 12)
  | 'n' => some '\n'
  | 'r' => some '\r'
  | 't' => some '\t'
  | 'v' => some (Char.ofNat 11)
  | '\\' => some '\\'
  | '?' => some '?'
  | c => if c.toNat = 96 then some c else none

def number (base : Nat) : Nat → List Char → Option Nat
  | acc, [] => some acc
  | acc, c :: r =>
    match digit? base c with
    | some d => number base (acc * base + d) r
    | none => none

def fixedDigits (base count : Nat) (cs : List Char) : Option (Nat × List Char) :=
  if cs.length < count then none
  else (number base 0 (cs.take count)).map (·, cs.drop count)

def codePoint (p : Nat × List Char) : Option (Char × List Char) :=
  if p.1.isValidChar then some (Char.ofNat p.1, p.2) else none

def isOctalStart (c : Char) : Bool := c == '0' || c == '1' || c == '2' || c == '3'

def readEscape (cs : List Char) : Option (Char × List Char) :=
  match cs with
  | [] => none
  | c :: r =>
    if c = 'x' then (fixedDigits 16 2 r).bind codePoint
    else if c = 'u' then (fixedDigits 16 4 r).bind codePoint
    else if c = 'U' then (fixedDigits 16 8 r).bind codePoint
    else if isOctalStart c then (fixedDigits 8 3 cs).bind codePoint
    else (charEscape c).map (·, r)

def isQuote (c : Char) : Bool := c == '"' || c == '\''

/-- A literal up to its closing quotes, which are taken with it; `acc` holds it in reverse. An
escaped character closes nothing. -/
def literalBody (raw long : Bool) (quote : Char) :
    Nat → List Char → List Char → Option (List Char × List Char)
  | 0, _, _ => none
  | fuel + 1, acc, cs =>
    match cs with
    | [] => none
    | c :: r =>
      if c = quote ∧ !long then some ((c :: acc).reverse, r)
      else if c = quote ∧ [quote, quote].isPrefixOf r then
        some ((c :: c :: c :: acc).reverse, r.drop 2)
      else if c = '\\' ∧ !raw then
        match r with
        | e :: r => literalBody raw long quote fuel (e :: c :: acc) r
        | [] => none
      else if !long ∧ (c = '\n' ∨ c = '\r') then none
      else literalBody raw long quote fuel (c :: acc) r

def quoted (raw : Bool) (cs : List Char) : Option (List Char × List Char) :=
  match cs with
  | [] => none
  | q :: r =>
    let long := if [q, q].isPrefixOf r then
        literalBody raw true q (r.length + 1) [q, q, q] (r.drop 2)
      else none
    match long with
    | some x => some x
    | none => literalBody raw false q (r.length + 1) [q] r

/-- The text of a literal. Every quote opens or closes, but for the other kind inside; nothing
may stand outside. A backslash before the other kind of quote stays, and in a raw literal it
only goes before a quote of its own kind. -/
def decodeText (raw : Bool) : Nat → Option Char → List Char → Option (List Char)
  | 0, _, _ => none
  | _, _, [] => some []
  | fuel + 1, inside, c :: r =>
    let next := decodeText raw fuel inside
    if c = '\\' ∧ inside.isSome then
      match r with
      | [] => if raw then some ['\\'] else none
      | e :: r' =>
        if isQuote e then
          (next r').map fun t => if inside = some e then e :: t else '\\' :: e :: t
        else if raw then (next r').map fun t => '\\' :: e :: t
        else match readEscape r with
          | some (d, rest) => (next rest).map (d :: ·)
          | none => none
    else if isQuote c then
      match inside with
      | none => decodeText raw fuel (some c) r
      | some q => if q = c then decodeText raw fuel none r else (next r).map (c :: ·)
    else if inside.isNone then none
    else (next r).map (c :: ·)

/-- The bytes between the first character and the last; an escape names one byte. -/
def decodeBytes : Nat → List Char → Option (List UInt8)
  | 0, _ => none
  | _, [] => some []
  | fuel + 1, c :: r =>
    if c = '\\' then
      let byte := match r with
        | 'x' :: r => fixedDigits 16 2 r
        | e :: _ => if isOctalStart e then fixedDigits 8 3 r else none
        | [] => none
      match byte with
      | some (n, rest) => (decodeBytes fuel rest).map (UInt8.ofNat n :: ·)
      | none => none
    else (decodeBytes fuel r).map (encodeChar c ++ ·)

def readLiteral (cs : List Char) : Option (Token × List Char) := do
  let text (raw : Bool) (cs : List Char) := do
    let (body, rest) ← quoted raw cs
    some (Token.str (← decodeText raw (body.length + 1) none body), rest)
  let bytes (mark cs : List Char) := do
    let (body, rest) ← quoted (!mark.isEmpty) cs
    let inner := ((mark ++ body).drop 1).dropLast
    some (Token.bytes (← decodeBytes (inner.length + 1) inner), rest)
  match cs with
  | a :: b :: c :: r =>
    if isQuote a then text false cs
    else if (a = 'r' ∨ a = 'R') ∧ isQuote b then text true (b :: c :: r)
    else if (a = 'b' ∨ a = 'B') ∧ isQuote b then bytes [] (b :: c :: r)
    else if (a = 'b' ∨ a = 'B') ∧ (b = 'r' ∨ b = 'R') ∧ isQuote c then bytes [b] (c :: r)
    else none
  | a :: _ => if isQuote a then text false cs else none
  | [] => none

def backtick : Char := Char.ofNat 96

def isEscapedNameChar (c : Char) : Bool :=
  c.isAlphanum || c == '_' || c == '.' || c == '-' || c == '/' || c == ' '

def readEscapedName (cs : List Char) : Option (Token × List Char) :=
  match cs with
  | c :: r =>
    let name := r.takeWhile isEscapedNameChar
    match r.drop name.length with
    | d :: rest =>
      if c = backtick ∧ d = backtick ∧ !name.isEmpty then
        some (.escapedName (String.ofList (c :: name ++ [d])), rest)
      else none
    | [] => none
  | [] => none

def isHexDigit (c : Char) : Bool := (digit? 16 c).isSome

def isDigit (c : Char) : Bool := Decimal.isDigit c

def exponentPart (cs : List Char) : List Char :=
  match cs with
  | e :: r =>
    if e = 'e' ∨ e = 'E' then
      let (sign, r) := match r with
        | '+' :: r => (['+'], r)
        | '-' :: r => (['-'], r)
        | r => ([], r)
      let ds := r.takeWhile isDigit
      if ds.isEmpty then [] else e :: (sign ++ ds)
    else []
  | [] => []

def readNumber (cs : List Char) : Option (Token × List Char) :=
  let whole := cs.takeWhile isDigit
  let rest := cs.drop whole.length
  let suffixed (hex : Bool) (ds r : List Char) : Token × List Char :=
    match r with
    | u :: r' =>
      if u = 'u' ∨ u = 'U' then (if hex then .hexUint ds else .uint ds, r')
      else (if hex then .hex ds else .int ds, r)
    | [] => (if hex then .hex ds else .int ds, [])
  let hexDigits := (rest.drop 1).takeWhile isHexDigit
  if whole = ['0'] ∧ rest.head? = some 'x' ∧ !hexDigits.isEmpty then
    some (suffixed true hexDigits (rest.drop (1 + hexDigits.length)))
  else
    let fraction := match rest with
      | '.' :: r => r.takeWhile isDigit
      | _ => []
    if fraction.isEmpty then
      if whole.isEmpty then none
      else
        let e := exponentPart rest
        if e.isEmpty then some (suffixed false whole rest)
        else some (.float (whole ++ e), rest.drop e.length)
    else
      let after := rest.drop (1 + fraction.length)
      let e := exponentPart after
      some (.float (whole ++ '.' :: (fraction ++ e)), after.drop e.length)

def isNameStart (c : Char) : Bool := c.isAlpha || c == '_'
def isNameRest (c : Char) : Bool := c.isAlphanum || c == '_'

def doubleOps : List String := ["==", "!=", "<=", ">=", "&&", "||"]
def singleOps : List Char :=
  ['<', '>', '[', ']', Char.ofNat 123, Char.ofNat 125, '(', ')', '.', ',', '-', '!', '?', ':', '+',
   '*', '/', '%']

def readOp (cs : List Char) : Option (Token × List Char) :=
  match cs with
  | a :: b :: r =>
    let two := String.ofList [a, b]
    if doubleOps.contains two then some (.op two, r)
    else if singleOps.contains a then some (.op (String.ofList [a]), b :: r)
    else none
  | [a] => if singleOps.contains a then some (.op (String.ofList [a]), []) else none
  | [] => none

def isSeparator (c : Char) : Bool :=
  c == ' ' || c == '\t' || c == '\r' || c == '\n' || c == Char.ofNat 12

def tokens : Nat → List Char → Option (List Token)
  | 0, cs => if cs.isEmpty then some [] else none
  | _, [] => some []
  | fuel + 1, c :: r =>
    if isSeparator c then tokens fuel r
    else if c = '/' ∧ r.head? = some '/' then tokens fuel (r.dropWhile (· != '\n'))
    else
      let next := match readLiteral (c :: r) with
        | some x => some x
        | none =>
          if isDigit c || c = '.' then
            match readNumber (c :: r) with
            | some x => some x
            | none => readOp (c :: r)
          else if isNameStart c then
            let s := (c :: r).takeWhile isNameRest
            some (.name (String.ofList s), (c :: r).drop s.length)
          else if c = backtick then readEscapedName (c :: r)
          else readOp (c :: r)
      match next with
      | some (t, rest) => (tokens fuel rest).map (t :: ·)
      | none => none

def tokenize (s : String) : Option (List Token) := tokens s.toList.length s.toList

end Scenario.Cel

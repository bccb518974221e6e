import Scenario.Yaml.Tag

/-!
# Tokens of YAML

The tokens of `serde_yaml`: scalars, indicators, and the beginnings and ends of
blocks that indentation implies. A key is known as one only at its colon; its
token is then put in before the tokens of the key.
-/

set_option autoImplicit false

namespace Scenario.Yaml

inductive Token where
  | directive
  | documentStart
  | documentEnd
  | sequenceStart
  | mappingStart
  | blockEnd
  | openList
  | closeList
  | openMap
  | closeMap
  | entry
  | comma
  | key
  | value
  | anchor (name : String)
  | alias (name : String)
  | tag (name : String)
  | scalar (style : Style) (text : String)
  deriving DecidableEq, Repr

/-- A place where a key may have begun; a required one must turn out to be a key. -/
structure KeyPlace where
  required : Bool
  position : Nat
  line : Nat
  column : Nat
  offset : Nat

structure Lexer where
  place : Place
  indent : Int := -1
  indents : List Int := []
  keyAllowed : Bool := true
  /-- One place for each open bracket, and one for the block outside them. -/
  keys : List (Option KeyPlace) := [none]
  versioned : Bool := false
  handles : Assoc String := []
  tokens : List Token := []

namespace Lexer

def inFlow (l : Lexer) : Bool := 1 < l.keys.length

def push (l : Lexer) (t : Token) : Lexer := { l with tokens := t :: l.tokens }

def insertAt (l : Lexer) (position : Nat) (t : Token) : Lexer :=
  let later := l.tokens.length - position
  { l with tokens := l.tokens.take later ++ t :: l.tokens.drop later }

def column (l : Lexer) : Int := (l.place.column : Int)

def roll (l : Lexer) (column : Int) (position : Nat) (t : Token) : Lexer :=
  if !l.inFlow && l.indent < column then
    { l.insertAt position t with indent := column, indents := l.indent :: l.indents }
  else l

def unrollFrom (column : Int) : List Int → Lexer → Lexer
  | [], l => l
  | i :: is, l =>
    if column < l.indent then
      unrollFrom column is { l.push .blockEnd with indent := i, indents := is }
    else l

def unroll (l : Lexer) (column : Int) : Lexer :=
  if l.inFlow then l else unrollFrom column l.indents l

/-- A key must end on its line, within a thousand characters or so. -/
def isStale (l : Lexer) (k : KeyPlace) : Bool :=
  k.line < l.place.line || k.offset + 1024 < l.place.offset

/-- Gives up places that can no longer be keys; nothing, if one had to be. -/
def dropStale (l : Lexer) : Option Lexer :=
  if l.keys.any fun k => k.any fun k => k.required && l.isStale k then none
  else some { l with keys := l.keys.map fun k => k.filter fun k => !l.isStale k }

def removeKey (l : Lexer) : Option Lexer :=
  match l.keys with
  | some k :: r => if k.required then none else some { l with keys := none :: r }
  | _ => some l

def saveKey (l : Lexer) : Option Lexer :=
  if l.keyAllowed then do
    let l ← l.removeKey
    let k : KeyPlace := ⟨!l.inFlow && l.indent == l.column, l.tokens.length, l.place.line,
      l.place.column, l.place.offset⟩
    some { l with keys := some k :: l.keys.drop 1 }
  else some l

def skip (l : Lexer) (n : Nat) : Lexer := { l with place := l.place.skip n }

def allow (l : Lexer) (b : Bool) : Lexer := { l with keyAllowed := b }

def skipGap : Nat → Lexer → Lexer
  | 0, l => l
  | fuel + 1, l =>
    match l.place.rest with
    | [] => l
    | c :: _ =>
      if c = ' ' ∨ (c = '\t' ∧ (l.inFlow ∨ !l.keyAllowed)) then skipGap fuel (l.skip 1)
      else if c = '#' then
        let p := skipLine l.place.rest.length l.place
        match p.rest with
        | [] => { l with place := p }
        | _ => skipGap fuel { l with place := p.next, keyAllowed := l.keyAllowed || !l.inFlow }
      else if isBreak c then
        skipGap fuel { l.skip 1 with keyAllowed := l.keyAllowed || !l.inFlow }
      else if l.place.column = 0 ∧ c = byteOrderMark then skipGap fuel (l.skip 1)
      else l

def documentMark (l : Lexer) (t : Token) : Option Lexer := do
  let l ← (l.unroll (-1)).removeKey
  some ((l.skip 3).push t |>.allow false)

def directive (l : Lexer) : Option Lexer := do
  let l ← (l.unroll (-1)).removeKey
  let line := (l.place.rest.drop 1).takeWhile fun c => !isBreak c
  let word := line.takeWhile isNameChar
  let l ←
    if !isGap (line.drop word.length) then none
    else if word = "YAML".toList then
      if !l.versioned && isSupportedVersion (line.drop word.length) then
        some { l with versioned := true }
      else none
    else if word = "TAG".toList then do
      let (handle, stem) ← tagDeclaration (line.drop word.length)
      if Assoc.has l.handles handle then none
      else some { l with handles := (handle, stem) :: l.handles }
    else none
  let place := (skipLine l.place.rest.length l.place).next
  some ({ l with place }.push .directive |>.allow false)

def openFlow (l : Lexer) (t : Token) : Option Lexer := do
  let l ← l.saveKey
  some (({ l with keys := none :: l.keys }.push t).skip 1 |>.allow true)

def closeFlow (l : Lexer) (t : Token) : Option Lexer := do
  let l ← l.removeKey
  let keys := match l.keys with
    | _ :: k :: r => k :: r
    | ks => ks
  some (({ l with keys }.push t).skip 1 |>.allow false)

def comma (l : Lexer) : Option Lexer := do
  let l ← l.removeKey
  some ((l.push .comma).skip 1 |>.allow true)

def entry (l : Lexer) : Option Lexer := do
  let l ← if l.inFlow then some l
    else if l.keyAllowed then some (l.roll l.column l.tokens.length .sequenceStart)
    else none
  let l ← l.removeKey
  some ((l.push .entry).skip 1 |>.allow true)

def key (l : Lexer) : Option Lexer := do
  let l ← if l.inFlow then some l
    else if l.keyAllowed then some (l.roll l.column l.tokens.length .mappingStart)
    else none
  let l ← l.removeKey
  some ((l.push .key).skip 1 |>.allow !l.inFlow)

def value (l : Lexer) : Option Lexer :=
  match l.keys with
  | some k :: r =>
    let l := { l with keys := none :: r }.insertAt k.position .key
    let l := l.roll k.column k.position .mappingStart
    some ((l.push .value).skip 1 |>.allow false)
  | _ => do
    let l ← if l.inFlow then some l
      else if l.keyAllowed then some (l.roll l.column l.tokens.length .mappingStart)
      else none
    some ((l.push .value).skip 1 |>.allow !l.inFlow)

def endsName : List Char → Bool
  | [] => true
  | c :: _ => isSpace c || isBreak c || ['?', ':', ',', ']', '}', '%', '@'].contains c ||
    c.toNat == 96

def anchor (l : Lexer) (make : String → Token) : Option Lexer := do
  let l ← l.saveKey
  let name := (l.place.rest.drop 1).takeWhile isNameChar
  if name.isEmpty || !endsName (l.place.rest.drop (name.length + 1)) then none
  else some ((l.push (make (String.ofList name))).skip (name.length + 1) |>.allow false)

def tag (l : Lexer) : Option Lexer := do
  let l ← l.saveKey
  let (handle, name, r) ← tagParts l.place.rest
  let stem ← match handle with
    | none => some ""
    | some h => (Assoc.get? l.handles h).or (usualHandle? h)
  if isGap r || (l.inFlow && r.head? == some ',') then
    some ((l.push (.tag (stem ++ name))).skip (l.place.rest.length - r.length) |>.allow false)
  else none

def blockScalar (l : Lexer) : Option Lexer := do
  let l ← l.removeKey
  let style := if l.place.rest.head? == some '|' then Style.literal else .folded
  let (text, p) ← block l.indent l.place
  some ({ l with place := p }.push (.scalar style (String.ofList text)) |>.allow true)

def quotedScalar (l : Lexer) : Option Lexer := do
  let l ← l.saveKey
  let (text, p) ← quoted l.place
  some ({ l with place := p }.push (.scalar .quoted (String.ofList text)) |>.allow false)

def plainScalar (l : Lexer) : Option Lexer := do
  let l ← l.saveKey
  let (text, p, ended) ← plain l.inFlow (l.indent + 1).toNat l.place
  some ({ l with place := p }.push (.scalar .plain (String.ofList text)) |>.allow ended)

def neverPlain : List Char :=
  ['-', '?', ':', ',', '[', ']', '{', '}', '#', '&', '*', '!', '|', '>', '\'', '"', '%', '@',
   Char.ofNat 96]

def next (l : Lexer) (c : Char) (r : List Char) : Option Lexer :=
  if l.place.column = 0 ∧ c = '%' then l.directive
  else if l.place.column = 0 ∧ isDocumentMark (c :: r) then
    l.documentMark (if c = '-' then .documentStart else .documentEnd)
  else if c = '[' then l.openFlow .openList
  else if c = '{' then l.openFlow .openMap
  else if c = ']' then l.closeFlow .closeList
  else if c = '}' then l.closeFlow .closeMap
  else if c = ',' then l.comma
  else if c = '-' ∧ isGap r then l.entry
  else if c = '?' ∧ (l.inFlow ∨ isGap r) then l.key
  else if c = ':' ∧ (l.inFlow ∨ isGap r) then l.value
  else if c = '*' then l.anchor .alias
  else if c = '&' then l.anchor .anchor
  else if c = '!' then l.tag
  else if (c = '|' ∨ c = '>') ∧ !l.inFlow then l.blockScalar
  else if c = '\'' ∨ c = '"' then l.quotedScalar
  else if !(isSpace c || neverPlain.contains c) || (c == '-' && !isGap r) ||
      (!l.inFlow && (c == '?' || c == ':') && !isGap r) then l.plainScalar
  else none

def finish (l : Lexer) : Option Lexer := (l.unroll (-1)).removeKey

def run : Nat → Lexer → Option Lexer
  | 0, _ => none
  | fuel + 1, l => do
    let l ← (skipGap (l.place.rest.length + 1) l).dropStale
    let l := l.unroll l.column
    match l.place.rest with
    | [] => l.finish
    | c :: r => run fuel (← l.next c r)

end Lexer

def isPrintable (c : Char) : Bool :=
  let n := c.toNat
  n == 9 || n == 10 || n == 13 || (0x20 ≤ n && n ≤ 0x7E) || n == 0x85 ||
    (0xA0 ≤ n && n ≤ 0xD7FF) || (0xE000 ≤ n && n ≤ 0xFFFD) || 0x10000 ≤ n

def tokenize (cs : List Char) : Option (List Token) :=
  if cs.all isPrintable then
    let cs := normalLines cs
    (Lexer.run (cs.length + 2) { place := { rest := cs } }).map fun l => l.tokens.reverse
  else none

end Scenario.Yaml

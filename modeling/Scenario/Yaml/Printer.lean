import Scenario.Path
import Scenario.Yaml.Value

/-!
# Printing of YAML

Print as `serde_yaml` writes it. Lists and records are printed as blocks of
lines. A text is plain unless it would read as another value or as structure;
then it is quoted, with double quotes if it needs escapes. A text of several
lines is a literal block. A line that a separator ends within the text is ended
by it in print as well.
-/

set_option autoImplicit false

namespace Scenario.Yaml
open Scenario.Text

structure Line where
  text : List Char
  lineEnd : Char := '\n'
  deriving DecidableEq, Repr

def Line.prepend (mark : List Char) (l : Line) : Line := { l with text := mark ++ l.text }

def linesOf : List Char → List Line
  | [] => [⟨[], '\n'⟩]
  | c :: r =>
    if isBreak c then ⟨[], c⟩ :: linesOf r
    else match linesOf r with
      | l :: ls => l.prepend [c] :: ls
      | [] => [⟨[c], '\n'⟩]

def isVisible (c : Char) : Bool :=
  let n := c.toNat
  n == 10 || (0x20 ≤ n && n ≤ 0x7E) || (0xA0 ≤ n && n ≤ 0xD7FF) ||
    (0xE000 ≤ n && n ≤ 0xFFFD && n != 0xFEFF) || 0x10000 ≤ n

/-- The text would read as a value of another kind, or nearly as a number. -/
def isAmbiguous (s : String) : Bool :=
  match plainValue s with
  | some (.text _) => isPaddedNumber s.toList
  | _ => true

def neverFirst : List Char :=
  ['#', ',', '[', ']', '\x7b', '\x7d', '&', '*', '!', '|', '>', '\'', '"', '%', '@', Char.ofNat 96]

def hasMark : List Char → Bool
  | ':' :: r => isGap r || hasMark r
  | c :: '#' :: r => isSpace c || isBreak c || hasMark ('#' :: r)
  | _ :: r => hasMark r
  | [] => false

def isStructure (cs : List Char) : Bool :=
  ['-', '-', '-'].isPrefixOf cs || ['.', '.', '.'].isPrefixOf cs || hasMark cs ||
    (match cs with
      | c :: r => neverFirst.contains c || ((c == '?' || c == '-') && isGap r)
      | [] => false)

def meets (p q : Char → Bool) : List Char → Bool
  | c :: d :: r => (p c && q d) || meets p q (d :: r)
  | _ => false

def isBlankChar (c : Char) : Bool := c == ' '

def mayBePlain (cs : List Char) : Bool :=
  cs.all isVisible && !cs.any isBreak && !isStructure cs &&
    cs.head? != some ' ' && cs.getLast? != some ' '

def mayBeSingleQuoted (cs : List Char) : Bool :=
  cs.all isVisible && !meets isBlankChar isBreak cs && !meets isBreak isBlankChar cs

def mayBeLiteral (cs : List Char) : Bool :=
  cs.all isVisible && !meets isBlankChar isBreak cs && cs.getLast? != some ' '

def escapeLetter? : Nat → Option Char
  | 0 => some '0'
  | 7 => some 'a'
  | 8 => some 'b'
  | 9 => some 't'
  | 10 => some 'n'
  | 11 => some 'v'
  | 12 => some 'f'
  | 13 => some 'r'
  | 0x1B => some 'e'
  | 0x22 => some '"'
  | 0x5C => some '\\'
  | 0x85 => some 'N'
  | 0x2028 => some 'L'
  | 0x2029 => some 'P'
  | _ => none

def escapeInQuotes (c : Char) : List Char :=
  let n := c.toNat
  match escapeLetter? n with
  | some l => ['\\', l]
  | none =>
    if isVisible c then [c]
    else if n ≤ 0xFF then '\\' :: 'x' :: upperHexDigits 2 n
    else if n ≤ 0xFFFF then '\\' :: 'u' :: upperHexDigits 4 n
    else '\\' :: 'U' :: upperHexDigits 8 n

def doubleQuoted (cs : List Char) : List Char := '"' :: (cs.flatMap escapeInQuotes ++ ['"'])

def singleQuoted (cs : List Char) : List Char :=
  '\'' :: (cs.flatMap (fun c => if c == '\'' then ['\'', '\''] else [c]) ++ ['\''])

/-- The header of a literal block: two blanks are announced if the text itself
begins with a blank or a line end, and what is done with the line ends behind it. -/
def literalHeader (cs : List Char) : List Char :=
  let starts := match cs with
    | c :: _ => if c == ' ' || isBreak c then ['2'] else []
    | [] => []
  let ends := match cs.reverse with
    | [] => ['-']
    | c :: r =>
      if !isBreak c then ['-']
      else if r.isEmpty || r.head?.any isBreak then ['+']
      else []
  '|' :: (starts ++ ends)

def literalLines (cs : List Char) : List Line :=
  let ls := linesOf cs
  if cs.getLast?.any isBreak then ls.dropLast else ls

def textLines (s : String) : List Line :=
  let cs := s.toList
  if cs.contains '\n' then
    if mayBeLiteral cs then ⟨literalHeader cs, '\n'⟩ :: literalLines cs
    else [⟨doubleQuoted cs, '\n'⟩]
  else if !isAmbiguous s && mayBePlain cs then [⟨cs, '\n'⟩]
  else if mayBeSingleQuoted cs then linesOf (singleQuoted cs)
  else [⟨doubleQuoted cs, '\n'⟩]

def Line.indented (l : Line) : Line := if l.text.isEmpty then l else l.prepend [' ', ' ']

/-- Hangs a block of lines below a mark of two characters. -/
def hang (mark : List Char) : List Line → List Line
  | [] => [⟨mark, '\n'⟩]
  | l :: r => l.prepend mark :: r.map Line.indented

def keyChars (k : String) : List Char :=
  match textLines k with
  | [l] => l.text
  | _ => doubleQuoted k.toList

def oneLine (s : String) : List Line := [⟨s.toList, '\n'⟩]

mutual
def valueLines : Json → List Line
  | .str s => textLines s
  | .arr [] => oneLine "[]"
  | .arr items => itemLines items
  | .obj [] => oneLine "\x7b\x7d"
  | .obj members => memberLines members
  | .null => oneLine "null"
  | .bool b => oneLine (if b then "true" else "false")
  | .int i => oneLine (intText i)
  | .float x => oneLine (Json.floatText x)
def itemLines : List Json → List Line
  | [] => []
  | v :: r => hang ['-', ' '] (valueLines v) ++ itemLines r
def memberLines : List (String × Json) → List Line
  | [] => []
  | (k, v) :: r =>
    let key := keyChars k ++ [':']
    let lines := valueLines v
    let here := match v with
      | .arr (_ :: _) => ⟨key, '\n'⟩ :: lines
      | .obj (_ :: _) => ⟨key, '\n'⟩ :: lines.map Line.indented
      | _ => hang (key ++ [' ']) lines
    here ++ memberLines r
end

def print (v : Json) : String :=
  String.ofList ((valueLines v).flatMap fun l => l.text ++ [l.lineEnd])

end Scenario.Yaml

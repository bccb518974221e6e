import Scenario.Json.Parser
import Scenario.Text.Integer

/-!
# Scalars of YAML

The text that `serde_yaml` reads from a scalar in one of five styles: plain,
quoted in two ways, literal and folded. Line ends inside plain and quoted
scalars fold into blanks.
-/

set_option autoImplicit false

namespace Scenario.Yaml
open Scenario.Text

inductive Style where
  | plain
  | quoted
  | literal
  | folded
  deriving DecidableEq, Repr

structure Place where
  rest : List Char
  line : Nat := 0
  column : Nat := 0
  offset : Nat := 0
  deriving Inhabited

def isBreak (c : Char) : Bool := c == '\n' || c.toNat == 0x2028 || c.toNat == 0x2029

def byteOrderMark : Char := Char.ofNat 0xFEFF

def isSpace (c : Char) : Bool := c == ' ' || c == '\t'

def isBreakOrEnd : List Char → Bool
  | [] => true
  | c :: _ => isBreak c

def isGap : List Char → Bool
  | [] => true
  | c :: _ => isSpace c || isBreak c

def Place.next (p : Place) : Place :=
  match p.rest with
  | [] => p
  | c :: r =>
    if isBreak c then ⟨r, p.line + 1, 0, p.offset + 1⟩ else ⟨r, p.line, p.column + 1, p.offset + 1⟩

def Place.skip (p : Place) : Nat → Place
  | 0 => p
  | n + 1 => p.next.skip n

def normalLines : List Char → List Char
  | '\r' :: '\n' :: r => '\n' :: normalLines r
  | '\r' :: r => '\n' :: normalLines r
  | c :: r => (if c.toNat = 0x85 then '\n' else c) :: normalLines r
  | [] => []

def isDocumentMark : List Char → Bool
  | '-' :: '-' :: '-' :: r => isGap r
  | '.' :: '.' :: '.' :: r => isGap r
  | _ => false

/-- Blanks seen since the last text; `breaks` are the line ends among them,
once there is one: the first, unless it was escaped, and those after it. -/
structure Gap where
  spaces : List Char := []
  breaks : Option (Option Char × List Char) := none

def Gap.text (g : Gap) : List Char :=
  match g.breaks with
  | some (some '\n', []) => [' ']
  | some (some '\n', more) => more
  | some (first, more) => first.toList ++ more
  | none => g.spaces.reverse

def Gap.isEmpty (g : Gap) : Bool := g.spaces.isEmpty && g.breaks.isNone

def Gap.lineEnd (g : Gap) (c : Char) : Gap :=
  match g.breaks with
  | some (first, more) => ⟨[], some (first, more ++ [c])⟩
  | none => ⟨[], some (some c, [])⟩

def Gap.escapedLineEnd : Gap := ⟨[], some (none, [])⟩

def Gap.space (g : Gap) (c : Char) : Gap :=
  if g.breaks.isSome then g else { g with spaces := c :: g.spaces }

def flowMarks : List Char := [',', '[', ']', '{', '}']

/-- A plain scalar, the place after the blanks behind it, and whether a line
ended there. Text is kept in reverse. -/
def plainFrom (inFlow : Bool) (indent : Nat) :
    Nat → Place → List Char → Gap → Option (List Char × Place × Bool)
  | 0, p, text, gap => some (text.reverse, p, gap.breaks.isSome)
  | fuel + 1, p, text, gap =>
    match p.rest with
    | [] => some (text.reverse, p, gap.breaks.isSome)
    | c :: r =>
      if isBreak c then plainFrom inFlow indent fuel p.next text (gap.lineEnd c)
      else if isSpace c then
        if c = '\t' ∧ gap.breaks.isSome ∧ p.column < indent then none
        else plainFrom inFlow indent fuel p.next text (gap.space c)
      else if (!inFlow && gap.breaks.isSome && p.column < indent) ||
          (p.column = 0 && isDocumentMark p.rest) || (!gap.isEmpty && c == '#') then
        some (text.reverse, p, gap.breaks.isSome)
      else if inFlow && c == ':' && startsFlowMark r then none
      else if (c == ':' && isGap r) || (inFlow && flowMarks.contains c) then
        some (text.reverse, p, gap.breaks.isSome)
      else plainFrom inFlow indent fuel p.next (c :: (gap.text.reverse ++ text)) {}
where
  startsFlowMark (cs : List Char) : Bool :=
    cs.head?.any fun d => d == '?' || flowMarks.contains d

def plain (inFlow : Bool) (indent : Nat) (p : Place) : Option (List Char × Place × Bool) :=
  plainFrom inFlow indent p.rest.length p [] {}

def simpleEscape (c : Char) : Option Char :=
  match c with
  | '0' => some (Char.ofNat 0)
  | 'a' => some (Char.ofNat 7)
  | 'b' => some (Char.ofNat 8)
  | 't' => some '\t'
  | '\t' => some '\t'
  | 'n' => some '\n'
  | 'v' => some (Char.ofNat 11)
  | 'f' => some (Char.ofNat 12)
  | 'r' => some '\r'
  | 'e' => some (Char.ofNat 27)
  | ' ' => some ' '
  | '"' => some '"'
  | '/' => some '/'
  | '\\' => some '\\'
  | 'N' => some (Char.ofNat 0x85)
  | '_' => some (Char.ofNat 0xA0)
  | 'L' => some (Char.ofNat 0x2028)
  | 'P' => some (Char.ofNat 0x2029)
  | _ => none

def hexNumber : List Char → Option Nat
  | cs => cs.foldl (fun n c => do return (← n) * 16 + (← digit? 16 c)) (some 0)

def escape : List Char → Option (Char × Nat)
  | [] => none
  | c :: r =>
    match simpleEscape c with
    | some d => some (d, 1)
    | none =>
      let width := if c = 'x' then 2 else if c = 'u' then 4 else if c = 'U' then 8 else 0
      if width = 0 ∨ r.length < width then none
      else match hexNumber (r.take width) with
        | some n => if n.isValidChar then some (Char.ofNat n, width + 1) else none
        | none => none

def quotedFrom (double : Bool) : Nat → Place → List Char → Gap → Option (List Char × Place)
  | 0, _, _, _ => none
  | fuel + 1, p, text, gap =>
    if p.column = 0 ∧ isDocumentMark p.rest then none
    else match p.rest with
      | [] => none
      | c :: r =>
        if isBreak c then quotedFrom double fuel p.next text (gap.lineEnd c)
        else if isSpace c then quotedFrom double fuel p.next text (gap.space c)
        else
          let text := gap.text.reverse ++ text
          if double then
            if c = '"' then some (text.reverse, p.next)
            else if c = '\\' then
              match r with
              | d :: _ =>
                if isBreak d then quotedFrom double fuel (p.skip 2) text .escapedLineEnd
                else match escape r with
                  | some (e, n) => quotedFrom double fuel (p.skip (n + 1)) (e :: text) {}
                  | none => none
              | [] => none
            else quotedFrom double fuel p.next (c :: text) {}
          else if c = '\'' then
            match r with
            | '\'' :: _ => quotedFrom double fuel (p.skip 2) ('\'' :: text) {}
            | _ => some (text.reverse, p.next)
          else quotedFrom double fuel p.next (c :: text) {}

def quoted (p : Place) : Option (List Char × Place) :=
  quotedFrom (p.rest.head? == some '"') (p.rest.length + 1) p.next [] {}

inductive Chomp where
  | strip
  | clip
  | keep

def blockHeader (cs : List Char) : Option (Chomp × Option Nat × Nat) :=
  let chomp? (c : Char) : Option Chomp :=
    if c = '+' then some .keep else if c = '-' then some .strip else none
  match cs with
  | a :: r =>
    match chomp? a with
    | some k =>
      match r.head?.bind (digit? 10) with
      | some 0 => none
      | some n => some (k, some n, 2)
      | none => some (k, none, 1)
    | none =>
      match digit? 10 a with
      | some 0 => none
      | some n =>
        match r.head?.bind chomp? with
        | some k => some (k, some n, 2)
        | none => some (.clip, some n, 1)
      | none => some (.clip, none, 0)
  | [] => some (.clip, none, 0)

def skipSpaces : Nat → Place → Place
  | 0, p => p
  | fuel + 1, p =>
    match p.rest with
    | c :: _ => if isSpace c then skipSpaces fuel p.next else p
    | [] => p

def skipLine : Nat → Place → Place
  | 0, p => p
  | fuel + 1, p => if isBreakOrEnd p.rest then p else skipLine fuel p.next

/-- Blank lines and the indentation before the next line of a block scalar;
`indent` is unknown before the first line. -/
def blockBreaks : Nat → Option Nat → Nat → Place → List Char → Option (Nat × Place × List Char)
  | 0, indent, deepest, p, breaks => some (indent.getD deepest, p, breaks.reverse)
  | fuel + 1, indent, deepest, p, breaks =>
    let inIndent : Bool := match indent with
      | some n => p.column < n
      | none => true
    match p.rest with
    | ' ' :: _ =>
      if inIndent then blockBreaks fuel indent deepest p.next breaks
      else some (indent.getD 0, p, breaks.reverse)
    | c :: _ =>
      if c = '\t' ∧ inIndent then none
      else if isBreak c then blockBreaks fuel indent (max deepest p.column) p.next (c :: breaks)
      else some (indent.getD (max deepest p.column), p, breaks.reverse)
    | [] => some (indent.getD (max deepest p.column), p, breaks.reverse)

def lineText : Nat → Place → List Char → List Char × Place
  | 0, p, text => (text, p)
  | fuel + 1, p, text =>
    match p.rest with
    | [] => (text, p)
    | c :: _ => if isBreak c then (text, p) else lineText fuel p.next (c :: text)

/-- The lines of a block scalar. Text is kept in reverse; `lead` is the line
end before the place and `breaks` the blank lines after it. -/
def blockLines (literal : Bool) (indent : Nat) :
    Nat → Place → List Char → Option Char → List Char → Bool →
      Option (List Char × Option Char × List Char × Place)
  | 0, p, text, lead, breaks, _ => some (text, lead, breaks, p)
  | fuel + 1, p, text, lead, breaks, leadingBlank =>
    match p.rest with
    | [] => some (text, lead, breaks, p)
    | c :: _ =>
      if p.column ≠ indent then some (text, lead, breaks, p)
      else
        let blank := isSpace c
        let joined :=
          if !literal && lead == some '\n' && !leadingBlank && !blank then
            (if breaks.isEmpty then [' '] else [])
          else lead.toList
        let (text, p) := lineText p.rest.length p (breaks.reverse ++ joined.reverse ++ text)
        let lead := p.rest.head?
        match blockBreaks p.next.rest.length (some indent) 0 p.next [] with
        | some (_, p, breaks) => blockLines literal indent fuel p text lead breaks blank
        | none => none

def block (parent : Int) (p : Place) : Option (List Char × Place) :=
  let literal := p.rest.head? == some '|'
  match blockHeader (p.rest.drop 1) with
  | none => none
  | some (chomp, increment, width) =>
    let p := skipSpaces p.rest.length (p.skip (width + 1))
    let p := if p.rest.head? == some '#' then skipLine p.rest.length p else p
    if !isBreakOrEnd p.rest then none
    else
      let p := p.next
      let given := increment.map fun n => if 0 ≤ parent then parent.toNat + n else n
      match blockBreaks (p.rest.length + 1) given 0 p [] with
      | none => none
      | some (found, p, breaks) =>
        let indent := match given with
          | some n => n
          | none => max found (max (parent + 1).toNat 1)
        match blockLines literal indent (p.rest.length + 1) p [] none breaks false with
        | none => none
        | some (text, lead, breaks, p) =>
          let text := match chomp with
            | .strip => text
            | .clip => lead.toList ++ text
            | .keep => breaks.reverse ++ lead.toList ++ text
          some (text.reverse, p)

end Scenario.Yaml

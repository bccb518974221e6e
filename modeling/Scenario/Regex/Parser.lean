import Scenario.Regex.Property
import Scenario.Regex.Size
import Scenario.Text.Blank
import Scenario.Text.Integer

/-!
# Pattern syntax

The syntax of the `regex` library: alternatives, groups with flags, repetitions,
classes with set operations, escapes and assertions. Backward references and
look-around are refused, as is any repetition without an operand.
-/

set_option autoImplicit false

namespace Scenario.Regex
open Scenario.Text

structure Flags where
  ignoreCase : Bool := false
  multiLine : Bool := false
  dotAll : Bool := false
  verbose : Bool := false
  anyLineEnd : Bool := false
  unicode : Bool := true
  deriving Inhabited, Repr

def skipVerbose : Nat → List Char → List Char
  | 0, cs => cs
  | _, [] => []
  | fuel + 1, c :: r =>
    if isBlank c then skipVerbose fuel r
    else if c = '#' then skipVerbose fuel (r.dropWhile (· != '\n'))
    else c :: r

def Flags.skip (f : Flags) (cs : List Char) : List Char :=
  if f.verbose then skipVerbose (cs.length + 1) cs else cs

def Flags.words (f : Flags) : WordRule := if f.unicode then .unicode else .ascii

def Flags.lines (f : Flags) : LineRule := if f.anyLineEnd then .either else .feed

/-- Without Unicode a class holds bytes, and none may be a part of a longer character. -/
def Flags.admits (f : Flags) (s : CharSet) : Option CharSet :=
  if f.unicode || s.isAscii then some s else none

def Flags.fold (f : Flags) (s : CharSet) : CharSet :=
  if f.ignoreCase then (if f.unicode then s.anyCase else s.anyAsciiCase) else s

/-- Letters are brought together before the set is turned around. -/
def Flags.close (f : Flags) (negated : Bool) (s : CharSet) : Option CharSet :=
  let s := f.fold s
  f.admits (if negated then s.negate else s)

/-- A literal character; `isByte` marks one written as a byte of two hexadecimal digits. -/
structure Literal where
  char : Char
  isByte : Bool := false

def Flags.literal (f : Flags) (l : Literal) : Option Char :=
  if !f.unicode && l.isByte && l.char.toNat ≥ 128 then none else some l.char

def Flags.literalSet (f : Flags) (l : Literal) : Option CharSet :=
  (f.literal l).map fun c => f.fold (.single c)

def Flags.member (f : Flags) (l : Literal) : Option Nat :=
  (f.literal l).bind fun c => if f.unicode || c.toNat < 128 then some c.toNat else none

def isHex (c : Char) : Bool := (digit? 16 c).isSome

def codeChar (n : Nat) : Option Char :=
  if n.isValidChar then some (Char.ofNat n) else none

def hexNumber (cs : List Char) : Nat := cs.foldl (fun n c => n * 16 + (digit? 16 c).getD 0) 0

def spaced (f : Flags) : Nat → List Char → List Char × List Char
  | 0, cs => ([], cs)
  | n + 1, cs =>
    match f.skip cs with
    | [] => ([], [])
    | c :: r =>
      let (taken, rest) := spaced f n r
      (c :: taken, rest)

def spacedBrace (f : Flags) : Nat → List Char → Option (List Char × List Char)
  | 0, _ => none
  | n + 1, cs =>
    match f.skip cs with
    | [] => none
    | c :: r =>
      if c = '}' then some ([], r)
      else (spacedBrace f n r).map fun (taken, rest) => (c :: taken, rest)

def hexEscape (f : Flags) (width : Nat) (cs : List Char) : Option (Literal × List Char) :=
  match f.skip cs with
  | '{' :: r =>
    match spacedBrace f (r.length + 1) r with
    | some (digits, rest) =>
      if digits.isEmpty || !digits.all isHex then none
      else (codeChar (hexNumber digits)).map fun c => (⟨c, false⟩, rest)
    | none => none
  | cs =>
    let (digits, rest) := spaced f width cs
    if digits.length < width || !digits.all isHex then none
    else (codeChar (hexNumber digits)).map fun c => (⟨c, width == 2⟩, rest)

def splitValue (cs : List Char) : Option (List Char × List Char) :=
  let cut (test : Char → Bool) :=
    let name := cs.takeWhile (!test ·)
    if name.length < cs.length then some (name, cs.drop (name.length + 1)) else none
  match unequal [] cs with
  | some e => some e
  | none =>
    match cut (· == ':') with
    | some e => some e
    | none => cut (· == '=')
where
  unequal : List Char → List Char → Option (List Char × List Char)
    | before, '!' :: '=' :: r => some (before.reverse, r)
    | before, c :: r => unequal (c :: before) r
    | _, [] => none

def propertyEscape (f : Flags) (negated : Bool) (cs : List Char) : Option (CharSet × List Char) :=
  let found : Option (Option CharSet × List Char) :=
    match f.skip cs with
    | '{' :: r =>
      (spacedBrace f (r.length + 1) r).map fun (body, rest) =>
        match splitValue body with
        | some (property, value) => (valuedSet? property value, rest)
        | none => (namedSet? body, rest)
    | '\\' :: _ => none
    | c :: r => some (namedSet? [c], r)
    | [] => none
  match found with
  | some (some s, rest) => if f.unicode then (f.close negated s).map (·, rest) else none
  | _ => none

def asciiDigits : CharSet := .range 48 57

def asciiBlanks : CharSet := .ofRuns [(9, 13), (32, 32)]

def asciiWords : CharSet := .ofRuns [(48, 57), (65, 90), (95, 95), (97, 122)]

def blankSet : CharSet := listedSet "White_Space"

def Flags.shorthand (f : Flags) (c : Char) : Option CharSet :=
  let base := match c.toLower with
    | 'd' => if f.unicode then decimalSet else asciiDigits
    | 's' => if f.unicode then blankSet else asciiBlanks
    | _ => if f.unicode then wordSet else asciiWords
  f.admits (if c.isUpper then base.negate else base)

inductive Escape where
  | literal (l : Literal)
  | class (s : CharSet)
  | look (l : Look)

def isEscapable (c : Char) : Bool :=
  c.toNat < 128 && !c.isAlphanum && c != '<' && c != '>'

def isBoundaryLetter (c : Char) : Bool := c.isAlpha || c == '-'

/-- A kind of word boundary in braces. Where no letter follows the brace, nothing is taken. -/
def boundaryKind (f : Flags) (cs : List Char) : Option (Look × List Char) :=
  let w := f.words
  match cs with
  | '{' :: r =>
    match f.skip r with
    | [] => none
    | c :: _ =>
      if !isBoundaryLetter c then some (.boundary w, cs)
      else
        match spacedBrace f (r.length + 1) r with
        | some (body, rest) =>
          match String.ofList body with
          | "start" => some (.wordStart w, rest)
          | "end" => some (.wordStop w, rest)
          | "start-half" => some (.halfStart w, rest)
          | "end-half" => some (.halfStop w, rest)
          | _ => none
        | none => none
  | cs => some (.boundary w, cs)

def escape (f : Flags) (cs : List Char) : Option (Escape × List Char) :=
  let literal (n : Nat) (r : List Char) := some (Escape.literal ⟨Char.ofNat n, false⟩, r)
  let look (l : Look) (r : List Char) := some (Escape.look l, r)
  match cs with
  | [] => none
  | 'x' :: r => (hexEscape f 2 r).map fun (l, r) => (.literal l, r)
  | 'u' :: r => (hexEscape f 4 r).map fun (l, r) => (.literal l, r)
  | 'U' :: r => (hexEscape f 8 r).map fun (l, r) => (.literal l, r)
  | 'p' :: r => (propertyEscape f false r).map fun (s, r) => (.class s, r)
  | 'P' :: r => (propertyEscape f true r).map fun (s, r) => (.class s, r)
  | 'a' :: r => literal 7 r
  | 'f' :: r => literal 12 r
  | 't' :: r => literal 9 r
  | 'n' :: r => literal 10 r
  | 'r' :: r => literal 13 r
  | 'v' :: r => literal 11 r
  | 'A' :: r => look .start r
  | 'z' :: r => look .stop r
  | '<' :: r => look (.wordStart f.words) r
  | '>' :: r => look (.wordStop f.words) r
  | 'B' :: r => look (.notBoundary f.words) r
  | 'b' :: r => (boundaryKind f r).map fun (l, r) => (.look l, r)
  | c :: r =>
    if "dDsSwW".toList.contains c then (f.shorthand c).map fun s => (.class s, r)
    else if isEscapable c then literal c.toNat r
    else none

def asciiClass? (name : String) : Option CharSet :=
  let of (rs : List (Nat × Nat)) := some (CharSet.ofRuns rs)
  match name with
  | "alnum" => of [(48, 57), (65, 90), (97, 122)]
  | "alpha" => of [(65, 90), (97, 122)]
  | "ascii" => of [(0, 127)]
  | "blank" => of [(9, 9), (32, 32)]
  | "cntrl" => of [(0, 31), (127, 127)]
  | "digit" => some asciiDigits
  | "graph" => of [(33, 126)]
  | "lower" => of [(97, 122)]
  | "print" => of [(32, 126)]
  | "punct" => of [(33, 47), (58, 64), (91, 96), (123, 126)]
  | "space" => some asciiBlanks
  | "upper" => of [(65, 90)]
  | "word" => some asciiWords
  | "xdigit" => of [(48, 57), (65, 70), (97, 102)]
  | _ => none

def namedClass (cs : List Char) : Option (Bool × CharSet × List Char) :=
  match cs with
  | ':' :: r =>
    let (negated, r) := match r with
      | '^' :: r => (true, r)
      | r => (false, r)
    let name := r.takeWhile (· != ':')
    match r.drop name.length with
    | ':' :: ']' :: rest => (asciiClass? (String.ofList name)).map fun s => (negated, s, rest)
    | _ => none
  | _ => none

inductive ClassItem where
  | literal (l : Literal)
  | class (s : CharSet)

def classItem (f : Flags) (cs : List Char) : Option (ClassItem × List Char) :=
  match cs with
  | [] => none
  | '\\' :: r =>
    match escape f r with
    | some (.literal l, r) => some (.literal l, r)
    | some (.class s, r) => some (.class s, r)
    | _ => none
  | c :: r => some (.literal ⟨c, false⟩, r)

def ClassItem.set (f : Flags) : ClassItem → Option CharSet
  | .literal l => (f.member l).map fun n => .range n n
  | .class s => some s

def rangeSet (f : Flags) (lo hi : Literal) : Option CharSet :=
  match f.member lo, f.member hi with
  | some a, some b => if a ≤ b then some (.range a b) else none
  | _, _ => none

inductive SetOp where
  | inter
  | diff
  | either

def SetOp.apply : SetOp → CharSet → CharSet → CharSet
  | .inter, a, b => a.inter b
  | .diff, a, b => a.diff b
  | .either, a, b => a.either b

/-- Items of a class side by side: their union, their number, and how deep they nest. -/
structure Items where
  set : CharSet := .empty
  count : Nat := 0
  depth : Nat := 0

def Items.add (items : Items) (s : CharSet) (depth : Nat) : Items :=
  ⟨items.set.union s, items.count + 1, max items.depth depth⟩

def Items.total (items : Items) : Nat := if items.count ≤ 1 then items.depth else items.depth + 1

structure Pending where
  op : SetOp
  set : CharSet
  depth : Nat

def finish (f : Flags) (pending : Option Pending) (items : Items) : CharSet × Nat :=
  match pending with
  | some p => (p.op.apply p.set (f.fold items.set), max p.depth items.total + 1)
  | none => (items.set, items.total)

/-- Hyphens that open a class, and a closing bracket right after the opening
one, stand for themselves. -/
def classHead : Nat → Flags → Items → List Char → Items × List Char
  | 0, _, items, cs => (items, cs)
  | fuel + 1, f, items, cs =>
    match f.skip cs with
    | '-' :: r => classHead fuel f (items.add (.single '-') 0) r
    | ']' :: r => if items.count = 0 then (items.add (.single ']') 0, r) else (items, ']' :: r)
    | cs => (items, cs)

def opening (f : Flags) (cs : List Char) : Bool × Items × List Char :=
  let (negated, body) := match f.skip cs with
    | '^' :: r => (true, r)
    | r => (false, r)
  let (items, rest) := classHead (body.length + 1) f {} body
  (negated, items, rest)

def classBody : Nat → Flags → Bool → Option Pending → Items → List Char →
    Option (CharSet × Nat × List Char)
  | 0, _, _, _, _, _ => none
  | fuel + 1, f, negated, pending, items, cs =>
    let operator (op : SetOp) (r : List Char) :=
      let (s, depth) := finish f pending items
      classBody fuel f negated (some ⟨op, f.fold s, depth⟩) {} r
    let add (s : CharSet) (depth : Nat) (r : List Char) :=
      classBody fuel f negated pending (items.add s depth) r
    match f.skip cs with
    | [] => none
    | ']' :: r =>
      let (s, depth) := finish f pending items
      (f.close negated s).map fun s => (s, depth + 1, r)
    | '[' :: r =>
      match namedClass r with
      | some (inner, s, r) =>
        match f.close inner s with
        | some s => add s 0 r
        | none => none
      | none =>
        let (inner, head, rest) := opening f r
        match classBody fuel f inner none head rest with
        | some (s, depth, r) => add s depth r
        | none => none
    | '&' :: '&' :: r => operator .inter r
    | '-' :: '-' :: r => operator .diff r
    | '~' :: '~' :: r => operator .either r
    | cs =>
      match classItem f cs with
      | none => none
      | some (a, r) =>
        let alone :=
          match a.set f with
          | some s => add s 0 r
          | none => none
        match f.skip r with
        | '-' :: r' =>
          match f.skip r' with
          | ']' :: _ => alone
          | '-' :: _ => alone
          | r'' =>
            match a, classItem f r'' with
            | .literal lo, some (.literal hi, r) =>
              match rangeSet f lo hi with
              | some s => add s 0 r
              | none => none
            | _, _ => none
        | _ => alone

def bracket (f : Flags) (cs : List Char) : Option (CharSet × Nat × List Char) :=
  let (negated, items, rest) := opening f cs
  classBody (2 * cs.length + 2) f negated none items rest

def decimal (f : Flags) (cs : List Char) : Option (Nat × List Char) :=
  let cs := dropBlanks cs
  let (n, rest) := digits cs.length 0 cs
  if (cs.head?.map Char.isDigit).getD false && n < 0x100000000 then
    some (n, trail rest.length rest)
  else none
where
  digits : Nat → Nat → List Char → Nat × List Char
    | 0, n, cs => (n, cs)
    | _, n, [] => (n, [])
    | fuel + 1, n, c :: r =>
      if c.isDigit then digits fuel (n * 10 + (c.toNat - 48)) (f.skip r) else (n, c :: r)
  trail : Nat → List Char → List Char
    | 0, cs => cs
    | _, [] => []
    | fuel + 1, c :: r => if isBlank c then trail fuel (f.skip r) else c :: r

def counted (f : Flags) (cs : List Char) : Option (Nat × Option Nat × List Char) :=
  match decimal f (f.skip cs) with
  | none => none
  | some (n, r) =>
    match r with
    | '}' :: r => some (n, some n, r)
    | ',' :: r =>
      match f.skip r with
      | '}' :: r => some (n, none, r)
      | r =>
        match decimal f r with
        | some (m, '}' :: r) => if n ≤ m then some (n, some m, r) else none
        | _ => none
    | _ => none

/-- A question mark makes a repetition lazy, which changes nothing here. -/
def dropLazy : List Char → List Char
  | '?' :: r => r
  | r => r

/-- A part of a concatenation with its depth; a bare flag group cannot be repeated. -/
inductive Part where
  | pattern (p : Pattern) (depth : Nat)
  | setting
  deriving Inhabited

structure Nested where
  pattern : Pattern
  depth : Nat

def Part.depth : Part → Nat
  | .pattern _ depth => depth
  | .setting => 0

def follow (acc : Pattern) : Part → Pattern
  | .setting => acc
  | .pattern p _ =>
    match acc with
    | .empty => p
    | acc => .seq p acc

def concat (parts : List Part) : Nested :=
  let depth := (parts.map Part.depth).foldl max 0
  ⟨parts.foldl follow .empty, if parts.length ≤ 1 then depth else depth + 1⟩

def alternatives (done : List Nested) (last : Nested) : Nested :=
  match done with
  | [] => last
  | done =>
    ⟨done.foldl (fun acc n => .alt n.pattern acc) last.pattern,
      (done.map Nested.depth).foldl max last.depth + 1⟩

def repeatLast (parts : List Part) (least : Nat) (most : Option Nat) : Option (List Part) :=
  match parts with
  | .pattern p depth :: r => some (.pattern (.rep p least most) (depth + 1) :: r)
  | _ => none

def Flags.assign (f : Flags) (c : Char) (on : Bool) : Option Flags :=
  match c with
  | 'i' => some { f with ignoreCase := on }
  | 'm' => some { f with multiLine := on }
  | 's' => some { f with dotAll := on }
  | 'x' => some { f with verbose := on }
  | 'R' => some { f with anyLineEnd := on }
  | 'u' => some { f with unicode := on }
  | 'U' => some f
  | _ => none

def flagLetters : Flags → Bool → List Char → List Char → Option (Flags × List Char)
  | _, _, _, [] => none
  | f, on, seen, c :: r =>
    if c = ':' ∨ c = ')' then
      if seen.head? = some '-' then none else some (f, c :: r)
    else if seen.contains c then none
    else if c = '-' then flagLetters f false ('-' :: seen) r
    else match f.assign c on with
      | some f => flagLetters f on (c :: seen) r
      | none => none

def isNameStart (c : Char) : Bool := c == '_' || isAlphabetic c

def isNameRest (c : Char) : Bool :=
  c == '_' || c == '.' || c == '[' || c == ']' || isAlphanumeric c

def groupName (cs : List Char) : Option (List Char × List Char) :=
  let name := cs.takeWhile (· != '>')
  match cs.drop name.length, name with
  | '>' :: r, c :: t => if isNameStart c && t.all isNameRest then some (name, r) else none
  | _, _ => none

inductive Group where
  | capture (name : Option (List Char)) (rest : List Char)
  | plain (f : Flags) (rest : List Char)
  | flags (f : Flags) (rest : List Char)

def group (f : Flags) (cs : List Char) : Option Group :=
  match f.skip cs with
  | '?' :: 'P' :: '<' :: r => (groupName r).map fun (n, r) => .capture (some n) r
  | '?' :: '<' :: c :: r =>
    if c = '=' ∨ c = '!' then none
    else (groupName (c :: r)).map fun (n, r) => .capture (some n) r
  | '?' :: r =>
    match flagLetters f true [] r with
    | some (f', ':' :: rest) => some (.plain f' rest)
    | some (f', ')' :: rest) => if r.head? = some ')' then none else some (.flags f' rest)
    | _ => none
  | r => some (.capture none r)

def dot (f : Flags) : Option CharSet :=
  if !f.unicode then none
  else if f.dotAll then some .all
  else if f.anyLineEnd then some (CharSet.ofCodes [10, 13]).negate
  else some (CharSet.ofCodes [10]).negate

/-- Parses up to the end of the enclosing group; yields the pattern, the names
in use and the rest. -/
def body : Nat → Flags → List (List Char) → List Nested → List Part → List Char →
    Option (Nested × List (List Char) × List Char)
  | 0, _, _, _, _, _ => none
  | fuel + 1, f, names, done, parts, cs =>
    let again (p : Pattern) (r : List Char) := body fuel f names done (.pattern p 0 :: parts) r
    let char (s : Option CharSet) (r : List Char) :=
      match s with
      | some s => again (.char s) r
      | none => none
    let repeated (least : Nat) (most : Option Nat) (r : List Char) :=
      match repeatLast parts least most with
      | some parts => body fuel f names done parts (dropLazy r)
      | none => none
    let inside (f' : Flags) (names : List (List Char)) (wrap : Pattern → Pattern)
        (rest : List Char) :=
      match body fuel f' names [] [] rest with
      | some (n, names, ')' :: rest) =>
        body fuel f names done (.pattern (wrap n.pattern) (n.depth + 1) :: parts) rest
      | _ => none
    match f.skip cs with
    | [] => some (alternatives done (concat parts), names, [])
    | ')' :: r => some (alternatives done (concat parts), names, ')' :: r)
    | '|' :: r => body fuel f names (concat parts :: done) [] r
    | '(' :: r =>
      match group f r with
      | none => none
      | some (.flags f' rest) => body fuel f' names done (.setting :: parts) rest
      | some (.plain f' rest) => inside f' names id rest
      | some (.capture none rest) => inside f names .group rest
      | some (.capture (some name) rest) =>
        if names.contains name then none else inside f (name :: names) .group rest
    | '*' :: r => repeated 0 none r
    | '+' :: r => repeated 1 none r
    | '?' :: r => repeated 0 (some 1) r
    | '{' :: r =>
      match counted f r with
      | some (least, most, r) => repeated least most (f.skip r)
      | none => none
    | '[' :: r =>
      match bracket f r with
      | some (s, depth, r) => body fuel f names done (.pattern (.char s) depth :: parts) r
      | none => none
    | '.' :: r => char (dot f) r
    | '^' :: r => again (.look (if f.multiLine then .lineStart f.lines else .start)) r
    | '$' :: r => again (.look (if f.multiLine then .lineStop f.lines else .stop)) r
    | '\\' :: r =>
      match escape f r with
      | some (.literal l, r) => char (f.literalSet l) r
      | some (.class s, r) => again (.char s) r
      | some (.look l, r) => again (.look l) r
      | none => none
    | c :: r => char (f.literalSet ⟨c, false⟩) r

def depthLimit : Nat := 250

def parse (cs : List Char) : Option Pattern :=
  match body (2 * cs.length + 2) {} [] [] [] cs with
  | some (n, _, []) => if n.depth ≤ depthLimit && n.pattern.fits then some n.pattern else none
  | _ => none

def isMatch? (pattern text : String) : Option Bool :=
  (parse pattern.toList).map fun p => p.matchesIn text.toList

/-- A malformed pattern matches nowhere. -/
def isMatch (pattern text : String) : Bool := (isMatch? pattern text).getD false

end Scenario.Regex

import Scenario.Text.CharSet

/-!
# Maps of code points

A table of code points with their images, as runs. An entry `41-5A=61` sends a run to another
one, `100-12E/2=101` every second code point of a run, `132-133:69.6A` a whole run to one text,
and `DF=73.73` a single code point.
-/

set_option autoImplicit false

namespace Scenario.Text

structure CodeRun where
  codes : List (Nat × Nat)
  first : Nat
  image : List Nat
  moves : Bool
  deriving Repr

def CodeRun.image? (r : CodeRun) (n : Nat) : Option (List Nat) :=
  if inRuns n r.codes then some (if r.moves then r.image.map (· + (n - r.first)) else r.image)
  else none

def isImageSign (c : Char) : Bool := c == '=' || c == ':'

def readCodes (cs : List Char) : List Nat :=
  (splitWords [] (cs.map fun c => if c = '.' then ' ' else c)).map hexValue

def readCodeRun (cs : List Char) : CodeRun :=
  let key := cs.takeWhile fun c => !isImageSign c
  let codes := readRun key
  let value := cs.drop key.length
  ⟨codes, (codes.head?.map (·.1)).getD 0, readCodes (value.drop 1), value.head? == some '='⟩

def codeRuns (lines : List String) : List CodeRun :=
  lines.flatMap fun l => (splitWords [] l.toList).map readCodeRun

def imageOf : List CodeRun → Nat → Option (List Nat)
  | [], _ => none
  | r :: rs, n => (r.image? n).or (imageOf rs n)

end Scenario.Text

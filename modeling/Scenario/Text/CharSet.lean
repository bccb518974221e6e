/-!
# Sets of characters

A set of code points is the list of its runs in ascending order, each run given by its first and
last member, with a gap between any two. Membership of the results of the operations is what
their names say.
-/

set_option autoImplicit false

namespace Scenario.Text

structure CharSet where
  runs : List (Nat × Nat)
  deriving Inhabited, DecidableEq, Repr

def lastCode : Nat := 0x10FFFF

def coalesce : Nat × Nat → List (Nat × Nat) → List (Nat × Nat)
  | run, [] => [run]
  | (lo, hi), (lo', hi') :: r =>
    if lo' ≤ hi + 1 then coalesce (lo, max hi hi') r else (lo, hi) :: coalesce (lo', hi') r

def coalesceAll : List (Nat × Nat) → List (Nat × Nat)
  | [] => []
  | run :: r => coalesce run r

def startsFirst (a b : Nat × Nat) : Bool := a.1 ≤ b.1

def gaps : Nat → List (Nat × Nat) → List (Nat × Nat)
  | next, [] => if next ≤ lastCode then [(next, lastCode)] else []
  | next, (lo, hi) :: r =>
    if next < lo then (next, lo - 1) :: gaps (hi + 1) r else gaps (hi + 1) r

def inRuns (n : Nat) : List (Nat × Nat) → Bool
  | [] => false
  | (lo, hi) :: r => if n < lo then false else n ≤ hi || inRuns n r

namespace CharSet

def empty : CharSet := ⟨[]⟩

def range (first last : Nat) : CharSet := ⟨if first ≤ last then [(first, last)] else []⟩

def all : CharSet := range 0 lastCode

def single (c : Char) : CharSet := range c.toNat c.toNat

def ofRuns (rs : List (Nat × Nat)) : CharSet := ⟨coalesceAll (rs.mergeSort startsFirst)⟩

def ofCodes (ns : List Nat) : CharSet := ofRuns (ns.map fun n => (n, n))

def union (a b : CharSet) : CharSet := ⟨coalesceAll (List.merge a.runs b.runs startsFirst)⟩

def negate (a : CharSet) : CharSet := ⟨gaps 0 a.runs⟩

def inter (a b : CharSet) : CharSet := (a.negate.union b.negate).negate

def diff (a b : CharSet) : CharSet := (a.negate.union b).negate

def either (a b : CharSet) : CharSet := (a.diff b).union (b.diff a)

def hasCode (a : CharSet) (n : Nat) : Bool := inRuns n a.runs

def mem (a : CharSet) (c : Char) : Bool := a.hasCode c.toNat

def isAscii (a : CharSet) : Bool := a.runs.all fun r => r.2 < 128

end CharSet

def upperHexValue (c : Char) : Nat := if c.isDigit then c.toNat - 48 else c.toNat - 55

def hexValue (cs : List Char) : Nat := cs.foldl (fun n c => n * 16 + upperHexValue c) 0

def alternate (lo hi : Nat) : List (Nat × Nat) :=
  (List.range ((hi - lo) / 2 + 1)).map fun i => (lo + 2 * i, lo + 2 * i)

/-- One entry of a table: a code point `AA`, a run `41-5A`, or every second code point of a run
`100-12E/2`. -/
def readRun (cs : List Char) : List (Nat × Nat) :=
  let first := cs.takeWhile (· != '-')
  match cs.drop first.length with
  | [] => [(hexValue first, hexValue first)]
  | _ :: r =>
    let last := r.takeWhile (· != '/')
    if last.length < r.length then alternate (hexValue first) (hexValue last)
    else [(hexValue first, hexValue last)]

def splitWords : List Char → List Char → List (List Char)
  | word, [] => if word.isEmpty then [] else [word.reverse]
  | word, c :: r =>
    if c = ' ' then (if word.isEmpty then splitWords [] r else word.reverse :: splitWords [] r)
    else splitWords (c :: word) r

def readRuns (text : String) : List (Nat × Nat) := (splitWords [] text.toList).flatMap readRun

def CharSet.ofLines (lines : List String) : CharSet := .ofRuns (lines.flatMap readRuns)

end Scenario.Text

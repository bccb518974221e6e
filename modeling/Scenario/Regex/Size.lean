import Scenario.Regex.Pattern

/-!
# The size of a pattern

The `regex` library holds a pattern as a machine that reads a text byte by byte
from its end. Repetitions with counts are written out, so that a short pattern
may need a large machine; one that passes the limit is refused. Sizes are in
bytes.
-/

set_option autoImplicit false

namespace Scenario.Regex
open Scenario.Text

def stateSize : Nat := 32

def choiceSize : Nat := 4

def edgeSize : Nat := 8

def sizeLimit : Nat := 10485760

def codeBytes (n : Nat) : List Nat :=
  if n < 0x80 then [n]
  else if n < 0x800 then [0xC0 + n / 64, 0x80 + n % 64]
  else if n < 0x10000 then [0xE0 + n / 4096, 0x80 + n / 64 % 64, 0x80 + n % 64]
  else [0xF0 + n / 262144, 0x80 + n / 4096 % 64, 0x80 + n / 64 % 64, 0x80 + n % 64]

/-- Splits a run at the ends of blocks of `block` code points until its first and last members
agree above the block. -/
def splitAtBlock (block : Nat) (run : Nat × Nat) : List (Nat × Nat) :=
  let (lo, hi) := run
  if lo / block = hi / block then [run]
  else
    let head := if lo % block = 0 then [] else [(lo, lo / block * block + block - 1)]
    let middle := if lo % block = 0 then lo else lo / block * block + block
    let rest := if (hi + 1) % block = 0 then [] else [(hi / block * block, hi)]
    let last := if (hi + 1) % block = 0 then hi else hi / block * block - 1
    head ++ (if middle ≤ last then [(middle, last)] else []) ++ rest

def encodedParts (run : Nat × Nat) : List (Nat × Nat) :=
  [(0, 0x7F), (0x80, 0x7FF), (0x800, 0xD7FF), (0xE000, 0xFFFF), (0x10000, lastCode)].filterMap
    fun part =>
      let lo := max run.1 part.1
      let hi := min run.2 part.2
      if lo ≤ hi then some (lo, hi) else none

def byteSequences (run : Nat × Nat) : List (List (Nat × Nat)) :=
  ((((encodedParts run).flatMap (split 64)).flatMap (split 4096)).flatMap (split 262144)).map
    fun r => List.zip (codeBytes r.1) (codeBytes r.2)
where
  split (block : Nat) (r : Nat × Nat) := if r.1 < 0x80 then [r] else splitAtBlock block r

def commonPrefix : List (Nat × Nat) → List (Nat × Nat) → Nat
  | a :: r, b :: s => if a = b then commonPrefix r s + 1 else 0
  | _, _ => 0

/-- States for sequences that share what they begin with. -/
def sharedStates : List (Nat × Nat) → List (List (Nat × Nat)) → Nat
  | _, [] => 0
  | before, s :: r => s.length - commonPrefix before s + sharedStates s r

def charSize (set : CharSet) : Nat :=
  match set.runs with
  | [(lo, hi)] => if lo = hi then stateSize * (codeBytes lo).length else classSize set
  | _ => classSize set
where
  classSize (set : CharSet) : Nat :=
    if set.isAscii then 2 * stateSize + edgeSize * set.runs.length
    else
      let seqs := set.runs.flatMap byteSequences
      2 * stateSize + choiceSize * seqs.length + stateSize * sharedStates [] seqs

def Pattern.isEmptyOnly : Pattern → Bool
  | .empty => true
  | .char _ => false
  | .look _ => true
  | .seq p q => p.isEmptyOnly && q.isEmptyOnly
  | .alt p q => p.isEmptyOnly && q.isEmptyOnly
  | .rep p _ most => p.isEmptyOnly || most == some 0
  | .group p => p.isEmptyOnly

def Pattern.charSet? : Pattern → Option CharSet
  | .char set => some set
  | .alt p q =>
    match p.charSet?, q.charSet? with
    | some a, some b => some (a.union b)
    | _, _ => none
  | _ => none

/-- The size of a repetition of a pattern of size `n`; what matches only the empty text is
repeated at most once. -/
def repeatedSize (n : Nat) (emptyOnly : Bool) (least : Nat) (most : Option Nat) : Nat :=
  let (least, most) :=
    if emptyOnly then (min least 1, some (min (most.getD 1) 1)) else (least, most)
  let choice := stateSize + 2 * choiceSize
  match most with
  | none => if least = 0 then n + choice else least * n + choice
  | some most =>
    if most = 0 then 0
    else least * n + (most - least) * (n + choice) + (if least < most then stateSize else 0)

def Pattern.size : Pattern → Nat
  | .empty => 0
  | .char set => charSize set
  | .look _ => stateSize
  | .seq p q => p.size + q.size
  | .alt p q =>
    match (Pattern.alt p q).charSet? with
    | some set => charSize set
    | none => p.size + q.size + 2 * choiceSize + 2 * stateSize
  | .rep p least most => repeatedSize p.size p.isEmptyOnly least most
  | .group p => p.size + 2 * stateSize

def Pattern.fits (p : Pattern) : Bool := p.size ≤ sizeLimit

end Scenario.Regex

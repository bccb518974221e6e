import Scenario.Text.Property

/-!
# Patterns and the texts that hold a match

The modules of patterns stand for the `regex` library, with its syntax, its
sets of characters and its limit of size.

A pattern maps the positions where a match may start to those where it may
end. Only the existence of a match is asked, so greed plays no part.
-/

set_option autoImplicit false

namespace Scenario.Regex
open Scenario.Text

inductive WordRule where
  | unicode
  | ascii
  deriving DecidableEq, Repr

/-- What ends a line: a line feed, or also a carriage return, but nothing between the two. -/
inductive LineRule where
  | feed
  | either
  deriving DecidableEq, Repr

inductive Look where
  | start
  | stop
  | lineStart (rule : LineRule)
  | lineStop (rule : LineRule)
  | boundary (rule : WordRule)
  | notBoundary (rule : WordRule)
  | wordStart (rule : WordRule)
  | wordStop (rule : WordRule)
  | halfStart (rule : WordRule)
  | halfStop (rule : WordRule)
  deriving DecidableEq

inductive Pattern where
  | empty
  | char (set : CharSet)
  | look (l : Look)
  | seq (p q : Pattern)
  | alt (p q : Pattern)
  | rep (p : Pattern) (least : Nat) (most : Option Nat)
  | group (p : Pattern)
  deriving Inhabited

def WordRule.holds : WordRule → Option Char → Bool
  | _, none => false
  | .unicode, some c => isWord c
  | .ascii, some c => isAsciiWord c

def Look.holds (l : Look) (before after : Option Char) : Bool :=
  match l with
  | .start => before.isNone
  | .stop => after.isNone
  | .lineStart .feed => before.isNone || before == some '\n'
  | .lineStart .either =>
    before.isNone || before == some '\n' || (before == some '\r' && after != some '\n')
  | .lineStop .feed => after.isNone || after == some '\n'
  | .lineStop .either =>
    after.isNone || after == some '\r' || (after == some '\n' && before != some '\r')
  | .boundary w => w.holds before != w.holds after
  | .notBoundary w => w.holds before == w.holds after
  | .wordStart w => !w.holds before && w.holds after
  | .wordStop w => w.holds before && !w.holds after
  | .halfStart w => !w.holds before
  | .halfStop w => !w.holds after

def surroundings : Option Char → List Char → List (Option Char × Option Char)
  | before, [] => [(before, none)]
  | before, c :: r => (before, some c) :: surroundings (some c) r

def join (a b : List Bool) : List Bool := List.zipWith (· || ·) a b

/-- The positions reached after `n` rounds; a round without effect is the last. -/
def iterate (f : List Bool → List Bool) : Nat → List Bool → List Bool
  | 0, s => s
  | n + 1, s =>
    let next := f s
    if next == s then s else iterate f n next

def upTo (f : List Bool → List Bool) : Nat → List Bool → List Bool
  | 0, s => s
  | n + 1, s =>
    let next := join s (f s)
    if next == s then s else upTo f n next

def advance (cs : List Char) : Pattern → List Bool → List Bool
  | .empty, s => s
  | .char set, s => false :: List.zipWith (fun m c => m && set.mem c) s cs
  | .look l, s => List.zipWith (fun m e => m && l.holds e.1 e.2) s (surroundings none cs)
  | .seq p q, s => advance cs q (advance cs p s)
  | .alt p q, s => join (advance cs p s) (advance cs q s)
  | .rep p least most, s =>
    upTo (advance cs p) (match most with | some m => m - least | none => cs.length + 1)
      (iterate (advance cs p) least s)
  | .group p, s => advance cs p s

/-- Whether the pattern matches somewhere in the text. -/
def Pattern.matchesIn (p : Pattern) (cs : List Char) : Bool :=
  (advance cs p (List.replicate (cs.length + 1) true)).any id

end Scenario.Regex

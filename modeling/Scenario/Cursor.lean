import Scenario.Text.Integer

/-!
# Positions in a list of steps

A cursor stands before the first step or on a step, and knows whether a chain
is waiting and whether its run ended or was stopped. Positions are words of 64
bits with a sign; moving forward stays at the largest one.
-/

set_option autoImplicit false

namespace Scenario

structure Cursor where
  index : Int := -1
  pending : Bool := false
  finished : Bool := false
  stopped : Bool := false
  deriving DecidableEq, Repr, Inhabited

namespace Cursor

def largest : Int := Text.signedWord - 1

/-- Before the first step, with or without a chain to run after the last. -/
def start (pending : Bool) : Cursor := { pending }

def current? (c : Cursor) : Option Nat :=
  match c.index with
  | .ofNat n => some n
  | .negSucc _ => none

def forward (c : Cursor) (n : Nat) : Cursor :=
  { c with index := min largest (c.index + min largest n) }

def startStep (c : Cursor) : Cursor := c.forward 1

/-- Moves to a position given as an unsigned word. -/
def moveTo (c : Cursor) (n : Nat) : Cursor :=
  { c with index := (n : Int).bmod Text.word }

def chainCalled (c : Cursor) : Cursor := { c with pending := false }
def finish (c : Cursor) : Cursor := { c with finished := true }
def stop (c : Cursor) : Cursor := { c with stopped := true }

def needsRunning (c : Cursor) (last : Int) : Bool := !c.stopped && c.index < last

def needsChain (c : Cursor) : Bool := c.pending && !c.stopped

section Places
variable {c : Cursor} {i n : Nat}

theorem current?_eq_some : c.current? = some i ↔ c.index = i := by
  rw [current?]
  cases c.index with
  | ofNat n => exact Option.some_inj.trans Int.ofNat_inj.symm
  | negSucc n =>
    apply iff_of_false
    · simp
    · simp only [Int.negSucc_eq]
      omega

theorem bmod_word (h : (i : Int) ≤ largest) : (i : Int).bmod Text.word = i := by
  apply Int.bmod_eq_of_le
  · simp only [Text.word]
    omega
  · simp only [largest, Text.signedWord, Text.word] at h ⊢
    omega

theorem forward_index (small : (n : Int) ≤ largest) (h : c.index + n ≤ largest) :
    (c.forward n).index = c.index + n := by
  simp only [forward, Int.min_eq_right small, Int.min_eq_right h]

end Places

end Cursor

end Scenario

/-!
# Stop signals

A signal is known by its path: its own mark first, then those of the signals
that it was derived from. Stopping records the own mark, and a signal is
stopped when any mark on its path is recorded.
-/

set_option autoImplicit false

namespace Scenario

structure Signal where
  mark : Nat
  ancestors : List Nat
  deriving DecidableEq, Repr, Inhabited

structure Signals where
  next : Nat := 0
  stopped : List Nat := []
  deriving DecidableEq, Repr, Inhabited

namespace Signals

def fresh (s : Signals) : Signal × Signals := (⟨s.next, []⟩, { s with next := s.next + 1 })

/-- A signal that sees the stops of another one, but not the other way round. -/
def child (s : Signals) (parent : Signal) : Signal × Signals :=
  (⟨s.next, parent.mark :: parent.ancestors⟩, { s with next := s.next + 1 })

def stop (s : Signals) (signal : Signal) : Signals :=
  { s with stopped := signal.mark :: s.stopped }

def isStopped (s : Signals) (signal : Signal) : Bool :=
  (signal.mark :: signal.ancestors).any s.stopped.contains

/-- What can be done with a growing list of signals. -/
inductive Op where
  | fresh
  | child (i : Nat)
  | clone (i : Nat)
  | stop (i : Nat)
  deriving DecidableEq, Repr

/-- Signals in the order in which they were made, and their state. -/
structure Family where
  signals : Signals := {}
  members : List Signal := []
  deriving Inhabited

def Family.first : Family :=
  let (g, s) := Signals.fresh {}
  ⟨s, [g]⟩

/-- An operation on a signal that does not exist changes nothing. -/
def Family.apply (f : Family) : Op → Family
  | .fresh =>
    let (g, s) := f.signals.fresh
    ⟨s, f.members ++ [g]⟩
  | .child i =>
    match f.members[i]? with
    | some p =>
      let (g, s) := f.signals.child p
      ⟨s, f.members ++ [g]⟩
    | none => f
  | .clone i =>
    match f.members[i]? with
    | some p => { f with members := f.members ++ [p] }
    | none => f
  | .stop i =>
    match f.members[i]? with
    | some p => { f with signals := f.signals.stop p }
    | none => f

def Family.states (f : Family) : List Bool := f.members.map f.signals.isStopped

theorem isStopped_stop (s : Signals) (a b : Signal) :
    (s.stop a).isStopped b =
      (s.isStopped b || (b.mark :: b.ancestors).contains a.mark) := by
  simp only [isStopped, stop]
  induction b.mark :: b.ancestors with
  | nil => rfl
  | cons x xs ih =>
    simp only [List.any_cons, ih, List.contains_cons]
    by_cases h : x = a.mark
    · simp [h, Bool.or_comm]
    · have h' : (a.mark == x) = false := by simp [Ne.symm h]
      simp [h, h', Bool.or_assoc]

end Signals

end Scenario

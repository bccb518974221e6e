import Scenario.Step

/-!
# Structured programs

Prints, assignments, loops and conditions form programs with blocks. A program
is written as a flat list of steps, in which a loop or a condition stands
before its body and is told how many steps it owns. What a program means is
said without the list: which steps it starts, and what becomes of the row.
-/

set_option autoImplicit false

namespace Scenario
open Scenario.Text

/-- A step of a kind that is not negated and has the texts that the kind asks for. -/
structure Head (kind : Step.Kind) (keys : List String) where
  step : Step
  isKind : step.kind = kind
  affirmed : step.negated = false
  complete : ∀ key ∈ keys, (step.text? key).isSome = true

namespace Head
variable {kind : Step.Kind} {keys : List String} (h : Head kind keys)

def subStepKey : String := "subStep"

def text (key : String) : String := (h.step.text? key).getD ""

theorem text?_eq {key : String} (hk : key ∈ keys) : h.step.text? key = some (h.text key) := by
  have given := h.complete key hk
  rw [text]
  cases hs : h.step.text? key with
  | none => simp [hs] at given
  | some v => rfl

/-- The step at the head of a block, which owns the steps after it. -/
def owning (n : Nat) : Step := (h.step.builder.put subStepKey (natText n)).build

theorem owning_kind (n : Nat) : (h.owning n).kind = kind := h.isKind

theorem owning_affirmed (n : Nat) : (h.owning n).negated = false := h.affirmed

theorem owning_subStep (n : Nat) : (h.owning n).text? subStepKey = some (natText n) :=
  h.step.text?_put_same _ _

theorem owning_text? {key : String} (hk : key ∈ keys) (ho : key ≠ subStepKey) (n : Nat) :
    (h.owning n).text? key = some (h.text key) := by
  rw [owning, Step.text?_put_other _ _ ho, h.text?_eq hk]

end Head

/-- What is made of a row: the labels of the steps that start, and the row after
them. A count that is no number has no meaning. -/
abbrev Meaning := Row → Option (List String × Row)

namespace Meaning

def idle : Meaning := fun r => some ([], r)

def seq (m m' : Meaning) : Meaning := fun r => do
  let (ls, r) ← m r
  let (ls', r) ← m' r
  some (ls ++ ls', r)

def started (s : Step) (m : Meaning) : Meaning := fun r =>
  if s.isSkipped r then some ([], r)
  else do
    let (ls, r') ← m r
    some (s.label r :: ls, r')

def rounds (m : Meaning) : Nat → Nat → Meaning
  | 0, _ => idle
  | left + 1, i => fun r => m.seq (rounds m left (i + 1)) (r.put "_loopCount" (natText i))

theorem seq_eq_some {m m' : Meaning} {r : Row} {ls : List String} {r' : Row}
    (h : m.seq m' r = some (ls, r')) :
    ∃ k q k', m r = some (k, q) ∧ m' q = some (k', r') ∧ ls = k ++ k' := by
  simp only [seq, Option.bind_eq_bind, Option.bind_eq_some_iff] at h
  obtain ⟨⟨k, q⟩, hk, ⟨k', q'⟩, hk', e⟩ := h
  cases e
  exact ⟨k, q, k', hk, hk', rfl⟩

theorem started_eq_some {s : Step} {m : Meaning} {r : Row} {ls : List String} {r' : Row}
    (h : started s m r = some (ls, r')) (hs : s.isSkipped r = false) :
    ∃ k, m r = some (k, r') ∧ ls = s.label r :: k := by
  simp only [started, hs, Bool.false_eq_true, if_false, Option.bind_eq_bind,
    Option.bind_eq_some_iff] at h
  obtain ⟨⟨k, q⟩, hk, e⟩ := h
  cases e
  exact ⟨k, hk, rfl⟩

end Meaning

inductive Program where
  | done
  | echo (h : Head .echo ["text"]) (next : Program)
  | store (h : Head .store ["variable", "text"]) (next : Program)
  | loop (h : Head .loop ["count"]) (body next : Program)
  | branch (h : Head .branch ["condition"]) (body next : Program)

namespace Program
open Meaning

/-- The list of steps that a program is written as. -/
def flatten : Program → List Step
  | .done => []
  | .echo h next => h.step :: next.flatten
  | .store h next => h.step :: next.flatten
  | .loop h body next => h.owning body.flatten.length :: (body.flatten ++ next.flatten)
  | .branch h body next => h.owning body.flatten.length :: (body.flatten ++ next.flatten)

def assigned (h : Head .store ["variable", "text"]) : Meaning := fun r =>
  some ([], r.put (r.bind (h.text "variable")) (r.evaluateString (h.text "text")))

def counted (h : Head .loop ["count"]) (m : Meaning) : Meaning := fun r => do
  let n ← (readWord (trim (r.bind (h.text "count")))).toOption
  m.rounds n 1 r

theorem counted_eq_some {h : Head .loop ["count"]} {m : Meaning} {r : Row} {x : List String × Row}
    (hx : counted h m r = some x) :
    ∃ n, readWord (trim (r.bind (h.text "count"))) = .ok n ∧ m.rounds n 1 r = some x := by
  rw [counted] at hx
  revert hx
  generalize readWord (trim (r.bind (h.text "count"))) = count
  intro hx
  cases count with
  | error e => cases hx
  | ok n => exact ⟨n, rfl, hx⟩

def chosen (h : Head .branch ["condition"]) (m : Meaning) : Meaning := fun r =>
  if r.evaluate (h.text "condition") then m r else some ([], r)

def meaning : Program → Meaning
  | .done => idle
  | .echo h next => (started h.step idle).seq next.meaning
  | .store h next => (started h.step (assigned h)).seq next.meaning
  | .loop h body next =>
    (started (h.owning body.flatten.length) (counted h body.meaning)).seq next.meaning
  | .branch h body next =>
    (started (h.owning body.flatten.length) (chosen h body.meaning)).seq next.meaning

end Program

end Scenario

import Scenario.Row
import Scenario.Step.Kind

/-!
# Steps

A step has a kind, may be negated, and carries named parameters: texts, locators and
strings of bytes, each sort in a table of its own. A step is made by a builder,
whose writers put a value into one table and take its key out of the other two.
-/

set_option autoImplicit false

namespace Scenario
open Scenario.Text

structure Locator where
  kind : String
  value : String
  deriving DecidableEq, Repr, Inhabited

namespace Locator

def bind (l : Locator) (r : Row) : Locator := { l with value := r.bind l.value }

def text (l : Locator) : String := l.kind ++ "=" ++ l.value

end Locator

structure Step where
  name : Option String := none
  kind : Step.Kind
  negated : Bool := false
  texts : Assoc String := []
  locators : Assoc Locator := []
  binaries : Assoc (List UInt8) := []
  deriving DecidableEq, Repr

namespace Step

/-- A step in the making. -/
structure Builder where
  name : Option String := none
  kind : Kind
  negated : Bool := false
  texts : Assoc String := []
  locators : Assoc Locator := []
  binaries : Assoc (List UInt8) := []
  deriving DecidableEq, Repr

def skipKey : String := "skip"

namespace Builder

def put (b : Builder) (key value : String) : Builder :=
  { b with
    locators := Assoc.erase b.locators key
    binaries := Assoc.erase b.binaries key
    texts := Assoc.put b.texts key value }

def locate (b : Builder) (key : String) (l : Locator) : Builder :=
  { b with
    texts := Assoc.erase b.texts key
    binaries := Assoc.erase b.binaries key
    locators := Assoc.put b.locators key l }

def attach (b : Builder) (key : String) (bytes : List UInt8) : Builder :=
  { b with
    texts := Assoc.erase b.texts key
    locators := Assoc.erase b.locators key
    binaries := Assoc.put b.binaries key bytes }

def remove (b : Builder) (key : String) : Builder :=
  { b with
    texts := Assoc.erase b.texts key
    locators := Assoc.erase b.locators key
    binaries := Assoc.erase b.binaries key }

def skip (b : Builder) (condition : String) : Builder := b.put skipKey condition

def build (b : Builder) : Step :=
  { name := b.name
    kind := b.kind
    negated := b.negated
    texts := b.texts
    locators := b.locators
    binaries := b.binaries }

@[simp] theorem texts_build (b : Builder) : b.build.texts = b.texts := rfl

@[simp] theorem locators_build (b : Builder) : b.build.locators = b.locators := rfl

@[simp] theorem binaries_build (b : Builder) : b.build.binaries = b.binaries := rfl

end Builder

def builder (s : Step) : Builder :=
  { name := s.name
    kind := s.kind
    negated := s.negated
    texts := s.texts
    locators := s.locators
    binaries := s.binaries }

theorem builder_build (b : Builder) : b.build.builder = b := rfl

def text? (s : Step) (key : String) : Option String := Assoc.get? s.texts key

def locator? (s : Step) (key : String) : Option Locator := Assoc.get? s.locators key

/-- Whether there is a parameter of any sort under the key. -/
def has (s : Step) (key : String) : Bool :=
  Assoc.has s.texts key || Assoc.has s.locators key || Assoc.has s.binaries key

/-- Equal up to the order of parameters. -/
def same (a b : Step) : Bool :=
  a.name == b.name && a.kind == b.kind && a.negated == b.negated &&
    Assoc.sameEntries a.texts b.texts && Assoc.sameEntries a.locators b.locators &&
    Assoc.sameEntries a.binaries b.binaries

/-- The step's own name, or its kind with its locators and texts. -/
def label (s : Step) (r : Row) : String :=
  match s.name with
  | some n => r.bind n
  | none =>
    (if s.negated then "not " else "") ++ s.kind.name ++
      String.join (s.locators.map fun e => " " ++ e.1 ++ ":" ++ (e.2.bind r).text) ++
      String.join ((s.texts.filter fun e => e.1 != skipKey).map fun e =>
        " " ++ e.1 ++ ":" ++ r.bind e.2)

def isSkipped (s : Step) (r : Row) : Bool :=
  match s.text? skipKey with
  | some condition => r.evaluate condition
  | none => false

/-- The step described by variables, for the advice around it. -/
def description (s : Step) : Assoc String :=
  let head := Assoc.putAll [] ([("_target.type", s.kind.name),
    ("_target.negated", if s.negated then "true" else "false")] ++
    (s.name.toList.map fun n => ("_target.name", n)))
  let texts := s.texts.map fun e => ("_target." ++ e.1, e.2)
  let locators := s.locators.flatMap fun e =>
    [("_target." ++ e.1 ++ ".type", e.2.kind), ("_target." ++ e.1 ++ ".value", e.2.value)]
  Assoc.putAll (Assoc.putAll head texts) locators

theorem text?_put_same (s : Step) (key value : String) :
    (s.builder.put key value).build.text? key = some value :=
  Assoc.get?_put_same s.texts key value

theorem text?_put_other (s : Step) {key other : String} (value : String) (h : other ≠ key) :
    (s.builder.put key value).build.text? other = s.text? other :=
  Assoc.get?_put_other s.texts value h

end Step

end Scenario

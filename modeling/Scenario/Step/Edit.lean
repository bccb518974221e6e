import Scenario.Step

/-!
# Edits of steps

A step is built from a step of its kind without parameters by edits, one after
the other. Edits that go on from a step leave that step as it is.
-/

set_option autoImplicit false

namespace Scenario.Step

inductive Edit where
  | put (key value : String)
  | locate (key : String) (l : Locator)
  | attach (key : String) (bytes : List UInt8)
  | remove (key : String)
  | skip (condition : String)
  | rename (name : String)
  | negate (negated : Bool)
  | retype (kind : Kind)
  deriving DecidableEq, Repr

/-- A value of one of the sorts that a parameter may have. -/
inductive Param where
  | text (s : String)
  | locator (l : Locator)
  | bytes (bs : List UInt8)
  deriving DecidableEq, Repr

namespace Edit

def apply : Edit → Builder → Builder
  | .put key value, b => b.put key value
  | .locate key l, b => b.locate key l
  | .attach key bytes, b => b.attach key bytes
  | .remove key, b => b.remove key
  | .skip condition, b => b.skip condition
  | .rename name, b => { b with name := some name }
  | .negate negated, b => { b with negated }
  | .retype kind, b => { b with kind }

def written? : Edit → Option (String × Param)
  | .put key value => some (key, .text value)
  | .locate key l => some (key, .locator l)
  | .attach key bytes => some (key, .bytes bytes)
  | .skip condition => some (skipKey, .text condition)
  | _ => none

def key? : Edit → Option String
  | .remove key => some key
  | e => e.written?.map (·.1)

end Edit

def Builder.edited (b : Builder) (es : List Edit) : Builder := es.foldl (fun b e => e.apply b) b

/-- The step that is built when one is taken up and edited. -/
def edited (s : Step) (es : List Edit) : Step := (s.builder.edited es).build

end Scenario.Step

import Scenario.DataSource
import Scenario.Pointcut

/-!
# Cases

A case is a list of steps with everything that governs how they run: its rows,
the advice around its steps, and the cases chained below it. A case may stand
for a script that is read only when a run reaches it.
-/

set_option autoImplicit false

namespace Scenario
open Scenario.Text

structure Script where
  name : String
  path : Option String := none
  /-- The directory from which its relative paths start. -/
  dir : String := ""
  deriving DecidableEq, Repr, Inhabited

namespace Script

def ofPath (path : String) : Script :=
  ⟨(Path.stem? path).getD path, some path, (Path.parent? path).getD ""⟩

def same (a b : Script) : Bool :=
  match a.path, b.path with
  | some p, some q => Path.same p q
  | none, none => a.name == b.name
  | _, _ => false

end Script

inductive AdviceKind where
  | before
  | after
  | failure
  deriving DecidableEq, Repr

def AdviceKind.name : AdviceKind → String
  | .before => "before"
  | .after => "after"
  | .failure => "failure"

structure HookCall where
  run : String
  kind : AdviceKind
  step : Step
  row : Row
  earlier : Nat

/-- What a hook does: it may leave a note, assign variables and stop the run,
and then answers. -/
structure HookAnswer where
  note : Option String := none
  assign : Assoc String := []
  stop : Bool := false
  result : Except Fault Bool := .ok true

abbrev Hook := HookCall → HookAnswer

/-- Advice for the steps that a pointcut selects, given as cases or as hooks. -/
inductive Interceptor (C : Type) where
  | script (pointcut : Option Pointcut) (before after failure : Option C) (takesOver : Bool)
  | hooks (pointcut : Pointcut) (before after failure : Option Hook) (takesOver : Bool)

structure Case where
  script : Script
  steps : List Step := []
  loader : Loader := { dir := script.dir }
  override : Option Loader := none
  aspect : List (Interceptor Case) := []
  included : Pointcut := .any
  excluded : Pointcut := .none
  sharesState : Bool := false
  skip : String := "false"
  chain : List Case := []
  /-- Whether a chained case begins with the variables of the one before it. -/
  takesOver : Bool := false
  /-- Whether the chain runs within each row and not after the last one. -/
  nestedChain : Bool := false
  /-- Whether the case waits for the last row. -/
  waitsForLast : Bool := false
  preventsContext : Bool := false
  isSuite : Bool := false
  resolve : Option (Row → Except Fault Case) := none

abbrev Aspect := List (Interceptor Case)

namespace Interceptor
variable {C : Type}

/-- Without a pointcut a pure failure handler applies to every step, and nothing else does. -/
def selects : Interceptor C → Step → Row → Bool
  | .script (some p) _ _ _ _, s, r => p.selects s r
  | .script none before after failure _, _, _ =>
    failure.isSome && before.isNone && after.isNone
  | .hooks p _ _ _ _, s, r => p.selects s r

def takesOver : Interceptor C → Bool
  | .script _ _ _ _ t => t
  | .hooks _ _ _ _ t => t

def withTakeOver (t : Bool) : Interceptor C → Interceptor C
  | .script p b a f _ => .script p b a f t
  | .hooks p b a f _ => .hooks p b a f t

def freeze (row : Row) : Interceptor C → Interceptor C
  | .script p b a f t => .script (p.map (Pointcut.freeze row)) b a f t
  | .hooks p b a f t => .hooks (p.freeze row) b a f t

end Interceptor

namespace Aspect

def advice (a : Aspect) (s : Step) (r : Row) : List (Interceptor Case) :=
  a.filter fun i => i.selects s r

def freeze (row : Row) (a : Aspect) : Aspect := a.map (Interceptor.freeze row)

/-- What chained runs inherit. -/
def inherited (a : Aspect) : Aspect := a.filter Interceptor.takesOver

def takeOver (t : Bool) (a : Aspect) : Aspect := a.map (Interceptor.withTakeOver t)

end Aspect

namespace Case

def name (c : Case) : String := c.script.name

/-- A suite always shares its browser. -/
def settled (c : Case) : Case := { c with sharesState := c.sharesState || c.isSuite }

def suite (script : Script) (chain : List Case) (takesOver : Bool) : Case :=
  { script, chain, takesOver, isSuite := true, sharesState := true }

def named (c : Case) (name : String) : Case := { c with script := { c.script with name } }

def effectiveLoader (c : Case) : Loader := c.override.getD c.loader

def hasChain (c : Case) : Bool := !c.chain.isEmpty

def isSkipped (c : Case) (r : Row) : Bool := r.evaluate c.skip

def includes (c : Case) (s : Step) (r : Row) : Bool :=
  c.included.selects s r && !c.excluded.selects s r

/-- The case that this one stands for, or itself. -/
def materialize (c : Case) (r : Row) : Except Fault Case :=
  match c.resolve with
  | some f =>
    match f r with
    | .ok d => .ok { d with resolve := none }
    | .error e => .error e
  | none => .ok c

def suffixed (name : String) (n : Nat) : String := name ++ "(" ++ natText n ++ ")"

def freshName (chain : List Case) (name : String) : String :=
  (((List.range (chain.length + 1)).map fun n => suffixed name (n + 1)).find? fun m =>
    chain.all fun c => c.name != m).getD ""

/-- Appends a case to a chain; one that could be taken for an earlier case is renamed. -/
def append (chain : List Case) (c : Case) : List Case :=
  if chain.any fun d => d.script.same c.script then
    chain ++ [c.settled.named (freshName chain c.name)]
  else chain ++ [c]

end Case

end Scenario

import Scenario.Regex.Parser
import Scenario.Step
import Scenario.Text.Quoted

/-!
# Selection of steps

A pointcut says of a step under a row whether it is selected. Expected texts
are templates; freezing binds them once for all.
-/

set_option autoImplicit false

namespace Scenario
open Scenario.Text

inductive MatchMethod where
  | equals
  | contains
  | startsWith
  | endsWith
  | matches
  deriving DecidableEq, Repr

namespace MatchMethod

def ofName? : String → Option MatchMethod
  | "equals" => some .equals
  | "equal" => some .equals
  | "contains" => some .contains
  | "startsWith" => some .startsWith
  | "endsWith" => some .endsWith
  | "matches" => some .matches
  | _ => none

def title : MatchMethod → String
  | .equals => "Equals"
  | .contains => "Contains"
  | .startsWith => "StartsWith"
  | .endsWith => "EndsWith"
  | .matches => "Matches"

def holds (m : MatchMethod) (actual expected : String) : Bool :=
  match m with
  | .equals => actual == expected
  | .contains => Text.contains actual expected
  | .startsWith => Text.startsWith actual expected
  | .endsWith => Text.endsWith actual expected
  | .matches => Regex.isMatch expected actual

end MatchMethod

inductive Pointcut where
  | any
  | none
  | kind (names : List String)
  | negated (b : Bool)
  | skip (b : Bool)
  | param (key value : String) (method : MatchMethod)
  | locator (key : String) (l : Locator)
  | and (l r : Pointcut)
  | or (l r : Pointcut)
  | not (p : Pointcut)
  | custom (test : Step → Row → Bool)
  deriving Inhabited

namespace Pointcut

/-- Conjunction; selecting everything is its neutral element. -/
def both : Pointcut → Pointcut → Pointcut
  | .any, q => q
  | p, .any => p
  | p, q => .and p q

/-- Disjunction; selecting nothing is its neutral element. -/
def either : Pointcut → Pointcut → Pointcut
  | .none, q => q
  | p, .none => p
  | p, q => .or p q

def selects : Pointcut → Step → Row → Bool
  | .any, _, _ => true
  | .none, _, _ => false
  | .kind names, s, r => names.any fun n => r.bind n == s.kind.name
  | .negated b, s, _ => s.negated == b
  | .skip b, s, r => s.isSkipped r == b
  | .param key value method, s, r =>
    match s.text? key with
    | some actual => method.holds (r.bind actual) (r.bind value)
    | Option.none => false
  | .locator key l, s, r =>
    match s.locator? key with
    | some actual => actual.bind r == l.bind r
    | Option.none => false
  | .and p q, s, r => p.selects s r && q.selects s r
  | .or p q, s, r => p.selects s r || q.selects s r
  | .not p, s, r => !p.selects s r
  | .custom test, s, r => test s r

/-- The pointcut with its expected texts bound in a row. -/
def freeze (row : Row) : Pointcut → Pointcut
  | .kind names => .kind (names.map row.bind)
  | .param key value method => .param key (row.bind value) method
  | .locator key l => .locator key (l.bind row)
  | .and p q => .and (p.freeze row) (q.freeze row)
  | .or p q => .or (p.freeze row) (q.freeze row)
  | .not p => .not (p.freeze row)
  | p => p

def boolText (b : Bool) : String := if b then "true" else "false"

def text : Pointcut → String
  | .any => "Any"
  | .none => "None"
  | .kind names => "StepType([" ++ ", ".intercalate (names.map quoted) ++ "])"
  | .negated b => "Negated(" ++ boolText b ++ ")"
  | .skip b => "Skip(" ++ boolText b ++ ")"
  | .param key value method => "StringParam(" ++ key ++ " " ++ method.title ++ " " ++ value ++ ")"
  | .locator key l => "Locator(" ++ key ++ "=" ++ l.text ++ ")"
  | .and p q => "And(" ++ p.text ++ ", " ++ q.text ++ ")"
  | .or p q => "Or(" ++ p.text ++ ", " ++ q.text ++ ")"
  | .not p => "Not(" ++ p.text ++ ")"
  | .custom _ => "Custom"

theorem selects_both (p q : Pointcut) (s : Step) (r : Row) :
    (both p q).selects s r = (p.selects s r && q.selects s r) := by
  cases p <;> cases q <;> simp [both, selects]

theorem selects_either (p q : Pointcut) (s : Step) (r : Row) :
    (either p q).selects s r = (p.selects s r || q.selects s r) := by
  cases p <;> cases q <;> simp [either, selects]

end Pointcut

end Scenario

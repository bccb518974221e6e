import Scenario.Cel.Function
import Scenario.Cel.Parser

/-!
# Evaluation of expressions

Evaluation as in the `cel` library: an expression has a value or none.
Conditions must be truth values, except on the right of an or, which is the
answer as it stands.
-/

set_option autoImplicit false

namespace Scenario.Cel
open Scenario.Calendar

abbrev Scope := List (String × Value)

def withinYears (m : Moment) : Option Value :=
  let first := Date.toDays ⟨1, 1, 1⟩ * 86400
  let beyond := Date.toDays ⟨10000, 1, 1⟩ * 86400
  if first ≤ m.seconds ∧ m.seconds < beyond then some (.moment m) else none

def withinDates (m : Moment) : Option Value := if m.isReachable then some (.moment m) else none

def add : Value → Value → Option Value
  | .int a, .int b => signed? (a + b)
  | .uint a, .uint b => unsigned? (a + b)
  | .float a, .float b => some (.float (a + b))
  | .str a, .str b => some (.str (a ++ b))
  | .list a, .list b => some (.list (a ++ b))
  | .duration a, .duration b => some (.duration (a + b))
  | .moment m, .duration d => withinYears (m.shift d)
  | .duration d, .moment m => withinDates (m.shift d)
  | _, _ => none

def sub : Value → Value → Option Value
  | .int a, .int b => signed? (a - b)
  | .uint a, .uint b => unsigned? (a - b)
  | .float a, .float b => some (.float (a - b))
  | .duration a, .duration b => some (.duration (a - b))
  | .moment m, .duration d => withinYears (m.shift (-d))
  | .moment a, .moment b => some (.duration (a.since b))
  | _, _ => none

def mul : Value → Value → Option Value
  | .int a, .int b => signed? (a * b)
  | .uint a, .uint b => unsigned? (a * b)
  | .float a, .float b => some (.float (a * b))
  | _, _ => none

def div : Value → Value → Option Value
  | .int a, .int b => if b = 0 then none else signed? (a.tdiv b)
  | .uint a, .uint b => if b = 0 then none else some (.uint (a / b))
  | .float a, .float b => some (.float (a / b))
  | _, _ => none

/-- The remainder has the sign of the dividend; it has a value where the quotient has one. -/
def rem : Value → Value → Option Value
  | .int a, .int b => if b = 0 then none else (signed? (a.tdiv b)).map fun _ => .int (a.tmod b)
  | .uint a, .uint b => if b = 0 then none else some (.uint (a % b))
  | _, _ => none

def inside : Value → Value → Option Value
  | .str s, .str t => some (.bool (Text.contains t s))
  | x, .list items => some (.bool (items.any (same x)))
  | x, .map entries =>
    some (.bool (match Key.ofValue? x with
      | some k => (lookup entries k).isSome
      | none => false))
  | _, _ => none

def elementAt : Value → Value → Option Value
  | .list items, .int i => if 0 ≤ i then items[i.toNat]? else none
  | .list items, .uint n => items[n]?
  | .map entries, k => (Key.ofValue? k).bind (lookup entries)
  | _, _ => none

def Value.ofOption : Option Value → Value
  | some v => .present v
  | none => .absent

/-- An element of an optional value is optional. -/
def index : Value → Value → Option Value
  | .present v, k => some (.ofOption (elementAt v k))
  | .absent, _ => some .absent
  | v, k => elementAt v k

def compared (test : Ordering → Bool) (a b : Value) : Option Value :=
  (order a b).map fun o => .bool (test o)

def Binary.apply : Binary → Value → Value → Option Value
  | .add => Cel.add
  | .sub => Cel.sub
  | .mul => Cel.mul
  | .div => Cel.div
  | .rem => Cel.rem
  | .eq => fun a b => some (.bool (same a b))
  | .ne => fun a b => some (.bool (!same a b))
  | .lt => compared (· == .lt)
  | .le => compared (· != .gt)
  | .gt => compared (· == .gt)
  | .ge => compared (· != .lt)
  | .inside => Cel.inside
  | .index => Cel.index
  | .and => fun a b =>
    match a, b with
    | .bool a, .bool b => some (.bool (a && b))
    | _, _ => none
  | .or => fun a b =>
    match a with
    | .bool true => some (.bool true)
    | .bool false => some b
    | _ => none

def rangeOf : Value → Option (List Value)
  | .list items => some items
  | .map entries => some (entries.map fun e =>
    match e.1 with
    | .int i => .int i
    | .uint n => .uint n
    | .bool b => .bool b
    | .str s => .str s)
  | _ => none

/-- Replaces the accumulator for each item until `go` fails to hold. -/
def foldItems (go : Value → Option Value) (step : Value → Value → Option Value) :
    Value → List Value → Option Value
  | a, [] => some a
  | a, v :: r =>
    match go a with
    | some (.bool true) =>
      match step a v with
      | some a => foldItems go step a r
      | none => none
    | some (.bool false) => some a
    | _ => none

def select (v : Value) (field : String) : Option Value :=
  match v with
  | .map entries => lookup entries (.str field)
  | _ => none

def hasField (v : Value) (field : String) : Bool :=
  match v with
  | .map entries => entries.any fun e => e.1.text == field
  | _ => false

def valueOf? : Scope → String → Option Value
  | [], _ => none
  | (k, v) :: r, name => if k = name then some v else valueOf? r name

def ofPrefix? (target : Expr) (name : String) : Option (List (Option Value) → Option Value) :=
  match target with
  | .ident p => dotted? p name
  | _ => none

mutual
def Expr.eval (s : Scope) : Expr → Option Value
  | .lit v => some v
  | .ident n => valueOf? s n
  | .list items => (allValues (evalItems s items)).map .list
  | .map entries => (evalEntries s entries).map .map
  | .select e f => (e.eval s).bind (select · f)
  | .has e f => (e.eval s).map fun v => .bool (hasField v f)
  | .call none name args => callFunction name none (evalItems s args)
  | .call (some t) name args =>
    match ofPrefix? t name with
    | some f => f (evalItems s args)
    | none =>
      match t.eval s with
      | some v => callFunction name (some v) (evalItems s args)
      | none => none
  | .cond c t e =>
    match c.eval s with
    | some (.bool true) => t.eval s
    | some (.bool false) => e.eval s
    | _ => none
  | .binary .and l r =>
    match l.eval s with
    | some (.bool false) => some (.bool false)
    | some (.bool true) => (r.eval s).bind (Binary.and.apply (.bool true))
    | _ => none
  | .binary .or l r =>
    match l.eval s with
    | some (.bool true) => some (.bool true)
    | some (.bool false) => r.eval s
    | _ => none
  | .binary op l r =>
    match l.eval s, r.eval s with
    | some a, some b => op.apply a b
    | _, _ => none
  | .not e =>
    match e.eval s with
    | some (.bool b) => some (.bool !b)
    | _ => none
  | .neg e =>
    match e.eval s with
    | some (.int i) => signed? (-i)
    | some (.float x) => some (.float (-x))
    | _ => none
  | .notFalse e =>
    match e.eval s with
    | some (.bool b) => some (.bool b)
    | some _ => some (.bool true)
    | none => none
  | .fold range var init go step result =>
    match range.eval s, init.eval s with
    | some v, some a =>
      match rangeOf v with
      | some items =>
        match foldItems (fun a => go.eval ((accumulator, a) :: s))
            (fun a v => step.eval ((var, v) :: (accumulator, a) :: s)) a items with
        | some a => result.eval ((accumulator, a) :: s)
        | none => none
      | none => none
    | _, _ => none
  | .record => none
def evalItems (s : Scope) : List Expr → List (Option Value)
  | [] => []
  | e :: r => e.eval s :: evalItems s r
def evalEntries (s : Scope) : List (Expr × Expr) → Option (List (Key × Value))
  | [] => some []
  | (k, v) :: r =>
    match k.eval s, v.eval s with
    | some k, some v =>
      match Key.ofValue? k, evalEntries s r with
      | some k, some es => some (if (lookup es k).isSome then es else (k, v) :: es)
      | _, _ => none
    | _, _ => none
end

end Scenario.Cel

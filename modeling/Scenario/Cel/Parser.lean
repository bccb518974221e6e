import Scenario.Cel.Token
import Scenario.Cel.Value

/-!
# Syntax of expressions

The grammar of the `cel` library: conditional, `||`, `&&`, relations, sums,
products, and prefixed or selected operands, in rising strength. The
comprehension macros are unfolded into folds while reading.
-/

set_option autoImplicit false

namespace Scenario.Cel
open Scenario.Text

inductive Binary where
  | add | sub | mul | div | rem
  | eq | ne | lt | le | gt | ge
  | inside | index | and | or
  deriving DecidableEq, Repr

inductive Expr where
  | lit (v : Value)
  | ident (name : String)
  | list (items : List Expr)
  | map (entries : List (Expr × Expr))
  | select (e : Expr) (field : String)
  | has (e : Expr) (field : String)
  | call (target : Option Expr) (name : String) (args : List Expr)
  | cond (c t e : Expr)
  | binary (op : Binary) (l r : Expr)
  | not (e : Expr)
  | neg (e : Expr)
  /-- True unless the operand is false. -/
  | notFalse (e : Expr)
  /-- Runs over the elements of `range` while `go` holds, each time replacing
  the accumulator by `step`. -/
  | fold (range : Expr) (var : String) (init go step result : Expr)
  /-- A typed record; none has a value. -/
  | record
  deriving Inhabited

def accumulator : String := "@result"

def acc : Expr := .ident accumulator

/-- The meaning of a call: a macro's unfolding or the call itself. A macro
refuses a bound variable that is no plain name. -/
def unfold (target : Option Expr) (name : String) (args : List Expr) : Option Expr :=
  let comprehension (var : Expr) (build : String → Expr) : Option Expr :=
    match var with
    | .ident v => some (build v)
    | _ => none
  match name, target, args with
  | "has", none, [.select e f] => some (.has e f)
  | "has", none, [_] => none
  | "all", some t, [v, p] => comprehension v fun v =>
    .fold t v (.lit (.bool true)) (.notFalse acc) (.binary .and acc p) acc
  | "exists", some t, [v, p] => comprehension v fun v =>
    .fold t v (.lit (.bool false)) (.notFalse (.not acc)) (.binary .or acc p) acc
  | "exists_one", some t, [v, p] => one t v p
  | "existsOne", some t, [v, p] => one t v p
  | "map", some t, [v, f] => comprehension v fun v =>
    .fold t v (.list []) (.lit (.bool true)) (.binary .add acc (.list [f])) acc
  | "map", some t, [v, p, f] => comprehension v fun v =>
    .fold t v (.list []) (.lit (.bool true)) (.cond p (.binary .add acc (.list [f])) acc) acc
  | "filter", some t, [v, p] => comprehension v fun v =>
    .fold t v (.list []) (.lit (.bool true))
      (.cond p (.binary .add acc (.list [.ident v])) acc) acc
  | _, _, _ => some (.call target name args)
where
  one (t v p : Expr) : Option Expr :=
    match v with
    | .ident v => some <|
      .fold t v (.lit (.int 0)) (.lit (.bool true))
        (.cond p (.binary .add acc (.lit (.int 1))) acc)
        (.binary .eq acc (.lit (.int 1)))
    | _ => none

def number? (negative : Bool) (t : Token) : Option Value :=
  let signed (base : Nat) (ds : List Char) : Option Value :=
    (readSignedIn base (if negative then '-' :: ds else ds)).map .int
  match t with
  | .int ds => signed 10 ds
  | .hex ds => if negative then none else signed 16 ds
  | .float text => ((Decimal.readFloat text).filter Float.isFinite).map fun x =>
    .float (if negative then -x else x)
  | _ => none

def isSigned : Token → Bool
  | .int _ => true
  | .hex _ => true
  | .float _ => true
  | _ => false

def keywords : List String := ["in", "true", "false", "null"]

def relation? : Token → Option Binary
  | .op "==" => some .eq
  | .op "!=" => some .ne
  | .op "<" => some .lt
  | .op "<=" => some .le
  | .op ">" => some .gt
  | .op ">=" => some .ge
  | .name "in" => some .inside
  | _ => none

def product? : Token → Option Binary
  | .op "*" => some .mul
  | .op "/" => some .div
  | .op "%" => some .rem
  | _ => none

def sum? : Token → Option Binary
  | .op "+" => some .add
  | .op "-" => some .sub
  | _ => none

def dropOps (op : String) : List Token → List Token
  | .op o :: r => if o = op then dropOps op r else .op o :: r
  | r => r

def isField : Token → Bool
  | .name f => !keywords.contains f
  | .escapedName _ => true
  | _ => false

/-- Levels of the grammar, the weakest first. -/
inductive Level where
  | expr | or | and | relation | sum | product | unary

abbrev Parse (α : Type) := Option (α × List Token)

def braceOpen : Token := .op "\x7b"
def braceClose : Token := .op "\x7d"

mutual
def level : Nat → Level → List Token → Option (Expr × List Token)
  | 0, _, _ => none
  | fuel + 1, .expr, ts => do
    let (c, ts) ← level fuel .or ts
    match ts with
    | .op "?" :: ts =>
      let (t, ts) ← level fuel .or ts
      match ts with
      | .op ":" :: ts =>
        let (e, ts) ← level fuel .expr ts
        some (.cond c t e, ts)
      | _ => none
    | ts => some (c, ts)
  | fuel + 1, .or, ts => do
    let (l, ts) ← level fuel .and ts
    chain fuel .and (fun t => if t = .op "||" then some .or else none) l ts
  | fuel + 1, .and, ts => do
    let (l, ts) ← level fuel .relation ts
    chain fuel .relation (fun t => if t = .op "&&" then some .and else none) l ts
  | fuel + 1, .relation, ts => do
    let (l, ts) ← level fuel .sum ts
    chain fuel .sum relation? l ts
  | fuel + 1, .sum, ts => do
    let (l, ts) ← level fuel .product ts
    chain fuel .product sum? l ts
  | fuel + 1, .product, ts => do
    let (l, ts) ← level fuel .unary ts
    chain fuel .unary product? l ts
  | fuel + 1, .unary, ts =>
    match ts with
    | .op "!" :: r => (member fuel (dropOps "!" r)).map fun (e, r) => (.not e, r)
    | .op "-" :: t :: r =>
      if isSigned t then member fuel ts
      else (member fuel (dropOps "-" (t :: r))).map fun (e, r) => (.neg e, r)
    | ts => member fuel ts
def chain : Nat → Level → (Token → Option Binary) → Expr → List Token → Parse Expr
  | 0, _, _, _, _ => none
  | fuel + 1, next, ops, l, ts =>
    match ts with
    | t :: r =>
      match ops t with
      | some op =>
        match level fuel next r with
        | some (e, r) => chain fuel next ops (.binary op l e) r
        | none => none
      | none => some (l, ts)
    | [] => some (l, [])
def member : Nat → List Token → Parse Expr
  | 0, _ => none
  | fuel + 1, ts =>
    match primary fuel ts with
    | some (e, ts) => suffixes fuel e ts
    | none => none
def suffixes : Nat → Expr → List Token → Parse Expr
  | 0, _, _ => none
  | fuel + 1, e, ts =>
    match ts with
    | .op "." :: .name f :: .op "(" :: r =>
      if keywords.contains f then none
      else match arguments fuel r with
        | some (args, r) =>
          match unfold (some e) f args with
          | some e => suffixes fuel e r
          | none => none
        | none => none
    | .op "." :: .name f :: r =>
      if keywords.contains f then none else suffixes fuel (.select e f) r
    | .op "." :: .escapedName f :: r => suffixes fuel (.select e f) r
    | .op "." :: _ => none
    | .op "[" :: r =>
      match level fuel .expr r with
      | some (i, .op "]" :: r) => suffixes fuel (.binary .index e i) r
      | _ => none
    | ts => some (e, ts)
def primary : Nat → List Token → Parse Expr
  | 0, _ => none
  | fuel + 1, ts =>
    match ts with
    | .op "-" :: t :: r => (number? true t).map fun v => (.lit v, r)
    | .uint ds :: r => match readNatIn 10 word ds with
      | .ok n => some (.lit (.uint n), r)
      | .error _ => none
    | .hexUint ds :: r => match readNatIn 16 word ds with
      | .ok n => some (.lit (.uint n), r)
      | .error _ => none
    | .str s :: r => some (.lit (.str (String.ofList s)), r)
    | .bytes bs :: r => some (.lit (.bytes bs), r)
    | .name "true" :: r => some (.lit (.bool true), r)
    | .name "false" :: r => some (.lit (.bool false), r)
    | .name "null" :: r => some (.lit .null, r)
    | .op "." :: .name n :: r => named fuel true n r
    | .name n :: r => named fuel false n r
    | .op "(" :: r =>
      match level fuel .expr r with
      | some (e, .op ")" :: r) => some (e, r)
      | _ => none
    | .op "[" :: r => (elements fuel r).map fun (es, r) => (.list es, r)
    | t :: r =>
      if t = braceOpen then (entries fuel r).map fun (es, r) => (.map es, r)
      else (number? false t).map fun v => (.lit v, r)
    | [] => none
/-- A name, a call of it, or a record of that type. A leading dot belongs to the name of a
function, not to that of a variable. -/
def named : Nat → Bool → String → List Token → Parse Expr
  | 0, _, _, _ => none
  | fuel + 1, dot, name, ts =>
    if keywords.contains name then none
    else match ts with
      | .op "(" :: r =>
        match arguments fuel r with
        | some (args, r) =>
          (unfold none (if dot then "." ++ name else name) args).map (·, r)
        | none => none
      | t :: r =>
        if t = braceOpen then (fields fuel r).map fun r => (.record, r)
        else match dotted (t :: r) with
          | some r => (fields fuel r).map fun r => (.record, r)
          | none => some (.ident name, t :: r)
      | [] => some (.ident name, [])
def arguments : Nat → List Token → Parse (List Expr)
  | 0, _ => none
  | fuel + 1, ts =>
    match ts with
    | .op ")" :: r => some ([], r)
    | ts => moreArguments fuel ts
def moreArguments : Nat → List Token → Parse (List Expr)
  | 0, _ => none
  | fuel + 1, ts =>
    match level fuel .expr ts with
    | some (e, .op "," :: r) => (moreArguments fuel r).map fun (es, r) => (e :: es, r)
    | some (e, .op ")" :: r) => some ([e], r)
    | _ => none
def elements : Nat → List Token → Parse (List Expr)
  | 0, _ => none
  | fuel + 1, ts =>
    match ts with
    | .op "]" :: r => some ([], r)
    | .op "," :: .op "]" :: r => some ([], r)
    | ts =>
      match level fuel .expr ts with
      | some (e, .op "," :: .op "]" :: r) => some ([e], r)
      | some (e, .op "," :: r) =>
        match r with
        | .op "," :: _ => none
        | r => (elements fuel r).map fun (es, r) => (e :: es, r)
      | some (e, .op "]" :: r) => some ([e], r)
      | _ => none
def entries : Nat → List Token → Parse (List (Expr × Expr))
  | 0, _ => none
  | fuel + 1, ts =>
    match ts with
    | [] => none
    | t :: r =>
      if t = braceClose then some ([], r)
      else if t = .op "," ∧ r.head? = some braceClose then some ([], r.drop 1)
      else match level fuel .expr ts with
        | some (k, .op ":" :: r) =>
          match level fuel .expr r with
          | some (v, t :: r) =>
            if t = braceClose then some ([(k, v)], r)
            else if t = .op "," then
              if r.head? = some (.op ",") then none
              else (entries fuel r).map fun (es, r) => ((k, v) :: es, r)
            else none
          | _ => none
        | _ => none
def fields : Nat → List Token → Option (List Token)
  | 0, _ => none
  | fuel + 1, ts =>
    match ts with
    | f :: .op ":" :: r =>
      if !isField f then none
      else match level fuel .expr r with
        | some (_, t :: r) =>
          if t = braceClose then some r
          else if t = .op "," then fields fuel r
          else none
        | _ => none
    | t :: r =>
      if t = braceClose then some r
      else if t = .op "," ∧ r.head? = some braceClose then some (r.drop 1)
      else none
    | [] => none
def dotted : List Token → Option (List Token)
  | .op "." :: .name _ :: t :: r =>
    if t = braceOpen then some r else dotted (t :: r)
  | _ => none
end

def parse (s : String) : Option Expr :=
  match tokenize s with
  | some ts =>
    match level (16 * ts.length + 16) .expr ts with
    | some (e, []) => some e
    | _ => none
  | none => none

end Scenario.Cel

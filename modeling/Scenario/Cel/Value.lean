import Scenario.Assoc
import Scenario.Calendar
import Scenario.Json.Basic
import Scenario.Text.Base64
import Scenario.Text.Utf8

/-!
# Values of expressions

The modules of expressions stand for the `cel` library, with its values, its
syntax and its functions.

Integers have 64 bits, signed or not. Numbers of different kinds compare by
value; other values of different kinds are unequal and not ordered.
-/

set_option autoImplicit false

namespace Scenario.Cel

inductive Key where
  | int (i : Int)
  | uint (n : Nat)
  | bool (b : Bool)
  | str (s : String)
  deriving DecidableEq, Repr

inductive Value where
  | null
  | bool (b : Bool)
  | int (i : Int)
  | uint (n : Nat)
  | float (x : Float)
  | str (s : String)
  | bytes (bs : List UInt8)
  | list (items : List Value)
  | map (entries : List (Key × Value))
  | duration (nanos : Int)
  | moment (m : Calendar.Moment)
  | present (v : Value)
  | absent
  deriving Inhabited, Repr

def signed? (i : Int) : Option Value :=
  if -(Text.signedWord : Int) ≤ i ∧ i < Text.signedWord then some (.int i) else none

def unsigned? (i : Int) : Option Value :=
  if 0 ≤ i ∧ i < Text.word then some (.uint i.toNat) else none

def intFloat (i : Int) : Float := (Int64.ofInt i).toFloat
def natFloat (n : Nat) : Float := (UInt64.ofNat n).toFloat

def Key.ofValue? : Value → Option Key
  | .int i => some (.int i)
  | .uint n => some (.uint n)
  | .bool b => some (.bool b)
  | .str s => some (.str s)
  | _ => none

def Key.text : Key → String
  | .int i => Text.intText i
  | .uint n => Text.natText n
  | .bool b => if b then "true" else "false"
  | .str s => s

def lookup {α : Type} : List (Key × α) → Key → Option α
  | [], _ => none
  | (k, v) :: r, key => if k = key then some v else lookup r key

def insert {α : Type} : List (Key × α) → Key → α → List (Key × α)
  | [], key, v => [(key, v)]
  | (k, w) :: r, key, v => if k = key then (k, v) :: r else (k, w) :: insert r key v

mutual
def same : Value → Value → Bool
  | .null, .null => true
  | .bool a, .bool b => a == b
  | .int a, .int b => a == b
  | .uint a, .uint b => a == b
  | .float a, .float b => a == b
  | .str a, .str b => a == b
  | .bytes a, .bytes b => a == b
  | .list a, .list b => sameItems a b
  | .map a, .map b => a.length == b.length && sameEntries a b
  | .duration a, .duration b => a == b
  | .moment a, .moment b => a.order b == .eq
  | .present a, .present b => same a b
  | .absent, .absent => true
  | .int a, .uint b => a == (b : Int)
  | .uint a, .int b => (a : Int) == b
  | .int a, .float b => intFloat a == b
  | .float a, .int b => a == intFloat b
  | .uint a, .float b => natFloat a == b
  | .float a, .uint b => a == natFloat b
  | _, _ => false
def sameItems : List Value → List Value → Bool
  | [], [] => true
  | a :: r, b :: s => same a b && sameItems r s
  | _, _ => false
def sameEntries : List (Key × Value) → List (Key × Value) → Bool
  | [], _ => true
  | (k, v) :: r, b =>
    (match lookup b k with
      | some w => same v w
      | none => false) && sameEntries r b
end

def orderInt (a b : Int) : Ordering := compare a b

def orderFloat (a b : Float) : Option Ordering :=
  if a < b then some .lt else if a > b then some .gt else if a == b then some .eq else none

def order : Value → Value → Option Ordering
  | .null, .null => some .eq
  | .bool a, .bool b => some (orderInt a.toNat b.toNat)
  | .int a, .int b => some (orderInt a b)
  | .uint a, .uint b => some (orderInt a b)
  | .int a, .uint b => some (orderInt a b)
  | .uint a, .int b => some (orderInt a b)
  | .float a, .float b => orderFloat a b
  | .int a, .float b => orderFloat (intFloat a) b
  | .float a, .int b => orderFloat a (intFloat b)
  | .uint a, .float b => orderFloat (natFloat a) b
  | .float a, .uint b => orderFloat a (natFloat b)
  | .str a, .str b => some (if a < b then .lt else if a = b then .eq else .gt)
  | .duration a, .duration b => some (orderInt a b)
  | .moment a, .moment b => some (a.order b)
  | _, _ => none

/-- A double without exponent and without a point when it is whole. -/
def plainLayout : Decimal.Layout := ⟨-400, 400, 2, false⟩

mutual
/-- The value as JSON; durations count nanoseconds and must fit 64 bits, and optional values have
no text. -/
def Value.toJson : Value → Option Json
  | .null => some .null
  | .bool b => some (.bool b)
  | .int i => some (.int i)
  | .uint n => some (.int n)
  | .float x => some (if x.isFinite then .float x else .null)
  | .str s => some (.str s)
  | .bytes bs => some (.str (Text.base64 bs))
  | .list items => (itemsToJson items).map .arr
  | .map entries => (entriesToJson entries).map .obj
  | .duration n => (signed? n).map fun _ => .int n
  | .moment m => some (.str (m.text false))
  | .present _ => some .null
  | .absent => some .null
def itemsToJson : List Value → Option (List Json)
  | [] => some []
  | v :: r =>
    match v.toJson, itemsToJson r with
    | some j, some js => some (j :: js)
    | _, _ => none
def entriesToJson : List (Key × Value) → Option (List (String × Json))
  | [] => some []
  | (k, v) :: r =>
    match v.toJson, entriesToJson r with
    | some j, some js => some ((k.text, j) :: js)
    | _, _ => none
end

end Scenario.Cel

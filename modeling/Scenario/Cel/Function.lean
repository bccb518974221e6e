import Scenario.Cel.Period
import Scenario.Cel.Value
import Scenario.Regex.Parser
import Scenario.Text.Url

/-!
# Functions of expressions

The functions that the `cel` library declares. One may be called as a method,
its first operand before the dot. An operand that has no value spoils a call
only if the function looks at it; surplus operands are ignored.
-/

set_option autoImplicit false

namespace Scenario.Cel
open Scenario.Text

def contains (v x : Value) : Option Value :=
  match v, x with
  | .list items, x => some (.bool (items.any (same x)))
  | .map entries, x =>
    (Key.ofValue? x).map fun k => .bool (lookup entries k).isSome
  | .str s, .str t => some (.bool (Text.contains s t))
  | .bytes s, .bytes t => some (.bool (occursIn t s))
  | _, _ => some (.bool false)

def size : Value → Option Value
  | .list items => some (.int items.length)
  | .map entries => some (.int entries.length)
  | .str s => some (.int s.utf8ByteSize)
  | .bytes bs => some (.int bs.length)
  | _ => none

def toStr : Value → Option Value
  | .str s => some (.str s)
  | .int i => some (.str (intText i))
  | .uint n => some (.str (natText n))
  | .float x => some (.str (plainLayout.text x))
  | .bytes bs => some (.str (String.ofList (decodeUtf8Repaired bs)))
  | .moment m => some (.str (m.text false))
  | .duration n => some (.str (Period.text n))
  | _ => none

def toInt : Value → Option Value
  | .str s => (readSigned s).map .int
  | .float x =>
    if x > 9223372036854775808.0 || x < -9223372036854775808.0 then none
    else some (.int x.toInt64.toInt)
  | .int i => some (.int i)
  | .uint n => signed? n
  | _ => none

def toUint : Value → Option Value
  | .str s => (readWord s).toOption.map .uint
  | .float x =>
    if x > 18446744073709551616.0 || x < 0.0 then none
    else some (.uint x.toUInt64.toNat)
  | .int i => unsigned? i
  | .uint n => some (.uint n)
  | _ => none

def toDouble : Value → Option Value
  | .str s => (Decimal.readFloat s.toList).map .float
  | .float x => some (.float x)
  | .int i => some (.float (intFloat i))
  | .uint n => some (.float (natFloat n))
  | _ => none

def extreme (keep : Ordering) : Value → List Value → Option Value
  | v, [] => some v
  | v, w :: r =>
    match order v w with
    | some o => extreme keep (if o = keep then v else w) r
    | none => none

def extremeOf (keep : Ordering) (args : List Value) : Option Value :=
  let of : List Value → Option Value
    | [] => some .null
    | v :: r => extreme keep v r
  match args with
  | [.list items] => of items
  | [v] => some v
  | args => of args

def onStrings (f : String → String → Option Value) (a b : Value) : Option Value :=
  match a, b with
  | .str s, .str t => f s t
  | _, _ => none

/-- A part of a moment, or a length of time counted in `unit` nanoseconds in 32 bits. -/
def clockPart (part : Calendar.Moment → Nat) (unit : Int) : Value → Option Value
  | .moment m => some (.int (part m))
  | .duration n => some (.int ((n.tdiv unit).bmod 0x100000000))
  | _ => none

def datePart (part : Calendar.Moment → Int) : Value → Option Value
  | .moment m => some (.int (part m))
  | _ => none

def isZero : Value → Bool
  | .null => true
  | .bool b => !b
  | .int i => i == 0
  | .uint n => n == 0
  | .float x => x == 0
  | .str s => s.isEmpty
  | .bytes bs => bs.isEmpty
  | .list items => items.isEmpty
  | .map entries => entries.isEmpty
  | .duration n => n == 0
  | _ => false

def held : Value → Option Value
  | .present v => some v
  | _ => none

def hasValue : Value → Option Value
  | .present _ => some (.bool true)
  | .absent => some (.bool false)
  | _ => none

def isOptional : Value → Bool
  | .present _ => true
  | .absent => true
  | _ => false

def orOptional : Value → Value → Option Value
  | .present v, _ => some (.present v)
  | .absent, w => if isOptional w then some w else none
  | _, _ => none

def orValue : Value → Value → Option Value
  | .present v, _ => some v
  | .absent, w => some w
  | _, _ => none

def unary? : String → Option (Value → Option Value)
  | "size" => some size
  | "value" => some held
  | "hasValue" => some hasValue
  | "string" => some toStr
  | "int" => some toInt
  | "uint" => some toUint
  | "double" => some toDouble
  | "getFullYear" => some (datePart fun m => m.date.year)
  | "getMonth" => some (datePart fun m => m.date.month - 1)
  | "getDayOfYear" => some (datePart fun m => m.dayOfYear)
  | "getDayOfMonth" => some (datePart fun m => m.date.day - 1)
  | "getDate" => some (datePart fun m => m.date.day)
  | "getDayOfWeek" => some (datePart fun m => m.dayOfWeek)
  | "getHours" => some (clockPart Calendar.Moment.hour 3600000000000)
  | "getMinutes" => some (clockPart Calendar.Moment.minute 60000000000)
  | "getSeconds" => some (clockPart Calendar.Moment.second 1000000000)
  | "getMilliseconds" => some (clockPart (fun m => m.nanos / 1000000) 1000000)
  | _ => none

def ofText? : String → Option (String → Option Value)
  | "bytes" => some fun s => some (.bytes (encodeUtf8 s.toList))
  | "duration" => some fun s => (Period.read s).map .duration
  | "timestamp" => some fun s => (Calendar.readMoment s).map .moment
  | "urlencode" => some fun s => some (.str (formEncode s))
  | _ => none

def binary? : String → Option (Value → Value → Option Value)
  | "contains" => some contains
  | "or" => some orOptional
  | "orValue" => some orValue
  | "startsWith" => some (onStrings fun s t => some (.bool (Text.startsWith s t)))
  | "endsWith" => some (onStrings fun s t => some (.bool (Text.endsWith s t)))
  | "matches" => some (onStrings fun s t => (Regex.isMatch? t s).map .bool)
  | _ => none

def dotted? (first last : String) : Option (List (Option Value) → Option Value) :=
  let onFirst (f : Value → Value) : List (Option Value) → Option Value
    | some v :: _ => some (f v)
    | _ => none
  if first != "optional" then none
  else match last with
    | "none" => some fun args => if args.isEmpty then some .absent else none
    | "of" => some (onFirst .present)
    | "ofNonZeroValue" => some (onFirst fun v => if isZero v then .absent else .present v)
    | _ => none

def allValues : List (Option Value) → Option (List Value)
  | [] => some []
  | some v :: r => (allValues r).map (v :: ·)
  | none :: _ => none

def callFunction (name : String) (target : Option Value) (args : List (Option Value)) :
    Option Value :=
  let operands := match target with
    | some v => some v :: args
    | none => args
  match unary? name, binary? name, ofText? name, name with
  | some f, _, _, _ =>
    match operands with
    | some v :: _ => f v
    | _ => none
  | _, some f, _, _ =>
    match operands with
    | some v :: some w :: _ => f v w
    | _ => none
  | _, _, some f, _ =>
    match args with
    | some (.str s) :: _ => f s
    | _ => none
  | _, _, _, "max" => (allValues args).bind (extremeOf .gt)
  | _, _, _, "min" => (allValues args).bind (extremeOf .lt)
  | _, _, _, _ => none

end Scenario.Cel

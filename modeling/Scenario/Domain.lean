import Scenario.Domain.Mapping
import Scenario.Domain.Punycode
import Scenario.Path
import Scenario.Text.Direction
import Scenario.Text.Joining
import Scenario.Text.Normal

/-!
# Domain names

Host names as the `url` library reads them. A name is brought to one form and
split into labels at its points. A label with characters outside ASCII stands
for one in ASCII that begins with `xn--`, and is refused if it could be taken
for another one: marks and joiners must have something to act on, and where a
label is written from the right all of them must keep to one direction.
-/

set_option autoImplicit false

namespace Scenario.Domain
open Scenario.Text

inductive Fate where
  | kept
  | dropped
  | refused
  | mapped (codes : List Nat)
  deriving DecidableEq, Repr

def isJoiner (c : Char) : Bool := c.toNat == 0x200C || c.toNat == 0x200D

def isHidden (c : Char) : Bool := ["Cn", "Co", "Cs", "Cc", "Cf"].contains (categoryOf c)

def fate (c : Char) : Fate :=
  let n := c.toNat
  if droppedSet.hasCode n then .dropped
  else match imageOf mappings n with
    | some ns => .mapped ns
    | none =>
      let ns := normalCodes [n]
      if ns ≠ [n] then .mapped ns
      else if n < 128 ∨ isJoiner c then .kept
      else if isHidden c || refusedSet.hasCode n then .refused
      else .kept

def mapChars : List Char → Option (List Char)
  | [] => some []
  | c :: r =>
    match fate c, mapChars r with
    | .kept, some cs => some (c :: cs)
    | .dropped, some cs => some cs
    | .mapped ns, some cs => some (ns.map Char.ofNat ++ cs)
    | _, _ => none

def isAscii (cs : List Char) : Bool := cs.all fun c => c.toNat < 128

def codedPrefix : List Char := ['x', 'n', '-', '-']

def isCoded (label : List Char) : Bool := codedPrefix.isPrefixOf label

def codeLimit : Nat := 2000
def labelLimit : Nat := 1000

/-- The label that a coded one stands for: it has characters outside ASCII and is in the form
that mapping leaves as it is. -/
def decodeLabel? (label : List Char) : Option (List Char) :=
  let code := label.drop codedPrefix.length
  if codeLimit < code.length || !isAscii code then none
  else (decode? code).filter fun cs =>
    !isAscii cs && !isCoded cs && cs.all (fun c => fate c == .kept) && normalForm cs == cs

def viramaClass : Nat := 9

/-- A joiner stands behind a virama; one that keeps letters apart may also stand between letters
that would join. `before` comes in reverse. -/
def joinersFit (before : List Char) : List Char → Bool
  | [] => true
  | c :: r =>
    let fits := !isJoiner c || before.head?.any (fun b => combiningClass b.toNat == viramaClass) ||
      (c.toNat == 0x200C && (before.dropWhile isTransparent).head?.any joinsNext &&
        (r.dropWhile isTransparent).head?.any joinsPrevious)
    fits && joinersFit (c :: before) r

def markSet : CharSet := categorySet ["Mn", "Mc", "Me"]

def isSound (label : List Char) : Bool :=
  isAscii label || (!label.head?.any markSet.mem && joinersFit [] label)

def isRightward (d : Direction) : Bool := d == .right || d == .arabic || d == .arabicNumber

def isSign (d : Direction) : Bool :=
  [.sign, .separator, .unit, .neutral, .boundary, .mark].contains d

def fitsLeft (ds : List Direction) : Bool :=
  ds.head? == some .left && ds.all (fun d => d == .left || d == .number || isSign d) &&
    (ds.reverse.dropWhile (· == .mark)).head?.any fun d => d == .left || d == .number

def fitsRight (ds : List Direction) : Bool :=
  ds.head?.any (fun d => d == .right || d == .arabic) &&
    ds.all (fun d => isRightward d || d == .number || isSign d) &&
    (ds.reverse.dropWhile (· == .mark)).head?.any (fun d => isRightward d || d == .number) &&
    !(ds.contains .number && ds.contains .arabicNumber)

/-- Once any label holds something written from the right, every label keeps one direction. -/
def directionsFit (labels : List (List Char)) : Bool :=
  let all := labels.map fun l => l.map direction
  !(all.any fun ds => ds.any isRightward) ||
    all.all fun ds => ds.isEmpty || fitsLeft ds || fitsRight ds

def encodeLabel? (label : List Char) : Option (List Char) :=
  if isAscii label then some label
  else if labelLimit < label.length then none
  else some (codedPrefix ++ encode label)

def toAscii? (name : List Char) : Option (List Char) := do
  let labels := Path.splitOn '.' (normalForm (← mapChars name))
  let read ← labels.mapM fun l => if isCoded l then decodeLabel? l else some l
  if read.all isSound && directionsFit read then
    let ls ← (labels.zip read).mapM fun (l, u) => if isCoded l then some l else encodeLabel? u
    some (['.'].intercalate ls)
  else none

end Scenario.Domain

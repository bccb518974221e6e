import Scenario.Text.Blank
import Scenario.Text.Integer

/-!
# Dates and instants

This module stands for the dates of the `chrono` library.

Days are counted from the first of January 1970 in the Gregorian calendar. A
moment is a second, the nanoseconds that have passed in it, and the offset of
the clock that shows it.
-/

set_option autoImplicit false

namespace Scenario.Calendar
open Scenario.Text

structure Date where
  year : Int
  month : Nat
  day : Nat
  deriving DecidableEq, Repr

/-- Days since 1970-01-01; the year is taken to begin in March. -/
def Date.toDays (d : Date) : Int :=
  let y := if d.month ≤ 2 then d.year - 1 else d.year
  let era := y.fdiv 400
  let yoe := y - era * 400
  let mp : Int := ((d.month + 9) % 12 : Nat)
  let doy := (153 * mp + 2) / 5 + d.day - 1
  let doe := yoe * 365 + yoe / 4 - yoe / 100 + doy
  era * 146097 + doe - 719468

def Date.ofDays (days : Int) : Date :=
  let z := days + 719468
  let era := z.fdiv 146097
  let doe := z - era * 146097
  let yoe := (doe - doe / 1460 + doe / 36524 - doe / 146096) / 365
  let doy := doe - (365 * yoe + yoe / 4 - yoe / 100)
  let mp := (5 * doy + 2) / 153
  let day := (doy - (153 * mp + 2) / 5 + 1).toNat
  let month := if mp < 10 then (mp + 3).toNat else (mp - 9).toNat
  ⟨yoe + era * 400 + (if month ≤ 2 then 1 else 0), month, day⟩

def isLeap (y : Int) : Bool := y % 4 == 0 && (y % 100 != 0 || y % 400 == 0)

def monthLength (y : Int) (m : Nat) : Nat :=
  if m = 2 then (if isLeap y then 29 else 28)
  else if m = 4 ∨ m = 6 ∨ m = 9 ∨ m = 11 then 30 else 31

structure Moment where
  /-- Seconds since 1970-01-01 at Greenwich. -/
  seconds : Int
  /-- Nanoseconds of that second; in a leap second they run on past the billion. -/
  nanos : Nat
  /-- Seconds that the clock is ahead of Greenwich. -/
  offset : Int
  deriving DecidableEq, Repr

def billion : Nat := 1000000000

def Moment.ofNanos (n : Int) (offset : Int) : Moment :=
  ⟨n.fdiv billion, (n.fmod billion).toNat, offset⟩

def Moment.inLeapSecond (m : Moment) : Bool := billion ≤ m.nanos

def Moment.localSeconds (m : Moment) : Int := m.seconds + m.offset

def Moment.date (m : Moment) : Date := Date.ofDays (m.localSeconds.fdiv 86400)

def Moment.secondOfDay (m : Moment) : Nat := (m.localSeconds.fmod 86400).toNat

def Moment.hour (m : Moment) : Nat := m.secondOfDay / 3600
def Moment.minute (m : Moment) : Nat := m.secondOfDay / 60 % 60
def Moment.second (m : Moment) : Nat := m.secondOfDay % 60

def Moment.dayOfYear (m : Moment) : Nat :=
  (m.date.toDays - (Date.toDays ⟨m.date.year, 1, 1⟩)).toNat

def Moment.dayOfWeek (m : Moment) : Nat := ((m.date.toDays + 4).fmod 7).toNat

def Moment.carry (seconds nanos offset : Int) : Moment :=
  ⟨seconds + nanos.fdiv billion, (nanos.fmod billion).toNat, offset⟩

/-- The moment that many nanoseconds later; a leap second is only counted while it lasts. -/
def Moment.shift (m : Moment) (d : Int) : Moment :=
  let whole := d.tdiv billion
  let part := d.tmod billion
  if !m.inLeapSecond then carry (m.seconds + whole) (m.nanos + part) m.offset
  else if 0 < whole ∨ (0 < part ∧ 2 * (billion : Int) ≤ m.nanos + part) then
    carry (m.seconds + whole) (m.nanos - billion + part) m.offset
  else if whole < 0 then carry (m.seconds + 1 + whole) (m.nanos - billion + part) m.offset
  else ⟨m.seconds, (m.nanos + part).toNat, m.offset⟩

/-- Nanoseconds from one moment to another; a leap second counts if it comes at an earlier time
of day than the other moment. -/
def Moment.since (m n : Moment) : Int :=
  let plain := (m.seconds - n.seconds) * billion + ((m.nanos : Int) - n.nanos)
  let time (m : Moment) := m.seconds.fmod 86400
  if time n < time m ∧ n.inLeapSecond then plain + billion
  else if time m < time n ∧ m.inLeapSecond then plain - billion
  else plain

def Moment.isBefore (m n : Moment) : Bool :=
  m.seconds < n.seconds || (m.seconds == n.seconds && m.nanos < n.nanos)

def Moment.order (m n : Moment) : Ordering :=
  if m.isBefore n then .lt else if n.isBefore m then .gt else .eq

def firstYear : Int := -262143
def lastYear : Int := 262142

def Moment.isReachable (m : Moment) : Bool :=
  let year := (Date.ofDays (m.seconds.fdiv 86400)).year
  firstYear ≤ year && year ≤ lastYear

def twoDigits : List Char → Option (Nat × List Char)
  | a :: b :: r => do
    let a ← digit? 10 a
    let b ← digit? 10 b
    some (a * 10 + b, r)
  | _ => none

def expect (c : Char) : List Char → Option (List Char)
  | d :: r => if c = d then some r else none
  | [] => none

def fractionNanos (ds : List Char) : Nat :=
  ((ds ++ List.replicate 9 '0').take 9).foldl (fun n c => n * 10 + (c.toNat - 48)) 0

def readFraction : List Char → Option (Nat × List Char)
  | '.' :: r =>
    let ds := r.takeWhile Char.isDigit
    if ds.isEmpty then none else some (fractionNanos ds, r.drop ds.length)
  | r => some (0, r)

/-- The moment at which a clock with the offset shows the date and the time of day. A sixtieth
second is a leap second. -/
def momentAt? (date : Date) (hour minute second nanos : Nat) (offset : Int) : Option Moment :=
  if firstYear ≤ date.year ∧ date.year ≤ lastYear ∧ 1 ≤ date.month ∧ date.month ≤ 12 ∧
      1 ≤ date.day ∧ date.day ≤ monthLength date.year date.month ∧ hour < 24 ∧ minute < 60 ∧
      second ≤ 60 then
    let clock : Int := date.toDays * 86400 + hour * 3600 + minute * 60 + min second 59
    let m : Moment := ⟨clock - offset, if second = 60 then nanos + billion else nanos, offset⟩
    if m.isReachable then some m else none
  else none

def offsetSign? (c : Char) : Option Int :=
  if c == '+' then some 1 else if c == '-' || c.toNat == 0x2212 then some (-1) else none

def readOffset : List Char → Option (Int × List Char)
  | 'Z' :: r => some (0, r)
  | 'z' :: r => some (0, r)
  | s :: r => do
    let sign ← offsetSign? s
    let (h, r) ← twoDigits r
    let r ← expect ':' r
    let (m, r) ← twoDigits r
    if h < 24 ∧ m < 60 then some (sign * (h * 3600 + m * 60), r) else none
  | [] => none

def readMoment (s : String) : Option Moment := do
  let cs := s.toList
  let (c, r) ← twoDigits cs
  let (y, r) ← twoDigits r
  let r ← expect '-' r
  let (month, r) ← twoDigits r
  let r ← expect '-' r
  let (day, r) ← twoDigits r
  let year : Int := c * 100 + y
  let r ← match r with
    | t :: r => if t = 'T' ∨ t = 't' ∨ t = ' ' then some r else none
    | [] => none
  let (hour, r) ← twoDigits r
  let r ← expect ':' r
  let (minute, r) ← twoDigits r
  let r ← expect ':' r
  let (second, r) ← twoDigits r
  let (nanos, r) ← readFraction r
  let (offset, r) ← readOffset r
  if r.isEmpty then momentAt? ⟨year, month, day⟩ hour minute second nanos offset else none

def readNumber (width : Nat) (cs : List Char) : Option (Nat × List Char) :=
  let cs := dropBlanks cs
  let ds := (cs.takeWhile Char.isDigit).take width
  if ds.isEmpty then none
  else some (ds.foldl (fun n c => n * 10 + (c.toNat - 48)) 0, cs.drop ds.length)

def readYear (cs : List Char) : Option (Int × List Char) :=
  match dropBlanks cs with
  | '-' :: r => do
    let (n, r) ← readDigits r
    some (-(n : Int), r)
  | '+' :: r => do
    let (n, r) ← readDigits r
    some ((n : Int), r)
  | r => (readNumber 4 r).map fun p => ((p.1 : Int), p.2)
where
  readDigits (cs : List Char) : Option (Nat × List Char) :=
    if cs.head?.any Char.isDigit then readNumber cs.length cs else none

def readLooseOffset (cs : List Char) : Option (Int × List Char) :=
  match cs with
  | 'Z' :: r => some (0, r)
  | 'z' :: r => some (0, r)
  | c :: r =>
    if lowerAscii (String.ofList (cs.take 3)) == "utc" then some (0, cs.drop 3)
    else do
      let sign ← offsetSign? c
      let (h, r) ← twoDigits r
      let (m, r) ← twoDigits (r.dropWhile fun c => c == ':' || isBlank c)
      if h < 24 ∧ m < 60 then some (sign * (h * 3600 + m * 60), r) else none
  | [] => none

/-- A moment written less strictly: numbers may be short and blanks may stand
before numbers, marks and the offset. -/
def readLooseMoment (s : String) : Option Moment := do
  let (year, r) ← readYear s.toList
  let r ← expect '-' (dropBlanks r)
  let (month, r) ← readNumber 2 r
  let r ← expect '-' (dropBlanks r)
  let (day, r) ← readNumber 2 r
  let r ← match r with
    | t :: r => if t = 'T' ∨ t = 't' ∨ t = ' ' then some r else none
    | [] => none
  let (hour, r) ← readNumber 2 r
  let r ← expect ':' (dropBlanks r)
  let (minute, r) ← readNumber 2 r
  let r ← expect ':' (dropBlanks r)
  let (second, r) ← readNumber 2 r
  let (nanos, r) ← readFraction r
  let (offset, r) ← readLooseOffset (dropBlanks r)
  if (dropBlanks r).isEmpty then
    momentAt? ⟨year, month, day⟩ hour minute second nanos offset
  else none

def fractionText (nanos : Nat) : String :=
  if nanos = 0 then ""
  else if nanos % 1000000 = 0 then "." ++ padded 3 (nanos / 1000000)
  else if nanos % 1000 = 0 then "." ++ padded 6 (nanos / 1000)
  else "." ++ padded 9 nanos

def offsetText (offset : Int) : String :=
  let minutes := offset.natAbs / 60
  (if offset < 0 then "-" else "+") ++ padded 2 (minutes / 60) ++ ":" ++ padded 2 (minutes % 60)

def yearText (y : Int) : String :=
  if 0 ≤ y ∧ y ≤ 9999 then padded 4 y.toNat
  else (if y < 0 then "-" else "+") ++ padded 4 y.natAbs

def Moment.text (zulu : Bool) (m : Moment) : String :=
  let d := m.date
  let leap := if m.inLeapSecond then 1 else 0
  yearText d.year ++ "-" ++ padded 2 d.month ++ "-" ++ padded 2 d.day ++ "T" ++
    padded 2 m.hour ++ ":" ++ padded 2 m.minute ++ ":" ++ padded 2 (m.second + leap) ++
    fractionText (m.nanos % billion) ++ (if zulu && m.offset == 0 then "Z" else offsetText m.offset)

end Scenario.Calendar

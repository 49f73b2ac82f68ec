import Tickwork.Instant.Basic
import Tickwork.Text.Quoted

/-!
# Instants from text

Reads the ISO form: a day, written as a date of the year or as a day of one of its weeks, then after
one separating character a time of day, with or without an offset from UTC. Hyphens and colons may be
left out. `Instant.readClock` gives what the clock shows and its offset, `Instant.read` the instant.
-/

set_option autoImplicit false

namespace Tickwork

namespace Instant

/-- Why a text is no date and time. -/
inductive ReadFault where
  | shape (text : String)
  | year (y : Int)
  | month
  | day
  | hour
  | minute
  | second
  /-- The offset in microseconds is a day or more. -/
  | offset (micros : Int)
  | outsideCalendar
  deriving DecidableEq

/-- A span in days, seconds and microseconds, of which only the days may be negative; parts that are
zero are left out. -/
def spanParts (micros : Int) : List String :=
  let rest := (micros.fmod dayMicros).toNat
  let parts : List (String × Int) :=
    [("days", micros.fdiv dayMicros), ("seconds", ((rest / 1000000 : Nat) : Int)),
      ("microseconds", ((rest % 1000000 : Nat) : Int))]
  (parts.filter fun part => part.2 != 0).map fun part => s!"{part.1}={part.2}"

def ReadFault.message : ReadFault → String
  | .shape text => "Invalid isoformat string: " ++ Text.quoted text
  | .year y => s!"year {y} is out of range"
  | .month => "month must be in 1..12"
  | .day => "day is out of range for month"
  | .hour => "hour must be in 0..23"
  | .minute => "minute must be in 0..59"
  | .second => "second must be in 0..59"
  | .offset micros =>
    let span := ", ".intercalate (spanParts micros)
    "offset must be a timedelta strictly between -timedelta(hours=24) and timedelta(hours=24), " ++
      s!"not datetime.timedelta({span})."
  | .outsideCalendar => "date value out of range"

/-! ## Days -/

/-- The number spelled by exactly these characters, all ASCII digits. -/
def number? (cs : List Char) : Option Nat :=
  if cs.isEmpty then none else (cs.mapM Text.asciiDigit?).map Text.ofDigits

/-- The character at a place, a NUL beyond the end. -/
def charAt (cs : List Char) (i : Nat) : Char :=
  (cs.drop i).headD '\x00'

def digitAt (cs : List Char) (i : Nat) : Bool :=
  (Text.asciiDigit? (charAt cs i)).isSome

/-- The number of characters that spell the day. With hyphens a week is told from a day of a week by
the hyphen after it, unless digits of a time follow that hyphen; without hyphens the digits of a time
come in pairs, so the count of all digits tells whether the first one belongs to the day. -/
def daySize (cs : List Char) : Nat :=
  if cs.length = 7 then 7
  else if charAt cs 4 = '-' then
    if charAt cs 5 ≠ 'W' then 10
    else if charAt cs 8 = '-' ∧ ¬ digitAt cs 10 then 10
    else 8
  else if charAt cs 4 ≠ 'W' then 8
  else
    let digits := ((cs.drop 7).takeWhile fun c => (Text.asciiDigit? c).isSome).length
    if digits < 2 then 7 + digits else if digits % 2 = 1 then 7 else 8

/-- Whether a year has a week 53: it begins on a Thursday, or on a Wednesday if it has a leap day. -/
def hasWeek53 (year : Int) : Bool :=
  let first := (daysOfDate year 1 1 + 3).fmod 7
  first == 3 || (first == 2 && isLeap year)

/-- The date of a day of a week; weeks begin on Monday and the first one holds January 4. The year 0
lies before the calendar, and its weeks are in no month. -/
def dateOfWeek? (year week day : Nat) : Option (Int × Nat × Nat) :=
  if week = 0 ∨ 53 < week ∨ (week = 53 ∧ ¬ hasWeek53 year) ∨ day = 0 ∨ 7 < day then none
  else if year = 0 then some (1, 0, day)
  else
    let fourth := daysOfDate year 1 4
    let monday := fourth - (fourth + 3).fmod 7
    some (dateOfDays (monday + (week - 1) * 7 + (day - 1)))

/-- Year, month and day: four digits of the year, then two of the month and two of the day, or a week
and perhaps its day. Hyphens stand between all parts or between none. -/
def readDate? (cs : List Char) : Option (Int × Nat × Nat) := do
  let year ← number? (cs.take 4)
  match cs.drop 4 with
  | ['-', 'W', a, b] => dateOfWeek? year (← number? [a, b]) 1
  | ['W', a, b] => dateOfWeek? year (← number? [a, b]) 1
  | ['-', 'W', a, b, '-', c] => dateOfWeek? year (← number? [a, b]) (← number? [c])
  | ['W', a, b, c] => dateOfWeek? year (← number? [a, b]) (← number? [c])
  | ['-', a, b, '-', c, d] => some (year, ← number? [a, b], ← number? [c, d])
  | [a, b, c, d] => some (year, ← number? [a, b], ← number? [c, d])
  | _ => none

/-! ## Times of day -/

/-- Whether a text is over: nothing is left, or a NUL stands next. -/
def isOver (cs : List Char) : Bool :=
  charAt cs 0 == '\x00'

/-- The digits after the point, of which six count, as microseconds, and whether the text is over
after them. -/
def readFraction? (cs : List Char) : Option (Nat × Bool) := do
  let digits := cs.take 6
  let n ← number? digits
  let rest := (cs.drop 6).dropWhile fun c => (Text.asciiDigit? c).isSome
  some (n * tenTo (6 - digits.length), isOver rest)

/-- Up to so many numbers of two digits, and a fraction behind the last one. Colons stand between all
numbers or between none; whether they do shows after the first. A point or a comma opens the fraction,
and so does whatever stands between further numbers. One ASCII character may be left over at the very
end. Gives the numbers, the microseconds and whether nothing was left over. -/
def readNumbers? : Nat → Option Bool → List Char → Option (List Nat × Nat × Bool)
  | 0, _, cs => do
    let (micros, whole) ← readFraction? cs
    some ([], micros, whole)
  | fuel + 1, colons, cs => do
    let n ← if 2 ≤ cs.length then number? (cs.take 2) else none
    match cs.drop 2 with
    | [] => some ([n], 0, true)
    | c :: rest =>
      let colons := colons.getD (c == ':')
      if rest.isEmpty ∧ c.toNat < 0x80 then some ([n], 0, isOver [c])
      else if colons ∧ c = ':' then do
        let (ns, found) ← readNumbers? fuel (some colons) rest
        some (n :: ns, found)
      else if c = '.' ∨ c = ',' then do
        let (micros, whole) ← readFraction? rest
        some ([n], micros, whole)
      else if colons then none
      else do
        let (ns, found) ← readNumbers? fuel (some colons) (c :: rest)
        some (n :: ns, found)

/-- Hour, minute, second and microsecond. -/
structure Clock where
  hour : Nat
  minute : Nat
  second : Nat
  micro : Nat
  deriving DecidableEq

def Clock.midnight : Clock := ⟨0, 0, 0, 0⟩

/-- Whole seconds since midnight. -/
def Clock.seconds (c : Clock) : Nat :=
  (c.hour * 60 + c.minute) * 60 + c.second

/-- A time of day, whose missing parts are zero, and whether nothing was left over. -/
def readTime? (cs : List Char) : Option (Clock × Bool) := do
  let (ns, micro, whole) ← readNumbers? 3 none cs
  some (⟨ns.getD 0 0, ns.getD 1 0, ns.getD 2 0, micro⟩, whole)

/-- An offset in microseconds from its sign and its size. Less than a second counts as none. -/
def offsetOf (sign : Char) (size : Clock) : Int :=
  let micros : Int := size.seconds * 1000000 + size.micro
  if size.seconds = 0 then 0 else if sign = '-' then -micros else micros

/-- A time with its offset: nothing, `Z`, or a sign and a time. What is left over before an offset is
passed over. -/
def readZoned? (cs : List Char) : Option (Clock × Option Int) := do
  let time := cs.takeWhile fun c => c != '+' && c != '-' && c != 'Z'
  let (clock, whole) ← readTime? time
  match cs.drop time.length with
  | [] => if whole then some (clock, none) else none
  | sign :: rest =>
    if sign = 'Z' then (if isOver rest then some (clock, some 0) else none)
    else do
      let (size, whole) ← readTime? rest
      if whole then some (clock, some (offsetOf sign size)) else none

/-! ## Instants -/

/-- Day, time and offset as written, before any number is checked. A day alone is its midnight. -/
def readParts? (text : String) : Option ((Int × Nat × Nat) × Clock × Option Int) := do
  let cs := text.toList
  let size := daySize cs
  let date ← if 7 ≤ cs.length then readDate? (cs.take size) else none
  match cs.drop size with
  | [] => some (date, .midnight, none)
  | _ :: rest => some (date, ← readZoned? rest)

/-- Reads a date, or a date and a time after any one character. Gives the instant that the clock shows
and the offset of that clock from UTC, if it has one. The offset is checked first. -/
def readClock (text : String) : Except ReadFault (Instant × Option Int) := do
  match readParts? text with
  | none => .error (.shape text)
  | some ((year, month, day), clock, offset) =>
    match offset with
    | some o => if o ≤ -dayMicros ∨ dayMicros ≤ o then .error (.offset o)
    | none => pure ()
    if year < 1 ∨ 9999 < year then .error (.year year)
    if month = 0 ∨ 12 < month then .error .month
    if day = 0 ∨ monthLength year month < day then .error .day
    if 23 < clock.hour then .error .hour
    if 59 < clock.minute then .error .minute
    if 59 < clock.second then .error .second
    .ok (⟨daysOfDate year month day * dayMicros + clock.seconds * 1000000 + clock.micro⟩, offset)

/-- The instant at which a clock with some offset from UTC shows a time; a clock without offset shows UTC. -/
def ofClock : Instant × Option Int → Except ReadFault Instant
  | (clock, offset) =>
    let t : Instant := ⟨clock.micros - offset.getD 0⟩
    if t.inCalendar then .ok t else .error .outsideCalendar

/-- Reads an instant. -/
def read (text : String) : Except ReadFault Instant := do
  let clock ← readClock text
  ofClock clock

end Instant

end Tickwork

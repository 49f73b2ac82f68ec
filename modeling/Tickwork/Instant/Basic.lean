import Tickwork.Number.Binary64
import Tickwork.Text.Digit

/-!
# Instants

A point in time is a count of microseconds since the start of 1970 in UTC. This file holds the
calendar, adds spans of seconds to instants and writes instants in the ISO form.
-/

set_option autoImplicit false

namespace Tickwork

structure Instant where
  micros : Int
  deriving DecidableEq

namespace Instant

instance : LE Instant := ⟨fun a b => a.micros ≤ b.micros⟩
instance : LT Instant := ⟨fun a b => a.micros < b.micros⟩
instance (a b : Instant) : Decidable (a ≤ b) := inferInstanceAs (Decidable (a.micros ≤ b.micros))
instance (a b : Instant) : Decidable (a < b) := inferInstanceAs (Decidable (a.micros < b.micros))

/-- Microseconds of a day. -/
def dayMicros : Int := 86400000000

/-! ## Calendar -/

def isLeap (year : Int) : Bool :=
  year % 4 == 0 && (year % 100 != 0 || year % 400 == 0)

def monthLength (year : Int) (month : Nat) : Nat :=
  if month = 2 then (if isLeap year then 29 else 28)
  else if month = 4 ∨ month = 6 ∨ month = 9 ∨ month = 11 then 30
  else 31

/-- Days from the start of 1970 to a date. Years are counted from March, so that the leap day is the
last one of its year, in eras of 400 years. -/
def daysOfDate (year : Int) (month day : Nat) : Int :=
  let y := if month ≤ 2 then year - 1 else year
  let era := y.fdiv 400
  let yearOfEra := y - era * 400
  let shifted : Int := (month + 9) % 12
  let dayOfYear := (153 * shifted + 2) / 5 + day - 1
  let dayOfEra := yearOfEra * 365 + yearOfEra / 4 - yearOfEra / 100 + dayOfYear
  era * 146097 + dayOfEra - 719468

/-- The date a number of days after the start of 1970: year, month and day. -/
def dateOfDays (days : Int) : Int × Nat × Nat :=
  let z := days + 719468
  let era := z.fdiv 146097
  let dayOfEra := z - era * 146097
  let yearOfEra := (dayOfEra - dayOfEra / 1460 + dayOfEra / 36524 - dayOfEra / 146096) / 365
  let dayOfYear := dayOfEra - (365 * yearOfEra + yearOfEra / 4 - yearOfEra / 100)
  let shifted := (5 * dayOfYear + 2) / 153
  let day := (dayOfYear - (153 * shifted + 2) / 5 + 1).toNat
  let month := (if shifted < 10 then shifted + 3 else shifted - 9).toNat
  let year := yearOfEra + era * 400
  (if month ≤ 2 then year + 1 else year, month, day)

/-- The first and the last instant of the calendar: years 1 to 9999. -/
def inCalendar (t : Instant) : Bool :=
  let first := daysOfDate 1 1 1 * dayMicros
  let bound := (daysOfDate 9999 12 31 + 1) * dayMicros
  first ≤ t.micros && t.micros < bound

/-! ## Spans -/

/-- A span of seconds, whole or with a fraction, or something of a type that is no span. -/
inductive Seconds where
  | whole (n : Int)
  | real (x : Binary64)
  | other (type : String)
  deriving DecidableEq

/-- Why a span cannot be added to an instant. -/
inductive SpanFault where
  | infinite
  | undefined
  | tooLong
  | tooManyDays (days : Int)
  | outsideCalendar
  | unsupported (type : String)
  deriving DecidableEq

def SpanFault.message : SpanFault → String
  | .infinite => "cannot convert float infinity to integer"
  | .undefined => "cannot convert float NaN to integer"
  | .tooLong => "Python int too large to convert to C int"
  | .tooManyDays days => s!"days={days}; must have magnitude <= 999999999"
  | .outsideCalendar => "date value out of range"
  | .unsupported type => s!"unsupported type for timedelta seconds component: {type}"

/-- The span in microseconds. The fraction of a second is scaled as a double and then rounded, a half
to the even microsecond. -/
def Seconds.micros : Seconds → Except SpanFault Int
  | .whole n => .ok (n * 1000000)
  | .other type => .error (.unsupported type)
  | .real x =>
    match x.meaning with
    | .infinite _ => .error .infinite
    | .undefined => .error .undefined
    | .finite negative m e =>
      let (units, rest, den) := Binary64.splitPoint m e
      let fraction := match (Binary64.ofRatio false (rest * 1000000) den).meaning with
        | .finite _ m e =>
          if e < 0 then Binary64.roundDiv m (twoTo (-e).toNat) else m * twoTo e.toNat
        | _ => 0
      let n : Int := units * 1000000 + fraction
      .ok (if negative then -n else n)

/-- The instant a span later, if the calendar has it. A span is kept as a number of days that takes 32
bits, and has a bound of its own below that. -/
def after (t : Instant) (span : Seconds) : Except SpanFault Instant := do
  let n ← span.micros
  let days := n.fdiv dayMicros
  if days < -2147483648 ∨ 2147483647 < days then .error .tooLong
  else if days < -999999999 ∨ 999999999 < days then .error (.tooManyDays days)
  else
    let later : Instant := ⟨t.micros + n⟩
    if later.inCalendar then .ok later else .error .outsideCalendar

/-! ## Written form -/

/-- Date and time of day, with six digits of a second if there is a fraction. -/
def written (t : Instant) : String :=
  let (year, month, day) := dateOfDays (t.micros.fdiv dayMicros)
  let rest := (t.micros.fmod dayMicros).toNat
  let seconds := rest / 1000000
  let fraction := rest % 1000000
  let date := s!"{Text.padded 4 year.toNat}-{Text.padded 2 month}-{Text.padded 2 day}"
  let hour := Text.padded 2 (seconds / 3600)
  let minute := Text.padded 2 (seconds / 60 % 60)
  let second := Text.padded 2 (seconds % 60)
  let time := s!"{hour}:{minute}:{second}"
  if fraction = 0 then s!"{date}T{time}" else s!"{date}T{time}.{Text.padded 6 fraction}"

/-- The written form with the offset of UTC. -/
def writtenUtc (t : Instant) : String :=
  t.written ++ "+00:00"

end Instant

end Tickwork

import Tickwork.Number.Binary64
import Tickwork.Text.Blank

/-!
# Numerals typed by a person

Settings and stored counters are read from text with some freedom: blanks around the numeral, a sign,
single underscores between digits, and digits of any script. `readInt` reads a whole number in base
ten, `readFloat?` a decimal with optional point and exponent or one of the names of the infinities
and of the missing number. A whole number has a numeral only up to a number of digits: beyond that it
is neither read nor spelled.
-/

set_option autoImplicit false

namespace Tickwork

namespace Numeral

/-- The most digits that the numeral of a whole number may have. -/
def digitLimit : Nat := 4300

/-- The least number that has too many digits. -/
def digitBound : Nat := tenTo digitLimit

/-- Whether a whole number has no more digits than a numeral may have. -/
def isSpellable (n : Int) : Bool :=
  decide (n.natAbs < digitBound)

def limitWords : String :=
  s!"Exceeds the limit ({digitLimit} digits) for integer string conversion"

/-- The advice to go with the limit. -/
def limitAdvice : String :=
  "use sys.set_int_max_str_digits() to increase the limit"

/-- What is said of a whole number that cannot be spelled. -/
def unspellableWords : String :=
  s!"{limitWords}; {limitAdvice}"

/-- What is said of a numeral with too many digits. -/
def tooLongWords (digits : Nat) : String :=
  s!"{limitWords}: value has {digits} digits; {limitAdvice}"

/-- What keeps a text from being read as a whole number. -/
inductive Problem where
  /-- It is no numeral. -/
  | shape
  /-- It has too many digits. -/
  | tooLong (digits : Nat)
  deriving DecidableEq

def sign (cs : List Char) : Bool × List Char :=
  match cs with
  | '-' :: rest => (true, rest)
  | '+' :: rest => (false, rest)
  | _ => (false, cs)

def signed (negative : Bool) (digits : List Nat) : Int :=
  let n : Int := Text.ofDigits digits
  if negative then -n else n

/-! ## Whole numbers -/

/-- The digits at the front and what follows them, where an underscore may stand between two digits;
`none` if there is no digit or an underscore stands elsewhere. -/
def digitRun : Bool → List Char → Option (List Nat × List Char)
  | afterDigit, [] => if afterDigit then some ([], []) else none
  | afterDigit, c :: rest =>
    match Text.digit? c with
    | some d => (digitRun true rest).map fun (ds, left) => (d :: ds, left)
    | none =>
      if afterDigit then
        if c = '_' then digitRun false rest else some ([], c :: rest)
      else none

/-- Reads a whole number. That a numeral is too long is found before what follows its digits. -/
def readInt (s : String) : Except Problem Int :=
  let (negative, cs) := sign (Text.trimChars Text.isMargin s.toList)
  match digitRun false cs with
  | none => .error .shape
  | some (digits, left) =>
    if digitLimit < digits.length then .error (.tooLong digits.length)
    else if left.isEmpty then .ok (signed negative digits)
    else .error .shape

/-! ## Decimals -/

/-- The digits at the front and what follows them. -/
def digitGroup : List Char → List Nat × List Char
  | [] => ([], [])
  | c :: rest =>
    match Text.digit? c with
    | some d =>
      let (ds, left) := digitGroup rest
      (d :: ds, left)
    | none => ([], c :: rest)

/-- Drops every underscore that has a digit on both sides; `none` when one stands elsewhere. -/
def dropUnderscores : Bool → List Char → Option (List Char)
  | _, [] => some []
  | afterDigit, c :: rest =>
    if c = '_' then
      match rest with
      | [] => none
      | next :: _ =>
        if afterDigit && (Text.digit? next).isSome then dropUnderscores false rest else none
    else (dropUnderscores (Text.digit? c).isSome rest).map (c :: ·)

/-- The exponent part of a decimal: nothing, or a letter, a sign and digits to the end. -/
def exponent? (cs : List Char) : Option Int :=
  match cs with
  | [] => some 0
  | c :: rest =>
    if c = 'e' ∨ c = 'E' then
      let (negative, rest) := sign rest
      match digitGroup rest with
      | (d :: ds, []) => some (signed negative (d :: ds))
      | _ => none
    else none

/-- An unsigned decimal: digits with an optional point, at least one of them, and an exponent. -/
def decimal? (negative : Bool) (cs : List Char) : Option Binary64 := do
  let (whole, rest) := digitGroup cs
  let (fraction, rest) := match rest with
    | '.' :: rest => digitGroup rest
    | _ => ([], rest)
  if whole.isEmpty ∧ fraction.isEmpty then none
  else
    let e ← exponent? rest
    some (Binary64.ofDecimal negative (Text.ofDigits (whole ++ fraction)) (e - fraction.length))

def readFloat? (s : String) : Option Binary64 := do
  let cs ← dropUnderscores false (Text.trimChars Text.isMargin s.toList)
  let (negative, cs) := sign cs
  let name := String.ofList (cs.map Char.toLower)
  if name = "inf" ∨ name = "infinity" then some (Binary64.infinity negative)
  else if name = "nan" then some Binary64.nan
  else decimal? negative cs

end Numeral

end Tickwork

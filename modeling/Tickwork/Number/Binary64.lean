import Tickwork.Number.Power
import Tickwork.Text.Digit

/-!
# Double precision numbers

A double is its sixty-four bits. Everything the program does with one — reading it from a decimal
numeral, dividing, comparing, writing its bits — goes through exact integer arithmetic on
`m · 2 ^ e`, with one rounding step `ofRatio`: to the nearest double, a tie to the even one.
-/

set_option autoImplicit false

namespace Tickwork

/-- A double precision number, as its bits. -/
structure Binary64 where
  bits : UInt64
  deriving DecidableEq

namespace Binary64

/-- What a double stands for: `± m · 2 ^ e`, an infinity, or no number. -/
inductive Meaning where
  | finite (negative : Bool) (m : Nat) (e : Int)
  | infinite (negative : Bool)
  | undefined
  deriving DecidableEq

/-- The bits from a sign and the sixty-three bits below it. -/
def ofParts (negative : Bool) (magnitude : Nat) : Binary64 :=
  ⟨UInt64.ofNat ((if negative then twoTo 63 else 0) + magnitude)⟩

def zero (negative : Bool) : Binary64 := ofParts negative 0

def infinity (negative : Bool) : Binary64 := ofParts negative (2047 * twoTo 52)

/-- The double that stands for no number. -/
def nan : Binary64 := ofParts false (2047 * twoTo 52 + twoTo 51)

/-- Reads sign, exponent and fraction off the bits. -/
def meaning (x : Binary64) : Meaning :=
  let n : Nat := x.bits.toNat
  let negative : Bool := twoTo 63 ≤ n
  let exponent : Nat := n / twoTo 52 % 2048
  let fraction : Nat := n % twoTo 52
  if exponent = 2047 then
    if fraction = 0 then .infinite negative else .undefined
  else if exponent = 0 then .finite negative fraction (-1074)
  else .finite negative (twoTo 52 + fraction) ((exponent : Int) - 1075)

/-- The quotient to the nearest integer, a tie to the even one. -/
def roundDiv (num den : Nat) : Nat :=
  let q := num / den
  let twice := 2 * (num % den)
  if twice < den then q
  else if den < twice then q + 1
  else if q % 2 = 0 then q else q + 1

/-- The fraction `num / den` divided by `2 ^ e`, as a fraction. -/
def scaleDown (num den : Nat) (e : Int) : Nat × Nat :=
  if e < 0 then (num * twoTo (-e).toNat, den) else (num, den * twoTo e.toNat)

/-- The double nearest to `± num / den`, a tie to the one with an even last bit; beyond the largest
double, an infinity. -/
def ofRatio (negative : Bool) (num den : Nat) : Binary64 :=
  if num = 0 ∨ den = 0 then zero negative
  else
    let guess : Int := (num.log2 : Int) - den.log2 - 52
    let (n, d) := scaleDown num den guess
    let e := max (if n < d * twoTo 52 then guess - 1 else guess) (-1074)
    let (n, d) := scaleDown num den e
    let q := roundDiv n d
    if q < twoTo 52 then ofParts negative q
    else
      let (q, e) := if q = twoTo 53 then (twoTo 52, e + 1) else (q, e)
      if 971 < e then infinity negative
      else ofParts negative ((e + 1075).toNat * twoTo 52 + (q - twoTo 52))

/-- The double nearest to `± digits · 10 ^ exponent`. Exponents far outside the range of doubles are
cut off first, so that no giant power is computed. -/
def ofDecimal (negative : Bool) (digits : Nat) (exponent : Int) : Binary64 :=
  let size : Int := (Nat.toDigits 10 digits).length
  if digits = 0 then zero negative
  else if 400 < exponent + size then infinity negative
  else if exponent + size < -400 then zero negative
  else if exponent < 0 then ofRatio negative digits (tenTo (-exponent).toNat)
  else ofRatio negative (digits * tenTo exponent.toNat) 1

/-- The double nearest to an integer, if there is a finite one. -/
def ofInt? (n : Int) : Option Binary64 :=
  let x := ofRatio (n < 0) n.natAbs 1
  match x.meaning with
  | .finite .. => some x
  | _ => none

/-- The quotient of a double by a positive integer, rounded once. -/
def divNat (x : Binary64) (k : Nat) : Binary64 :=
  match x.meaning with
  | .finite negative m e =>
    if e < 0 then ofRatio negative m (k * twoTo (-e).toNat) else ofRatio negative (m * twoTo e.toNat) k
  | _ => x

def isPositive (x : Binary64) : Bool :=
  match x.meaning with
  | .finite negative m _ => !negative && m != 0
  | .infinite negative => !negative
  | .undefined => false

def isNegative (x : Binary64) : Bool :=
  match x.meaning with
  | .finite negative m _ => negative && m != 0
  | .infinite negative => negative
  | .undefined => false

def isZero (x : Binary64) : Bool :=
  match x.meaning with
  | .finite _ m _ => m == 0
  | _ => false

/-- The integer part and the fraction that is left, as a numerator over a power of two. -/
def splitPoint (m : Nat) (e : Int) : Nat × Nat × Nat :=
  if e < 0 then
    let den := twoTo (-e).toNat
    (m / den, m % den, den)
  else (m * twoTo e.toNat, 0, 1)

/-- The integer part of a finite double, cut toward zero. -/
def truncate? (x : Binary64) : Option Int :=
  match x.meaning with
  | .finite negative m e =>
    let (whole, _, _) := splitPoint m e
    some (if negative then -(whole : Int) else whole)
  | _ => none

/-- The sixteen hexadecimal digits of the bits; every double that is no number is written alike. -/
def hexText (x : Binary64) : String :=
  match x.meaning with
  | .undefined => "nan"
  | _ => Text.hex 16 x.bits.toNat

end Binary64

end Tickwork

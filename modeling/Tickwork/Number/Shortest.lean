import Tickwork.Number.Binary64

/-!
# Shortest decimal text of a double

A double is written with the fewest digits that read back as the same double. For each number of
digits the two neighbours of the value on that decimal grid are tried; the first grid with a hit wins
and of two hits the nearer one is taken.
-/

set_option autoImplicit false

namespace Tickwork

namespace Binary64

/-- The decimal exponent of a positive fraction: the `k` with `10 ^ k ≤ num / den < 10 ^ (k + 1)`. -/
def decimalExponent (num den : Nat) : Int :=
  if den ≤ num then ((Nat.toDigits 10 (num / den)).length : Int) - 1
  else
    let digits : Int := (Nat.toDigits 10 (den / num)).length
    -- The quotient has `digits` digits, so the value lies at `-digits` or just above.
    if num * tenTo (digits - 1).toNat < den then -digits else -(digits - 1)

/-- The two neighbours of `num / den` on the grid of multiples of `10 ^ k`, nearer one first; of two
that are equally near, the even one. -/
def gridNeighbours (num den : Nat) (k : Int) : Nat × Nat :=
  let (n, d) := if k < 0 then (num * tenTo (-k).toNat, den) else (num, den * tenTo k.toNat)
  let low := n / d
  let twice := 2 * (n % d)
  if twice < d ∨ (twice = d ∧ low % 2 = 0) then (low, low + 1) else (low + 1, low)

/-- The first grid, from `count` digits on, with a point that reads back as `x`. -/
def searchGrid (x : Binary64) (num den : Nat) (top : Int) : Nat → Nat → Nat × Int
  | 0, count => ((gridNeighbours num den (top - count + 1)).1, top - count + 1)
  | fuel + 1, count =>
    let k := top - count + 1
    let (near, far) := gridNeighbours num den k
    if ofDecimal false near k = x then (near, k)
    else if ofDecimal false far k = x then (far, k)
    else searchGrid x num den top fuel (count + 1)

/-- Digits and exponent of the shortest decimal that reads back as `m · 2 ^ e`. -/
def shortest (m : Nat) (e : Int) : Nat × Int :=
  let (num, den) := if e < 0 then (m, twoTo (-e).toNat) else (m * twoTo e.toNat, 1)
  searchGrid (ofRatio false num den) num den (decimalExponent num den) 17 1

/-- Digits with the zeros at their end moved into the exponent. -/
def dropZeros : Nat → Nat → Int → Nat × Int
  | 0, digits, k => (digits, k)
  | fuel + 1, digits, k =>
    if digits ≠ 0 ∧ digits % 10 = 0 then dropZeros fuel (digits / 10) (k + 1) else (digits, k)

/-- How a double is written: where positional notation ends, and the spellings of what is not a
finite number. -/
structure Spelling where
  /-- Least decimal exponent that is written positionally. -/
  least : Int
  /-- First decimal exponent that is no longer written positionally. -/
  bound : Int
  undefined : String
  infinite : String

/-- The text of a positive finite double from its shortest digits. A whole number keeps one zero after
the point; an exponent has a sign and at least two digits. -/
def positiveText (style : Spelling) (m : Nat) (e : Int) : String :=
  let (digits, k) := shortest m e
  let (digits, k) := dropZeros 20 digits k
  let ds := Nat.toDigits 10 digits
  let top : Int := k + ds.length - 1
  if style.least ≤ top ∧ top < style.bound then
    if 0 ≤ k then String.ofList (ds ++ List.replicate k.toNat '0') ++ ".0"
    else if 0 ≤ top then
      let whole := (top + 1).toNat
      String.ofList (ds.take whole) ++ "." ++ String.ofList (ds.drop whole)
    else "0." ++ String.ofList (List.replicate (-top - 1).toNat '0' ++ ds)
  else
    let lead := String.ofList (ds.take 1)
    let tail := if ds.length ≤ 1 then "" else "." ++ String.ofList (ds.drop 1)
    let sign := if top < 0 then "-" else "+"
    lead ++ tail ++ "e" ++ sign ++ Text.padded 2 top.natAbs

/-- The text of a double in a given spelling. -/
def text (style : Spelling) (x : Binary64) : String :=
  match x.meaning with
  | .undefined => style.undefined
  | .infinite negative => if negative then "-" ++ style.infinite else style.infinite
  | .finite negative m e =>
    let body := if m = 0 then "0.0" else positiveText style m e
    if negative then "-" ++ body else body

/-- In a stored document numbers from `0.0001` up to `10 ^ 16` are positional. -/
def documentSpelling : Spelling := ⟨-4, 16, "NaN", "Infinity"⟩

/-- In a message the same range is positional, with small-letter names for the rest. -/
def messageSpelling : Spelling := ⟨-4, 16, "nan", "inf"⟩

end Binary64

end Tickwork

import Tickwork.Number.Binary64

/-!
# Quantities

Whole numbers and doubles side by side. They are compared as the numbers that they stand for, without
rounding either of them: a double lies somewhere on the line of numbers, at one of its two ends, or
nowhere.
-/

set_option autoImplicit false

namespace Tickwork

inductive Quantity where
  | whole (n : Int)
  | real (x : Binary64)
  deriving DecidableEq

namespace Quantity

/-- A place on the line of numbers, whose two ends count as places. -/
inductive Place where
  | bottom
  | fraction (num : Int) (den : Nat)
  | top

/-- Whether one place lies below another one. -/
def Place.below : Place → Place → Bool
  | .fraction a b, .fraction c d => decide (a * d < c * b)
  | .bottom, .bottom | .top, _ | _, .bottom => false
  | .bottom, _ | _, .top => true

/-- Where a quantity lies; a double that stands for no number lies nowhere. -/
def place? : Quantity → Option Place
  | .whole n => some (.fraction n 1)
  | .real x =>
    match x.meaning with
    | .finite negative m e =>
      let num : Int := m * twoTo e.toNat
      some (.fraction (if negative then -num else num) (twoTo (-e).toNat))
    | .infinite negative => some (if negative then .bottom else .top)
    | .undefined => none

/-- Whether one quantity is less than another one; what stands for no number is not less than
anything, nor is anything less than it. -/
def below (a b : Quantity) : Bool :=
  match a.place?, b.place? with
  | some p, some q => p.below q
  | _, _ => false

def atMost (a b : Quantity) : Bool :=
  match a.place?, b.place? with
  | some p, some q => !q.below p
  | _, _ => false

/-- Whether two quantities lie at the same place, or nowhere both. -/
def same (a b : Quantity) : Bool :=
  (a.atMost b && b.atMost a) || (a.place?.isNone && b.place?.isNone)

/-- A double times a power of two. -/
def scaled (x : Binary64) (n : Nat) : Binary64 :=
  match x.meaning with
  | .finite negative m e =>
    let e := e + n
    Binary64.ofRatio negative (m * twoTo e.toNat) (twoTo (-e).toNat)
  | _ => x

/-- A quantity doubled a number of times. A double takes only factors that are doubles themselves. -/
def doubled? (n : Nat) : Quantity → Option Quantity
  | .whole k => some (.whole (k * twoTo n))
  | .real x => if n < 1024 then some (.real (scaled x n)) else none

/-- The double nearest to a quantity, if the quantity is not beyond all doubles. -/
def toBinary64? : Quantity → Option Binary64
  | .whole n => Binary64.ofInt? n
  | .real x => some x

/-- How many counts from `n` on do not lie above a limit: at most `ceiling`, which stands for no end. -/
def roomFrom (n : Int) (ceiling : Nat) (limit : Quantity) : Nat :=
  match limit.place? with
  | none | some .top => ceiling
  | some .bottom => 0
  | some (.fraction num den) => (num.fdiv den + 1 - n).toNat

end Quantity

end Tickwork

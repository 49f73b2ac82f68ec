import Tickwork.Fault
import Tickwork.Number.Numeral

/-!
# Numbers and mappings out of values

Where a number or a mapping is wanted, other values are understood as far as they go: a truth value is
one or zero, a fraction is cut off, a text is read as a numeral, and a list of pairs is a mapping.
-/

set_option autoImplicit false

namespace Tickwork

namespace Value

def toInt : Value → Except Raised Int
  | .int n => .ok n
  | .bool b => .ok (if b then 1 else 0)
  | .float x =>
    match x.truncate? with
    | some n => .ok n
    | none =>
      match x.meaning with
      | .undefined => .error (.error .value "cannot convert float NaN to integer")
      | _ => .error (.error .overflow "cannot convert float infinity to integer")
  | .str s => (Numeral.readInt s).mapError (Raised.unreadable s)
  | v => .error (.notANumber v.typeName)

/-- A whole number as part of a sentence, if it can be spelled. -/
def numeral (n : Int) : Except Raised String :=
  if Numeral.isSpellable n then .ok (toString n) else .error .unspellable

/-- A value as part of a sentence, if the numbers in it can be spelled. -/
def sentence (v : Value) : Except Raised String :=
  if v.isSpellable then .ok v.shown else .error .unspellable

/-- Whether two values are told apart in an order, numbers by their size. -/
def differs (a b : Value) : Bool :=
  match a.quantity?, b.quantity? with
  | some p, some q => p.below q || q.below p
  | _, _ => decide (a ≠ b)

mutual

/-- Whether a value is less than another one, which texts may be than texts, numbers than numbers and
lists than lists. -/
def isLess : Value → Value → Except Fault Bool
  | .str s, .str t => .ok (decide (s < t))
  | .list xs, .list ys => areLess xs ys
  | a, b =>
    match a.quantity?, b.quantity? with
    | some p, some q => .ok (p.below q)
    | _, _ => .error (.incomparable "<" a.typeName b.typeName)

/-- Whether items come before other items: the first ones that differ decide, or the length. -/
def areLess : List Value → List Value → Except Fault Bool
  | _, [] => .ok false
  | [], _ :: _ => .ok true
  | x :: xs, y :: ys => if differs x y then isLess x y else areLess xs ys

end

/-- Whether a count lies above a limit, which is any number. -/
def isBelow? (n : Int) (limit : Value) : Option Bool :=
  limit.quantity?.map fun q => q.below (.whole n)

/-- Whether a count has come up to a bound, which is any number. -/
def isReached? (n : Int) (bound : Value) : Option Bool :=
  bound.quantity?.map fun q => q.atMost (.whole n)

/-- The most counts that are told apart from having no end. -/
def countCeiling : Nat := 1000000000

/-- How many counts from `n` on do not lie above a limit. -/
def roomFrom (n : Int) (limit : Value) : Nat :=
  (limit.quantity?.map (Quantity.roomFrom n countCeiling)).getD 0

def toKey (v : Value) : Except Raised Key :=
  match v.toKey? with
  | some key => .ok key
  | none => .error (.unhashable v.typeName)

/-- The items of a value that can be gone through. -/
def items? : Value → Option (List Value)
  | .list items => some items
  | .str s => some (s.toList.map fun c => .str (String.ofList [c]))
  | v => v.asMapping?.map fun fields => fields.map fun entry => ofKey entry.1

/-- One element of a list of pairs, at position `index`. -/
def pairAt (index : Nat) (v : Value) : Except Raised (Key × Value) :=
  match v.items? with
  | none =>
    .error (.error .type
      s!"cannot convert dictionary update sequence element #{index} to a sequence")
  | some [key, value] => do
    let key ← key.toKey
    .ok (key, value)
  | some items =>
    .error (.error .value
      s!"dictionary update sequence element #{index} has length {items.length}; 2 is required")

/-- A list of pairs, from position `index` on. -/
def pairsFrom (index : Nat) : List Value → Except Raised Fields
  | [] => .ok []
  | v :: rest => do
    let pair ← pairAt index v
    let pairs ← pairsFrom (index + 1) rest
    .ok (pair :: pairs)

/-- A value as a mapping of its own. -/
def toFields (v : Value) : Except Raised Fields :=
  match v.asMapping? with
  | some fields => .ok fields
  | none =>
    match v.items? with
    | some items => do
      let pairs ← pairsFrom 0 items
      .ok (Fields.ofPairs pairs)
    | none => .error (.notIterable v.typeName)

end Value

end Tickwork

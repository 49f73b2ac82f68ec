import Tickwork.Value.Key

/-!
# Values

What callables receive and give back, and what a task's context holds: the values of a JSON document,
and beside them the few records that a callable may build in place of a plain mapping. The entries of
a mapping are kept in the order in which their keys came, each key once. Main statement: equality of
values is decidable.
-/

set_option autoImplicit false

namespace Tickwork

/-- The records that a callable may build beside plain mappings. -/
inductive RecordKind where
  /-- A mapping that can only be read. -/
  | view
  /-- A rendered page: `markdown` and `title`. -/
  | page
  /-- What a handler reports: `status`, `data`, `message` and `page`. -/
  | result
  /-- A wish to ask again: `message` and `context`. -/
  | again
  deriving DecidableEq

inductive Value where
  | null
  | bool (b : Bool)
  | int (n : Int)
  | float (x : Binary64)
  | str (s : String)
  | list (items : List Value)
  | dict (fields : List (Key × Value))
  | record (kind : RecordKind) (fields : List (Key × Value))

abbrev Fields := List (Key × Value)

namespace Value

instance : Inhabited Value := ⟨.null⟩

/-- A rendered page. -/
@[match_pattern]
def page (markdown title : Value) : Value :=
  .record .page [(.text "markdown", markdown), (.text "title", title)]

/-- What a handler reports, before anything is checked. -/
@[match_pattern]
def result (status data message page : Value) : Value :=
  .record .result
    [(.text "status", status), (.text "data", data), (.text "message", message), (.text "page", page)]

/-- A wish to ask again, with a new prompt and changes to the context. -/
@[match_pattern]
def again (message : Value) (context : Fields) : Value :=
  .record .again [(.text "message", message), (.text "context", .dict context)]

/-! ## Decidable equality -/

mutual

/-- Compares two values. -/
def same : Value → Value → Bool
  | .null, .null => true
  | .bool a, .bool b => a == b
  | .int a, .int b => a == b
  | .float a, .float b => decide (a = b)
  | .str a, .str b => a == b
  | .list xs, .list ys => sameItems xs ys
  | .dict xs, .dict ys => sameFields xs ys
  | .record j xs, .record k ys => decide (j = k) && sameFields xs ys
  | _, _ => false

def sameItems : List Value → List Value → Bool
  | [], [] => true
  | x :: xs, y :: ys => same x y && sameItems xs ys
  | _, _ => false

def sameFields : Fields → Fields → Bool
  | [], [] => true
  | (j, x) :: xs, (k, y) :: ys => j == k && same x y && sameFields xs ys
  | _, _ => false

end

mutual

theorem same_iff : ∀ a b : Value, same a b = true ↔ a = b
  | .null, b => by cases b <;> simp [same]
  | .bool _, b => by cases b <;> simp [same]
  | .int _, b => by cases b <;> simp [same]
  | .float _, b => by cases b <;> simp [same]
  | .str _, b => by cases b <;> simp [same]
  | .list xs, b => by cases b <;> simp [same, sameItems_iff xs]
  | .dict xs, b => by cases b <;> simp [same, sameFields_iff xs]
  | .record _ xs, b => by cases b <;> simp [same, sameFields_iff xs]

theorem sameItems_iff : ∀ a b : List Value, sameItems a b = true ↔ a = b
  | [], b => by cases b <;> simp [sameItems]
  | x :: xs, b => by cases b <;> simp [sameItems, same_iff x, sameItems_iff xs]

theorem sameFields_iff : ∀ a b : Fields, sameFields a b = true ↔ a = b
  | [], b => by cases b <;> simp [sameFields]
  | (k, x) :: xs, b => by
    cases b with
    | nil => simp [sameFields]
    | cons head _ => cases head; simp [sameFields, same_iff x, sameFields_iff xs, and_assoc]

end

instance : DecidableEq Value := fun a b => decidable_of_iff _ (same_iff a b)

/-! ## Kinds and tests -/

/-- The name of a value's type as messages print it. -/
def typeName : Value → String
  | .null => "NoneType"
  | .bool _ => "bool"
  | .int _ => "int"
  | .float _ => "float"
  | .str _ => "str"
  | .list _ => "list"
  | .dict _ => "dict"
  | .record .view _ => "mappingproxy"
  | .record .page _ => "PageOutput"
  | .record .result _ => "HandlerResult"
  | .record .again _ => "AwaitFeedback"

/-- Whether a value counts as true: everything but null, false, zero and what is empty. -/
def truthy : Value → Bool
  | .null => false
  | .bool b => b
  | .int n => n != 0
  | .float x => !x.isZero
  | .str s => s != ""
  | .list items => !items.isEmpty
  | .dict fields => !fields.isEmpty
  | .record .view fields => !fields.isEmpty
  | .record _ _ => true

def asMapping? : Value → Option Fields
  | .dict fields => some fields
  | .record .view fields => some fields
  | _ => none

def asString? : Value → Option String
  | .str s => some s
  | _ => none

def ofOption : Option String → Value
  | some s => .str s
  | none => .null

/-- The number that a value stands for. -/
def quantity? : Value → Option Quantity
  | .bool b => some (.whole (if b then 1 else 0))
  | .int n => some (.whole n)
  | .float x => some (.real x)
  | _ => none

def ofQuantity : Quantity → Value
  | .whole n => .int n
  | .real x => .float x

/-! ## Keys -/

def ofKey : Key → Value
  | .text s => .str s
  | .null => .null
  | .bool b => .bool b
  | .int n => .int n
  | .float x => .float x
  | .again => .again .null []

def toKey? : Value → Option Key
  | .str s => some (.text s)
  | .null => some .null
  | .bool b => some (.bool b)
  | .int n => some (.int n)
  | .float x => some (.float x)
  | .record .again _ => some .again
  | _ => none

end Value

end Tickwork

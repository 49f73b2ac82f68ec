import Tickwork.Value.Fields

/-!
# Parts of a document

Reading the parts of a document by name, where a part that is missing or of another type counts as
absent. How deep its parts nest bounds the readers that go down into it.
-/

set_option autoImplicit false

namespace Tickwork

namespace Value

/-- The part of a mapping under a name, null when there is none. -/
def get (v : Value) (name : String) : Value :=
  field name (v.asMapping?.getD [])

def has (v : Value) (name : String) : Bool :=
  (Fields.get? name (v.asMapping?.getD [])).isSome

def text? (v : Value) (name : String) : Option String :=
  (v.get name).asString?

def textOr (v : Value) (name fallback : String) : String :=
  (v.text? name).getD fallback

def int? (v : Value) (name : String) : Option Int :=
  match v.get name with
  | .int n => some n
  | _ => none

def intOr (v : Value) (name : String) (fallback : Int) : Int :=
  (v.int? name).getD fallback

def elements : Value → List Value
  | .list items => items
  | _ => []

def itemsAt (v : Value) (name : String) : List Value :=
  (v.get name).elements

def fieldsAt (v : Value) (name : String) : Fields :=
  (v.get name).asMapping?.getD []

/-- The entries of a mapping under a name, by their own names. -/
def namedAt (v : Value) (name : String) : List (String × Value) :=
  Fields.named (v.fieldsAt name)

mutual

/-- How many levels of lists, mappings and records a value has. -/
def depth : Value → Nat
  | .list items => itemsDepth items + 1
  | .dict fields | .record _ fields => fieldsDepth fields + 1
  | _ => 0

/-- The levels of the deepest item. -/
def itemsDepth : List Value → Nat
  | [] => 0
  | x :: rest => max (depth x) (itemsDepth rest)

def fieldsDepth : Fields → Nat
  | [] => 0
  | (_, x) :: rest => max (depth x) (fieldsDepth rest)

end

/-- A list of pairs of a name and something else. -/
def pairs (v : Value) : List (String × Value) :=
  v.elements.filterMap fun
    | .list [.str name, value] => some (name, value)
    | _ => none

end Value

end Tickwork

import Tickwork.Value.Basic

/-!
# Entries under names and keys

Three ways to keep entries, each of them once and a later one in place of an earlier one. `Sorted`
operations keep them in the order of their names: counters and stored tasks. `Ordered` operations keep
them in the order in which the names came: states, routes and branches. `Fields` operations keep the
entries of a mapping in the order in which their keys came.
-/

set_option autoImplicit false

namespace Tickwork

variable {α : Type}

namespace Sorted

def put (name : String) (value : α) : List (String × α) → List (String × α)
  | [] => [(name, value)]
  | (k, v) :: rest =>
    if k = name then (name, value) :: rest
    else if name < k then (name, value) :: (k, v) :: rest
    else (k, v) :: put name value rest

def erase (name : String) (entries : List (String × α)) : List (String × α) :=
  entries.filter fun entry => entry.1 != name

/-- The first entries with the second laid over them, one after the other. -/
def overlay (base changes : List (String × α)) : List (String × α) :=
  changes.foldl (fun entries change => put change.1 change.2 entries) base

/-- The entries of a list of pairs; of two with one name the later counts. -/
def ofPairs (pairs : List (String × α)) : List (String × α) :=
  overlay [] pairs

end Sorted

namespace Ordered

/-- Sets the entry of a name, in its old place if the name is there, else at the end. -/
def put (name : String) (value : α) : List (String × α) → List (String × α)
  | [] => [(name, value)]
  | (k, v) :: rest =>
    if k = name then (name, value) :: rest else (k, v) :: put name value rest

/-- The entries of a list of pairs; of two with one name the later counts, in the place of the
first. -/
def ofPairs (pairs : List (String × α)) : List (String × α) :=
  pairs.foldl (fun entries pair => put pair.1 pair.2 entries) []

end Ordered

def names (entries : List (String × α)) : List String :=
  entries.map Prod.fst

namespace Fields

/-- Sets the entry of a key: in its old place and under the key as it was, or else at the end. -/
def put (key : Key) (value : Value) : Fields → Fields
  | [] => [(key, value)]
  | (k, v) :: rest => if k.same key then (k, value) :: rest else (k, v) :: put key value rest

def erase (name : String) (fields : Fields) : Fields :=
  fields.filter fun entry => entry.1 != .text name

/-- The first entries with the second laid over them, one after the other. -/
def overlay (base changes : Fields) : Fields :=
  changes.foldl (fun fields change => put change.1 change.2 fields) base

/-- The entries of a list of pairs; of two with one key the later counts, in the place of the
first. -/
def ofPairs (pairs : List (Key × Value)) : Fields :=
  overlay [] pairs

/-- Entries under names. -/
def ofNamed (entries : List (String × Value)) : Fields :=
  entries.map fun entry => (.text entry.1, entry.2)

/-- The entries that are under names. -/
def named (fields : Fields) : List (String × Value) :=
  fields.filterMap fun entry => entry.1.asString?.map (·, entry.2)

def get? (name : String) (fields : Fields) : Option Value :=
  fields.lookup (.text name)

end Fields

/-- The value under a name of a mapping, null when there is none. -/
def field (name : String) (fields : Fields) : Value :=
  (Fields.get? name fields).getD .null

end Tickwork

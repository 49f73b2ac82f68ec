import Tickwork.Number.Quantity
import Tickwork.Number.Shortest
import Tickwork.Text.Quoted

/-!
# Keys of mappings

A mapping has its entries under keys. In a document every key is a text; a callable may also build
mappings with other plain values as keys. Keys that are numbers are one key if they are one number,
and a truth value counts as one or zero. Keys have an order as far as texts go with texts and numbers
with numbers.
-/

set_option autoImplicit false

namespace Tickwork

inductive Key where
  | text (s : String)
  | null
  | bool (b : Bool)
  | int (n : Int)
  | float (x : Binary64)
  /-- A wish to ask again. -/
  | again
  deriving DecidableEq

namespace Key

instance : Coe String Key := ⟨.text⟩

/-- The name of a key's type as messages print it. -/
def typeName : Key → String
  | .text _ => "str"
  | .null => "NoneType"
  | .bool _ => "bool"
  | .int _ => "int"
  | .float _ => "float"
  | .again => "AwaitFeedback"

def asString? : Key → Option String
  | .text s => some s
  | _ => none

/-- The number that a key stands for. -/
def quantity? : Key → Option Quantity
  | .bool b => some (.whole (if b then 1 else 0))
  | .int n => some (.whole n)
  | .float x => some (.real x)
  | _ => none

/-- Whether two keys are one key of a mapping. -/
def same (a b : Key) : Bool :=
  match a.quantity?, b.quantity? with
  | some p, some q => p.same q
  | _, _ => decide (a = b)

/-- Whether a key goes before another one, or the two types that have no order between them. -/
def below (a b : Key) : Except (String × String) Bool :=
  match a, b with
  | .text s, .text t => .ok (decide (s < t))
  | a, b =>
    match a.quantity?, b.quantity? with
    | some p, some q => .ok (p.below q)
    | _, _ => .error (a.typeName, b.typeName)

/-- The name that a key has in a document. -/
def name : Key → String
  | .text s => s
  | .null => "null"
  | .bool b => if b then "true" else "false"
  | .int n => toString n
  | .float x => x.text Binary64.documentSpelling
  | .again => ""

def detailed : Key → String
  | .text s => Text.quoted s
  | .null => "None"
  | .bool b => if b then "True" else "False"
  | .int n => toString n
  | .float x => x.text Binary64.messageSpelling
  | .again => "<AwaitFeedback>"

end Key

end Tickwork

import Tickwork.Fault
import Tickwork.Value.Number
import Tickwork.Value.Written

/-!
# Expressions

A small language in which callables are written. An expression is a document: plain values stand for
themselves, and a mapping with one key that starts with a dollar sign is an operation. `Expr.ofValue`
reads an expression from a document; `S` is the type of the asides, the requests that an expression may
make of the world around it.
-/

set_option autoImplicit false

namespace Tickwork

inductive Expr (S : Type) where
  /-- A value that stands for itself. -/
  | literal (v : Value)
  | items (parts : List (Expr S))
  | fields (parts : List (Key × Expr S))
  /-- What the call hands over under a name, null if it hands over nothing. -/
  | input (name : String)
  /-- The entry of the context, which has to be there. -/
  | entry (key : String)
  /-- The entry of the context, or something else in its place. -/
  | entryOr (key : String) (fallback : Expr S)
  | wholeContext
  | add (a b : Expr S)
  | less (a b : Expr S)
  | equal (a b : Expr S)
  /-- Texts and written values one after the other. -/
  | join (parts : List (Expr S))
  /-- The second expression if the first is exactly true, else the third. -/
  | choose (test yes no : Expr S)
  /-- The option at a position, the last one for every later position. -/
  | pick (position : Expr S) (options : List (Expr S))
  /-- Sets an entry of the context and goes on. -/
  | assign (key : String) (value rest : Expr S)
  | raise (raised : Raised)
  /-- A record from its parts, which are evaluated in the order given. -/
  | record (kind : RecordKind) (parts : List (Key × Expr S))
  /-- Makes a request and goes on. -/
  | aside (request : S) (rest : Expr S)

namespace Expr

variable {S : Type}

/-- The error that a kind's name and a text stand for. -/
def raisedOf (kind text : String) (taskId : Option String) : Raised :=
  match [ErrorKind.value, .runtime, .connection].find? (fun k => k.name == kind) with
  | some kind => .error kind text
  | none => .fatal (.words text) taskId

def part (name : String) (parts : List (Key × Expr S)) : Key × Expr S :=
  (name, (parts.lookup (.text name)).getD (.literal .null))

/-- The operation with a name, from its operand as it stands and as it reads. -/
def operation (readAside : Value → S) (name : String) (raw : Value) (read : Expr S) : Expr S :=
  match name, raw, read with
  | "$lit", v, _ => .literal v
  | "$", .str key, _ => .input key
  | "$ctx", .str key, _ => .entry key
  | "$get", .list (.str key :: _), .items [_, fallback] => .entryOr key fallback
  | "$all", _, _ => .wholeContext
  | "$add", _, .items [a, b] => .add a b
  | "$lt", _, .items [a, b] => .less a b
  | "$eq", _, .items [a, b] => .equal a b
  | "$cat", _, .items parts => .join parts
  | "$if", _, .items [test, yes, no] => .choose test yes no
  | "$nth", _, .items [position, .items options] => .pick position options
  | "$set", .list (.str key :: _), .items [_, value, rest] => .assign key value rest
  | "$raise", .list (.str kind :: .str text :: more), _ =>
    .raise (raisedOf kind text (more.head?.bind Value.asString?))
  | "$result", _, .fields parts =>
    .record .result [part "status" parts, part "data" parts, part "message" parts,
      part "page" parts]
  | "$page", _, .items [markdown, title] => .record .page [("markdown", markdown), ("title", title)]
  | "$await", _, .items [message, context] =>
    .record .again [("message", message), ("context", context)]
  | "$view", _, .fields parts => .record .view parts
  | "$side", .list (request :: _), .items [_, rest] => .aside (readAside request) rest
  | _, _, read => .fields [(name, read)]

mutual

/-- Reads an expression; `readAside` understands the requests in it. -/
def ofValue (readAside : Value → S) : Value → Expr S
  | .list vs => .items (ofItems readAside vs)
  | .dict [(.text name, v)] =>
    if name.startsWith "$" then operation readAside name v (ofValue readAside v)
    else .fields [(.text name, ofValue readAside v)]
  | .dict entries => .fields (ofFields readAside entries)
  | v => .literal v

def ofItems (readAside : Value → S) : List Value → List (Expr S)
  | [] => []
  | v :: rest => ofValue readAside v :: ofItems readAside rest

def ofFields (readAside : Value → S) : Fields → List (Key × Expr S)
  | [] => []
  | (key, v) :: rest => (key, ofValue readAside v) :: ofFields readAside rest

end

end Expr

end Tickwork

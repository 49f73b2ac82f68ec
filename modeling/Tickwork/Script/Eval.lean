import Tickwork.Script.Expr
import Tickwork.Engine.Callable

/-!
# Evaluating expressions

An expression is evaluated for one call. It sees what the call hands over and works on the context of
the call, which it may change; it may raise an error, and it may make requests of the world.
-/

set_option autoImplicit false

namespace Tickwork

variable {S W : Type}

/-- What an evaluation may do: raise, change its context, act on the world. -/
abbrev Evaluation (W α : Type) := ExceptT Raised (StateM (Fields × W)) α

/-! ## What a call hands over -/

/-- What a call hands over beside the context, by name. -/
abbrev Inputs := List (String × Value)

namespace Call

def ofTask (task : TaskInfo) : Inputs :=
  [("task_id", .str task.id), ("title", .ofOption task.title), ("prompt", .ofOption task.prompt),
    ("task_context", .ofOption task.context)]

/-- What a call says about where it comes from. -/
def ofPlace (stateId runId tickId : String) : Inputs :=
  [("state_id", .str stateId), ("run_id", .str runId), ("tick_id", .str tickId)]

def ofHandler (input : HandlerInput) : Inputs :=
  ofTask input.task ++ ofPlace input.stateId input.runId input.tickId ++
    [("attempt", .int input.attempt), ("feedback", .ofOption input.feedback)]

/-- Everything that a call hands over beside the context. -/
def inputs : Call → Inputs
  | .handler input => ofHandler input
  | .reply input text => ("reply", .str text) :: ofHandler input
  | .selector input => ofTask input.task ++ ofPlace input.stateId input.runId input.tickId
  | .guard input =>
    ("iteration", .int input.iteration) :: ofTask input.task ++
      ofPlace input.stateId input.runId input.tickId
  | .node _ => []
  | .nodeReply _ text => [("reply", .str text)]

end Call

/-! ## Operations on values -/

namespace Evaluation

/-- The error of arithmetic on something else than whole numbers. -/
def integersExpected : Raised := .error .runtime "integers expected"

/-- The whole number that a value is. -/
def whole : Value → Except Raised Int
  | .int n => .ok n
  | _ => .error integersExpected

/-- A value as JSON. -/
def asText (v : Value) : Except Raised String :=
  (v.written .plain).mapError Raised.unwritable

/-- A value as a part of a text: a text stands for itself. -/
def asPart : Value → Except Raised String
  | .str s => .ok s
  | v => asText v

/-- The position of an option among `count` many. Positions below zero count from the end; what lies
above the last position stands for it, and a fraction has no option of its own. -/
def optionAt (count : Nat) (position : Value) : Except Raised Nat :=
  let last : Int := count - 1
  let at? (n : Int) : Except Raised Nat :=
    let n := min n last
    let n := if n < 0 then n + count else n
    if 0 ≤ n ∧ n < count then .ok n.toNat
    else .error (.error .index "list index out of range")
  match position with
  | .int n => at? n
  | .bool b => at? (if b then 1 else 0)
  | .float x =>
    if (Quantity.whole last).below (.real x) then at? last
    else
      .error (.error .type
        s!"list indices must be integers or slices, not {position.typeName}")
  | v =>
    .error (.error .type
      s!"'<' not supported between instances of 'int' and '{v.typeName}'")

/-- The record with given parts. A wish to ask again keeps a mapping of its own as its context. -/
def makeRecord (kind : RecordKind) (parts : Fields) : Except Raised Value :=
  match kind with
  | .again => do
    let context := field "context" parts
    let fields ← if context.truthy then context.toFields else .ok []
    .ok (.again (field "message" parts) fields)
  | kind => .ok (.record kind parts)

def ofExcept {α : Type} (r : Except Raised α) : Evaluation W α :=
  ExceptT.mk (pure r)

def context : Evaluation W Fields :=
  ExceptT.mk fun state => (.ok state.1, state)

def setEntry (key : String) (v : Value) : Evaluation W Unit :=
  ExceptT.mk fun state => (.ok (), (Fields.put key v state.1, state.2))

def onWorld {α : Type} (act : StateM W α) : Evaluation W α :=
  ExceptT.mk fun state =>
    let (a, world) := act state.2
    (.ok a, (state.1, world))

end Evaluation

/-! ## Evaluation -/

namespace Expr

mutual

/-- The value of an expression. `inputs` is what the call hands over and `perform` carries out
requests. -/
def eval (inputs : Inputs) (perform : S → StateM W Unit) : Expr S → Evaluation W Value
  | .literal v => pure v
  | .items parts => do
    let vs ← evalItems inputs perform parts
    pure (.list vs)
  | .fields parts => do
    let vs ← evalFields inputs perform parts
    pure (.dict vs)
  | .input name => pure ((inputs.lookup name).getD .null)
  | .entry key => do
    let context ← Evaluation.context
    match Fields.get? key context with
    | some v => pure v
    | none => throw (.error .runtime ("missing context key: " ++ key))
  | .entryOr key fallback => do
    let context ← Evaluation.context
    match Fields.get? key context with
    | some v => pure v
    | none => eval inputs perform fallback
  | .wholeContext => do
    let context ← Evaluation.context
    pure (.dict context)
  | .add a b => do
    let a ← eval inputs perform a
    let b ← eval inputs perform b
    let m ← Evaluation.ofExcept (Evaluation.whole a)
    let n ← Evaluation.ofExcept (Evaluation.whole b)
    pure (.int (m + n))
  | .less a b => do
    let a ← eval inputs perform a
    let b ← eval inputs perform b
    let m ← Evaluation.ofExcept (Evaluation.whole a)
    let n ← Evaluation.ofExcept (Evaluation.whole b)
    pure (.bool (m < n))
  | .equal a b => do
    let a ← eval inputs perform a
    let b ← eval inputs perform b
    let s ← Evaluation.ofExcept (Evaluation.asText a)
    let t ← Evaluation.ofExcept (Evaluation.asText b)
    pure (.bool (s == t))
  | .join parts => do
    let vs ← evalItems inputs perform parts
    let texts ← Evaluation.ofExcept (vs.mapM Evaluation.asPart)
    pure (.str (String.join texts))
  | .choose test yes no => do
    let v ← eval inputs perform test
    if v = .bool true then eval inputs perform yes else eval inputs perform no
  | .pick position options => do
    let v ← eval inputs perform position
    let index ← Evaluation.ofExcept (Evaluation.optionAt options.length v)
    evalAt inputs perform index options
  | .assign key value rest => do
    let v ← eval inputs perform value
    Evaluation.setEntry key v
    eval inputs perform rest
  | .raise raised => throw raised
  | .record kind parts => do
    let vs ← evalFields inputs perform parts
    Evaluation.ofExcept (Evaluation.makeRecord kind vs)
  | .aside request rest => do
    Evaluation.onWorld (perform request)
    eval inputs perform rest

def evalItems (inputs : Inputs) (perform : S → StateM W Unit) :
    List (Expr S) → Evaluation W (List Value)
  | [] => pure []
  | e :: rest => do
    let v ← eval inputs perform e
    let vs ← evalItems inputs perform rest
    pure (v :: vs)

def evalFields (inputs : Inputs) (perform : S → StateM W Unit) :
    List (Key × Expr S) → Evaluation W Fields
  | [] => pure []
  | (key, e) :: rest => do
    let v ← eval inputs perform e
    let vs ← evalFields inputs perform rest
    pure ((key, v) :: vs)

/-- The value of the expression at a position of a list. -/
def evalAt (inputs : Inputs) (perform : S → StateM W Unit) :
    Nat → List (Expr S) → Evaluation W Value
  | _, [] => pure .null
  | 0, e :: _ => eval inputs perform e
  | index + 1, _ :: rest => evalAt inputs perform index rest

end

/-- The value of an expression outside of any call. -/
def evalAlone (e : Expr S) : Except Raised Value :=
  ((e.eval [] fun _ => pure ()).run.run ([], ())).1

end Expr

end Tickwork

import Tickwork.Engine.Outcome
import Tickwork.Ledger.Progress
import Tickwork.Value.Number

/-!
# Calling callables

A behaviour says what the callables of a graph do: given a call, it answers with a value or raises, and
it may change the world `W` around it. Every call hands over a context of its own, which the callable
may change; the answer tells how it left it, since a question reads its reply from the context that its
prompt has seen. The handlers and selectors that the library itself provides are defined here on top of
a behaviour.
-/

set_option autoImplicit false

namespace Tickwork

variable {F W : Type}

/-! ## Calls -/

/-- What a handler is shown. -/
structure HandlerInput where
  context : Fields
  task : TaskInfo
  stateId : String
  runId : String
  tickId : String
  attempt : Int
  feedback : Option String

/-- What a selector is shown. -/
structure SelectorInput where
  context : Fields
  task : TaskInfo
  stateId : String
  runId : String
  tickId : String

/-- What the guard of a loop is shown. -/
structure GuardInput where
  context : Fields
  iteration : Int
  task : TaskInfo
  stateId : String
  runId : String
  tickId : String

/-- One call of a callable. -/
inductive Call where
  | handler (input : HandlerInput)
  | reply (input : HandlerInput) (reply : String)
  | selector (input : SelectorInput)
  | guard (input : GuardInput)
  | node (context : Fields)
  | nodeReply (context : Fields) (reply : String)

namespace Call

def context : Call → Fields
  | .handler input => input.context
  | .reply input _ => input.context
  | .selector input => input.context
  | .guard input => input.context
  | .node context => context
  | .nodeReply context _ => context

/-- The title of the task that a handler is called for. -/
def title? : Call → Option String
  | .handler input => input.task.title
  | _ => none

/-- The reply that a parser is called for. -/
def replyText : Call → String
  | .reply _ text => text
  | .nodeReply _ text => text
  | _ => ""

/-- The call as a callable sees it that is shown the context only. -/
def narrowed : Call → Call
  | .reply input text => .nodeReply input.context text
  | .nodeReply context text => .nodeReply context text
  | call => .node call.context

/-- The call that a callable of a given scope is shown. -/
def inScope (call : Call) : Scope → Call
  | .whole => call
  | .context => call.narrowed

end Call

/-- What a callable gave back or raised, and the context as it left it. -/
structure Answer where
  value : Except Raised Value
  context : Fields

/-- What callables do. -/
abbrev Behaviour (F W : Type) := F → Call → StateM W Answer

def Slot.call (b : Behaviour F W) (call : Call) : Slot F → StateM W Answer
  | .code f scope => b f (call.inScope scope)
  | ref => pure ⟨.error (.notCallable ref.typeName), call.context⟩

/-! ## Handlers of the library -/

/-- The report that does nothing but name a status. -/
def plainReport (status : String) : Value :=
  .result (.str status) .null .null .null

/-- The prompt of a question: a callable's answer, or what stands in the slot itself. -/
def renderPrompt (b : Behaviour F W) (input : HandlerInput) : Slot F → StateM W Answer
  | .code f scope => b f ((Call.handler input).inScope scope)
  | .named text => pure ⟨.ok (.str text), input.context⟩
  | .inert v => pure ⟨.ok v, input.context⟩
  | .absent => pure ⟨.ok .null, input.context⟩

/-- What a parser's answer says, when it stands for changes to the context: the changes, or that the
question is asked again. -/
def readChanges (v : Value) : Except Raised Value :=
  match v with
  | .again message context => .ok (.result (.str "feedback") (.dict context) message .null)
  | v => do
    let fields ← v.toFields
    .ok (.result (.str "done") (.dict fields) .null .null)

/-- Reads a reply. Without a parser every reply is fine. -/
def parseReply (b : Behaviour F W) (input : HandlerInput) (reply : String) :
    Option (ReplyReader F) → StateM W (Except Raised Outcome)
  | none => pure (.ok ⟨"done", none, none, none⟩)
  | some (.report parse) => do
    let answer ← parse.call b (.reply input reply)
    pure (answer.value.bind fun v => (Outcome.read input.stateId v).mapError (.fatal · none))
  | some (.changes parse) => do
    let answer ← parse.call b (.reply input reply)
    pure (answer.value.bind fun v => (readChanges v).bind fun report =>
      (Outcome.read input.stateId report).mapError (.fatal · none))

/-- The report of a question that has read its reply: the reply is used up, and a question that is
asked again without words of its own repeats its prompt. -/
def answeredReport (prompt : Value) (o : Outcome) : Value :=
  let data := Fields.put replyKey .null (o.data.getD [])
  let message : Value :=
    if o.status = "feedback" ∧ o.message.getD "" = "" then prompt else .ofOption o.message
  .result (.str o.status) (.dict data) message (o.page.getD .null)

/-- The report of a question that waits for its reply. -/
def waitingReport (prompt : Value) : Value :=
  .result (.str "feedback") (.dict [(replyKey, .null)]) prompt .null

/-- Asks for a reply, or reads the one that is there. -/
def runAsk (b : Behaviour F W) (prompt : Slot F) (reader : Option (ReplyReader F))
    (input : HandlerInput) : StateM W (Except Raised Value) := do
  let asked ← renderPrompt b input prompt
  match asked.value with
  | .error e => pure (.error e)
  | .ok prompt =>
    let input := { input with context := asked.context }
    match readReply input.feedback input.context with
    | none => pure (.ok (waitingReport prompt))
    | some reply => do
      let outcome ← parseReply b input reply reader
      pure (outcome.map (answeredReport prompt))

/-- The report of a decision for the key that was selected. -/
def decisionReport (branches : List String) (hasOtherwise : Bool) (key : Value) :
    Except Raised Value := do
  let known := (← key.toKey).asString?.any branches.contains
  if known then .ok (.result key .null .null .null)
  else if hasOtherwise then .ok (plainReport otherwiseEvent)
  else do
    let message := "Unknown branch selected: " ++ (← key.sentence)
    .ok (.result (.str unknownBranchEvent) .null (.str message) .null)

/-- Runs a handler on an input. A reference is called as it is; whether it can be called is settled
before. -/
def Handler.run (b : Behaviour F W) (h : Handler F) (input : HandlerInput) :
    StateM W (Except Raised Value) :=
  match h with
  | .slot ref => do
    let answer ← ref.call b (.handler input)
    pure answer.value
  | .ask prompt reader => runAsk b prompt reader input
  | .publish render => do
    let answer ← render.call b (.handler input)
    pure (answer.value.bind fun v =>
      ((readPage v).mapError (.fatal · none)).map fun page =>
        .result (.str "done") .null .null page)
  | .merge run => do
    let answer ← b run (.node input.context)
    pure (answer.value.bind fun v => v.toFields.map fun fields =>
      .result (.str "done") (.dict fields) .null .null)
  | .decide select branches hasOtherwise => do
    let answer ← b select (.node input.context)
    pure (answer.value.bind (decisionReport branches hasOtherwise))

/-! ## Selectors of the library -/

/-- The event of a route for the word that was selected. -/
def routedEvent (known : List String) : Value → String
  | .str s =>
    let event := Text.strip s
    if known.contains event && event ≠ "" then event else unmappedEvent
  | _ => unmappedEvent

def Selector.run (b : Behaviour F W) (s : Selector F) (input : SelectorInput) :
    StateM W (Except Raised Value) :=
  match s with
  | .slot ref => do
    let answer ← ref.call b (.selector input)
    pure answer.value
  | .route select known => do
    let answer ← select.call b (.selector input)
    pure (answer.value.map fun v => .str (routedEvent known v))

end Tickwork

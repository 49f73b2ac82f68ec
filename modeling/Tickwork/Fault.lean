import Tickwork.Value.Read
import Tickwork.Value.Shown
import Tickwork.Value.Written
import Tickwork.Instant.Basic

/-!
# Faults

Everything that can go wrong, as causes: what a callable raised, what ends a task for good, what a
ledger row or a stored task gets wrong, what a graph or a catalogue lacks. `Fault.message` is the one
place where a cause is put into words.
-/

set_option autoImplicit false

namespace Tickwork

/-- One broken rule of a graph, addressed by a dotted path into it. -/
structure Violation where
  path : String
  message : String
  deriving DecidableEq

/-- The kinds of error that a callable may raise. -/
inductive ErrorKind where
  | value
  | runtime
  | connection
  | type
  | key
  | member
  | index
  | overflow
  | memory
  deriving DecidableEq

/-- The name of a kind, which stands in for an error without words. -/
def ErrorKind.name : ErrorKind → String
  | .value => "ValueError"
  | .runtime => "RuntimeError"
  | .connection => "ConnectionError"
  | .type => "TypeError"
  | .key => "KeyError"
  | .member => "AttributeError"
  | .index => "IndexError"
  | .overflow => "OverflowError"
  | .memory => "MemoryError"

/-- Why a task cannot go on: a defect of its factory or a callable that gave up. -/
inductive FatalCause where
  | words (text : String)
  | missingState (stateId : String)
  | unsupportedState (stateId type : String)
  | runBudget (transitions : Nat) (tickId : String)
  | noTransition (event stateId : String)
  | unknownHandler (name stateId : String)
  | handlerNotCallable (stateId : String)
  | unknownGuard (name stateId : String)
  | guardNotCallable (stateId : String)
  | notAnObject (stateId type : String)
  | noStatus (stateId : String)
  | dataNotObject (stateId : String)
  | messageNotText (stateId : String)
  | unsupportedStatus (stateId status : String)
  | unsupportedPage (type : String)
  | orchestrateRaised (stateId text : String)
  | selectorRaised (stateId text : String)
  | guardRaised (stateId text : String)
  | noEventName (stateId : String)
  | nothingToRun (stateId : String)
  deriving DecidableEq

def FatalCause.message : FatalCause → String
  | .words text => text
  | .missingState stateId => s!"Missing state: {stateId}"
  | .unsupportedState stateId type => s!"Unsupported state type for `{stateId}`: {type}"
  | .runBudget transitions tickId =>
    s!"Transition budget exceeded: {transitions} transitions in tick {tickId}"
  | .noTransition event stateId => s!"No transition for event `{event}` from state `{stateId}`"
  | .unknownHandler name stateId => s!"Unknown handler `{name}` for state `{stateId}`"
  | .handlerNotCallable stateId => s!"Handler for state `{stateId}` is not callable"
  | .unknownGuard name stateId => s!"Unknown guard `{name}` for state `{stateId}`"
  | .guardNotCallable stateId => s!"Guard for state `{stateId}` is not callable"
  | .notAnObject stateId type =>
    s!"Handler for state `{stateId}` returned {type}, expected an object"
  | .noStatus stateId => s!"Handler for state `{stateId}` returned no status"
  | .dataNotObject stateId => s!"Handler for state `{stateId}` returned non-object data"
  | .messageNotText stateId => s!"Handler for state `{stateId}` returned a non-string message"
  | .unsupportedStatus stateId status =>
    s!"Handler for state `{stateId}` returned unsupported status `{status}`"
  | .unsupportedPage type => s!"Unsupported page output: {type}"
  | .orchestrateRaised stateId text => s!"Orchestrate handler for state `{stateId}` raised: {text}"
  | .selectorRaised stateId text => s!"Selector for state `{stateId}` raised: {text}"
  | .guardRaised stateId text => s!"Guard for state `{stateId}` raised: {text}"
  | .noEventName stateId => s!"Selector for state `{stateId}` returned no event name"
  | .nothingToRun stateId =>
    s!"Orchestrate state `{stateId}` defines neither a handler nor a selector"

/-- What a callable raised in place of an answer. -/
inductive Raised where
  | fatal (cause : FatalCause) (taskId : Option String)
  | error (kind : ErrorKind) (text : String)
  deriving DecidableEq

namespace Raised

/-- A raised error in words; they may be empty. -/
def message : Raised → String
  | .fatal cause _ => cause.message
  | .error _ text => text

/-- A raised error in words, or the name of its kind when it has none. -/
def described : Raised → String
  | .fatal cause _ => cause.message
  | .error kind text => if text = "" then kind.name else text

def notCallable (type : String) : Raised :=
  .error .type s!"'{type}' object is not callable"

def notIterable (type : String) : Raised :=
  .error .type s!"'{type}' object is not iterable"

def unhashable (type : String) : Raised :=
  .error .type s!"unhashable type: '{type}'"

def noMember (type name : String) : Raised :=
  .error .member s!"'{type}' object has no attribute '{name}'"

/-- How much of a text is shown that is no numeral. -/
def shownLength : Nat := 200

def unreadable (text : String) : Numeral.Problem → Raised
  | .shape =>
    let shown := String.ofList ((Text.quoted text).toList.take shownLength)
    .error .value s!"invalid literal for int() with base 10: {shown}"
  | .tooLong digits => .error .value (Numeral.tooLongWords digits)

def unspellable : Raised :=
  .error .value Numeral.unspellableWords

/-- A value is no document. A number that is too long is a wrong value, all else is of a wrong type. -/
def unwritable (problem : Unwritable) : Raised :=
  .error (if problem = .tooLong then .value else .type) problem.message

def notANumber (type : String) : Raised :=
  .error .type
    s!"int() argument must be a string, a bytes-like object or a real number, not '{type}'"

end Raised

/-- What a ledger row gets wrong. -/
inductive TransitionFault where
  | emptyState (eventId : String)
  | unknownReason (eventId shown : String)
  | wrongEvent (reason required event : String)
  | attemptMoved (eventId stateId : String)
  | negativeCounters (eventId : String)
  deriving DecidableEq

def TransitionFault.message : TransitionFault → String
  | .emptyState eventId => s!"Transition event {eventId} has an empty state id"
  | .unknownReason eventId shown => s!"Transition event {eventId} has unknown reason code {shown}"
  | .wrongEvent reason required event =>
    s!"Reason code {reason} requires event `{required}`, got `{event}`"
  | .attemptMoved eventId stateId => s!"Attempt event {eventId} must stay on `{stateId}`"
  | .negativeCounters eventId => s!"Transition event {eventId} has negative counters"

/-- Where a ledger and a task disagree. -/
inductive ReplayMismatch where
  | discontinuity (eventId expected found : String)
  | notAwaiting (taskId final : String)
  | resumesElsewhere (taskId : String) (stored : Option String) (expected : String)
  | endsElsewhere (final taskId : String) (stored : Option String)
  deriving DecidableEq

def ReplayMismatch.message : ReplayMismatch → String
  | .discontinuity eventId expected found =>
    s!"Replay mismatch for event {eventId}: expected from_state_id={expected}, got {found}"
  | .notAwaiting taskId final =>
    s!"Task {taskId} is awaiting feedback but replay ended at `{final}`"
  | .resumesElsewhere taskId stored expected =>
    s!"Task {taskId} resumes at `{shownOption stored}`, replay resumes at `{expected}`"
  | .endsElsewhere final taskId stored =>
    s!"Replay ended at `{final}` but task {taskId} persisted `{shownOption stored}`"

/-- Why factories cannot be had from where they were looked for. -/
inductive CatalogFault where
  | cannotImport (module reason : String)
  | noItem (module item : String)
  | notAFactory (source type : String)
  | duplicate (factoryId : String)
  | unknown (factoryId : String)
  | cannotLoad (sources reason : String)
  deriving DecidableEq

def CatalogFault.message : CatalogFault → String
  | .cannotImport module reason =>
    s!"Cannot import factory module {Text.quoted module}: {reason}"
  | .noItem module item =>
    s!"Module {Text.quoted module} has no attribute {Text.quoted item}"
  | .notAFactory source type => s!"{source} provides {type}, expected a factory definition"
  | .duplicate factoryId => s!"Duplicate factory id: {factoryId}"
  | .unknown factoryId => s!"Unknown factory: {factoryId}"
  | .cannotLoad sources reason => s!"Cannot load factories from {sources}: {reason}"

/-- Why settings cannot be read or are out of range. -/
inductive SettingsFault where
  | notWhole (text : String) (problem : Numeral.Problem)
  | notReal (text : String)
  | leaseMode (name text : String)
  | flag (name text : String)
  | outOfRange (name range : String)
  deriving DecidableEq

def SettingsFault.message : SettingsFault → String
  | .notWhole text problem => (Raised.unreadable text problem).message
  | .notReal text => "could not convert string to float: " ++ Text.quoted text
  | .leaseMode name text => s!"Invalid lease mode for {name}: " ++ Text.quoted text
  | .flag name text => s!"Invalid boolean value for {name}: " ++ Text.quoted text
  | .outOfRange name range => s!"{name} must be {range}."

/-- Everything that an operation of this library can fail with. -/
inductive Fault where
  | fatal (cause : FatalCause) (taskId : Option String)
  | raised (kind : ErrorKind) (text : String)
  | transition (fault : TransitionFault)
  | replay (mismatch : ReplayMismatch)
  | leaseLost (taskId owner : String)
  | unknownState (stateId : String)
  | notAPause (stateId : String)
  | collision (stateId emitted : String)
  | invalidGraph (graphId : String) (violations : List Violation)
  | unsupportedNode (type : String)
  | unlabelledNode (type : String)
  | notAMember (shown enumeration : String)
  | catalog (fault : CatalogFault)
  | settings (fault : SettingsFault)
  | emptyModuleName
  | relativeModuleName (module : String)
  | notUnique (column : String)
  | noSuchRow
  | countTooLarge
  | taskNotFound (taskId : String)
  | runNotFound (runId : String)
  | notADocument
  | unwritable (problem : Unwritable)
  | span (fault : Instant.SpanFault)
  | tooLarge
  | incomparable (relation left right : String)
  | noProduct (left right : String)
  | missingColumn (column : String)
  deriving DecidableEq

namespace Fault

/-- What a callable raised, as a fault of the operation that called it. -/
def ofRaised : Raised → Fault
  | .fatal cause taskId => .fatal cause taskId
  | .error kind text => .raised kind text

/-- A fault in words. -/
def message : Fault → String
  | .fatal cause _ => cause.message
  | .raised _ text => text
  | .transition fault => fault.message
  | .replay mismatch => mismatch.message
  | .leaseLost taskId owner => s!"Lease lost for task {taskId} ({owner})"
  | .unknownState stateId => Text.quoted stateId
  | .notAPause stateId => s!"State `{stateId}` is not a feedback state"
  | .collision stateId emitted =>
    s!"State id collision while compiling `{stateId}`: `{emitted}` already exists"
  | .invalidGraph graphId violations =>
    let details := violations.map fun v => s!"{v.path}: {v.message}"
    s!"Invalid factory `{graphId}`: " ++ "; ".intercalate details
  | .unsupportedNode type => s!"Unsupported pipe node: {type}"
  | .unlabelledNode type => s!"<class '{type}'>"
  | .notAMember shown enumeration => s!"{shown} is not a valid {enumeration}"
  | .catalog fault => fault.message
  | .settings fault => fault.message
  | .emptyModuleName => "Empty module name"
  | .relativeModuleName module =>
    "the 'package' argument is required to perform a relative import for " ++ Text.quoted module
  | .notUnique column => s!"(sqlite3.IntegrityError) UNIQUE constraint failed: {column}"
  | .noSuchRow => "(sqlite3.IntegrityError) FOREIGN KEY constraint failed"
  | .countTooLarge => "Python int too large to convert to SQLite INTEGER"
  | .taskNotFound taskId => s!"Task not found: {taskId}"
  | .runNotFound runId => s!"Run not found: {runId}"
  | .notADocument => "Expected JSON object in stored column"
  | .unwritable problem => problem.message
  | .span fault => fault.message
  | .tooLarge => "int too large to convert to float"
  | .incomparable relation left right =>
    s!"'{relation}' not supported between instances of '{left}' and '{right}'"
  | .noProduct left right => s!"unsupported operand type(s) for *: '{left}' and '{right}'"
  | .missingColumn column => s!"(sqlite3.IntegrityError) NOT NULL constraint failed: {column}"

/-- Whether the fault says that some value was wrong, rather than that something was missing or broke
down. Loading and checking factories recover from these. -/
def isValueFault : Fault → Bool
  | .raised .value _ | .transition _ | .replay _ | .notAPause _ | .collision .. | .invalidGraph ..
  | .notAMember .. | .settings _ | .emptyModuleName => true
  | .span .undefined | .unwritable .tooLong => true
  | _ => false

end Fault

end Tickwork

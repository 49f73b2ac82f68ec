import Tickwork.Definition.Compile
import Tickwork.Text.Blank

/-!
# Outcomes of handlers

A handler reports a status, and with it data for the context, a message and a page. The report comes
as a record or as a plain mapping; `Outcome.read` accepts both and refuses what is neither, a status
that is missing or blank, data that is no mapping and a message that is no text.
-/

set_option autoImplicit false

namespace Tickwork

/-- What a handler reported, checked. -/
structure Outcome where
  status : String
  data : Option Fields
  message : Option String
  page : Option Value
  deriving DecidableEq

/-- A page, from a page, a text or a mapping that has one. -/
def readPage (v : Value) : Except FatalCause Value :=
  match v with
  | .record .page _ => .ok v
  | .str s => .ok (.page (.str s) .null)
  | v =>
    match v.asMapping?.map (fun fields => (field "markdown" fields, field "title" fields)) with
    | some (.str markdown, .str title) => .ok (.page (.str markdown) (.str title))
    | some (.str markdown, _) => .ok (.page (.str markdown) .null)
    | _ => .error (.unsupportedPage v.typeName)

namespace Outcome

/-- The data of a report: nothing or a mapping. -/
def readData (stateId : String) (v : Value) : Except FatalCause (Option Fields) :=
  match v with
  | .null => .ok none
  | v =>
    match v.asMapping? with
    | some fields => .ok (some fields)
    | none => .error (.dataNotObject stateId)

/-- The message of a report: nothing or a text. -/
def readMessage (stateId : String) : Value → Except FatalCause (Option String)
  | .null => .ok none
  | .str s => .ok (some s)
  | _ => .error (.messageNotText stateId)

def optional : Value → Option Value
  | .null => none
  | v => some v

/-- Checks status, data and message in this order. -/
def ofParts (stateId : String) (status data message page : Value) : Except FatalCause Outcome := do
  let status ← match status with
    | .str s => if Text.isBlankText s then .error (.noStatus stateId) else .ok s
    | _ => .error (.noStatus stateId)
  let data ← readData stateId data
  let message ← readMessage stateId message
  .ok ⟨status, data, message, optional page⟩

/-- Reads what a handler returned. The page of a mapping is made a page first; the page of a record is
taken as it is. -/
def read (stateId : String) (v : Value) : Except FatalCause Outcome :=
  match v with
  | .result status data message page => ofParts stateId status data message page
  | v =>
    match v.asMapping? with
    | none => .error (.notAnObject stateId v.typeName)
    | some fields => do
      let page ← match field "page" fields with
        | .null => .ok .null
        | page => readPage page
      ofParts stateId (field "status" fields) (field "data" fields) (field "message" fields) page

/-- The record that says what an outcome says. -/
def toValue (o : Outcome) : Value :=
  .result (.str o.status) ((o.data.map Value.dict).getD .null) (.ofOption o.message)
    (o.page.getD .null)

end Outcome

/-- A reply in a text, if it says anything: without the blanks around it. -/
def replyIn? (s : String) : Option String :=
  if Text.isBlankText s then none else some (Text.strip s)

/-- The reply that is there to read: the one that was handed over, else the one kept in the context. -/
def readReply (feedback : Option String) (context : Fields) : Option String :=
  match feedback.bind replyIn? with
  | some reply => some reply
  | none => ((field replyKey context).asString?).bind replyIn?

end Tickwork

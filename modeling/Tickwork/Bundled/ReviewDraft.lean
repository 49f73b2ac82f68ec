import Tickwork.Engine.Callable

/-!
# The factory `review-draft`

A draft is written, a reader is asked whether to approve or to revise it, and a revised draft is
published. The first attempt at a revision always fails, so that a retry can be seen in the ledger.
-/

set_option autoImplicit false

namespace Tickwork

/-- The whole number that a context holds under a name; zero when there is nothing. -/
def countIn (context : Fields) (name : String) : Except Raised Int :=
  let v := field name context
  if v.truthy then v.toInt else .ok 0

/-- The text that a context holds under a name as part of a sentence, or a default. -/
def wordsIn (context : Fields) (name fallback : String) : Except Raised String :=
  let v := field name context
  if v.truthy then v.sentence else .ok fallback

/-- A report of success with changes to the context. -/
def doneReport (data : Fields) : Value :=
  .result (.str "done") (.dict data) .null .null

namespace ReviewDraft

def id : String := "review-draft"

/-- The callables of the factory. -/
inductive Part where
  | startDraft
  | parseDecision
  | selectDecision
  | draftIsReady
  | reviseDraft
  | renderReview
  deriving DecidableEq

/-- The data of a first draft. -/
def startDraft (title : Option String) : Value :=
  let title := (firstNonempty [title]).getD "Untitled"
  doneReport
    [("summary", .str s!"Drafted initial plan for {title}"), ("draft_ready", .bool false),
      ("retry_attempts", .int 0), ("revisions", .int 0)]

def parseDecision (reply : String) : Value :=
  match Text.lowered (Text.strip reply) with
  | "approve" => doneReport [("decision", .str "approve"), ("draft_ready", .bool true)]
  | "revise" => doneReport [("decision", .str "revise"), ("draft_ready", .bool false)]
  | _ => doneReport [("decision", .str "clarify")]

def selectDecision (context : Fields) : Value :=
  match field "decision" context with
  | .str "approve" => .str "publish"
  | .str "revise" => .str "revise"
  | _ => .str unmappedEvent

/-- Revises the draft, from the second attempt on. -/
def reviseDraft (context : Fields) : Except Raised Value := do
  let attempts ← countIn context "retry_attempts"
  if attempts = 0 then
    .ok (.result (.str "failed") (.dict [("retry_attempts", .int 1)])
      (.str "Transient revision failure") .null)
  else
    let revisions ← countIn context "revisions"
    .ok (doneReport
      [("retry_attempts", .int (attempts + 1)), ("revisions", .int (revisions + 1)),
        ("draft_ready", .bool true), ("summary", .str "Revised plan ready for publish")])

def renderReview (context : Fields) : Except Raised Value := do
  let decision ← wordsIn context "decision" "unknown"
  let summary ← wordsIn context "summary" ""
  let revisions ← Value.numeral (← countIn context "revisions")
  let attempts ← Value.numeral (← countIn context "retry_attempts")
  let lines :=
    ["# Review Draft", s!"Decision: {decision}", s!"Summary: {summary}",
      s!"Revisions: {revisions}", s!"Retry Attempts: {attempts}"]
  .ok (.dict [("title", .str "Review draft"), ("markdown", .str ("\n".intercalate lines))])

def run (part : Part) (call : Call) : Except Raised Value :=
  match part with
  | .startDraft => .ok (startDraft call.title?)
  | .parseDecision => .ok (parseDecision call.replyText)
  | .selectDecision => .ok (selectDecision call.context)
  | .draftIsReady => .ok (.bool (field "draft_ready" call.context).truthy)
  | .reviseDraft => reviseDraft call.context
  | .renderReview => renderReview call.context

variable {F : Type}

/-- The definition of the factory over callables of any type that holds its own. -/
def definition (code : Part → F) : Definition F :=
  let onward (target : String) : Routes := [("done", some target), ("failed", some "failed")]
  let whole (part : Part) : Slot F := .code (code part) .whole
  { id
    start := "start_draft"
    context :=
      [("decision", .str ""), ("draft_ready", .bool false), ("retry_attempts", .int 0),
        ("revisions", .int 0), ("summary", .str "")]
    items :=
      [("start_draft", .primitive
          (.step (.slot (whole .startDraft)) (onward "collect_decision") none)),
        ("collect_decision", .primitive
          (.ask (.named "Reply with approve or revise.") (some (.report (whole .parseDecision)))
            (onward "decision_route") none)),
        ("decision_route", .primitive
          (.route (whole .selectDecision)
            [("publish", some "publish_result"), ("revise", some "revision_loop"),
              (unmappedEvent, some "collect_decision")])),
        ("revision_loop", .primitive
          (.loop (some "apply_revision") (.int 2)
            [("continue", some "apply_revision"), ("done", some "publish_result"),
              ("exhausted", some "failed")]
            (whole .draftIsReady))),
        ("apply_revision", .primitive
          (.step (.slot (whole .reviseDraft)) (onward "revision_loop")
            (some ⟨.int 1, .null, some ⟨.int 0, .fixed, .null⟩⟩))),
        ("publish_result", .primitive (.publish (whole .renderReview) Primitive.publishRoutes)),
        ("done", .primitive (.finish .done none)),
        ("failed", .primitive (.finish .failed none))]
    guards := []
    handlers := [] }

end ReviewDraft

end Tickwork

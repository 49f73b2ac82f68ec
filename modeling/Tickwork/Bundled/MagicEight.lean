import Tickwork.Bundled.ReviewDraft
import Tickwork.Pipe

/-!
# The factory `magic-8`

A conversation with a ball that answers questions: it asks for a question, answers, asks whether to go
on, and in the end publishes all questions and answers. Written as a pipe.
-/

set_option autoImplicit false

namespace Tickwork

namespace MagicEight

def id : String := "magic-8"

/-- The callables of the factory. -/
inductive Part where
  | prompt
  | parse
  | completion
  | markIncomplete
  | history
  deriving DecidableEq

def responses : List String :=
  ["Signs point to yes.", "Outlook not so good.", "Ask again later.", "Without a doubt.",
    "Better not tell you now."]

def chooseAnswer (question : String) (round : Int) : String :=
  (responses[(question.length + round).natAbs % responses.length]?).getD ""

def questionPrompt (round : Int) : Except Raised Value := do
  let number ← Value.numeral (round + 1)
  .ok (.str s!"Magic 8-Ball round {number}: Ask a yes/no question.")

def answerPrompt (answer : String) : Value :=
  .str ("Magic 8-Ball: " ++ answer ++ "\n\nAsk another? (yes/no)")

/-- The prompt for the phase of the conversation. -/
def prompt (context : Fields) : Except Raised Value :=
  if field "phase" context = .str "await_replay" then do
    let answer ← (field "last_answer" context).sentence
    .ok (answerPrompt answer)
  else do
    let round ← countIn context "round"
    questionPrompt round

def historyIn (context : Fields) : Except Raised (List Value) :=
  match Fields.get? "history" context with
  | none => .ok []
  | some v =>
    match v.items? with
    | some items => .ok items
    | none => .error (.error .type s!"Value after * must be an iterable, not {v.typeName}")

def answer (context : Fields) (reply : String) : Except Raised Value := do
  let question := Text.strip reply
  let round := (← countIn context "round") + 1
  let answer := chooseAnswer question round
  let history ← historyIn context
  let entry : Value := .dict [("question", .str question), ("answer", .str answer)]
  .ok (.again (answerPrompt answer)
    [("phase", .str "await_replay"), ("round", .int round), ("question", .str question),
      ("last_answer", .str answer), ("history", .list (history ++ [entry]))])

def goOn (context : Fields) (reply : String) : Except Raised Value :=
  let word := Text.lowered (Text.strip reply)
  if word.startsWith "y" then do
    let round ← countIn context "round"
    let prompt ← questionPrompt round
    .ok (.again prompt
      [("phase", .str "await_question"), ("question", .str ""), ("last_answer", .str "")])
  else if word.startsWith "n" then .ok (.dict [("phase", .str "complete")])
  else .ok (.again (.str "Please reply with yes or no. Ask another question?") [])

/-- Reads a reply in the phase of the conversation. -/
def parse (context : Fields) (reply : String) : Except Raised Value :=
  match field "phase" context with
  | .str "await_question" => answer context reply
  | .str "await_replay" => goOn context reply
  | _ => .ok (.dict [])

/-- What an entry of the history says under a name. -/
def entryWords (name : String) (entry : Value) : Except Raised String :=
  match entry with
  | .str _ => .error (.error .type "string indices must be integers, not 'str'")
  | .list _ => .error (.error .type "list indices must be integers or slices, not str")
  | v =>
    match v.asMapping? with
    | some fields =>
      match Fields.get? name fields with
      | some v => v.sentence
      | none => .error (.error .key (Text.quoted name))
    | none => .error (.error .type s!"'{v.typeName}' object is not subscriptable")

/-- The lines of the history from number `n` on. -/
def historyLines (n : Nat) : List Value → Except Raised (List String)
  | [] => .ok []
  | entry :: rest => do
    let question ← entryWords "question" entry
    let answer ← entryWords "answer" entry
    let lines ← historyLines (n + 1) rest
    .ok (s!"{n}. Q: {question}\n   A: {answer}" :: lines)

def history (context : Fields) : Except Raised Value := do
  let entries ← match Fields.get? "history" context with
    | none => .ok []
    | some v =>
      match v.items? with
      | some items => .ok items
      | none => .error (.notIterable v.typeName)
  let lines ← historyLines 1 entries
  .ok (.dict [("markdown", .str ("\n".intercalate ("# Magic 8-Ball" :: lines)))])

def run (part : Part) (call : Call) : Except Raised Value :=
  match part with
  | .prompt => prompt call.context
  | .parse => parse call.context call.replyText
  | .completion =>
    .ok (.str (if field "phase" call.context = .str "complete" then "complete" else "incomplete"))
  | .markIncomplete => .ok (.dict [])
  | .history => history call.context

variable {F : Type}

/-- The pipe of the factory over callables of any type that holds its own. -/
def pipe (code : Part → F) : Node F :=
  .flow
    [.ask (.code (code .prompt) .context) (.code (code .parse) .context) (some "conversation"),
      .decide (code .completion)
        [("complete", .flow [.write (code .history) (some "history"), .finish .done none]),
          ("incomplete", .flow
            [.step (code .markIncomplete) (some "mark_incomplete"),
              .finish .failed (some "Magic 8-Ball conversation is not complete yet.")])]
        none (some "ensure_completion")]

/-- The context that a conversation starts with. -/
def initial : Fields :=
  [("phase", .str "await_question"), ("round", .int 0), ("question", .str ""),
    ("last_answer", .str ""), ("history", .list [])]

def definition (code : Part → F) : Except Fault (Definition F) :=
  (pipe code).toDefinition id initial

end MagicEight

end Tickwork

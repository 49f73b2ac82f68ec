import Tickwork.Proofs.Pipe.Compiled
import Tickwork.Proofs.Routing
import Tickwork.Proofs.Talks.Recitals

/-!
# The states of magic-8

The graph of the factory, and what each of its states makes of a context: a stretch from the start to the
first pause, and a stretch for every reply after a pause. The conversation goes by rounds: `Game.next` says
what a reply makes of it, `Game.context` what the context then holds.
-/

set_option autoImplicit false

namespace Tickwork

variable {S W : Type}

open Engine Pipe

namespace MagicEight

/-! ## The graph -/

/-- The states that the pipe is compiled to. -/
def states : List (String × State (Routine S)) :=
  [("done", .terminal .done none),
    ("failed", .terminal .failed none),
    ("end_done_4", .terminal .done none),
    ("history_3", .action (.publish (.code (.magicEight .history) .context))
      ⟨some "end_done_4", some "failed", none⟩ none),
    ("end_failed_6", .terminal .failed (some "Magic 8-Ball conversation is not complete yet.")),
    ("mark_incomplete_5", .action (.merge (.magicEight .markIncomplete))
      ⟨some "end_failed_6", some "failed", none⟩ none),
    ("ensure_completion_2", .orchestrate
      [("complete", some "history_3"), ("incomplete", some "mark_incomplete_5"),
        (unknownBranchEvent, some "failed")]
      (.decide (.magicEight .completion) ["complete", "incomplete"] false) (.slot .absent)),
    ("conversation_1", .action
      (.ask (.code (.magicEight .prompt) .context) (some (.changes (.code (.magicEight .parse) .context))))
      ⟨some "ensure_completion_2", some "failed", some (feedbackId "conversation_1")⟩ none),
    (feedbackId "conversation_1", .feedback previousState)]

def graph : Graph (Routine S) where
  id := MagicEight.id
  start := "conversation_1"
  context := initial
  states := states
  guards := []
  handlers := []

theorem built : Built (pipe (Routine.magicEight (S := S))) := by
  unfold pipe
  refine .flow fun node inside => ?_
  rcases List.mem_cons.mp inside with rfl | inside
  · exact .ask
  · cases List.mem_singleton.mp inside
    refine .decide (by simp) (fun branch inside => ?_) nofun
    rcases List.mem_cons.mp inside with rfl | inside
    · refine .flow fun node inside => ?_
      rcases List.mem_cons.mp inside with rfl | inside
      · exact .write
      · cases List.mem_singleton.mp inside
        exact .finish
    · cases List.mem_singleton.mp inside
      refine .flow fun node inside => ?_
      rcases List.mem_cons.mp inside with rfl | inside
      · exact .step
      · cases List.mem_singleton.mp inside
        exact .finish

theorem graph_eq :
    graphOf MagicEight.id initial (pipe (Routine.magicEight (S := S))) = graph := by
  have one : numbered "conversation" 1 = "conversation_1" := by decide
  have two : numbered "ensure_completion" 2 = "ensure_completion_2" := by decide
  have three : numbered "history" 3 = "history_3" := by decide
  have four : numbered "end_done" 4 = "end_done_4" := by decide
  have five : numbered "mark_incomplete" 5 = "mark_incomplete_5" := by decide
  have six : numbered "end_failed" 6 = "end_failed_6" := by decide
  simp [graphOf, pipe, graph, states, statesOf, ends, items, itemsFlow, itemsBranches, itemsOption,
    entry, entryFlow, Node.numbering, Node.numbers, Node.numbersFlow, Node.numbersBranches,
    Node.numbersOption, Node.takes, Node.taken, Node.inside, Node.insideFlow, Numbering.under,
    Numbering.joined, Node.idOf, Node.label, Node.nameOr, Node.isFlow, firstNonempty, EndStatus.name,
    one, two, three, four, five, six, decideRoutes, branchRoutes, otherRoutes, lowerItem, readerOf,
    onward, actionRoutes, requiredRoute, actionEvents, Ordered.put, List.lookup_cons, failedId, doneId,
    feedbackId, previousState, names, unknownBranchEvent, MagicEight.id]

theorem bundles : bundled? MagicEight.id = some (.ok (graph (S := S))) := by
  have compiled : (pipe (Routine.magicEight (S := S))).compile MagicEight.id initial =
    .ok (graphOf MagicEight.id initial (pipe (Routine.magicEight (S := S)))) := built.compile
  rw [graph_eq] at compiled
  exact congrArg some compiled

theorem sound : (graph (S := S)).Sound := by
  rw [← graph_eq]
  exact built.sound

theorem waitable : (graph (S := S)).Waitable := by
  refine Graph.Waitable.of_untried fun id handler routes retry found => ?_
  rw [← graph_eq] at found
  exact built.untried found

theorem recites {h : Host (Routine S) W} (plays : Routine.Plays h) :
    h.overMemory.behaviour.Recites Routine.recital graph := by
  refine plays.recites fun around fr id node s q there asked => ?_
  simp only [graph, states, List.mem_cons, Prod.mk.injEq, List.not_mem_nil, or_false] at there
  rcases there with ⟨-, rfl⟩ | ⟨-, rfl⟩ | ⟨-, rfl⟩ | ⟨-, rfl⟩ | ⟨-, rfl⟩ | ⟨-, rfl⟩ | ⟨-, rfl⟩ |
    ⟨-, rfl⟩ | ⟨-, rfl⟩
  all_goals cases asked
  all_goals rfl

/-! ## Rounds -/

/-- The phases of a conversation. -/
inductive Phase where
  | question
  | replay
  | complete
  deriving DecidableEq

def Phase.name : Phase → String
  | .question => "await_question"
  | .replay => "await_replay"
  | .complete => "complete"

/-- A conversation so far: its phase, and the questions that were asked in order. -/
structure Game where
  phase : Phase
  questions : List String
  deriving DecidableEq

/-- The answer to the question with a number, counted from one. -/
def response (question : String) (number : Nat) : String :=
  responses.get ⟨(question.length + number) % responses.length, Nat.mod_lt _ (by decide)⟩

/-- What a reply makes of a conversation. A blank one is no reply. -/
def Game.next (game : Game) (said : String) : Game :=
  if Text.isBlankText said then game
  else
    match game.phase with
    | .question => ⟨.replay, game.questions ++ [Text.strip said]⟩
    | .replay =>
      if (Text.lowered (Text.strip said)).startsWith "y" then { game with phase := .question }
      else if (Text.lowered (Text.strip said)).startsWith "n" then { game with phase := .complete }
      else game
    | .complete => game

/-- What replies do in a conversation that goes on, each kind of them. -/
inductive Move (said : String) : Game → Game → Prop
  | blank {game : Game} (blank : Text.isBlankText said = true) : Move said game game
  | asks {questions : List String} (worded : ¬ Text.isBlankText said = true) :
      Move said ⟨.question, questions⟩ ⟨.replay, questions ++ [Text.strip said]⟩
  | goesOn {questions : List String} (worded : ¬ Text.isBlankText said = true)
      (yes : (Text.lowered (Text.strip said)).startsWith "y" = true) :
      Move said ⟨.replay, questions⟩ ⟨.question, questions⟩
  | declines {questions : List String} (worded : ¬ Text.isBlankText said = true)
      (other : (Text.lowered (Text.strip said)).startsWith "y" = false)
      (no : (Text.lowered (Text.strip said)).startsWith "n" = true) :
      Move said ⟨.replay, questions⟩ ⟨.complete, questions⟩
  | lingers {questions : List String} (worded : ¬ Text.isBlankText said = true)
      (other : (Text.lowered (Text.strip said)).startsWith "y" = false)
      (other' : (Text.lowered (Text.strip said)).startsWith "n" = false) :
      Move said ⟨.replay, questions⟩ ⟨.replay, questions⟩

theorem Game.moves {game : Game} (going : game.phase ≠ .complete) (said : String) :
    Move said game (game.next said) := by
  by_cases blank : Text.isBlankText said = true
  · rw [Game.next, if_pos blank]
    exact .blank blank
  · obtain ⟨phase, questions⟩ := game
    rw [Game.next, if_neg blank]
    cases phase with
    | complete => exact absurd rfl going
    | question => exact .asks blank
    | replay =>
        cases yes : (Text.lowered (Text.strip said)).startsWith "y" with
        | true => simpa only [yes, if_true] using Move.goesOn blank yes
        | false =>
            cases no : (Text.lowered (Text.strip said)).startsWith "n" with
            | true => simpa only [yes, no, Bool.false_eq_true, if_false, if_true] using
                Move.declines blank yes no
            | false => simpa only [yes, no, Bool.false_eq_true, if_false] using
                Move.lingers blank yes no

/-- The conversation that replies lead to. -/
def played (replies : List String) : Game :=
  replies.foldl Game.next ⟨.question, []⟩

def entry (question : String) (number : Nat) : Value :=
  .dict [("question", .str question), ("answer", .str (response question number))]

/-- The history that lists some questions, numbered from `n` on. -/
def entries (n : Nat) (questions : List String) : List Value :=
  (questions.zipIdx n).map fun asked => entry asked.1 asked.2

/-- The line of a history for a question with a number. -/
def line (question : String) (number : Nat) : String :=
  s!"{number}. Q: {question}\n   A: {response question number}"

/-- The page that lists some questions. -/
def page (questions : List String) : Value :=
  .page (.str ("\n".intercalate ("# Magic 8-Ball" ::
    (questions.zipIdx 1).map fun asked => line asked.1 asked.2))) .null

def held (phase : Phase) (round : Nat) (question answer : String) (history : List Value)
    (reply : Value) : Fields :=
  [("phase", .str phase.name), ("round", .int round), ("question", .str question),
    ("last_answer", .str answer), ("history", .list history), (.text replyKey, reply)]

/-- The question that a conversation is at: none while it waits for one. -/
def Game.current (game : Game) : String × String :=
  match game.phase with
  | .question => ("", "")
  | _ =>
    let last := game.questions.getLast?.getD ""
    (last, response last game.questions.length)

/-- The context of a conversation, with what is kept as the reply. -/
def Game.context (game : Game) (reply : Value) : Fields :=
  held game.phase game.questions.length game.current.1 game.current.2 (entries 1 game.questions) reply

/-! ## Visits -/

def asked : Shape :=
  ⟨"conversation_1", feedbackId "conversation_1", "feedback", .known .actionFeedback, 1, 0⟩

/-- The rows of the end. -/
def closing : List Shape :=
  [⟨"conversation_1", "ensure_completion_2", "done", .known .actionDone, 1, 0⟩,
    ⟨"ensure_completion_2", "history_3", "complete", .known .orchestrateHandler, 1, 0⟩,
    ⟨"history_3", "end_done_4", "done", .known .actionDone, 1, 0⟩]

section Visits

variable {task : TaskInfo} {Rest : Progress → Prop} {s : Stance} {p : Progress}
variable {context data : Fields} {shapes : List Shape} {later : List Value} {words said : String}

theorem conversation_state : graph.state? "conversation_1" = some (.action
    (.ask (.code (Routine.magicEight (S := S) .prompt) .context)
      (some (.changes (.code (.magicEight .parse) .context))))
    ⟨some "ensure_completion_2", some "failed", some (feedbackId "conversation_1")⟩ none) := by
  simp [graph, states, Graph.state?, List.lookup_cons]

theorem pause_state : (graph (S := S)).state? (feedbackId "conversation_1") =
    some (.feedback previousState) := by
  simp [graph, states, Graph.state?, feedbackId, List.lookup_cons]

theorem completion_state : graph.state? "ensure_completion_2" = some (.orchestrate
    [("complete", some "history_3"), ("incomplete", some "mark_incomplete_5"),
      (unknownBranchEvent, some "failed")]
    (.decide (Routine.magicEight (S := S) .completion) ["complete", "incomplete"] false)
    (.slot .absent)) := by
  simp [graph, states, Graph.state?, List.lookup_cons]

theorem history_state : graph.state? "history_3" = some (.action
    (.publish (.code (Routine.magicEight (S := S) .history) .context))
    ⟨some "end_done_4", some "failed", none⟩ none) := by
  simp [graph, states, Graph.state?, List.lookup_cons]

theorem end_state : (graph (S := S)).state? "end_done_4" = some (.terminal .done none) := by
  simp [graph, states, Graph.state?, List.lookup_cons]

/-- What the conversation answers. -/
theorem recite_conversation (task : TaskInfo) (on : s.progress.On "conversation_1" context [] [])
    (worded : prompt context = .ok (.str words)) :
    recite (Routine.recital (S := S)) (.handler
      (.ask (.code (.magicEight .prompt) .context)
        (some (.changes (.code (.magicEight .parse) .context))))
      (s.shown task "conversation_1" 1)) =
        match readReply s.feedback context with
        | none => .ok (waitingReport (.str words))
        | some said => ((parse context said).bind fun v => (readChanges v).bind fun report =>
            (Outcome.read "conversation_1" report).mapError (Raised.fatal · none)).map
              (answeredReport (.str words)) := by
  have prompted : (Routine.recital (S := S) (.magicEight .prompt)
      (.node s.progress.context)).value = .ok (.str words) := on.context ▸ worded
  have same : (Routine.recital (S := S) (.magicEight .prompt) (.node s.progress.context)).context =
    context := on.context
  rw [recite_changes]
  simp only [Stance.shown, prompted, same, Except.bind]
  rfl

/-- Where there is no reply to read, the conversation asks. -/
theorem waits (on : s.progress.On "conversation_1" context [] [])
    (unread : readReply s.feedback context = none) (worded : prompt context = .ok (.str words))
    (rest : ∀ p : Progress, p.Waits "conversation_1" (Fields.put replyKey .null context) → Rest p) :
    ComesTo Routine.recital (graph (S := S)) task Rest s [asked] [] := by
  have answers := recite_conversation (S := S) task on worded
  rw [unread] at answers
  exact .pauses on (by decide) conversation_state rfl answers rfl pause_state rest

/-- A reply that the conversation asks on after. -/
theorem asks_on {message : String} (on : s.progress.On "conversation_1" context [] [])
    (given : readReply s.feedback context = some said) (worded : prompt context = .ok (.str words))
    (parsed : parse context said = .ok (.again (.str message) data))
    (rest : ∀ p : Progress,
      p.Waits "conversation_1" (Fields.overlay context (Fields.put replyKey .null data)) → Rest p) :
    ComesTo Routine.recital (graph (S := S)) task Rest s [asked] [] := by
  have answers := recite_conversation (S := S) task on worded
  -- an empty message would give way to the prompt, which is a text as well
  obtain ⟨text, report⟩ : ∃ text : String, answeredReport (.str words)
      ⟨"feedback", some data, some message, none⟩ =
        .result (.str "feedback") (.dict (Fields.put replyKey .null data)) (.str text) .null := by
    by_cases empty : message = ""
    · exact ⟨words, by simp [answeredReport, empty]⟩
    · exact ⟨message, by simp [answeredReport, empty, Value.ofOption]⟩
  have whole : ((parse context said).bind fun v => (readChanges v).bind fun report =>
      (Outcome.read "conversation_1" report).mapError (Raised.fatal · none)) =
        .ok ⟨"feedback", some data, some message, none⟩ := by
    rw [parsed]
    rfl
  rw [given] at answers
  simp only [whole, Except.map, report] at answers
  exact .pauses on (by decide) conversation_state rfl answers rfl pause_state rest

/-- A reply that completes the conversation. -/
theorem hears_out (on : s.progress.On "conversation_1" context [] [])
    (given : readReply s.feedback context = some said) (worded : prompt context = .ok (.str words))
    (parsed : parse context said = .ok (.dict data))
    (rest : ∀ p : Progress,
      p.On "ensure_completion_2" (Fields.overlay context (Fields.put replyKey .null data)) [] [] →
        ComesTo Routine.recital (graph (S := S)) task Rest ⟨p, none⟩ shapes later) :
    ComesTo Routine.recital (graph (S := S)) task Rest s
      (⟨"conversation_1", "ensure_completion_2", "done", .known .actionDone, 1, 0⟩ :: shapes)
      later := by
  have answers := recite_conversation (S := S) task on worded
  have whole : ((parse context said).bind fun v => (readChanges v).bind fun report =>
      (Outcome.read "conversation_1" report).mapError (Raised.fatal · none)) =
        .ok ⟨"done", some data, none, none⟩ := by
    rw [parsed]
    rfl
  have report : answeredReport (.str words) ⟨"done", some data, none, none⟩ =
      doneReport (Fields.put replyKey .null data) := by
    simp [answeredReport, doneReport, Value.ofOption]
  rw [given] at answers
  simp only [whole, Except.map, report] at answers
  have heard : (Fields.get? replyKey (Fields.put replyKey .null data)).isSome = true := by
    simp [Fields.get?_put_self]
  exact .goes_on on (by decide) conversation_state rfl (attemptNumber_first on.attempts) answers
    (.inr heard) rfl completion_state rfl rest

theorem finds_complete (on : p.On "ensure_completion_2" context [] [])
    (complete : field "phase" context = .str "complete")
    (rest : ∀ p : Progress, p.On "history_3" context [] [] →
      ComesTo Routine.recital (graph (S := S)) task Rest ⟨p, none⟩ shapes later) :
    ComesTo Routine.recital (graph (S := S)) task Rest ⟨p, none⟩
      (⟨"ensure_completion_2", "history_3", "complete", .known .orchestrateHandler, 1, 0⟩ :: shapes)
      later := by
  have answers : recite (Routine.recital (S := S)) (.handler
      (.decide (.magicEight .completion) ["complete", "incomplete"] false)
      ((⟨p, none⟩ : Stance).shown task "ensure_completion_2" 1)) =
        .ok (.result (.str "complete") .null (.ofOption none) .null) := by
    have unfolds : recite (Routine.recital (S := S)) (.handler
        (.decide (.magicEight .completion) ["complete", "incomplete"] false)
        ((⟨p, none⟩ : Stance).shown task "ensure_completion_2" 1)) =
      decisionReport ["complete", "incomplete"] false
        (.str (if field "phase" p.context = .str "complete" then "complete" else "incomplete")) := rfl
    rw [unfolds, on.context, if_pos complete]
    rfl
  have exit := Exit.of_decision (s := ⟨p, none⟩) on (by decide) completion_state rfl rfl answers
    (by decide)
  exact exit.onward rfl history_state rfl rfl on.lifecycle (rest _ (on.moved _ _))

theorem publishes {markdown : String} (on : p.On "history_3" context [] [])
    (lists : history context = .ok (.dict [("markdown", .str markdown)]))
    (rest : ∀ p : Progress, p.Completed "end_done_4" context → Rest p) :
    ComesTo Routine.recital (graph (S := S)) task Rest ⟨p, none⟩
      [⟨"history_3", "end_done_4", "done", .known .actionDone, 1, 0⟩]
      [.page (.str markdown) .null] := by
  have answers : recite (Routine.recital (S := S)) (.handler
      (.publish (.code (.magicEight .history) .context))
      ((⟨p, none⟩ : Stance).shown task "history_3" 1)) =
        .ok (.result (.str "done") .null .null (.page (.str markdown) .null)) := by
    have unfolds : recite (Routine.recital (S := S)) (.handler
        (.publish (.code (.magicEight .history) .context))
        ((⟨p, none⟩ : Stance).shown task "history_3" 1)) =
      ((history p.context).bind fun v =>
        ((readPage v).mapError (Raised.fatal · none)).map fun page =>
          .result (.str "done") .null .null page) := rfl
    rw [unfolds, on.context, lists]
    rfl
  exact .ends_with (s := ⟨p, none⟩) on (by decide) history_state rfl answers rfl end_state rest

end Visits

/-! ## Contexts -/

section Contexts

variable {phase : Phase} {round : Nat} {question said : String} {history' : List Value} {kept : Value}

/-- The prompt for a question says the number of the round. -/
theorem questionPrompt_ok (few : round + 1 < Numeral.digitBound) :
    ∃ words, questionPrompt round = .ok (.str words) := by
  have spelled : Value.numeral ((round : Int) + 1) = .ok (toString ((round : Int) + 1)) :=
    numeral_of_below (by omega)
  unfold questionPrompt
  rw [spelled]
  exact ⟨_, rfl⟩

theorem prompt_question {context : Fields} (phased : field "phase" context = .str "await_question")
    (counted : countIn context "round" = .ok (round : Int))
    (few : round + 1 < Numeral.digitBound) : ∃ words, prompt context = .ok (.str words) := by
  obtain ⟨words, asked⟩ := questionPrompt_ok few
  have asks : field "phase" context ≠ .str "await_replay" := by
    rw [phased]
    decide
  unfold prompt
  rw [if_neg asks]
  simp only [counted, bind, Except.bind, asked]
  exact ⟨words, rfl⟩

theorem prompt_held_replay :
    prompt (held .replay round question said history' kept) = .ok (answerPrompt said) := rfl

theorem chooseAnswer_next (asked : String) (n : Nat) :
    chooseAnswer asked ((n : Int) + 1) = response asked (n + 1) := by
  have number : ((asked.length : Int) + ((n : Int) + 1)).natAbs = asked.length + (n + 1) := by omega
  have inside : (asked.length + (n + 1)) % responses.length < responses.length :=
    Nat.mod_lt _ (by decide)
  unfold chooseAnswer response
  rw [number, List.getElem?_eq_getElem inside]
  rfl

theorem entries_concat (n : Nat) (questions : List String) (asked : String) :
    entries n (questions ++ [asked]) = entries n questions ++ [entry asked (n + questions.length)] := by
  simp [entries, List.zipIdx_append]

/-- A question is answered and noted. -/
theorem parse_held_question (round : Nat) (asked : String) :
    parse (held .question round question said history' kept) asked =
      .ok (.again (answerPrompt (response (Text.strip asked) (round + 1)))
        [("phase", .str "await_replay"), ("round", .int ((round : Int) + 1)),
          ("question", .str (Text.strip asked)),
          ("last_answer", .str (response (Text.strip asked) (round + 1))),
          ("history", .list (history' ++ [entry (Text.strip asked) (round + 1)]))]) := by
  have counted : countIn (held .question round question said history' kept) "round" =
      .ok (round : Int) := countIn_of_int rfl
  have listed : historyIn (held .question round question said history' kept) = .ok history' := rfl
  have reads : parse (held .question round question said history' kept) asked =
      answer (held .question round question said history' kept) asked := rfl
  rw [reads]
  unfold answer
  simp only [counted, listed, bind, Except.bind, chooseAnswer_next]
  rfl

theorem parse_held_replay (word : String) :
    parse (held .replay round question said history' kept) word =
      goOn (held .replay round question said history' kept) word := rfl

theorem goOn_yes (round : Nat) {word : String}
    (yes : (Text.lowered (Text.strip word)).startsWith "y" = true) (few : round + 1 < Numeral.digitBound) :
    ∃ message, goOn (held .replay round question said history' kept) word =
      .ok (.again (.str message)
        [("phase", .str "await_question"), ("question", .str ""), ("last_answer", .str "")]) := by
  have counted : countIn (held .replay round question said history' kept) "round" =
      .ok (round : Int) := countIn_of_int rfl
  obtain ⟨words, asked⟩ := questionPrompt_ok few
  unfold goOn
  simp only [yes, if_true, counted, bind, Except.bind, asked]
  exact ⟨words, rfl⟩

theorem goOn_no {context : Fields} {word : String}
    (other : (Text.lowered (Text.strip word)).startsWith "y" = false)
    (no : (Text.lowered (Text.strip word)).startsWith "n" = true) :
    goOn context word = .ok (.dict [("phase", .str "complete")]) := by
  unfold goOn
  simp only [other, no, if_true, Bool.false_eq_true, if_false]

theorem goOn_neither {context : Fields} {word : String}
    (other : (Text.lowered (Text.strip word)).startsWith "y" = false)
    (other' : (Text.lowered (Text.strip word)).startsWith "n" = false) :
    goOn context word =
      .ok (.again (.str "Please reply with yes or no. Ask another question?") []) := by
  unfold goOn
  simp only [other, other', Bool.false_eq_true, if_false]

/-- What is written of the questions from a number on. -/
theorem historyLines_entries (n : Nat) (questions : List String) :
    historyLines n (entries n questions) =
      .ok ((questions.zipIdx n).map fun asked => line asked.1 asked.2) := by
  induction questions generalizing n with
  | nil => rfl
  | cons asked rest ih =>
      have first : entries n (asked :: rest) = entry asked n :: entries (n + 1) rest := rfl
      have questioned : entryWords "question" (entry asked n) = .ok asked := rfl
      have answered : entryWords "answer" (entry asked n) = .ok (response asked n) := rfl
      rw [first]
      simp only [historyLines, questioned, answered, ih (n + 1), bind, Except.bind]
      rfl

theorem history_held (phase : Phase) (questions : List String) :
    history (held phase round question said (entries 1 questions) kept) =
      .ok (.dict [("markdown", .str ("\n".intercalate ("# Magic 8-Ball" ::
        (questions.zipIdx 1).map fun asked => line asked.1 asked.2)))]) := by
  have there : Fields.get? "history" (held phase round question said (entries 1 questions) kept) =
      some (.list (entries 1 questions)) := by cases phase <;> rfl
  have listed : (Value.list (entries 1 questions)).items? = some (entries 1 questions) := rfl
  unfold history
  simp only [there, listed, bind, Except.bind, historyLines_entries]

end Contexts

/-! ## Replies -/

/-- A task at rest in a conversation. -/
def Game.Rests (game : Game) (p : Progress) : Prop :=
  match game.phase with
  | .complete => p.Completed "end_done_4" (game.context .null)
  | _ => p.Waits "conversation_1" (game.context .null)

/-- The rows that a reply leads to. -/
def Game.told (game : Game) (said : String) : List Shape :=
  if (game.next said).phase = .complete then closing else [asked]

/-- The pages that a reply leads to. -/
def Game.shown (game : Game) (said : String) : List Value :=
  if (game.next said).phase = .complete then [page game.questions] else []

section Replies

variable {task : TaskInfo} {s : Stance} {p : Progress} {said : String} {heard : List String} {game : Game}
variable {kept : Value}

theorem put_context (game : Game) (v : Value) :
    Fields.put replyKey v (game.context kept) = game.context v := rfl

theorem overlay_answer (kept : Value) (questions : List String) (asked : String) :
    Fields.overlay ((⟨.question, questions⟩ : Game).context kept) (Fields.put replyKey .null
      [("phase", .str "await_replay"), ("round", .int ((questions.length : Int) + 1)),
        ("question", .str asked), ("last_answer", .str (response asked (questions.length + 1))),
        ("history", .list (entries 1 questions ++ [entry asked (questions.length + 1)]))]) =
      (⟨.replay, questions ++ [asked]⟩ : Game).context .null := by
  have laid : (⟨.replay, questions ++ [asked]⟩ : Game).context .null =
      held .replay (questions.length + 1) asked (response asked (questions.length + 1))
        (entries 1 questions ++ [entry asked (questions.length + 1)]) .null := by
    simp [Game.context, Game.current, entries_concat, Nat.add_comm]
  rw [laid]
  rfl

theorem Game.rests_of_going (going : game.phase ≠ .complete) :
    game.Rests p ↔ p.Waits "conversation_1" (game.context .null) := by
  obtain ⟨phase, questions⟩ := game
  cases phase with
  | complete => exact absurd rfl going
  | question => exact Iff.rfl
  | replay => exact Iff.rfl

/-- The prompt of a conversation can be put into words. -/
theorem Game.prompted (kept : Value) (going : game.phase ≠ .complete)
    (few : game.questions.length + 1 < Numeral.digitBound) :
    ∃ words, prompt (game.context kept) = .ok (.str words) := by
  obtain ⟨phase, questions⟩ := game
  cases phase with
  | complete => exact absurd rfl going
  | question => exact prompt_question rfl (countIn_of_int rfl) few
  | replay => exact ⟨_, prompt_held_replay⟩

/-- A reply leads a waiting conversation on. -/
theorem Game.leads (task : TaskInfo) (going : game.phase ≠ .complete)
    (few : game.questions.length + 1 < Numeral.digitBound)
    (here : p.Waits "conversation_1" (game.context .null)) (offered : Offered p said s) :
    ComesTo Routine.recital (graph (S := S)) task (game.next said).Rests s (game.told said)
      (game.shown said) := by
  obtain ⟨kept, on, given⟩ := offered.read here (put_context game .null)
  rw [put_context] at on given
  obtain ⟨words, prompts⟩ := Game.prompted kept going few
  have trimmed := Text.strip_strip said
  have move := game.moves going said
  unfold Game.told Game.shown
  generalize game.next said = after at move ⊢
  cases move with
  | blank blank =>
      rw [replyIn?, if_pos blank] at given
      rw [if_neg going, if_neg going]
      refine waits on given prompts fun p here => (Game.rests_of_going going).mpr ?_
      exact put_context game .null ▸ here
  | @asks questions worded =>
      rw [replyIn?, if_neg worded] at given
      have parsed : parse ((⟨.question, questions⟩ : Game).context kept) (Text.strip said) = _ :=
        parse_held_question questions.length (Text.strip said)
      rw [trimmed] at parsed
      refine asks_on on given prompts parsed fun p here => ?_
      rw [overlay_answer kept questions (Text.strip said)] at here
      exact here
  | @goesOn questions worded yes =>
      rw [replyIn?, if_neg worded] at given
      rw [← trimmed] at yes
      obtain ⟨message, goes⟩ := goOn_yes questions.length yes few
      exact asks_on on given prompts ((parse_held_replay _).trans goes) fun p here => here
  | @declines questions worded other no =>
      rw [replyIn?, if_neg worded] at given
      rw [← trimmed] at other no
      refine hears_out on given prompts ((parse_held_replay _).trans (goOn_no other no)) fun p on => ?_
      exact finds_complete on rfl fun p on =>
        publishes on (history_held .complete questions) fun p here => here
  | @lingers questions worded other other' =>
      rw [replyIn?, if_neg worded] at given
      rw [← trimmed] at other other'
      exact asks_on on given prompts ((parse_held_replay _).trans (goOn_neither other other'))
        fun p here => here

theorem start_on (taskId workflowId : String) :
    (Progress.begun (prepare (graph (S := S)) (.newTask taskId workflowId []))).On "conversation_1"
      initial [] [] :=
  ⟨rfl, rfl, rfl, rfl, rfl, rfl, rfl⟩

/-- A new conversation asks for a question. -/
theorem opens (task : TaskInfo) (taskId workflowId : String) :
    ComesTo Routine.recital (graph (S := S)) task (played []).Rests
      ⟨Progress.begun (prepare (graph (S := S)) (.newTask taskId workflowId [])), none⟩ [asked] [] := by
  have on := start_on (S := S) taskId workflowId
  have begins : countIn initial "round" = .ok ((0 : Nat) : Int) := rfl
  obtain ⟨words, worded⟩ := prompt_question rfl begins (one_digit (by decide))
  exact waits (s := ⟨_, none⟩) on rfl worded fun p here => here

theorem played_concat (heard : List String) (said : String) :
    played (heard ++ [said]) = (played heard).next said := by
  simp [played]

/-- Only a reply that declines another round ends a conversation. -/
theorem Game.declined_of_complete (going : game.phase ≠ .complete)
    (complete : (game.next said).phase = .complete) :
    game.phase = .replay ∧ (Text.lowered (Text.strip said)).startsWith "n" = true ∧
      (game.next said).questions = game.questions := by
  have move := game.moves going said
  generalize game.next said = after at move complete ⊢
  cases move with
  | blank blank => exact absurd complete going
  | asks worded => cases complete
  | goesOn worded yes => cases complete
  | declines worded other no => exact ⟨rfl, no, rfl⟩
  | lingers worded other other' => cases complete

theorem Game.le_questions_next (game : Game) (said : String) :
    game.questions.length ≤ (game.next said).questions.length := by
  unfold Game.next
  split
  · exact Nat.le_refl _
  · split
    · simp
    · split
      · exact Nat.le_refl _
      · split <;> exact Nat.le_refl _
    · exact Nat.le_refl _

/-- The rows of a conversation at rest, by the replies that it got. -/
def ledger (heard : List String) : List Shape :=
  if (played heard).phase = .complete then List.replicate heard.length asked ++ closing
  else List.replicate (heard.length + 1) asked

/-- The pages of a conversation at rest. -/
def pages (heard : List String) : List Value :=
  if (played heard).phase = .complete then [page (played heard).questions] else []

theorem ledger_concat (going : (played heard).phase ≠ .complete) :
    ledger (heard ++ [said]) = ledger heard ++ (played heard).told said := by
  unfold ledger Game.told
  rw [if_neg going, played_concat]
  by_cases complete : ((played heard).next said).phase = .complete
  · rw [if_pos complete, if_pos complete, List.length_append, List.length_singleton]
  · rw [if_neg complete, if_neg complete, List.length_append, List.length_singleton, List.replicate_succ']

theorem pages_concat (going : (played heard).phase ≠ .complete) :
    pages (heard ++ [said]) = pages heard ++ (played heard).shown said := by
  unfold pages Game.shown
  rw [if_neg going, played_concat, List.nil_append]
  by_cases complete : ((played heard).next said).phase = .complete
  · rw [if_pos complete, if_pos complete, (Game.declined_of_complete going complete).2.2]
  · rw [if_neg complete, if_neg complete]

theorem Game.rests_of_complete (complete : game.phase = .complete) :
    game.Rests p ↔ p.Completed "end_done_4" (game.context .null) := by
  obtain ⟨phase, questions⟩ := game
  cases complete
  exact Iff.rfl

theorem Game.rests_paused (rests : game.Rests p) (paused : p.lifecycle = .feedback) :
    game.phase ≠ .complete ∧ p.Waits "conversation_1" (game.context .null) := by
  by_cases complete : game.phase = .complete
  · have here := (Game.rests_of_complete complete).mp rests
    rw [here.lifecycle] at paused
    cases paused
  · exact ⟨complete, (Game.rests_of_going complete).mp rests⟩

/-- What replies to magic-8 lead to, as far as the numbers of rounds can be written out. -/
def plan (task : TaskInfo) : Plan Routine.recital (graph (S := S)) task where
  ledger := ledger
  pages := pages
  Rests heard p := (played heard.dropLast).phase ≠ .complete ∧ (played heard).Rests p
  Within heard := (played heard).questions.length + 1 < Numeral.digitBound
  most := 3
  within_front {heard said} within := by
    rw [played_concat] at within
    have fewer := (played heard).le_questions_next said
    omega
  halts {heard p} rests := by
    by_cases complete : (played heard).phase = .complete
    · exact .inr ((Game.rests_of_complete complete).mp rests.2).lifecycle
    · exact .inl ((Game.rests_of_going complete).mp rests.2).lifecycle
  stands rests paused :=
    have here := (Game.rests_paused rests.2 paused).2
    ⟨_, _, ⟨position_of_current here.here (by decide), conversation_state⟩, rfl⟩
  starts := ⟨_, conversation_state, rfl⟩
  opens _ taskId workflowId := by
    obtain ⟨final, rests, stretch⟩ := opens (S := S) task taskId workflowId
    exact ⟨final, ⟨nofun, rests⟩, by decide, stretch⟩
  goesOn {heard said p s} within rests paused offered := by
    obtain ⟨going, here⟩ := Game.rests_paused rests.2 paused
    have few : (played heard).questions.length + 1 < Numeral.digitBound := by
      rw [played_concat] at within
      have fewer := (played heard).le_questions_next said
      omega
    obtain ⟨final, there, stretch⟩ := Game.leads (S := S) task going few here offered
    rw [← played_concat] at there
    refine ⟨final, _, _, ⟨?_, there⟩, ?_, ledger_concat going, pages_concat going, stretch⟩
    · rw [List.dropLast_concat]
      exact going
    · unfold Game.told
      split <;> decide

end Replies

end MagicEight

end Tickwork

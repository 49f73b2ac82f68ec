import Tickwork.Proofs.Routing
import Tickwork.Proofs.Talks.Recitals

/-!
# The states of review-draft

The graph of the factory, and what each of its states makes of a context: a stretch from the start to the
first pause, and a stretch for every reply after a pause. Until a reply decides, the draft waits; then it is
published, after one revision if that was asked for. The context says so: `draft_ready` and
`retry_attempts` are what keep the loop and the retries within their bounds.
-/

set_option autoImplicit false

namespace Tickwork

variable {S W : Type}

open Engine Pipe

namespace ReviewDraft

/-! ## The graph -/

def words : String := "Reply with approve or revise."

def retries : RetryPolicy := ⟨.int 1, .null, some ⟨.int 0, .fixed, .null⟩⟩

/-- The states that the definition is lowered to. -/
def states : List (String × State (Routine S)) :=
  [("start_draft", .action (.slot (.code (.reviewDraft .startDraft) .whole))
      ⟨some "collect_decision", some "failed", none⟩ none),
    ("collect_decision", .action
      (.ask (.named words) (some (.report (.code (.reviewDraft .parseDecision) .whole))))
      ⟨some "decision_route", some "failed", some (feedbackId "collect_decision")⟩ none),
    (feedbackId "collect_decision", .feedback previousState),
    ("decision_route", .orchestrate
      [("publish", some "publish_result"), ("revise", some "revision_loop"),
        (unmappedEvent, some "collect_decision")] (.slot .absent)
      (.route (.code (.reviewDraft .selectDecision) .whole) ["publish", "revise", unmappedEvent])),
    ("revision_loop", .loop (some "apply_revision") (.int 2)
      ⟨some "apply_revision", some "publish_result", some "failed"⟩
      (.code (.reviewDraft .draftIsReady) .whole)),
    ("apply_revision", .action (.slot (.code (.reviewDraft .reviseDraft) .whole))
      ⟨some "revision_loop", some "failed", none⟩ (some retries)),
    ("publish_result", .action (.publish (.code (.reviewDraft .renderReview) .whole))
      ⟨some "done", some "failed", none⟩ none),
    ("done", .terminal .done none),
    ("failed", .terminal .failed none)]

def graph : Graph (Routine S) := (definition Routine.reviewDraft).graphOf states

theorem lowered : lowerItems (definition (Routine.reviewDraft (S := S))).handlers ⟨[], []⟩
    (definition (Routine.reviewDraft (S := S))).items = .ok ⟨[], states⟩ := by
  simp [definition, lowerItems, lowerItem, lowerRoute, addStates, actionRoutes, requiredRoute, states,
    bind, Except.bind, feedbackId, unmappedEvent, names, actionEvents, Primitive.publishRoutes,
    Ordered.put, List.lookup_cons, firstNonempty, previousState, words, retries]

theorem retries_fine (path : String) : Graph.retryViolations path retries = [] := by
  have ordered : (Value.int 0).isLess (.int 0) = .ok false := rfl
  simp [Graph.retryViolations, retries, Graph.limitViolations, Graph.backoffViolations, ordered,
    Except.toOption]

theorem unbroken : (graph (S := S)).violations = [] := by
  simp [Graph.violations, graph, Definition.graphOf, definition, states, Graph.stateViolations,
    feedbackId, Graph.hasState, Graph.state?, List.lookup_cons, Graph.routesViolations,
    Graph.routeViolations, Graph.handlerViolations, Graph.slotViolations, ActionRoutes.toRoutes,
    LoopRoutes.toRoutes, Graph.feedbackViolations, Graph.orchestrateViolations, Graph.hasHandler,
    Graph.hasSelector, Graph.selectorViolations, Graph.loopViolations, Graph.boundViolations,
    unmappedEvent, previousState, retries_fine]

theorem compiles : (definition (Routine.reviewDraft (S := S))).compile = .ok graph := by
  have examined : (graph (S := S)).examined = .ok [] := by
    rw [← unbroken]
    rfl
  have checked : ((definition (Routine.reviewDraft (S := S))).graphOf states).examined = .ok [] :=
    examined
  unfold Definition.compile
  simp only [lowered, checked, bind, Except.bind]
  rfl

theorem bundles : bundled? ReviewDraft.id = some (.ok (graph (S := S))) :=
  congrArg some compiles

theorem sound : (graph (S := S)).Sound := by
  refine Definition.sound_of_compile compiles ?_
  simp [definition]

theorem waitable : (graph (S := S)).Waitable := by
  intro id handler routes policy attempt found positive within
  have there := Graph.mem_of_state? found
  simp only [graph, Definition.graphOf, states, List.mem_cons, Prod.mk.injEq, List.not_mem_nil, or_false,
    reduceCtorEq, and_false, false_or, State.action.injEq] at there
  obtain ⟨-, -, -, same⟩ := there
  cases same
  exact ⟨_, rfl⟩

theorem recites {h : Host (Routine S) W} (plays : Routine.Plays h) :
    h.overMemory.behaviour.Recites Routine.recital graph := by
  refine plays.recites fun around fr id node s q there asked => ?_
  simp only [graph, Definition.graphOf, states, List.mem_cons, Prod.mk.injEq, List.not_mem_nil,
    or_false] at there
  rcases there with ⟨-, rfl⟩ | ⟨-, rfl⟩ | ⟨-, rfl⟩ | ⟨-, rfl⟩ | ⟨-, rfl⟩ | ⟨-, rfl⟩ | ⟨-, rfl⟩ |
    ⟨-, rfl⟩ | ⟨-, rfl⟩
  all_goals cases asked
  all_goals rfl

/-! ## What replies lead to -/

inductive Decision where
  | approve
  | revise
  deriving DecidableEq

/-- What a reply decides, if it decides. -/
def decisionOf? (reply : String) : Option Decision :=
  match Text.lowered (Text.strip reply) with
  | "approve" => some .approve
  | "revise" => some .revise
  | _ => none

def asked : Shape :=
  ⟨"collect_decision", feedbackId "collect_decision", "feedback", .known .actionFeedback, 1, 0⟩

def answered : Shape :=
  ⟨"collect_decision", "decision_route", "done", .known .actionDone, 1, 0⟩

def routed (event target : String) : Shape :=
  ⟨"decision_route", target, event, .known .orchestrateSelect, 1, 0⟩

/-- The rows of the one round of the revision loop: the first attempt fails. -/
def revised : List Shape :=
  [⟨"revision_loop", "apply_revision", "continue", .known .loopContinue, 1, 1⟩,
    ⟨"apply_revision", "apply_revision", "failed", .known .attemptFailed, 1, 0⟩,
    ⟨"apply_revision", "revision_loop", "done", .known .actionDone, 2, 0⟩,
    ⟨"revision_loop", "publish_result", "done", .known .loopDone, 1, 1⟩]

def published : Shape :=
  ⟨"publish_result", "done", "done", .known .actionDone, 1, 0⟩

/-- The rows that a decision leads to. -/
def Decision.rows : Decision → List Shape
  | .approve => [routed "publish" "publish_result", published]
  | .revise => routed "revise" "revision_loop" :: revised ++ [published]

/-- The rows that a reply leads to. -/
def told (reply : String) : List Shape :=
  if Text.isBlankText reply then [asked]
  else
    match decisionOf? reply with
    | none => [answered, routed unmappedEvent "collect_decision", asked]
    | some decision => answered :: decision.rows

/-- The ledger of a task at rest, by the replies that it got. -/
def ledger (replies : List String) : List Shape :=
  [⟨"start_draft", "collect_decision", "done", .known .actionDone, 1, 0⟩, asked] ++
    replies.flatMap told

/-! ## Contexts -/

/-- The summary of the first draft. -/
def drafted (task : TaskInfo) : String :=
  let title := (firstNonempty [task.title]).getD "Untitled"
  s!"Drafted initial plan for {title}"

def draft (decision : String) (ready : Bool) (attempts revisions : Int) (summary : String) : Fields :=
  [("decision", .str decision), ("draft_ready", .bool ready), ("retry_attempts", .int attempts),
    ("revisions", .int revisions), ("summary", .str summary)]

/-- A draft with what is kept as the reply. -/
def held (decision : String) (ready : Bool) (attempts revisions : Int) (summary : String)
    (reply : Value) : Fields :=
  draft decision ready attempts revisions summary ++ [(.text replyKey, reply)]

/-- The context of a task that is done. -/
def final (task : TaskInfo) : Decision → Fields
  | .approve => held "approve" true 0 0 (drafted task) .null
  | .revise => held "revise" true 2 1 "Revised plan ready for publish" .null

/-- The text of a review. -/
def review (decision summary : String) (revisions attempts : Int) : String :=
  "\n".intercalate ["# Review Draft", s!"Decision: {decision}", s!"Summary: {summary}",
    s!"Revisions: {revisions}", s!"Retry Attempts: {attempts}"]

/-- The page of a task that is done. -/
def page (task : TaskInfo) : Decision → Value
  | .approve => .page (.str (review "approve" (drafted task) 0 0)) (.str "Review draft")
  | .revise =>
    .page (.str (review "revise" "Revised plan ready for publish" 1 2)) (.str "Review draft")

/-! ## Visits -/

section Visits

variable {task : TaskInfo} {Rest : Progress → Prop} {s : Stance} {p : Progress} {context : Fields}
variable {shapes : List Shape} {later : List Value}

theorem start_state : graph.state? "start_draft" =
    some (.action (.slot (.code (Routine.reviewDraft (S := S) .startDraft) .whole))
      ⟨some "collect_decision", some "failed", none⟩ none) := by
  simp [graph, Definition.graphOf, states, Graph.state?]

theorem collect_state : graph.state? "collect_decision" =
    some (.action (.ask (.named words) (some (.report (.code (Routine.reviewDraft (S := S)
      .parseDecision) .whole)))) ⟨some "decision_route", some "failed",
        some (feedbackId "collect_decision")⟩ none) := by
  simp [graph, Definition.graphOf, states, Graph.state?, List.lookup_cons]

theorem pause_state : (graph (S := S)).state? (feedbackId "collect_decision") =
    some (.feedback previousState) := by
  simp [graph, Definition.graphOf, states, Graph.state?, feedbackId, List.lookup_cons]

theorem route_state : graph.state? "decision_route" =
    some (.orchestrate
      [("publish", some "publish_result"), ("revise", some "revision_loop"),
        (unmappedEvent, some "collect_decision")] (.slot .absent)
      (.route (.code (Routine.reviewDraft (S := S) .selectDecision) .whole)
        ["publish", "revise", unmappedEvent])) := by
  simp [graph, Definition.graphOf, states, Graph.state?, feedbackId, List.lookup_cons]

theorem loop_state : graph.state? "revision_loop" =
    some (.loop (some "apply_revision") (.int 2)
      ⟨some "apply_revision", some "publish_result", some "failed"⟩
      (.code (Routine.reviewDraft (S := S) .draftIsReady) .whole)) := by
  simp [graph, Definition.graphOf, states, Graph.state?, feedbackId, List.lookup_cons]

theorem apply_state : graph.state? "apply_revision" =
    some (.action (.slot (.code (Routine.reviewDraft (S := S) .reviseDraft) .whole))
      ⟨some "revision_loop", some "failed", none⟩ (some retries)) := by
  simp [graph, Definition.graphOf, states, Graph.state?, feedbackId, List.lookup_cons]

theorem publish_state : graph.state? "publish_result" =
    some (.action (.publish (.code (Routine.reviewDraft (S := S) .renderReview) .whole))
      ⟨some "done", some "failed", none⟩ none) := by
  simp [graph, Definition.graphOf, states, Graph.state?, feedbackId, List.lookup_cons]

theorem done_state : (graph (S := S)).state? "done" = some (.terminal .done none) := by
  simp [graph, Definition.graphOf, states, Graph.state?, feedbackId, List.lookup_cons]

/-- Where there is no reply to read, the draft waits for one. -/
theorem waits (on : s.progress.On "collect_decision" context [] [])
    (unread : readReply s.feedback s.progress.context = none)
    (rest : ∀ p : Progress, p.Waits "collect_decision" (Fields.put replyKey .null context) → Rest p) :
    ComesTo Routine.recital (graph (S := S)) task Rest s [asked] [] := by
  have answers : recite (Routine.recital (S := S)) (.handler (.ask (.named words) (some (.report
      (.code (.reviewDraft .parseDecision) .whole))))
      (s.shown task "collect_decision" 1)) =
        .ok (waitingReport (.str words)) := by
    rw [recite_report]
    simp only [Stance.shown, unread]
  exact .pauses on (by decide) collect_state rfl answers rfl pause_state rest

/-- A reply that is read is brought to the route. -/
theorem reads (on : s.progress.On "collect_decision" context [] []) {said : String} {data : Fields}
    (given : readReply s.feedback s.progress.context = some said)
    (parsed : parseDecision said = doneReport data)
    (rest : ∀ p : Progress,
      p.On "decision_route" (Fields.overlay context (Fields.put replyKey .null data)) [] [] →
        ComesTo Routine.recital (graph (S := S)) task Rest ⟨p, none⟩ shapes later) :
    ComesTo Routine.recital (graph (S := S)) task Rest s (answered :: shapes) later := by
  have answers : recite (Routine.recital (S := S)) (.handler (.ask (.named words) (some (.report
      (.code (.reviewDraft .parseDecision) .whole))))
      (s.shown task "collect_decision" 1)) =
        .ok (doneReport (Fields.put replyKey .null data)) := by
    rw [recite_report]
    have unfolds : ((Routine.recital (S := S) (.reviewDraft .parseDecision)) (Call.reply
        (s.shown task "collect_decision" 1) said).unnamed).value = .ok (parseDecision said) := rfl
    simp only [Stance.shown] at unfolds ⊢
    simp only [given, unfolds, parsed, Except.bind, doneReport, read_done, Except.mapError, Except.map]
    rfl
  have heard : (Fields.get? replyKey (Fields.put replyKey .null data)).isSome = true := by
    simp [Fields.get?_put_self]
  exact .goes_on on (by decide) collect_state rfl (attemptNumber_first on.attempts) answers (.inr heard)
    rfl route_state rfl rest

/-- The route takes the edge of the event that the decision selects. -/
theorem routes {node : State (Routine S)} {event target : String}
    (on : p.On "decision_route" context [] [])
    (selects : selectDecision context = .str event)
    (known : event = "publish" ∧ target = "publish_result" ∨
      event = "revise" ∧ target = "revision_loop" ∨
      event = unmappedEvent ∧ target = "collect_decision")
    (found : graph.state? target = some node) (work : isWork node = true)
    (rest : ∀ p : Progress, p.On target context [] [] →
      ComesTo Routine.recital (graph (S := S)) task Rest ⟨p, none⟩ shapes later) :
    ComesTo Routine.recital (graph (S := S)) task Rest ⟨p, none⟩ (routed event target :: shapes)
      later := by
  have answers : recite (Routine.recital (S := S)) (.selector
      (.route (.code (.reviewDraft .selectDecision) .whole) ["publish", "revise", unmappedEvent])
      ⟨p.context, task, "decision_route", "", ""⟩) = .ok (.str event) := by
    have unfolds : recite (Routine.recital (S := S)) (.selector
        (.route (.code (.reviewDraft .selectDecision) .whole) ["publish", "revise", unmappedEvent])
        ⟨p.context, task, "decision_route", "", ""⟩) =
        .ok (.str (routedEvent ["publish", "revise", unmappedEvent] (selectDecision p.context))) := rfl
    rw [unfolds, on.context, selects]
    rcases known with ⟨rfl, -⟩ | ⟨rfl, -⟩ | ⟨rfl, -⟩ <;> rfl
  have words : Text.isBlankText event = false := by
    rcases known with ⟨rfl, -⟩ | ⟨rfl, -⟩ | ⟨rfl, -⟩ <;> decide
  have exit := Exit.of_selector (s := ⟨p, none⟩) on (by decide) route_state rfl rfl answers words
  have stripped : Text.strip event = event := by
    rcases known with ⟨rfl, -⟩ | ⟨rfl, -⟩ | ⟨rfl, -⟩ <;> rfl
  have shape : (selectedStep event).shape "decision_route" target = routed event target := by
    simp only [selectedStep, Step.shape, stripped, routed]
  rw [← shape]
  refine exit.onward ?_ found work rfl on.lifecycle (rest _ (on.moved _ _))
  simp only [selectedStep, stripped]
  rcases known with ⟨rfl, rfl⟩ | ⟨rfl, rfl⟩ | ⟨rfl, rfl⟩ <;> rfl

theorem begins_round {decision summary : String} {attempts revisions : Int}
    (on : p.On "revision_loop" (held decision false attempts revisions summary .null) [] [])
    (rest : ∀ p : Progress,
      p.On "apply_revision" (held decision false attempts revisions summary .null) []
        [("revision_loop", 1)] →
        ComesTo Routine.recital (graph (S := S)) task Rest ⟨p, none⟩ shapes later) :
    ComesTo Routine.recital (graph (S := S)) task Rest ⟨p, none⟩
      (⟨"revision_loop", "apply_revision", "continue", .known .loopContinue, 1, 1⟩ :: shapes) later := by
  have begun : p.roundsBegun "revision_loop" = 0 := on.roundsBegun _
  have answers : recite (Routine.recital (S := S)) (.guard
      (.code (.reviewDraft .draftIsReady) .whole)
      ⟨p.context, p.roundsBegun "revision_loop", task, "revision_loop", "", ""⟩) =
        .ok (.bool (field "draft_ready" p.context).truthy) := rfl
  have exit := Exit.of_round (s := ⟨p, none⟩) on (by decide) loop_state answers
    (by rw [on.context]; rfl) (by rw [begun]; decide)
  rw [begun] at exit
  exact exit.onward rfl apply_state rfl rfl on.lifecycle
    (rest _ ((on.withRound "revision_loop" 1).moved _ _))

/-- The first attempt at a revision fails. -/
theorem fails_first {decision summary : String} {revisions : Int} {rounds : Counters}
    (on : p.On "apply_revision" (held decision false 0 revisions summary .null) [] rounds)
    (rest : ∀ p : Progress,
      p.On "apply_revision" (held decision false 1 revisions summary .null) [("apply_revision", 1)]
        rounds → ComesTo Routine.recital (graph (S := S)) task Rest ⟨p, none⟩ shapes later) :
    ComesTo Routine.recital (graph (S := S)) task Rest ⟨p, none⟩
      (⟨"apply_revision", "apply_revision", "failed", .known .attemptFailed, 1, 0⟩ :: shapes) later := by
  have answers : recite (Routine.recital (S := S)) (.handler
      (.slot (.code (.reviewDraft .reviseDraft) .whole))
      ((⟨p, none⟩ : Stance).shown task "apply_revision" 1)) = reviseDraft p.context := rfl
  have fails : reviseDraft (held decision false 0 revisions summary .null) =
      .ok (.result (.str "failed") (.dict [("retry_attempts", .int 1)])
        (.str "Transient revision failure") .null) := rfl
  rw [on.context, fails] at answers
  have limits : attemptLimit (some retries) = .int 1 := rfl
  exact ComesTo.retries (s := ⟨p, none⟩)
    (o := ⟨"failed", some [("retry_attempts", .int 1)], some "Transient revision failure", none⟩)
    on (by decide) apply_state rfl (attemptNumber_first on.attempts) answers rfl rfl rfl limits
    (by decide) rest

/-- The second attempt at a revision succeeds. -/
theorem revises {decision summary : String} {rounds : Counters}
    (on : p.On "apply_revision" (held decision false 1 0 summary .null) [("apply_revision", 1)] rounds)
    (rest : ∀ p : Progress,
      p.On "revision_loop" (held decision true 2 1 "Revised plan ready for publish" .null) [] rounds →
        ComesTo Routine.recital (graph (S := S)) task Rest ⟨p, none⟩ shapes later) :
    ComesTo Routine.recital (graph (S := S)) task Rest ⟨p, none⟩
      (⟨"apply_revision", "revision_loop", "done", .known .actionDone, 2, 0⟩ :: shapes) later := by
  have second : p.attemptNumber "apply_revision" = 2 := on.attemptNumber _
  have answers : recite (Routine.recital (S := S)) (.handler
      (.slot (.code (.reviewDraft .reviseDraft) .whole))
      ((⟨p, none⟩ : Stance).shown task "apply_revision" 2)) = reviseDraft p.context := rfl
  have succeeds : reviseDraft (held decision false 1 0 summary .null) = .ok (doneReport
      [("retry_attempts", .int 2), ("revisions", .int 1), ("draft_ready", .bool true),
        ("summary", .str "Revised plan ready for publish")]) := rfl
  rw [on.context, succeeds] at answers
  exact .goes_on (s := ⟨p, none⟩) on (by decide) apply_state rfl second answers (.inl rfl) rfl
    loop_state rfl rest

theorem leaves_loop {decision summary : String} {attempts revisions : Int}
    (on : p.On "revision_loop" (held decision true attempts revisions summary .null) []
      [("revision_loop", 1)])
    (rest : ∀ p : Progress,
      p.On "publish_result" (held decision true attempts revisions summary .null) [] [] →
        ComesTo Routine.recital (graph (S := S)) task Rest ⟨p, none⟩ shapes later) :
    ComesTo Routine.recital (graph (S := S)) task Rest ⟨p, none⟩
      (⟨"revision_loop", "publish_result", "done", .known .loopDone, 1, 1⟩ :: shapes) later := by
  have begun : p.roundsBegun "revision_loop" = 1 := on.roundsBegun _
  have answers : recite (Routine.recital (S := S)) (.guard
      (.code (.reviewDraft .draftIsReady) .whole)
      ⟨p.context, p.roundsBegun "revision_loop", task, "revision_loop", "", ""⟩) =
        .ok (.bool (field "draft_ready" p.context).truthy) := rfl
  have exit := Exit.of_guard (s := ⟨p, none⟩) on (by decide) loop_state answers
    (by rw [on.context]; rfl)
  rw [begun] at exit
  exact exit.onward rfl publish_state rfl rfl on.lifecycle
    (rest _ ((on.clearIterations "revision_loop").moved _ _))

theorem renderReview_held {decision summary : String} (named : decision ≠ "") (told : summary ≠ "")
    {revisions attempts : Int} (few : revisions.natAbs < 10) (few' : attempts.natAbs < 10)
    (ready : Bool) (kept : Value) :
    renderReview (held decision ready attempts revisions summary kept) =
      .ok (.dict [("title", .str "Review draft"),
        ("markdown", .str (review decision summary revisions attempts))]) := by
  have spelled : ∀ {n : Int}, n.natAbs < 10 → Value.numeral n = .ok (toString n) := fun few =>
    numeral_of_below (one_digit few)
  have decides : wordsIn (held decision ready attempts revisions summary kept) "decision" "unknown" =
      .ok decision := wordsIn_of_str rfl named _
  have tells : wordsIn (held decision ready attempts revisions summary kept) "summary" "" =
      .ok summary := wordsIn_of_str rfl told _
  have revised : countIn (held decision ready attempts revisions summary kept) "revisions" =
      .ok revisions := countIn_of_int rfl
  have tried : countIn (held decision ready attempts revisions summary kept) "retry_attempts" =
      .ok attempts := countIn_of_int rfl
  unfold renderReview
  simp only [decides, tells, revised, tried, spelled few, spelled few', bind, Except.bind]
  rfl

/-- A publication ends the task. -/
theorem publishes {markdown : String} (on : p.On "publish_result" context [] [])
    (renders : renderReview context = .ok (.dict [("title", .str "Review draft"),
      ("markdown", .str markdown)]))
    (rest : ∀ p : Progress, p.Completed "done" context → Rest p) :
    ComesTo Routine.recital (graph (S := S)) task Rest ⟨p, none⟩ [published]
      [.page (.str markdown) (.str "Review draft")] := by
  have answers : recite (Routine.recital (S := S)) (.handler
      (.publish (.code (.reviewDraft .renderReview) .whole))
      ((⟨p, none⟩ : Stance).shown task "publish_result" 1)) =
        .ok (.result (.str "done") .null .null (.page (.str markdown) (.str "Review draft"))) := by
    have unfolds : recite (Routine.recital (S := S)) (.handler
        (.publish (.code (.reviewDraft .renderReview) .whole))
        ((⟨p, none⟩ : Stance).shown task "publish_result" 1)) =
      ((renderReview p.context).bind fun v =>
        ((readPage v).mapError (Raised.fatal · none)).map fun page =>
          .result (.str "done") .null .null page) := rfl
    rw [unfolds, on.context, renders]
    rfl
  exact .ends_with (s := ⟨p, none⟩) on (by decide) publish_state rfl answers rfl done_state rest

end Visits

/-! ## The plan -/

/-- A task at rest: it waits for a decision, or the last reply decided and it is done. -/
inductive Rests (task : TaskInfo) (heard : List String) (p : Progress) : Prop
  | waits {decision : String} (undecided : ∀ said ∈ heard, decisionOf? said = none)
      (here : p.Waits "collect_decision" (held decision false 0 0 (drafted task) .null))
  | ends {earlier : List String} {last : String} {decision : Decision}
      (replies : heard = earlier ++ [last]) (undecided : ∀ said ∈ earlier, decisionOf? said = none)
      (decided : decisionOf? last = some decision) (here : p.Completed "done" (final task decision))

/-- The pages that a reply leads to. -/
def shown (task : TaskInfo) (said : String) : List Value :=
  ((decisionOf? said).map (page task)).toList

section Plan

variable {task : TaskInfo} {s : Stance} {decision said : String} {heard : List String}
variable {kept : Value}

theorem drafted_ne_empty (task : TaskInfo) : drafted task ≠ "" := by
  unfold drafted
  intro empty
  have length := congrArg String.length empty
  simp only [String.length_append, toString, String.length_empty] at length
  have some_words : 0 < "Drafted initial plan for ".length := by decide
  omega

theorem put_held (task : TaskInfo) (v : Value) :
    Fields.put replyKey v (held decision false 0 0 (drafted task) kept) =
      held decision false 0 0 (drafted task) v := rfl

/-- What the parser notes of a decision. -/
def noted : Option Decision → Fields
  | some .approve => [("decision", .str "approve"), ("draft_ready", .bool true)]
  | some .revise => [("decision", .str "revise"), ("draft_ready", .bool false)]
  | none => [("decision", .str "clarify")]

theorem parseDecision_eq (said : String) :
    parseDecision said = doneReport (noted (decisionOf? said)) := by
  unfold parseDecision decisionOf?
  generalize Text.lowered (Text.strip said) = word
  by_cases approves : word = "approve"
  · subst approves
    rfl
  by_cases revises : word = "revise"
  · subst revises
    rfl
  · simp only [noted, *]

/-- A decision is read from what is left of a reply without the blanks around it. -/
theorem decisionOf?_strip (said : String) : decisionOf? (Text.strip said) = decisionOf? said := by
  unfold decisionOf?
  rw [Text.strip_strip]

/-- A blank reply is no decision. -/
theorem decisionOf?_of_blank (blank : Text.isBlankText said = true) : decisionOf? said = none := by
  have empty : Text.strip said = "" := by
    unfold Text.strip
    rw [Text.trimChars_of_all blank]
  unfold decisionOf?
  rw [empty]
  rfl

theorem start_on (taskId workflowId : String) :
    (Progress.begun (prepare (graph (S := S)) (.newTask taskId workflowId []))).On "start_draft"
      (draft "" false 0 0 "") [] [] :=
  ⟨rfl, rfl, rfl, rfl, rfl, rfl, rfl⟩

/-- A new task drafts and waits for a decision. -/
theorem opens (task : TaskInfo) (taskId workflowId : String) :
    ComesTo Routine.recital (graph (S := S)) task (Rests task [])
      ⟨Progress.begun (prepare (graph (S := S)) (.newTask taskId workflowId [])), none⟩
      (ledger []) [] := by
  have on := start_on (S := S) taskId workflowId
  have answers : recite (Routine.recital (S := S)) (.handler
      (.slot (.code (.reviewDraft .startDraft) .whole))
      ((⟨Progress.begun (prepare (graph (S := S)) (.newTask taskId workflowId [])), none⟩ :
        Stance).shown task "start_draft" 1)) = .ok (startDraft task.title) := rfl
  refine .goes_on (s := ⟨_, none⟩) on (by decide) start_state rfl (attemptNumber_first on.attempts)
    answers (.inl rfl) rfl collect_state rfl fun p on => ?_
  exact waits (s := ⟨p, none⟩) on (on.context ▸ rfl) fun p here => .waits (fun _ => nofun) here

theorem undecided_concat (undecided : ∀ before ∈ heard, decisionOf? before = none)
    (nothing : decisionOf? said = none) : ∀ before ∈ heard ++ [said], decisionOf? before = none := by
  intro before inside
  rcases List.mem_append.mp inside with earlier | last
  · exact undecided before earlier
  · exact List.mem_singleton.mp last ▸ nothing

/-- A decision is carried out. -/
theorem carries_out {Rest : Progress → Prop} {p : Progress} (choice : Decision)
    (on : p.On "decision_route" (Fields.overlay (held decision false 0 0 (drafted task) kept)
      (Fields.put replyKey .null (noted (some choice)))) [] [])
    (rest : ∀ p : Progress, p.Completed "done" (final task choice) → Rest p) :
    ComesTo Routine.recital (graph (S := S)) task Rest ⟨p, none⟩ choice.rows [page task choice] := by
  cases choice with
  | approve =>
      refine routes on rfl (.inl ⟨rfl, rfl⟩) publish_state rfl fun p on => ?_
      have on : p.On "publish_result" (held "approve" true 0 0 (drafted task) .null) [] [] := on
      exact publishes on
        (renderReview_held (by decide) (drafted_ne_empty task) (by decide) (by decide) _ _) rest
  | revise =>
      refine routes on rfl (.inr (.inl ⟨rfl, rfl⟩)) loop_state rfl fun p on => ?_
      refine begins_round on fun p on => fails_first on fun p on => revises on fun p on =>
        leaves_loop on fun p on => ?_
      exact publishes on (renderReview_held (by decide) (by decide) (by decide) (by decide) _ _) rest

/-- A reply leads a waiting task on. -/
theorem leads {p : Progress} (undecided : ∀ before ∈ heard, decisionOf? before = none)
    (here : p.Waits "collect_decision" (held decision false 0 0 (drafted task) .null))
    (offered : Offered p said s) :
    ComesTo Routine.recital (graph (S := S)) task (Rests task (heard ++ [said])) s (told said)
      (shown task said) := by
  obtain ⟨kept, on, given⟩ := offered.read here (put_held task .null)
  rw [put_held] at on given
  rw [← on.context] at given
  unfold told shown
  by_cases blank : Text.isBlankText said = true
  · have nothing := decisionOf?_of_blank blank
    rw [replyIn?, if_pos blank] at given
    rw [if_pos blank, nothing]
    exact waits on given fun p here => .waits (undecided_concat undecided nothing) here
  · rw [replyIn?, if_neg blank] at given
    rw [if_neg blank]
    have parsed := parseDecision_eq (Text.strip said)
    rw [decisionOf?_strip] at parsed
    cases choice : decisionOf? said with
    | none =>
        rw [choice] at parsed
        refine reads on given parsed fun p on => ?_
        refine routes on rfl (.inr (.inr ⟨rfl, rfl⟩)) collect_state rfl fun p on => ?_
        have unread : readReply none p.context = none := by
          rw [on.context]
          rfl
        exact waits (s := ⟨p, none⟩) on unread fun p here =>
          .waits (undecided_concat undecided choice) here
    | some decided =>
        rw [choice] at parsed
        exact reads on given parsed fun p on =>
          carries_out decided on fun p here => .ends rfl undecided choice here

/-- A reply leads to seven rows at most. -/
theorem length_told (said : String) : (told said).length ≤ 7 := by
  unfold told
  split
  · decide
  · split
    · decide
    · rename_i decision _
      cases decision <;> decide

/-- What replies to review-draft lead to. -/
def plan (task : TaskInfo) : Plan Routine.recital (graph (S := S)) task where
  ledger := ledger
  pages := List.flatMap (shown task)
  Rests := Rests task
  Within _ := True
  most := 7
  within_front _ := trivial
  halts
    | .waits _ here => .inl here.lifecycle
    | .ends _ _ _ here => .inr here.lifecycle
  stands rests paused := by
    cases rests with
    | waits undecided here =>
        exact ⟨_, _, ⟨position_of_current here.here (by decide), collect_state⟩, rfl⟩
    | ends replies undecided decided here =>
        rw [here.lifecycle] at paused
        cases paused
  starts := ⟨_, start_state, rfl⟩
  opens _ taskId workflowId := by
    obtain ⟨final, rests, stretch⟩ := opens (S := S) task taskId workflowId
    exact ⟨final, rests, by decide, stretch⟩
  goesOn {heard said p s} _ rests paused offered := by
    cases rests with
    | waits undecided here =>
        obtain ⟨final, rests, stretch⟩ := leads (S := S) undecided here offered
        refine ⟨final, _, _, rests, length_told said, ?_, ?_, stretch⟩
        · simp [ledger]
        · simp
    | ends replies undecided decided here =>
        rw [here.lifecycle] at paused
        cases paused

end Plan

end ReviewDraft

end Tickwork

import Tickwork.Proofs.Pipe.Loops
import Tickwork.Proofs.Pipe.Questions
import Tickwork.Proofs.Talks.Dialogues

/-!
# Exits

How a stretch begins, state by state. `Exit` says by which step a visit leaves its state; an action, a
selector, a deciding handler and a loop each have a lemma that gives one. What follows depends on the target
alone: the stretch goes on, pauses or ends there.
-/

set_option autoImplicit false

namespace Tickwork

variable {F : Type}

open Engine Pipe

/-! ## Where a task stands -/

/-- A task under way at a state, with a context and counters. -/
structure Progress.On (p : Progress) (id : String) (context : Fields) (attempts rounds : Counters) :
    Prop where
  lifecycle : p.lifecycle = .running
  here : p.currentStateId = some id
  context : p.context = context
  attempts : p.attempts = attempts
  rounds : p.loopIterations = rounds
  unwaited : p.waitingSince = none
  alive : p.terminalStateId = none

/-- A task that waits at a state with its counters at rest. -/
structure Progress.Waits (p : Progress) (id : String) (context : Fields) : Prop where
  lifecycle : p.lifecycle = .feedback
  here : p.currentStateId = some id
  context : p.context = context
  attempts : p.attempts = []
  rounds : p.loopIterations = []
  alive : p.terminalStateId = none

/-- A task that is done. -/
structure Progress.Completed (p : Progress) (id : String) (context : Fields) : Prop where
  lifecycle : p.lifecycle = .done
  ended : p.terminalStateId = some id
  context : p.context = context

/-- The row of a step. -/
def Step.shape (step : Step) (id target : String) : Shape :=
  ⟨id, target, step.event, .known step.reason, step.attempt, step.loopIteration⟩

/-- What a handler is shown at a state, names of run and tick apart. -/
def Stance.shown (s : Stance) (task : TaskInfo) (id : String) (attempt : Int) : HandlerInput :=
  { context := s.progress.context, task, stateId := id, runId := "", tickId := "", attempt,
    feedback := s.feedback }

section Places

variable {p : Progress} {id : String} {context : Fields} {attempts rounds : Counters}

theorem Progress.Waits.begun (waits : p.Waits id context) :
    (Progress.begun p).On id context [] [] :=
  ⟨rfl, waits.here, waits.context, waits.attempts, waits.rounds, rfl, waits.alive⟩

theorem Progress.Waits.replied (waits : p.Waits id context) (said : String) :
    (p.replied said).On id (Fields.put replyKey (.str said) context) [] [] :=
  ⟨rfl, waits.here, congrArg _ waits.context, waits.attempts, waits.rounds, rfl, waits.alive⟩

theorem Progress.On.settled (on : p.On id context attempts rounds) (o : Outcome) :
    (Progress.settled p id o).On id context (Sorted.erase id attempts) rounds := by
  have cleared : (Progress.clearAttempts p id).On id context (Sorted.erase id attempts) rounds :=
    ⟨on.lifecycle, on.here, on.context, congrArg _ on.attempts, on.rounds, on.unwaited, on.alive⟩
  unfold Progress.settled
  split
  · exact ⟨cleared.lifecycle, cleared.here, cleared.context, cleared.attempts, cleared.rounds,
      cleared.unwaited, cleared.alive⟩
  · exact cleared

theorem Progress.On.settled_once (on : p.On id context [] rounds) (o : Outcome) :
    (Progress.settled p id o).On id context [] rounds := on.settled o

theorem Progress.On.moved (on : p.On id context attempts rounds) (step : Step) (target : String) :
    (Progress.moved p step target).unwaited.On target (Fields.overlay context (step.data.getD []))
      attempts rounds :=
  ⟨on.lifecycle, rfl, congrArg (Fields.overlay · _) on.context, on.attempts, on.rounds, rfl, on.alive⟩

theorem Progress.On.clearIterations (on : p.On id context attempts rounds) (loop : String) :
    (Progress.clearIterations p loop).On id context attempts (Sorted.erase loop rounds) :=
  ⟨on.lifecycle, on.here, on.context, on.attempts, congrArg _ on.rounds, on.unwaited, on.alive⟩

theorem Progress.On.roundsBegun (on : p.On id context attempts rounds) (loop : String) :
    p.roundsBegun loop = (rounds.lookup loop).getD 0 := by
  rw [Progress.roundsBegun, on.rounds]

theorem Progress.On.attemptNumber (on : p.On id context attempts rounds) (action : String) :
    p.attemptNumber action = (attempts.lookup action).getD 0 + 1 := by
  rw [Progress.attemptNumber, on.attempts]

theorem Progress.On.withRound (on : p.On id context attempts rounds) (loop : String) (count : Int) :
    (withRound p loop count).On id context attempts (Sorted.put loop count rounds) :=
  ⟨on.lifecycle, on.here, on.context, on.attempts, congrArg _ on.rounds, on.unwaited, on.alive⟩

end Places

namespace Engine

variable {reply : F → Call → Answer} {g : Graph F} {task : TaskInfo} {Rest : Progress → Prop}
variable {s after : Stance} {id target : String} {node targetNode : State F} {step : Step}
variable {context : Fields} {attempts rounds : Counters} {shapes : List Shape} {pages later : List Value}

/-- What is ahead from a stance, and what is said of the progress that it ends with. -/
def ComesTo (reply : F → Call → Answer) (g : Graph F) (task : TaskInfo) (Rest : Progress → Prop)
    (s : Stance) (shapes : List Shape) (pages : List Value) : Prop :=
  ∃ final, Rest final ∧ Stretch reply g task final s shapes pages

/-- A visit that leaves its state by a step. -/
structure Exit (reply : F → Call → Answer) (g : Graph F) (task : TaskInfo) (s : Stance) (id : String)
    (node : State F) (after : Stance) (pages : List Value) (step : Step) : Prop where
  stands : StandsAt g s.progress id node
  work : isWork node = true
  running : s.progress.lifecycle = .running
  decided : ∃ q, question ⟨g, task, "", ""⟩ id s node = .ok q ∧
    reacted id s node (recite reply q) = ⟨after, pages, .ok (.leave step)⟩

namespace Exit

variable (exit : Exit reply g task s id node after pages step)
variable (routed : node.target? step.event = some target)

include exit routed

theorem foreseen {now : Progress} (found : g.state? target = some targetNode)
    (arrives : arrived g id target ⟨0⟩ step.message (Progress.moved after.progress step target)
      targetNode = .ok now) :
    Engine.foreseen reply ⟨g, task, "", ""⟩ s =
      some (⟨some (step.shape id target), now.unwaited, pages⟩, after.feedback) := by
  obtain ⟨q, asked, reaction⟩ := exit.decided
  have lands : landed (Frame.mk g task "" "").graph id node ⟨0⟩ after.progress (.leave step) =
      .ok (step.shape id target, now) := landed_of_route routed found arrives
  refine Eq.trans (foreseen_of_question reply s exit.stands exit.work exit.running asked) ?_
  rw [reaction]
  unfold foreseenFrom
  simp only [lands]

/-- The task goes on to work. -/
theorem onward (found : g.state? target = some targetNode) (work : isWork targetNode = true)
    (silent : after.feedback = none) (running : after.progress.lifecycle = .running)
    (rest : ComesTo reply g task Rest ⟨(Progress.moved after.progress step target).unwaited, none⟩
      shapes later) :
    ComesTo reply g task Rest s (step.shape id target :: shapes) (pages ++ later) := by
  obtain ⟨final, rests, stretch⟩ := rest
  have stays : arrived g id target ⟨0⟩ step.message (Progress.moved after.progress step target)
      targetNode = .ok (Progress.moved after.progress step target) := by
    cases targetNode with
    | terminal status message => cases work
    | feedback resume => cases work
    | _ => rfl
  have next := exit.foreseen routed found stays
  rw [silent] at next
  exact ⟨final, rests, .goes next running (.inl rfl) stretch⟩

/-- The task pauses, and goes on where it came from. -/
theorem pauses (named : id ≠ "") (found : g.state? (feedbackId id) = some (.feedback previousState))
    (there : target = feedbackId id) (on : after.progress.On id context [] [])
    (rest : ∀ p : Progress, p.Waits id (Fields.overlay context (step.data.getD [])) → Rest p) :
    ComesTo reply g task Rest s [step.shape id target] pages := by
  subst there
  have resumes : (Frame.mk g task "" "").graph.resumeTarget (feedbackId id) (some id) = .ok id :=
    resumeTarget_pause found named
  have arrives : arrived g id (feedbackId id) ⟨0⟩ step.message
      (Progress.moved after.progress step (feedbackId id)) (.feedback previousState) =
        .ok (Progress.pausedAt (Progress.moved after.progress step (feedbackId id)) id ⟨0⟩) := by
    simp only [arrived, resumes]
    rfl
  have next := exit.foreseen routed found arrives
  have moved := on.moved step (feedbackId id)
  have waits : (Progress.pausedAt (Progress.moved after.progress step (feedbackId id)) id
      ⟨0⟩).unwaited.Waits id (Fields.overlay context (step.data.getD [])) :=
    ⟨rfl, rfl, moved.context, moved.attempts, moved.rounds, moved.alive⟩
  exact ⟨_, rest _ waits, .rests next fun running => by cases running⟩

/-- The task is done. -/
theorem ends {message : Option String} (found : g.state? target = some (.terminal .done message))
    (on : after.progress.On id context attempts rounds)
    (rest : ∀ p : Progress, p.Completed target (Fields.overlay context (step.data.getD [])) → Rest p) :
    ComesTo reply g task Rest s [step.shape id target] pages := by
  have next := exit.foreseen routed found rfl
  have completed : (Progress.atEnd (Progress.moved after.progress step target) target .done message
      step.message).unwaited.Completed target (Fields.overlay context (step.data.getD [])) :=
    ⟨rfl, rfl, (on.moved step target).context⟩
  exact ⟨_, rest _ completed, .rests next fun running => by cases running⟩

end Exit

/-! ## Questions to a reader -/

theorem recite_ask (reply : F → Call → Answer) (prompt : Slot F) (reader : Option (ReplyReader F))
    (input : HandlerInput) : recite reply (.handler (.ask prompt reader) input) =
      ((runAsk (recited reply) prompt reader { input with runId := "", tickId := "" }) ()).1 := rfl

/-- What a question answers whose words are fixed and whose reader reports. -/
theorem recite_report (reply : F → Call → Answer) (words : String) (f : F) (input : HandlerInput) :
    recite reply (.handler (.ask (.named words) (some (.report (.code f .whole)))) input) =
      match readReply input.feedback input.context with
      | none => .ok (waitingReport (.str words))
      | some said =>
        ((reply f (Call.reply { input with runId := "", tickId := "" } said).unnamed).value.bind fun v =>
          (Outcome.read input.stateId v).mapError (Raised.fatal · none)).map
            (answeredReport (.str words)) := by
  have rendered : renderPrompt (recited reply) { input with runId := "", tickId := "" } (.named words) () =
      (⟨.ok (.str words), input.context⟩, ()) := rfl
  simp only [recite_ask, runAsk, bind, StateT.bind, rendered]
  cases readReply input.feedback input.context <;> rfl

/-- What a question answers whose words and whose reader are functions of the context. -/
theorem recite_changes (reply : F → Call → Answer) (ask parse : F) (input : HandlerInput) :
    recite reply (.handler (.ask (.code ask .context) (some (.changes (.code parse .context))))
      input) =
      (reply ask (.node input.context)).value.bind fun words =>
        match readReply input.feedback (reply ask (.node input.context)).context with
        | none => .ok (waitingReport words)
        | some said =>
          ((reply parse (.nodeReply (reply ask (.node input.context)).context said)).value.bind fun v =>
            (readChanges v).bind fun report =>
              (Outcome.read input.stateId report).mapError (Raised.fatal · none)).map
                (answeredReport words) := by
  have rendered : renderPrompt (recited reply) { input with runId := "", tickId := "" }
      (.code ask .context) () = (reply ask (.node input.context), ()) := rfl
  simp only [recite_ask, runAsk, bind, StateT.bind, rendered]
  cases (reply ask (.node input.context)).value with
  | error e => rfl
  | ok words =>
      simp only [Except.bind]
      cases readReply input.feedback (reply ask (.node input.context)).context <;> rfl

/-! ## Visits -/

section Visits

variable {v : Value} {o : Outcome} {handler : Handler F} {routes : ActionRoutes}
variable {retry : Option RetryPolicy}

theorem standsAt_on (on : s.progress.On id context attempts rounds) (named : id ≠ "")
    (found : g.state? id = some node) : StandsAt g s.progress id node :=
  ⟨position_of_current on.here named, found⟩

theorem attempted_settles (s : Stance) (number : Int) (reads : Outcome.read id v = .ok o)
    (settles : o.status = "done" ∨ o.status = "feedback") :
    attempted id number s (.ok v) = ⟨s.observe o, o.page.toList, .ok (.settled o)⟩ := by
  rcases settles with status | status <;> simp [attempted, reads, judged, status, actionEvents]

/-- An action that is done or waits leaves its state. -/
theorem Exit.of_action (on : s.progress.On id context attempts rounds) (named : id ≠ "")
    (found : g.state? id = some (.action handler routes retry))
    (callable : resolveHandler g id handler = .ok handler) {number : Int}
    (counts : s.progress.attemptNumber id = number)
    (answered : recite reply (.handler handler (s.shown task id number)) = .ok v)
    (reads : Outcome.read id v = .ok o) (settles : o.status = "done" ∨ o.status = "feedback") :
    Exit reply g task s id (.action handler routes retry)
      ⟨Progress.settled s.progress id o, (s.observe o).feedback⟩ o.page.toList
      (settledStep number o) := by
  refine ⟨standsAt_on on named found, rfl, on.lifecycle,
    .handler handler (s.shown task id number), ?_, ?_⟩
  · simp only [question, callable, counts]
    rfl
  · rw [answered]
    have judged := attempted_settles s number reads settles
    have came : (attempted id number s (.ok v)).result = .ok (.settled o) := by rw [judged]
    refine Eq.trans (actionReacted_of_ok counts came rfl) ?_
    rw [judged]
    rfl

/-- A selector that names an event leaves its state. -/
theorem Exit.of_selector {selector : Selector F} {routes : Routes} {event : String}
    (on : s.progress.On id context attempts rounds) (named : id ≠ "")
    (found : g.state? id = some (.orchestrate routes (.slot .absent) selector))
    (has : Graph.hasSelector selector = true) (callable : resolveSelector g id selector = .ok selector)
    (answered : recite reply (.selector selector ⟨s.progress.context, task, id, "", ""⟩) =
      .ok (.str event)) (words : Text.isBlankText event = false) :
    Exit reply g task s id (.orchestrate routes (.slot .absent) selector) s [] (selectedStep event) := by
  refine ⟨standsAt_on on named found, rfl, on.lifecycle,
    .selector selector ⟨s.progress.context, task, id, "", ""⟩, ?_, ?_⟩
  · simp only [question, Graph.hasHandler, Bool.false_eq_true, if_false, has, if_true, callable]
    rfl
  · rw [answered]
    simp [reacted, Graph.hasHandler, selectorReacted, words]

/-- A handler that decides by a status leaves its state. -/
theorem Exit.of_decision {routes : Routes} {selector : Selector F} {status : String}
    {message : Option String} (on : s.progress.On id context attempts rounds) (named : id ≠ "")
    (found : g.state? id = some (.orchestrate routes handler selector))
    (has : Graph.hasHandler handler = true) (callable : resolveHandler g id handler = .ok handler)
    (answered : recite reply (.handler handler (s.shown task id 1)) =
      .ok (.result (.str status) .null (.ofOption message) .null))
    (words : Text.isBlankText status = false) :
    Exit reply g task s id (.orchestrate routes handler selector)
      (s.observe ⟨status, none, message, none⟩) [] (reportedStep ⟨status, none, message, none⟩) := by
  refine ⟨standsAt_on on named found, rfl, on.lifecycle,
    .handler handler (s.shown task id 1), ?_, ?_⟩
  · simp only [question, has, if_true, callable]
    rfl
  · rw [answered]
    simp only [reacted, has, if_true]
    exact handlerReacted_status words

variable {body : Target} {bound : Int} {turns : LoopRoutes} {guard : F} {scope : Scope}

theorem Exit.question_loop (s : Stance) (bound : Value) :
    question ⟨g, task, "", ""⟩ id s (.loop body bound turns (.code guard scope)) =
      .ok (.guard (.code guard scope)
        ⟨s.progress.context, s.progress.roundsBegun id, task, id, "", ""⟩) := rfl

/-- A loop whose guard passes is left as done. -/
theorem Exit.of_guard (on : s.progress.On id context attempts rounds) (named : id ≠ "")
    (found : g.state? id = some (.loop body (.int bound) turns (.code guard scope)))
    (answered : recite reply (.guard (.code guard scope)
      ⟨s.progress.context, s.progress.roundsBegun id, task, id, "", ""⟩) = .ok v)
    (passes : v.truthy = true) :
    Exit reply g task s id (.loop body (.int bound) turns (.code guard scope))
      ⟨Progress.clearIterations s.progress id, s.feedback⟩ []
      (loopStep "done" .loopDone (s.progress.roundsBegun id)) := by
  refine ⟨standsAt_on on named found, rfl, on.lifecycle, _, Exit.question_loop s _, ?_⟩
  rw [answered]
  exact loopReacted_done id s _ passes

/-- A loop whose guard does not pass yet begins another round, if it may. -/
theorem Exit.of_round (on : s.progress.On id context attempts rounds) (named : id ≠ "")
    (found : g.state? id = some (.loop body (.int bound) turns (.code guard scope)))
    (answered : recite reply (.guard (.code guard scope)
      ⟨s.progress.context, s.progress.roundsBegun id, task, id, "", ""⟩) = .ok v)
    (stops : v.truthy = false) (more : ¬ bound ≤ s.progress.roundsBegun id) :
    Exit reply g task s id (.loop body (.int bound) turns (.code guard scope))
      ⟨withRound s.progress id (s.progress.roundsBegun id + 1), s.feedback⟩ []
      (loopStep "continue" .loopContinue (s.progress.roundsBegun id + 1)) := by
  refine ⟨standsAt_on on named found, rfl, on.lifecycle, _, Exit.question_loop s _, ?_⟩
  rw [answered]
  exact loopReacted_again stops more

/-- An action that failed and may be tried again stays where it is. -/
theorem ComesTo.retries (on : s.progress.On id context attempts rounds) (named : id ≠ "")
    (found : g.state? id = some (.action handler routes retry))
    (callable : resolveHandler g id handler = .ok handler) {number limit : Int}
    (counts : s.progress.attemptNumber id = number)
    (answered : recite reply (.handler handler (s.shown task id number)) = .ok v)
    (reads : Outcome.read id v = .ok o) (fails : o.status = "failed") (silent : s.feedback = none)
    (limits : attemptLimit retry = .int limit) (room : (Value.int limit).roomFrom number ≠ 0)
    (rest : ∀ p : Progress, p.On id (Fields.overlay context (o.data.getD []))
      (Sorted.put id number attempts) rounds → ComesTo reply g task Rest ⟨p, none⟩ shapes later) :
    ComesTo reply g task Rest s
      (⟨id, id, "failed", .known .attemptFailed, number, 0⟩ :: shapes) (o.page.toList ++ later) := by
  have judgement : attempted id number s (.ok v) =
      ⟨{ s.observe o with progress := Progress.merge s.progress o.data }, o.page.toList,
        .ok (.failed .attemptFailed (failureMessage id number o.message))⟩ := by
    simp [attempted, reads, judged, fails, actionEvents, Stance.observe]
  have came : (attempted id number s (.ok v)).result =
      .ok (.failed .attemptFailed (failureMessage id number o.message)) := by rw [judgement]
  have concludes : concluded id (attemptLimit retry) number (attempted id number s (.ok v)).after.progress
      (.failed .attemptFailed (failureMessage id number o.message)) =
        (.ok (.again .attemptFailed number),
          { (attempted id number s (.ok v)).after.progress with
            lastError := some (failureMessage id number o.message)
            attempts := Sorted.put id number
              (attempted id number s (.ok v)).after.progress.attempts }) := by
    rw [limits]
    exact concluded_again room
  have whole := actionReacted_of_ok counts came concludes
  rw [judgement] at whole
  simp only at whole
  have asked : question ⟨g, task, "", ""⟩ id s (.action handler routes retry) =
      .ok (.handler handler (s.shown task id number)) := by
    simp only [question, callable, counts]
    rfl
  have next : Engine.foreseen reply ⟨g, task, "", ""⟩ s = _ :=
    foreseen_of_question reply s (standsAt_on on named found) rfl on.lifecycle asked
  have reaction : reacted id s (.action handler routes retry) (.ok v) =
      actionReacted id retry s (.ok v) := rfl
  have heard : (s.observe o).feedback = none := Stance.observe_none silent o
  rw [answered, reaction, whole, heard] at next
  have here : Progress.On (Progress.unwaited
      { Progress.merge s.progress o.data with
        lastError := some (failureMessage id number o.message)
        attempts := Sorted.put id number s.progress.attempts })
      id (Fields.overlay context (o.data.getD [])) (Sorted.put id number attempts) rounds :=
    ⟨on.lifecycle, on.here, congrArg (Fields.overlay · _) on.context,
      congrArg (Sorted.put id number) on.attempts, on.rounds, rfl, on.alive⟩
  obtain ⟨final, rests, stretch⟩ := rest _ here
  exact ⟨final, rests, .goes next on.lifecycle (.inl rfl) stretch⟩

variable {data : Fields} {words : String}

/-- An action that is done goes on, unless a reply that was handed out is left unread. -/
theorem ComesTo.goes_on (on : s.progress.On id context attempts rounds) (named : id ≠ "")
    (found : g.state? id = some (.action handler routes retry))
    (callable : resolveHandler g id handler = .ok handler) {number : Int}
    (counts : s.progress.attemptNumber id = number)
    (answered : recite reply (.handler handler (s.shown task id number)) = .ok (doneReport data))
    (read : s.feedback = none ∨ (Fields.get? replyKey data).isSome = true)
    (routed : routes.done = some target) (there : g.state? target = some targetNode)
    (work : isWork targetNode = true)
    (rest : ∀ p : Progress,
      p.On target (Fields.overlay context data) (Sorted.erase id attempts) rounds →
        ComesTo reply g task Rest ⟨p, none⟩ shapes later) :
    ComesTo reply g task Rest s (⟨id, target, "done", .known .actionDone, number, 0⟩ :: shapes)
      later := by
  have exit := Exit.of_action on named found callable counts answered
    (read_done id data) (.inl rfl)
  have settled := on.settled ⟨"done", some data, none, none⟩
  refine exit.onward routed there work ?_ settled.lifecycle (rest _ (settled.moved _ _))
  rcases read with silent | used
  · exact Stance.observe_none silent _
  · have heard : ((some data).bind (Fields.get? replyKey)).isSome = true := used
    simp only [Stance.observe, heard, if_true]

/-- An action that waits for a reply pauses. -/
theorem ComesTo.pauses (on : s.progress.On id context [] []) (named : id ≠ "")
    (found : g.state? id = some (.action handler routes retry))
    (callable : resolveHandler g id handler = .ok handler)
    (answered : recite reply (.handler handler (s.shown task id 1)) =
      .ok (.result (.str "feedback") (.dict data) (.str words) .null))
    (routed : routes.feedback = some (feedbackId id))
    (there : g.state? (feedbackId id) = some (.feedback previousState))
    (rest : ∀ p : Progress, p.Waits id (Fields.overlay context data) → Rest p) :
    ComesTo reply g task Rest s [⟨id, feedbackId id, "feedback", .known .actionFeedback, 1, 0⟩] [] := by
  have exit := Exit.of_action (o := ⟨"feedback", some data, some words, none⟩) on named found callable
    (attemptNumber_first on.attempts) answered rfl (.inr rfl)
  have settled := on.settled_once ⟨"feedback", some data, some words, none⟩
  have leads : (State.action handler routes retry).target? "feedback" = some (feedbackId id) := by
    simp [State.target?, State.routes, ActionRoutes.toRoutes, routed, List.lookup_cons]
  exact exit.pauses leads named there rfl settled rest

/-- An action that is done with a page ends a task. -/
theorem ComesTo.ends_with {markdown title : Value} {message : Option String}
    (on : s.progress.On id context [] rounds) (named : id ≠ "")
    (found : g.state? id = some (.action handler routes retry))
    (callable : resolveHandler g id handler = .ok handler)
    (answered : recite reply (.handler handler (s.shown task id 1)) =
      .ok (.result (.str "done") .null .null (.page markdown title)))
    (routed : routes.done = some target) (there : g.state? target = some (.terminal .done message))
    (rest : ∀ p : Progress, p.Completed target context → Rest p) :
    ComesTo reply g task Rest s [⟨id, target, "done", .known .actionDone, 1, 0⟩]
      [.page markdown title] := by
  have exit := Exit.of_action (o := ⟨"done", none, none, some (.page markdown title)⟩) on named found
    callable (attemptNumber_first on.attempts) answered rfl (.inl rfl)
  have settled := on.settled_once ⟨"done", none, none, some (.page markdown title)⟩
  exact exit.ends routed there settled rest

end Visits

end Engine

end Tickwork

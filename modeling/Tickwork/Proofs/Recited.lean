import Tickwork.Proofs.Running

/-!
# Callables that answer by a function

Where the answers of callables depend on nothing but what they are shown, and not on the names of the run
and the tick, every question has one answer, whichever host asks it. A walk then is a walk under any
other names as well.
-/

set_option autoImplicit false

namespace Tickwork

variable {F W S : Type}

/-! ## Calls without names -/

def Call.unnamed : Call → Call
  | .handler input => .handler { input with runId := "", tickId := "" }
  | .reply input text => .reply { input with runId := "", tickId := "" } text
  | .selector input => .selector { input with runId := "", tickId := "" }
  | .guard input => .guard { input with runId := "", tickId := "" }
  | .node context => .node context
  | .nodeReply context text => .nodeReply context text

/-- Callables whose answers depend on nothing but what they are shown, names of run and tick apart. -/
def Behaviour.Follows (b : Behaviour F W) (reply : F → Call → Answer) : Prop :=
  ∀ f call w, (b f call w).1 = reply f call.unnamed

/-- Callables that answer by a function and touch nothing. -/
def recited (reply : F → Call → Answer) : Behaviour F Unit :=
  fun f call => pure (reply f call.unnamed)

namespace Engine

def Question.unnamed : Question F → Question F
  | .handler h input => .handler h { input with runId := "", tickId := "" }
  | .selector s input => .selector s { input with runId := "", tickId := "" }
  | .guard g input => .guard g { input with runId := "", tickId := "" }
  | .nothing => .nothing

/-- The answer that a function gives to a question. -/
def recite (reply : F → Call → Answer) (q : Question F) : Except Raised Value :=
  (q.unnamed.ask (recited reply) ()).1

end Engine

namespace Behaviour.Follows

variable {b : Behaviour F W} {reply : F → Call → Answer}

theorem slot_call (follows : b.Follows reply) (slot : Slot F) (call : Call) (w : W) :
    (slot.call b call w).1 = (slot.call (recited reply) call.unnamed ()).1 := by
  cases slot with
  | code f scope =>
      have narrows : (call.inScope scope).unnamed = (call.unnamed.inScope scope).unnamed := by
        cases scope <;> cases call <;> rfl
      have answered := follows f (call.inScope scope) w
      rw [narrows] at answered
      exact answered
  | absent => cases call <;> rfl
  | named name => cases call <;> rfl
  | inert v => cases call <;> rfl

variable {input unnamed : HandlerInput}

theorem parseReply_run (follows : b.Follows reply)
    (same : unnamed = { input with runId := "", tickId := "" }) (text : String)
    (reader : Option (ReplyReader F)) (w : W) :
    (parseReply b input text reader w).1 = (parseReply (recited reply) unnamed text reader ()).1 := by
  subst same
  cases reader with
  | none => rfl
  | some reader =>
      cases reader with
      | report parse =>
          have called := follows.slot_call parse (.reply input text) w
          exact congrArg
            (fun a : Answer => a.value.bind fun v =>
              (Outcome.read input.stateId v).mapError (Raised.fatal · none)) called
      | changes parse =>
          have called := follows.slot_call parse (.reply input text) w
          exact congrArg
            (fun a : Answer => a.value.bind fun v => (readChanges v).bind fun report =>
              (Outcome.read input.stateId report).mapError (Raised.fatal · none)) called

theorem renderPrompt_run (follows : b.Follows reply)
    (same : unnamed = { input with runId := "", tickId := "" }) (prompt : Slot F) (w : W) :
    (renderPrompt b input prompt w).1 = (renderPrompt (recited reply) unnamed prompt ()).1 := by
  subst same
  cases prompt with
  | code f scope => cases scope <;> exact follows f _ w
  | absent => rfl
  | named name => rfl
  | inert v => rfl

theorem runAsk_run (follows : b.Follows reply)
    (same : unnamed = { input with runId := "", tickId := "" }) (prompt : Slot F)
    (reader : Option (ReplyReader F)) (w : W) :
    (runAsk b prompt reader input w).1 = (runAsk (recited reply) prompt reader unnamed ()).1 := by
  have asked := follows.renderPrompt_run same prompt w
  simp only [runAsk, bind, StateT.bind]
  generalize renderPrompt b input prompt w = first at asked ⊢
  generalize renderPrompt (recited reply) unnamed prompt () = second at asked ⊢
  obtain ⟨⟨value, context⟩, world⟩ := first
  obtain ⟨answer, world'⟩ := second
  subst asked
  subst same
  cases value with
  | error e => rfl
  | ok prompt =>
      simp only
      cases readReply input.feedback context with
      | none => rfl
      | some text =>
          have parsed : (parseReply b { input with context := context } text reader world).1 = _ :=
            follows.parseReply_run rfl text reader world
          exact congrArg (Except.map (answeredReport prompt)) parsed

theorem handler_run (follows : b.Follows reply)
    (same : unnamed = { input with runId := "", tickId := "" }) (handler : Handler F) (w : W) :
    (handler.run b input w).1 = (handler.run (recited reply) unnamed ()).1 := by
  cases handler with
  | slot ref =>
      subst same
      exact congrArg Answer.value (follows.slot_call ref (.handler input) w)
  | ask prompt reader => exact follows.runAsk_run same prompt reader w
  | publish render =>
      subst same
      have called := follows.slot_call render (.handler input) w
      exact congrArg
        (fun a : Answer => a.value.bind fun v => ((readPage v).mapError (Raised.fatal · none)).map
          fun page => Value.result (.str "done") .null .null page) called
  | merge run =>
      subst same
      have called := follows run (.node input.context) w
      exact congrArg
        (fun a : Answer => a.value.bind fun v => v.toFields.map fun fields =>
          Value.result (.str "done") (.dict fields) .null .null) called
  | decide select branches hasOtherwise =>
      subst same
      have called := follows select (.node input.context) w
      exact congrArg
        (fun a : Answer => a.value.bind (decisionReport branches hasOtherwise)) called

theorem selector_run (follows : b.Follows reply) (selector : Selector F) (input : SelectorInput)
    (w : W) :
    (selector.run b input w).1 =
      (selector.run (recited reply) { input with runId := "", tickId := "" } ()).1 := by
  cases selector with
  | slot ref => exact congrArg Answer.value (follows.slot_call ref (.selector input) w)
  | route select known =>
      have called := follows.slot_call select (.selector input) w
      exact congrArg
        (fun a : Answer => a.value.map fun v => Value.str (routedEvent known v)) called

theorem ask (follows : b.Follows reply) (q : Engine.Question F) (w : W) :
    (q.ask b w).1 = Engine.recite reply q := by
  cases q with
  | handler handler input => exact follows.handler_run rfl handler w
  | selector selector input => exact follows.selector_run selector input w
  | guard slot input => exact congrArg Answer.value (follows.slot_call slot (.guard input) w)
  | nothing => rfl

end Behaviour.Follows

/-! ## Names do not matter -/

namespace Engine

variable {reply : F → Call → Answer} {g : Graph F} {task : TaskInfo}

/-- Questions are answered by a function. -/
def answersBy (reply : F → Call → Answer) (q : Question F) (answer : Except Raised Value) : Prop :=
  answer = recite reply q

theorem serves_answersBy {h : Host F W} {view : W → S}
    {keep : S → Option Transition → Progress → S} (keeps : h.Keeps view keep)
    (follows : h.behaviour.Follows reply) : Serves h (answersBy reply) view keep :=
  ⟨keeps, fun q w => follows.ask q w⟩

theorem question_unnamed (g : Graph F) (task : TaskInfo) (runId tickId runId' tickId' id : String)
    (s : Stance) (node : State F) :
    (question ⟨g, task, runId, tickId⟩ id s node).map Question.unnamed =
      (question ⟨g, task, runId', tickId'⟩ id s node).map Question.unnamed := by
  cases node with
  | action handler routes retry =>
      simp only [question, bind, Except.bind]
      cases resolveHandler g id handler <;> rfl
  | orchestrate routes handler selector =>
      simp only [question, bind, Except.bind]
      by_cases handled : Graph.hasHandler handler = true
      · simp only [handled, if_true]
        cases resolveHandler g id handler <;> rfl
      · simp only [handled, Bool.false_eq_true, if_false]
        by_cases selected : Graph.hasSelector selector = true
        · simp only [selected, if_true]
          cases resolveSelector g id selector <;> rfl
        · simp only [selected, Bool.false_eq_true, if_false]
  | loop body bound routes stop =>
      simp only [question, bind, Except.bind]
      cases resolveGuard g id stop with
      | error cause => rfl
      | ok guard => cases guard <;> rfl
  | feedback resume => rfl
  | terminal status message => rfl
  | unsupported v => rfl

theorem question_error_names {runId tickId id : String} (runId' tickId' : String) {s : Stance}
    {node : State F} {cause : FatalCause}
    (unresolved : question ⟨g, task, runId, tickId⟩ id s node = .error cause) :
    question ⟨g, task, runId', tickId'⟩ id s node = .error cause := by
  have same := question_unnamed g task runId tickId runId' tickId' id s node
  rw [unresolved] at same
  cases found : question ⟨g, task, runId', tickId'⟩ id s node with
  | error cause' =>
      rw [found] at same
      exact same.symm
  | ok q =>
      rw [found] at same
      cases same

theorem Visit.rename {runId tickId id : String} (runId' tickId' : String) {s : Stance}
    {node : State F} {j : Judgement Verdict}
    (visit : Visit (answersBy reply) ⟨g, task, runId, tickId⟩ s id node j) :
    Visit (answersBy reply) ⟨g, task, runId', tickId'⟩ s id node j := by
  obtain ⟨q, answer, asked, answered, reaction⟩ := visit.answered
  have same := question_unnamed g task runId tickId runId' tickId' id s node
  rw [asked] at same
  cases found : question ⟨g, task, runId', tickId'⟩ id s node with
  | error cause =>
      rw [found] at same
      cases same
  | ok q' =>
      rw [found] at same
      have unnamed : q.unnamed = q'.unnamed := Except.ok.inj same
      refine ⟨visit.stands, visit.work, visit.running, q', answer, found, ?_, reaction⟩
      have given : answer = recite reply q := answered
      unfold recite at given
      rw [unnamed] at given
      exact given

theorem Doomed.rename {runId tickId : String} (runId' tickId' : String) {s after : Stance}
    {cause : FatalCause} {taskId : Option String}
    (doomed : Doomed (answersBy reply) False ⟨g, task, runId, tickId⟩ s cause taskId after) :
    Doomed (answersBy reply) False ⟨g, task, runId', tickId'⟩ s cause taskId after := by
  cases doomed with
  | missing absent => exact .missing absent
  | spent transitions stands work cap => exact cap.elim
  | unasked stands work running unresolved =>
      exact .unasked stands work running (question_error_names runId' tickId' unresolved)
  | judged visit refused => exact .judged (visit.rename runId' tickId') refused
  | unrouted visit decided astray =>
      exact .unrouted (visit.rename runId' tickId') decided astray

theorem Turn.rename {runId tickId : String} (runId' tickId' : String) {s after : Stance}
    {e : Entry} (turn : Turn (answersBy reply) False ⟨g, task, runId, tickId⟩ s e after) :
    Turn (answersBy reply) False ⟨g, task, runId', tickId'⟩ s e after := by
  cases turn with
  | begin stands work idle => exact .begin stands work idle
  | halt stands => exact .halt stands
  | rest stands resumes => exact .rest stands resumes
  | visit visit decided lands owner fits =>
      exact .visit (visit.rename runId' tickId') decided lands owner fits
  | fail doomed => exact .fail (doomed.rename runId' tickId')

theorem Walk.rename {runId tickId : String} (runId' tickId' : String) {s after : Stance}
    {entries : List Entry}
    (walk : Walk (answersBy reply) False ⟨g, task, runId, tickId⟩ s entries after) :
    Walk (answersBy reply) False ⟨g, task, runId', tickId'⟩ s entries after := by
  induction walk with
  | refl s => exact .refl s
  | last turn => exact .last (turn.rename runId' tickId')
  | step turn running rest ih => exact .step (turn.rename runId' tickId') running ih

end Engine

end Tickwork

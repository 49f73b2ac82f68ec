import Tickwork.Proofs.Calm
import Tickwork.Proofs.Replies.Discreet

/-!
# Two ticks, one of which was handed its reply

One tick has been handed a reply, another one keeps it in the context of its task. `Stance.Beside` says
that apart from this, and from errors and times that no callable is shown, they stand at the same place.
From there they ask questions that differ in nothing but how the reply comes with them, and an answer
leaves them beside each other again. In between one may owe the data that the task is still to take with
it.
-/

set_option autoImplicit false

namespace Tickwork

variable {F : Type}

/-- What callables can see of a task, its reply apart: neither its stage, nor its last error, nor since
when it waits. -/
def Progress.core (p : Progress) : Progress :=
  { p with
    context := Fields.erase replyKey p.context
    lifecycle := .running
    lastError := none
    waitingSince := none }

/-- What two contexts have in the place of the reply: the same, or the second one still has the reply
that was handed over for the first. -/
def Fields.Beside (reply : Option String) (context context' : Fields) : Prop :=
  Fields.get? replyKey context = Fields.get? replyKey context' ∨
    ∃ text, reply = some text ∧ Fields.get? replyKey context' = some (.str text)

/-- Two states of a task, one of which may keep a reply. -/
structure Progress.Beside (reply : Option String) (p p' : Progress) : Prop where
  core : p.core = p'.core
  lifecycle : p.lifecycle = p'.lifecycle
  context : Fields.Beside reply p.context p'.context

/-- Two ticks, the first of which may have been handed the reply that the second one keeps, once both
have taken the data that is owed to them. -/
structure Stance.Beside (reply : Option String) (owed : Option Fields) (s s' : Stance) : Prop where
  progress : s.progress.Beside reply s'.progress
  silent : s'.feedback = none
  held : Held reply s.feedback (Fields.overlay s.progress.context (owed.getD []))
    (Fields.overlay s'.progress.context (owed.getD []))

variable {reply : Option String} {p p' q q' : Progress} {s s' : Stance}

theorem Held.beside {feedback : Option String} {context context' : Fields}
    (held : Held reply feedback context context') : Fields.Beside reply context context' := by
  cases held with
  | handed given kept => exact .inr ⟨_, given, kept⟩
  | level same => exact .inl same

theorem Progress.core_congr (shown : Progress → Progress) (first : q.core = shown p.core)
    (second : q'.core = shown p'.core) (same : p.core = p'.core) : q.core = q'.core := by
  rw [first, second, same]

theorem Progress.core_merge (same : p.core = p'.core) (data : Option Fields) :
    (Engine.Progress.merge p data).core = (Engine.Progress.merge p' data).core := by
  have merged : ∀ q : Progress, (Engine.Progress.merge q data).core =
      { q.core with
        context := Fields.overlay q.core.context (Fields.erase replyKey (data.getD [])) } := by
    intro q
    simp only [Engine.Progress.merge, Progress.core, Fields.erase_overlay]
  rw [merged, merged, same]

namespace Progress.Beside

theorem attempts (beside : p.Beside reply p') : p.attempts = p'.attempts :=
  (congrArg Progress.attempts beside.core :)

theorem loopIterations (beside : p.Beside reply p') : p.loopIterations = p'.loopIterations :=
  (congrArg Progress.loopIterations beside.core :)

theorem currentStateId (beside : p.Beside reply p') : p.currentStateId = p'.currentStateId :=
  (congrArg Progress.currentStateId beside.core :)

theorem others (beside : p.Beside reply p') :
    Fields.erase replyKey p.context = Fields.erase replyKey p'.context :=
  (congrArg Progress.context beside.core :)

theorem position (beside : p.Beside reply p') (g : Graph F) :
    Engine.position g p = Engine.position g p' := by
  unfold Engine.position
  rw [beside.currentStateId]

theorem changed (beside : p.Beside reply p') (core : q.core = q'.core)
    (lifecycle : q.lifecycle = q'.lifecycle) (context : q.context = p.context)
    (context' : q'.context = p'.context) : q.Beside reply q' := by
  refine ⟨core, lifecycle, ?_⟩
  rw [context, context']
  exact beside.context

end Progress.Beside

namespace Stance.Beside

variable {owed : Option Fields}

theorem changed (beside : s.Beside reply owed s') (core : q.core = q'.core)
    (lifecycle : q.lifecycle = q'.lifecycle) (context : q.context = s.progress.context)
    (context' : q'.context = s'.progress.context) :
    Stance.Beside reply owed ⟨q, s.feedback⟩ ⟨q', s'.feedback⟩ := by
  refine ⟨beside.progress.changed core lifecycle context context', beside.silent, ?_⟩
  simp only [context, context']
  exact beside.held

theorem merged (beside : s.Beside reply owed s') :
    Stance.Beside reply none ⟨Engine.Progress.merge s.progress owed, s.feedback⟩
      ⟨Engine.Progress.merge s'.progress owed, s'.feedback⟩ :=
  ⟨⟨Progress.core_merge beside.progress.core owed, beside.progress.lifecycle, beside.held.beside⟩,
    beside.silent, beside.held⟩

/-- An outcome is heard: its data is owed from then on. -/
theorem observe (beside : s.Beside reply none s') (o : Outcome) :
    (s.observe o).Beside reply o.data (s'.observe o) := by
  refine ⟨beside.progress, ?_, beside.held.told o.data⟩
  simp [Stance.observe, beside.silent]

end Stance.Beside

/-- The same tick under other names. -/
def Frame.renamed (fr : Frame F) (runId tickId : String) : Frame F :=
  { fr with runId, tickId }

namespace Engine

variable {fr : Frame F} {runId tickId id : String}

/-! ## What is asked -/

theorem handlerInput_beside (beside : s.Beside reply none s') (fr : Frame F)
    (runId tickId id : String) (attempt : Int) :
    (s.handlerInput fr id attempt).Beside reply
      (s'.handlerInput (fr.renamed runId tickId) id attempt) := by
  refine ⟨?_, beside.silent, beside.held⟩
  simp only [HandlerInput.bare, Stance.handlerInput, Frame.renamed, beside.progress.others]

/-- Two ticks beside each other ask the same, or neither knows what to ask. -/
inductive Asks (reply : Option String) :
    Except FatalCause (Question F) → Except FatalCause (Question F) → Prop
  | unknown (cause : FatalCause) : Asks reply (.error cause) (.error cause)
  | known {q q' : Question F} (beside : q.Beside reply q') : Asks reply (.ok q) (.ok q')

theorem question_beside (beside : s.Beside reply none s') (fr : Frame F)
    (runId tickId id : String) (node : State F) :
    Asks reply (question fr id s node) (question (fr.renamed runId tickId) id s' node) := by
  have graph : (fr.renamed runId tickId).graph = fr.graph := rfl
  cases node with
  | action handler routes retry =>
      have number : s'.progress.attemptNumber id = s.progress.attemptNumber id := by
        unfold Progress.attemptNumber
        rw [beside.progress.attempts]
      simp only [question, graph, number, bind, Except.bind]
      cases resolveHandler fr.graph id handler with
      | error cause => exact .unknown cause
      | ok callable =>
          exact .known (.handler callable (handlerInput_beside beside fr runId tickId id _))
  | orchestrate routes handler selector =>
      simp only [question, graph, bind, Except.bind]
      by_cases handled : Graph.hasHandler handler = true
      · simp only [handled, if_true]
        cases resolveHandler fr.graph id handler with
        | error cause => exact .unknown cause
        | ok callable =>
            exact .known (.handler callable (handlerInput_beside beside fr runId tickId id 1))
      · simp only [handled, Bool.false_eq_true, if_false]
        by_cases selected : Graph.hasSelector selector = true
        · simp only [selected, if_true]
          cases resolveSelector fr.graph id selector with
          | error cause => exact .unknown cause
          | ok callable =>
              refine .known (.selector callable ?_)
              simp only [SelectorInput.bare, Stance.selectorInput, Frame.renamed,
                beside.progress.others]
        · simp only [selected, Bool.false_eq_true, if_false]
          exact .unknown _
  | loop body bound routes stop =>
      have rounds : s'.progress.roundsBegun id = s.progress.roundsBegun id := by
        unfold Progress.roundsBegun
        rw [beside.progress.loopIterations]
      simp only [question, graph, bind, Except.bind]
      cases resolveGuard fr.graph id stop with
      | error cause => exact .unknown cause
      | ok guard =>
          cases guard with
          | none => exact .known .nothing
          | some guard =>
              refine .known (.guard guard ?_)
              simp only [GuardInput.bare, Stance.guardInput, Frame.renamed, rounds,
                beside.progress.others]
  | feedback resume => exact .unknown _
  | terminal status message => exact .unknown _
  | unsupported v => exact .unknown _

/-! ## What follows from an answer -/

/-- The data that an attempt owes to its task. -/
def Attempt.owed : Attempt → Option Fields
  | .settled o => o.data
  | .failed _ _ => none

/-- How two ticks come out of one attempt: alike, or both are given up. -/
inductive Tried (reply : Option String) : Judgement Attempt → Judgement Attempt → Prop
  | on (attempt : Attempt) {s s' : Stance} {pages : List Value}
      (after : s.Beside reply attempt.owed s') :
      Tried reply ⟨s, pages, .ok attempt⟩ ⟨s', pages, .ok attempt⟩
  | doomed (cause : FatalCause) (taskId : Option String) {s s' : Stance} {pages : List Value}
      (after : s.progress.Beside reply s'.progress) :
      Tried reply ⟨s, pages, .error (.fatal cause taskId)⟩ ⟨s', pages, .error (.fatal cause taskId)⟩

theorem attempted_beside (beside : s.Beside reply none s') (id : String) (attempt : Int)
    (answer : Except Raised Value) :
    Tried reply (attempted id attempt s answer) (attempted id attempt s' answer) := by
  cases answer with
  | error raised =>
      cases raised with
      | fatal cause taskId => exact .doomed cause taskId beside.progress
      | error kind text => exact .on (.failed .attemptError _) beside
  | ok v =>
      simp only [attempted]
      cases Outcome.read id v with
      | error cause => exact .doomed cause none beside.progress
      | ok o =>
          have heard := beside.observe o
          simp only [judged]
          by_cases known : actionEvents.contains o.status = true
          · simp only [known, Bool.not_true, Bool.false_eq_true, if_false]
            by_cases failed : o.status = "failed"
            · simp only [failed, ne_eq, not_true_eq_false, if_false]
              exact .on (.failed _ _) heard.merged
            · simp only [ne_eq, failed, not_false_eq_true, if_true]
              exact .on (.settled o) heard
          · simp only [known, Bool.not_false, if_true]
            exact .doomed _ none heard.progress

/-- How two ticks come out of one answer: they leave the state alike, or both stop there. -/
inductive Left (reply : Option String) : Judgement Verdict → Judgement Verdict → Prop
  | on (step : Step) {s s' : Stance} {pages : List Value} (after : s.Beside reply step.data s') :
      Left reply ⟨s, pages, .ok (.leave step)⟩ ⟨s', pages, .ok (.leave step)⟩
  | doomed (cause : FatalCause) (taskId : Option String) {s s' : Stance} {pages : List Value}
      (after : s.progress.Beside reply s'.progress) :
      Left reply ⟨s, pages, .error (.fatal cause taskId)⟩ ⟨s', pages, .error (.fatal cause taskId)⟩
  | stuck (fault : Fault) (calm : fault.isFatal = false) {s s' : Stance}
      {pages : List Value} (after : s.Beside reply none s') :
      Left reply ⟨s, pages, .error fault⟩ ⟨s', pages, .error fault⟩

theorem reported_beside (beside : s.Beside reply none s') (id : String)
    (answer : Except Raised Value) :
    Left reply (handlerReacted id s answer) (handlerReacted id s' answer) := by
  cases answer with
  | error raised => cases raised <;> exact .doomed _ _ beside.progress
  | ok v =>
      simp only [handlerReacted]
      cases Outcome.read id v with
      | error cause => exact .doomed cause none beside.progress
      | ok o =>
          have heard := beside.observe o
          refine .on (reportedStep o) ⟨heard.progress, heard.silent, ?_⟩
          -- the event is taken out of the data, which leaves the reply key as it is
          have named : Fields.get? replyKey (Fields.erase "event" (o.data.getD [])) =
              o.data.bind (Fields.get? replyKey) := by
            rw [Fields.get?_erase_other (by decide)]
            cases o.data <;> rfl
          have told := beside.held.told (some (Fields.erase "event" (o.data.getD [])))
          simp only [Option.bind_some, named] at told
          exact told

theorem selected_beside (beside : s.Beside reply none s') (id : String)
    (answer : Except Raised Value) :
    Left reply (selectorReacted id s answer) (selectorReacted id s' answer) := by
  cases answer with
  | error raised => exact .doomed _ none beside.progress
  | ok v =>
      cases v with
      | str event =>
          simp only [selectorReacted]
          by_cases blank : Text.isBlankText event = true
          · simp only [blank, if_true]
            exact .doomed _ none beside.progress
          · simp only [blank, Bool.false_eq_true, if_false]
            exact .on (selectedStep event) beside
      | _ => exact .doomed _ none beside.progress

theorem rounds_beside (beside : s.Beside reply none s') (id : String) (bound : Value)
    (answer : Except Raised Value) :
    Left reply (loopReacted id bound s answer) (loopReacted id bound s' answer) := by
  have rounds : s'.progress.roundsBegun id = s.progress.roundsBegun id := by
    unfold Progress.roundsBegun
    rw [beside.progress.loopIterations]
  have cleared : Stance.Beside reply none
      { s with progress := Progress.clearIterations s.progress id }
      { s' with progress := Progress.clearIterations s'.progress id } :=
    beside.changed
      (Progress.core_congr (Progress.clearIterations · id) rfl rfl beside.progress.core)
      beside.progress.lifecycle rfl rfl
  cases answer with
  | error raised => exact .doomed _ none beside.progress
  | ok v =>
      simp only [loopReacted, rounds]
      by_cases passed : v.truthy = true
      · simp only [passed, if_true]
        exact .on (loopStep "done" .loopDone _) cleared
      · simp only [passed, Bool.false_eq_true, if_false]
        cases bound.isReached? (s.progress.roundsBegun id) with
        | none => exact .stuck _ rfl beside
        | some reached =>
            cases reached with
            | true => exact .on (loopStep "exhausted" .loopExhausted _) cleared
            | false =>
                let count (p : Progress) : Progress :=
                  { p with loopIterations :=
                      Sorted.put id (s.progress.roundsBegun id + 1) p.loopIterations }
                exact .on (loopStep "continue" .loopContinue _) (beside.changed
                  (Progress.core_congr count rfl rfl beside.progress.core)
                  beside.progress.lifecycle rfl rfl)

/-! ## Where the task goes -/

variable {feedback feedback' : Option String}

theorem moved_beside {step : Step} (beside : s.Beside reply step.data s') (target : String) :
    Stance.Beside reply none ⟨Progress.moved s.progress step target, s.feedback⟩
      ⟨Progress.moved s'.progress step target, s'.feedback⟩ := by
  have merged := beside.merged
  let onward (p : Progress) : Progress :=
    { p with currentStateId := some target, transitionCount := p.transitionCount + 1 }
  exact merged.changed (Progress.core_congr onward rfl rfl merged.progress.core)
    merged.progress.lifecycle rfl rfl

theorem atEnd_beside (beside : Stance.Beside reply none ⟨Progress.begun p, feedback⟩
      ⟨Progress.begun p', feedback'⟩) (id : String) (status : EndStatus)
    (message arrival : Option String) :
    Stance.Beside reply none ⟨Progress.atEnd p id status message arrival, feedback⟩
      ⟨Progress.atEnd p' id status message arrival, feedback'⟩ := by
  let ended (p : Progress) : Progress :=
    { p with
      currentStateId := none, terminalStateId := some id, attempts := [], loopIterations := [] }
  exact beside.changed (Progress.core_congr ended rfl rfl beside.progress.core) rfl rfl rfl

theorem pausedAt_beside (beside : Stance.Beside reply none ⟨Progress.begun p, feedback⟩
      ⟨Progress.begun p', feedback'⟩) (next : String) (now now' : Instant) :
    Stance.Beside reply none ⟨Progress.pausedAt p next now, feedback⟩
      ⟨Progress.pausedAt p' next now', feedback'⟩ := by
  let waiting (p : Progress) : Progress := { p with currentStateId := some next }
  exact beside.changed (Progress.core_congr waiting rfl rfl beside.progress.core) rfl rfl rfl

theorem failedWith_beside (core : p.core = p'.core)
    (context : Fields.Beside reply p.context p'.context) (message message' : String) :
    (Progress.failedWith p message).Beside reply (Progress.failedWith p' message') :=
  ⟨core, rfl, context⟩

/-- The stage of a task does not matter where it is under way afterwards. -/
theorem begun_beside (beside : s.Beside reply none s') :
    Stance.Beside reply none ⟨Progress.begun s.progress, s.feedback⟩
      ⟨Progress.begun s'.progress, s'.feedback⟩ :=
  beside.changed beside.progress.core rfl rfl rfl

end Engine

end Tickwork

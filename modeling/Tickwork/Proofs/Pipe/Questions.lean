import Tickwork.Proofs.Pipe.Nodes
import Tickwork.Proofs.Pipe.States

/-!
# Questions

A question takes the reply that is there, or pauses and is asked again with the next one. By induction on
the replies that are left, a question leads where asking leads.
-/

set_option autoImplicit false

namespace Tickwork

variable {F : Type}

namespace Pipe

open Engine

/-! ## What a question answers -/

section

variable {fn : Functions F} {input : HandlerInput} {prompt parse : Slot F} {reply : String}

theorem renderPrompt_computed (fn : Functions F) (input : HandlerInput) (prompt : Slot F) :
    (renderPrompt (recited (computed fn)) input prompt ()).1 =
      ⟨promptValue fn input.context prompt, input.context⟩ := by
  cases prompt with
  | code f scope => cases scope <;> rfl
  | named text => rfl
  | inert v => rfl
  | absent => rfl

/-- What a question reports of a reading. -/
def readingReport (id : String) (asked : Value) : Reading → Except Raised Value
  | .changes fields =>
    .ok (.result (.str "done") (.dict (Fields.put replyKey .null fields)) .null .null)
  | .again message changes =>
    if isWords message then
      .ok (.result (.str "feedback") (.dict (Fields.put replyKey .null changes))
        (shownAgain asked message) .null)
    else .error (.fatal (.messageNotText id) none)

theorem slot_reply (fn : Functions F) (input : HandlerInput) (reply : String) (f : F)
    (scope : Scope) :
    (Slot.call (recited (computed fn)) (.reply input reply) (.code f scope) ()).1.value =
      fn f input.context (some reply) := by
  cases scope <;> rfl

theorem read_again {id : String} {message : Value} {changes : Fields} (asked : Value) :
    ((Outcome.read id (.result (.str "feedback") (.dict changes) message .null)).mapError
      (Raised.fatal · none)).map (answeredReport asked) =
      readingReport id asked (.again message changes) := by
  cases message with
  | null => rfl
  | str text =>
      have read : Outcome.read id (.result (.str "feedback") (.dict changes) (.str text) .null) =
          .ok ⟨"feedback", some changes, some text, none⟩ := rfl
      rw [read]
      by_cases empty : text = ""
      · subst empty
        rfl
      · change Except.ok (answeredReport asked ⟨"feedback", some changes, some text, none⟩) = _
        simp [answeredReport, readingReport, isWords, shownAgain, empty, Value.ofOption]
  | _ => rfl

theorem parsed_value {id : String} (v asked : Value) :
    (((readChanges v).bind fun report =>
      (Outcome.read id report).mapError (Raised.fatal · none)).map (answeredReport asked)) =
      (readingOf v).bind (readingReport id asked) := by
  by_cases asks : ∃ message changes, v = .again message changes
  · obtain ⟨message, changes, rfl⟩ := asks
    exact read_again asked
  · have changed : readChanges v = v.toFields.bind fun fields =>
        .ok (.result (.str "done") (.dict fields) .null .null) := by
      unfold readChanges
      split
      · exact absurd ⟨_, _, rfl⟩ asks
      · rfl
    have reads : readingOf v = v.toFields.map .changes := by
      unfold readingOf
      split
      · exact absurd ⟨_, _, rfl⟩ asks
      · rfl
    rw [changed, reads]
    cases v.toFields with
    | error e => rfl
    | ok fields => rfl

theorem parseReply_computed (asked : Value) :
    (parseReply (recited (computed fn)) input reply (readerOf parse) ()).1.map
        (answeredReport asked) =
      (readingFor fn input.context reply parse).bind (readingReport input.stateId asked) := by
  cases parse with
  | absent => rfl
  | named text => rfl
  | inert v => rfl
  | code f scope =>
      have called := slot_reply fn input reply f scope
      have parsed : (parseReply (recited (computed fn)) input reply (readerOf (.code f scope)) ()).1 =
          (fn f input.context (some reply)).bind fun v => (readChanges v).bind fun report =>
            (Outcome.read input.stateId report).mapError (Raised.fatal · none) := by
        rw [← called]
        rfl
      have reads : readingFor fn input.context reply (.code f scope) =
          (fn f input.context (some reply)).bind readingOf := rfl
      rw [parsed, reads]
      cases fn f input.context (some reply) with
      | error e => rfl
      | ok v => exact parsed_value v asked

/-- What a question answers: it reads the reply that is there, or waits for one. -/
def questionAnswer (fn : Functions F) (id : String) (prompt parse : Slot F) (context : Fields) :
    Option String → Except Raised Value
  | none => (promptValue fn context prompt).map waitingReport
  | some reply => (promptValue fn context prompt).bind fun asked =>
    (readingFor fn context reply parse).bind (readingReport id asked)

theorem ask_answers (fn : Functions F) (input : HandlerInput) (prompt parse : Slot F) :
    recite (computed fn) (.handler (.ask prompt (readerOf parse)) input) =
      questionAnswer fn input.stateId prompt parse input.context
        (readReply input.feedback input.context) := by
  have unfolded : recite (computed fn) (.handler (.ask prompt (readerOf parse)) input) =
      (runAsk (recited (computed fn)) prompt (readerOf parse)
        { input with runId := "", tickId := "" } ()).1 := rfl
  have rendered := renderPrompt_computed fn { input with runId := "", tickId := "" } prompt
  rw [unfolded]
  simp only [runAsk, bind, StateT.bind]
  generalize renderPrompt (recited (computed fn)) { input with runId := "", tickId := "" } prompt () =
    answer at rendered ⊢
  obtain ⟨answer, world⟩ := answer
  dsimp only at rendered
  subst rendered
  cases prompted : promptValue fn input.context prompt with
  | error e =>
      cases readReply input.feedback input.context with
      | none =>
          simp only [questionAnswer, prompted]
          rfl
      | some reply =>
          simp only [questionAnswer, prompted]
          rfl
  | ok asked =>
      dsimp only
      cases readReply input.feedback input.context with
      | none =>
          simp only [questionAnswer, prompted]
          rfl
      | some reply =>
          simp only [questionAnswer, prompted]
          exact parseReply_computed asked

end

/-! ## Pauses -/

section

variable {fn : Functions F} {fr : Frame F} {close : Close} {scene : Scene} {rounds : Counters}
variable {id next : String} {p : Progress} {s : Stance} {handler : Handler F}
variable {done failed : Target} {script : List String} {data : Fields} {kept : Option String}

/-- A task that pauses at a question, which is where it goes on. -/
def atPause (p : Progress) (id : String) (o : Outcome) : Progress :=
  (Progress.pausedAt (Progress.moved (Progress.clearAttempts p id) (settledStep 1 o) (feedbackId id))
    id ⟨0⟩).unwaited

theorem resumeTarget_pause (found : fr.graph.state? (feedbackId id) = some (.feedback previousState))
    (named : id ≠ "") : fr.graph.resumeTarget (feedbackId id) (some id) = .ok id := by
  unfold Graph.resumeTarget
  rw [lookup_of_state? found]
  simp [named]

theorem foreseen_pause {v : Value} {o : Outcome}
    (comes : foreseen (computed fn) fr s =
      foreseenFrom fr id (.action handler ⟨done, failed, some (feedbackId id)⟩ none)
        (reacted id s (.action handler ⟨done, failed, some (feedbackId id)⟩ none) (.ok v)))
    (reads : Outcome.read id v = .ok o) (waits : o.status = "feedback")
    (pause : fr.graph.state? (feedbackId id) = some (.feedback previousState)) (named : id ≠ "")
    (first : s.progress.attempts = []) :
    ∃ shape, foreseen (computed fn) fr s =
      some (⟨some shape, atPause s.progress id o, o.page.toList⟩, (s.observe o).feedback) := by
  have attempt : attempted id 1 s (.ok v) = ⟨s.observe o, o.page.toList, .ok (.settled o)⟩ := by
    simp [attempted, reads, judged, waits, actionEvents]
  have came : (attempted id 1 s (.ok v)).result = .ok (.settled o) := by rw [attempt]
  have judgement := actionReacted_once first came
  have still : Progress.settled s.progress id o = Progress.clearAttempts s.progress id := by
    simp [Progress.settled, waits]
  have whole : reacted id s (.action handler ⟨done, failed, some (feedbackId id)⟩ none) (.ok v) =
      ⟨⟨Progress.clearAttempts s.progress id, (s.observe o).feedback⟩, o.page.toList,
        .ok (.leave (settledStep 1 o))⟩ := by
    rw [← still]
    rw [attempt] at judgement
    exact judgement
  rw [comes, whole]
  have routed : (State.action handler ⟨done, failed, some (feedbackId id)⟩ none).target?
      (settledStep 1 o).event = some (feedbackId id) := by
    have event : (settledStep 1 o).event = "feedback" := waits
    rw [event]
    rfl
  refine foreseenFrom_of_route fr id rfl routed pause ?_
  simp only [arrived, resumeTarget_pause pause named]
  rfl

/-- What a paused task has for its next visit. -/
theorem Holds.resumed {scene' : Scene} {o : Outcome} (holds : Holds scene rounds id p)
    (context : Fields.erase replyKey (Fields.overlay p.context (o.data.getD [])) = scene'.context)
    (kept : readReply none (Fields.overlay p.context (o.data.getD [])) = scene'.kept)
    (worded : ∀ reply ∈ scene'.replies, Text.isBlankText reply = false) :
    Holds scene' rounds id (Progress.begun (atPause p id o)) := by
  refine ⟨rfl, rfl, context, kept, ?_, holds.rounds, holds.lastError, worded⟩
  have none_left : (Progress.clearAttempts p id).attempts = [] := by
    simp [Progress.clearAttempts, holds.attempts, Sorted.erase]
  exact none_left

theorem used_up (holds : Holds scene rounds id p) (silent : Fields.get? replyKey data = none) :
    Fields.erase replyKey (Fields.overlay p.context (Fields.put replyKey .null data)) =
        Fields.overlay scene.context data ∧
      readReply none (Fields.overlay p.context (Fields.put replyKey .null data)) = none := by
  obtain ⟨erased, -⟩ := Fields.overlay_silent p.context silent
  rw [Fields.overlay_put silent]
  refine ⟨?_, readReply_used Fields.get?_put_self⟩
  rw [Fields.erase_put_self, erased, holds.context]

theorem Leads.of_pause {v : Value} {o : Outcome} {work : State F} {context : Fields}
    (comes : foreseen (computed fn) fr ⟨p, kept⟩ =
      foreseenFrom fr id (.action handler ⟨done, failed, some (feedbackId id)⟩ none)
        (reacted id ⟨p, kept⟩ (.action handler ⟨done, failed, some (feedbackId id)⟩ none) (.ok v)))
    (reads : Outcome.read id v = .ok o) (waits : o.status = "feedback") (page : o.page = none)
    (found : fr.graph.state? id = some work) (isWork' : isWork work = true)
    (pause : fr.graph.state? (feedbackId id) = some (.feedback previousState)) (named : id ≠ "")
    (holds : Holds scene rounds id p)
    (erased : Fields.erase replyKey (Fields.overlay p.context (o.data.getD [])) = context)
    (unread : readReply none (Fields.overlay p.context (o.data.getD [])) = none)
    (last : scene.replies = [] → close = ⟨.feedback, none, context, scene.pages, false⟩)
    (again : ∀ reply rest q, scene.replies = reply :: rest →
      Holds ⟨context, none, rest, scene.pages⟩ rounds id q →
      Leads fn fr close ⟨q, some reply⟩ scene.pages rest) :
    Leads fn fr close ⟨p, kept⟩ scene.pages scene.replies := by
  obtain ⟨shape, pauses⟩ := foreseen_pause comes reads waits pause named holds.attempts
  have same : scene.pages ++ o.page.toList = scene.pages := by simp [page]
  cases left : scene.replies with
  | nil =>
      cases last left
      exact ⟨0, .closes pauses ⟨rfl, holds.lastError, erased, fun _ => same, .inr ⟨rfl, rfl⟩,
        fun _ => .inl rfl⟩⟩
  | cons reply rest =>
      have worded : ∀ later ∈ rest, Text.isBlankText later = false := by
        intro later inside
        refine holds.worded later ?_
        rw [left]
        exact List.mem_cons_of_mem _ inside
      obtain ⟨k, course⟩ := again reply rest _ left (holds.resumed (o := o) erased unread worded)
      have stands : StandsAt fr.graph (atPause p id o) id work := standsAt_here rfl named found
      have begins := Course.begins (s := ⟨atPause p id o, some reply⟩) stands isWork' nofun course
      refine ⟨k + 1 + 1, .resumes pauses rfl ?_⟩
      simp only [same]
      exact begins

/-! ## Questions preserve meaning -/

variable {prompt parse : Slot F}

theorem promptValue_blind (blind : ∀ f scope, prompt = .code f scope → Blind fn f)
    (context : Fields) :
    promptValue fn context prompt = promptValue fn (Fields.erase replyKey context) prompt := by
  cases prompt with
  | code f scope => exact blind f scope rfl context none
  | _ => rfl

theorem readingFor_blind (reads : ∀ f scope, parse = .code f scope → Blind fn f ∧ Mute fn f)
    (context : Fields) (reply : String) :
    readingFor fn context reply parse =
      readingFor fn (Fields.erase replyKey context) reply parse := by
  cases parse with
  | code f scope =>
      simp only [readingFor]
      rw [(reads f scope rfl).1]
  | _ => rfl

theorem reading_silent (reads : ∀ f scope, parse = .code f scope → Blind fn f ∧ Mute fn f)
    {context : Fields} {reply : String} {reading : Reading}
    (came : readingFor fn context reply parse = .ok reading) :
    Fields.get? replyKey reading.fields = none := by
  cases parse with
  | absent =>
      cases came
      rfl
  | code f scope =>
      simp only [readingFor] at came
      cases answered : fn f context (some reply) with
      | error e =>
          rw [answered] at came
          cases came
      | ok v =>
          rw [answered] at came
          exact (reads f scope rfl).2 context (some reply) v reading answered came
  | named text => cases came
  | inert v => cases came

theorem Leads.of_unread (scene : Scene) {v : Value} {cause : FatalCause} {routes : ActionRoutes}
    (comes : foreseen (computed fn) fr s = foreseenFrom fr id (.action handler routes none)
      (reacted id s (.action handler routes none) (.ok v)))
    (unread : Outcome.read id v = .error cause)
    (context : Fields.erase replyKey s.progress.context = scene.context)
    (first : s.progress.attempts = [])
    (closes : Follows fn fr close rounds next (scene.givesUp cause)) :
    Leads fn fr close s scene.pages script := by
  have attempt : attempted id 1 s (.ok v) = ⟨s, [], .error (.fatal cause none)⟩ := by
    simp only [attempted, unread]
  have broken : (attempted id 1 s (.ok v)).result = .error (.fatal cause none) := by rw [attempt]
  have judgement : reacted id s (.action handler routes none) (.ok v) = _ :=
    actionReacted_of_error (attemptNumber_first first) broken
  have whole : reacted id s (.action handler routes none) (.ok v) =
      ⟨s, [], .error (.fatal cause none)⟩ := by
    rw [attempt] at judgement
    exact judgement
  rw [whole] at comes
  exact .of_givenUp scene comes context (congrArg Result.rested closes)

theorem read_waiting {shown : Value} (id : String) (fields : Fields) (words : isWords shown = true) :
    ∃ message, Outcome.read id (.result (.str "feedback") (.dict fields) shown .null) =
      .ok ⟨"feedback", some fields, message, none⟩ := by
  cases shown with
  | null => exact ⟨none, rfl⟩
  | str text => exact ⟨some text, rfl⟩
  | _ => cases words

theorem read_wordless {fields : Fields} {shown : Value} (id : String)
    (wordless : isWords shown = false) :
    Outcome.read id (.result (.str "feedback") (.dict fields) shown .null) =
      .error (.messageNotText id) := by
  cases shown with
  | null => cases wordless
  | str text => cases wordless
  | _ => rfl

theorem shownAgain_wordless {asked message : Value} (wordless : isWords message = false) :
    shownAgain asked message = message := by
  cases message with
  | null => cases wordless
  | str text => cases wordless
  | _ => rfl

/-- The state of a question, and the pause that goes with it. -/
structure Questioned (g : Graph F) (id next : String) (prompt parse : Slot F) : Prop where
  named : id ≠ ""
  found : g.state? id = some (.action (.ask prompt (readerOf parse))
    ⟨some next, some failedId, some (feedbackId id)⟩ none)
  pause : g.state? (feedbackId id) = some (.feedback previousState)
  failed : g.state? failedId = some (.terminal .failed none)

def questionState (next id : String) (prompt parse : Slot F) : State F :=
  .action (.ask prompt (readerOf parse)) ⟨some next, some failedId, some (feedbackId id)⟩ none

theorem questionAnswer_blind {found : Option String}
    (blind : ∀ f scope, prompt = .code f scope → Blind fn f)
    (reads : ∀ f scope, parse = .code f scope → Blind fn f ∧ Mute fn f) (context : Fields) :
    questionAnswer fn id prompt parse context found =
      questionAnswer fn id prompt parse (Fields.erase replyKey context) found := by
  cases found with
  | none =>
      simp only [questionAnswer]
      rw [promptValue_blind blind]
  | some reply =>
      simp only [questionAnswer]
      rw [promptValue_blind blind, readingFor_blind reads]

theorem Questioned.comes {found : Option String} (state : Questioned fr.graph id next prompt parse)
    (blind : ∀ f scope, prompt = .code f scope → Blind fn f)
    (reads : ∀ f scope, parse = .code f scope → Blind fn f ∧ Mute fn f)
    (holds : Holds scene rounds id p) (isReply : readReply kept p.context = found) :
    foreseen (computed fn) fr ⟨p, kept⟩ =
      foreseenFrom fr id (questionState next id prompt parse)
        (reacted id ⟨p, kept⟩ (questionState next id prompt parse)
          (questionAnswer fn id prompt parse scene.context found)) := by
  have comes : foreseen (computed fn) fr ⟨p, kept⟩ = _ :=
    foreseen_of_question _ _ (standsAt_here holds.here state.named state.found) rfl holds.running rfl
  have answers := ask_answers fn (Stance.handlerInput ⟨p, kept⟩ fr id (p.attemptNumber id)) prompt
    parse
  have isReply' : readReply (Stance.handlerInput ⟨p, kept⟩ fr id (p.attemptNumber id)).feedback
      (Stance.handlerInput ⟨p, kept⟩ fr id (p.attemptNumber id)).context = found := isReply
  rw [isReply'] at answers
  have given : recite (computed fn) (.handler (.ask prompt (readerOf parse))
      (Stance.handlerInput ⟨p, kept⟩ fr id (p.attemptNumber id))) =
      questionAnswer fn id prompt parse p.context found := answers
  rw [questionAnswer_blind blind reads, holds.context] at given
  rw [comes]
  exact congrArg (fun answer => foreseenFrom fr id (questionState next id prompt parse)
    (reacted id ⟨p, kept⟩ (questionState next id prompt parse) answer)) given

/-- One answer leads on if every later one does. -/
theorem answered_once {reply : String} (state : Questioned fr.graph id next prompt parse)
    (blind : ∀ f scope, prompt = .code f scope → Blind fn f)
    (reads : ∀ f scope, parse = .code f scope → Blind fn f ∧ Mute fn f)
    (holds : Holds scene rounds id p) (isReply : readReply kept p.context = some reply)
    (later : ∀ reply rest context q, scene.replies = reply :: rest →
      Holds ⟨context, none, rest, scene.pages⟩ rounds id q →
      Follows fn fr close rounds next
        (answered fn id prompt parse scene.pages rest context (Text.strip reply)) →
      Leads fn fr close ⟨q, some reply⟩ scene.pages rest)
    (follows : Follows fn fr close rounds next
      (answered fn id prompt parse scene.pages scene.replies scene.context reply)) :
    Leads fn fr close ⟨p, kept⟩ scene.pages scene.replies := by
  have comes := state.comes blind reads holds isReply
  rw [answered] at follows
  simp only [questionAnswer] at comes
  cases prompted : promptValue fn scene.context prompt with
  | error e =>
      rw [prompted] at comes follows
      exact .of_raise ⟨scene.context, none, scene.replies, scene.pages⟩ comes rfl
        state.failed holds.running holds.attempts holds.context follows
  | ok asked =>
      rw [prompted] at comes follows
      simp only [Except.bind] at comes follows
      cases came : readingFor fn scene.context reply parse with
      | error e =>
          simp only [came] at comes follows
          exact .of_raise ⟨scene.context, none, scene.replies, scene.pages⟩ comes rfl
            state.failed holds.running holds.attempts holds.context follows
      | ok reading =>
          have silent := reading_silent reads came
          obtain ⟨erased, unread⟩ := used_up holds silent
          simp only [came] at comes follows
          cases reading with
          | changes fields =>
              simp only [readingReport] at comes
              refine .of_done comes (read_done id _) rfl rfl holds.running ?_ holds.attempts
              have consumed : Fields.get? replyKey (Fields.put replyKey .null fields) = some .null :=
                Fields.get?_put_self
              simp only [Stance.observe, Option.bind_some, consumed, Option.isSome_some, if_true,
                Option.toList_none, List.append_nil]
              refine follows _ ?_
              exact holds.done rfl erased unread holds.worded
          | again message changes =>
              simp only [readingReport] at comes
              dsimp only at follows
              by_cases words : isWords (shownAgain asked message) = true
              · have told : isWords message = true := by
                  cases said : isWords message with
                  | true => rfl
                  | false =>
                      rw [shownAgain_wordless said, said] at words
                      cases words
                rw [if_pos told] at comes
                rw [if_pos words] at follows
                obtain ⟨shown, read⟩ := read_waiting id (Fields.put replyKey .null changes) words
                refine .of_pause comes read rfl rfl state.found rfl state.pause state.named holds
                  erased unread ?_ ?_
                · intro left
                  rw [left] at follows
                  exact follows.symm
                · intro reply' rest q left holds'
                  simp only [left] at follows
                  exact later reply' rest _ q left holds' follows
              · rw [if_neg words] at follows
                by_cases told : isWords message = true
                · rw [if_pos told] at comes
                  have wordless : isWords (shownAgain asked message) = false := by
                    simpa using words
                  exact .of_unread ⟨scene.context, none, scene.replies, scene.pages⟩
                    comes (read_wordless id wordless) holds.context holds.attempts follows
                · rw [if_neg told] at comes
                  exact .of_givenUp ⟨scene.context, none, scene.replies, scene.pages⟩
                    comes holds.context (congrArg Result.rested follows)

theorem answered_leads {reply : String} (state : Questioned fr.graph id next prompt parse)
    (blind : ∀ f scope, prompt = .code f scope → Blind fn f)
    (reads : ∀ f scope, parse = .code f scope → Blind fn f ∧ Mute fn f)
    (holds : Holds scene rounds id p) (isReply : readReply kept p.context = some reply)
    (follows : Follows fn fr close rounds next
      (answered fn id prompt parse scene.pages scene.replies scene.context reply)) :
    Leads fn fr close ⟨p, kept⟩ scene.pages scene.replies := by
  generalize left : scene.replies = replies
  induction replies generalizing scene p kept reply with
  | nil =>
      rw [← left]
      refine answered_once state blind reads holds isReply ?_ follows
      intro reply' rest context q more
      rw [left] at more
      cases more
  | cons reply' rest ih =>
      rw [← left]
      refine answered_once state blind reads holds isReply ?_ follows
      intro reply'' rest' context q more holds' follows'
      rw [left] at more
      cases more
      have words : Text.isBlankText reply' = false := by
        refine holds.worded reply' ?_
        rw [left]
        exact List.mem_cons_self
      have given := readReply_given words q.context
      exact @ih ⟨context, none, rest, scene.pages⟩ q (some reply') _ holds' given follows' rfl

theorem shown_leads (state : Questioned fr.graph id next prompt parse)
    (blind : ∀ f scope, prompt = .code f scope → Blind fn f)
    (reads : ∀ f scope, parse = .code f scope → Blind fn f ∧ Mute fn f)
    (holds : Holds scene rounds id p) (unread : scene.kept = none)
    (follows : Follows fn fr close rounds next (asked fn id prompt parse scene)) :
    Leads fn fr close ⟨p, none⟩ scene.pages scene.replies := by
  have isReply : readReply none p.context = none := holds.kept.trans unread
  have comes := state.comes blind reads holds isReply
  simp only [questionAnswer] at comes
  simp only [asked, unread] at follows
  cases prompted : promptValue fn scene.context prompt with
  | error e =>
      rw [prompted] at comes follows
      exact .of_raise scene comes rfl state.failed holds.running holds.attempts holds.context follows
  | ok shown =>
      rw [prompted] at comes
      simp only [prompted] at follows
      by_cases words : isWords shown = true
      · rw [if_pos words] at follows
        obtain ⟨message, read⟩ := read_waiting id [(.text replyKey, .null)] words
        have nothing : Fields.get? replyKey [] = none := rfl
        obtain ⟨erased, silent⟩ := used_up holds nothing
        refine .of_pause comes read rfl rfl state.found rfl state.pause state.named holds erased
          silent ?_ ?_
        · intro left
          rw [left] at follows
          exact follows.symm
        · intro reply rest q left holds'
          simp only [left] at follows
          have given := readReply_given (holds.worded reply (by rw [left]; exact List.mem_cons_self))
            q.context
          exact answered_leads state blind reads holds' given follows
      · rw [if_neg words] at follows
        have wordless : isWords shown = false := by simpa using words
        exact .of_unread scene comes (read_wordless id wordless) holds.context holds.attempts follows

/-- A question leads where asking leads. -/
theorem ask_arrives (state : Questioned fr.graph id next prompt parse)
    (blind : ∀ f scope, prompt = .code f scope → Blind fn f)
    (reads : ∀ f scope, parse = .code f scope → Blind fn f ∧ Mute fn f)
    (holds : Holds scene rounds id p)
    (follows : Follows fn fr close rounds next (asked fn id prompt parse scene)) :
    Arrives fn fr close none ⟨p, none⟩ id scene.pages scene.replies := by
  refine .onward state.found rfl rfl ?_
  cases kept : scene.kept with
  | none => exact shown_leads state blind reads holds kept follows
  | some reply =>
      simp only [asked, kept] at follows
      exact answered_leads state blind reads holds (holds.kept.trans kept) follows

end

end Pipe

end Tickwork

import Tickwork.Proofs.Pipe.Courses
import Tickwork.Proofs.Pipe.Layout
import Tickwork.Proofs.Replies.Key

/-!
# Visits of the nodes of a pipe

`Holds` relates a scene of the tree and the progress of a task at a state. For each kind of node, a visit
of its state leads where running the node leads.
-/

set_option autoImplicit false

namespace Tickwork

variable {F : Type}

namespace Pipe

open Engine

/-- A task under way at a state, with the context of a scene and given rounds of loops. -/
structure Holds (scene : Scene) (rounds : Counters) (here : String) (p : Progress) : Prop where
  running : p.lifecycle = .running
  here : p.currentStateId = some here
  context : Fields.erase replyKey p.context = scene.context
  kept : readReply none p.context = scene.kept
  attempts : p.attempts = []
  rounds : p.loopIterations = rounds
  lastError : p.lastError = none
  worded : ∀ reply ∈ scene.replies, Text.isBlankText reply = false

/-- Where a result leads from `next` on: what follows from there, or the close itself. -/
def Follows (fn : Functions F) (fr : Frame F) (close : Close) (rounds : Counters) (next : String) :
    Result → Prop
  | .onward scene => ∀ p, Holds scene rounds next p →
      Arrives fn fr close none ⟨p, none⟩ next scene.pages scene.replies
  | .rested close' => close' = close

section

variable {fn : Functions F} {fr : Frame F} {close : Close} {scene : Scene} {rounds : Counters}
variable {id next : String} {p : Progress} {s : Stance} {handler : Handler F}
variable {routes : ActionRoutes} {answer : Except Raised Value} {script : List String}

theorem standsAt_here {node : State F} (here : p.currentStateId = some id) (named : id ≠ "")
    (found : fr.graph.state? id = some node) : StandsAt fr.graph p id node :=
  ⟨position_of_current here named, found⟩

/-! ## Actions -/

theorem action_done (routes : ActionRoutes) :
    (State.action handler routes none).target? "done" = routes.done := rfl

theorem action_failed (routes : ActionRoutes) :
    (State.action handler routes none).target? "failed" = routes.failed := rfl

theorem attemptNumber_first (first : p.attempts = []) : p.attemptNumber id = 1 := by
  unfold Progress.attemptNumber
  rw [first]
  rfl

theorem actionReacted_once {a : Attempt} (first : s.progress.attempts = [])
    (came : (attempted id 1 s answer).result = .ok a) :
    actionReacted id none s answer =
      ⟨⟨(concluded id (attemptLimit none) 1 (attempted id 1 s answer).after.progress a).2,
          (attempted id 1 s answer).after.feedback⟩,
        (attempted id 1 s answer).pages,
        (concluded id (attemptLimit none) 1 (attempted id 1 s answer).after.progress a).1⟩ :=
  actionReacted_of_ok (attemptNumber_first first) came rfl

theorem reacted_raised {kind : ErrorKind} {text : String} (first : s.progress.attempts = []) :
    reacted id s (.action handler routes none) (.error (.error kind text)) =
      ⟨⟨Progress.clearAttempts
          { s.progress with lastError := some (Raised.error kind text).described } id, s.feedback⟩,
        [], .ok (.leave (exhaustedStep 1 (Raised.error kind text).described))⟩ := by
  have spent : (Value.int 0).roomFrom 1 = 0 := rfl
  have came : (attempted id 1 s (.error (.error kind text))).result =
      .ok (.failed .attemptError (Raised.error kind text).described) := rfl
  have concludes : concluded id (attemptLimit none) 1 s.progress
      (.failed .attemptError (Raised.error kind text).described) = _ := concluded_exhausted spent
  exact actionReacted_of_ok (attemptNumber_first first) came concludes

theorem reacted_fatal {cause : FatalCause} {taskId : Option String} :
    reacted id s (.action handler routes none) (.error (.fatal cause taskId)) =
      ⟨s, [], .error (.fatal cause taskId)⟩ := rfl

theorem described_ne_empty (kind : ErrorKind) (text : String) :
    (Raised.error kind text).described ≠ "" := by
  by_cases empty : text = ""
  · simp only [Raised.described, empty, if_true]
    cases kind <;> decide
  · simp only [Raised.described, empty, if_false]
    exact empty

theorem Leads.of_raise (scene : Scene) {e : Raised}
    (comes : foreseen (computed fn) fr s = foreseenFrom fr id (.action handler routes none)
      (reacted id s (.action handler routes none) (.error e)))
    (fails : routes.failed = some failedId)
    (failed : fr.graph.state? failedId = some (.terminal .failed none))
    (running : s.progress.lifecycle = .running) (first : s.progress.attempts = [])
    (context : Fields.erase replyKey s.progress.context = scene.context)
    (closes : Follows fn fr close rounds next (scene.raises e)) :
    Leads fn fr close s scene.pages script := by
  cases e with
  | fatal cause taskId =>
      rw [reacted_fatal] at comes
      exact .of_givenUp scene comes context (congrArg Result.rested closes)
  | error kind text =>
      rw [reacted_raised first] at comes
      have routed : (State.action handler routes none).target? "failed" = some failedId := by
        rw [action_failed, fails]
      refine .of_leave comes rfl routed running (.ended failed ?_)
      have words : firstWords [none, some (Raised.error kind text).described,
          some (Raised.error kind text).described] s!"Terminal state: {EndStatus.failed.name}" =
          (Raised.error kind text).described := by
        simp [firstWords, firstNonempty, described_ne_empty kind text]
      cases closes
      refine ⟨rfl, ?_, context, fun _ => List.append_nil _, .inl rfl, fun _ => .inr rfl⟩
      exact congrArg some words

theorem Leads.of_done {v : Value} {o : Outcome}
    (comes : foreseen (computed fn) fr s = foreseenFrom fr id (.action handler routes none)
      (reacted id s (.action handler routes none) (.ok v)))
    (reads : Outcome.read id v = .ok o) (done : o.status = "done")
    (goes : routes.done = some next) (running : s.progress.lifecycle = .running)
    (arrives : Arrives fn fr close o.message
      ⟨(Progress.moved (Progress.settled s.progress id o) (settledStep 1 o) next).unwaited,
        (s.observe o).feedback⟩ next (scene.pages ++ o.page.toList) script)
    (first : s.progress.attempts = []) : Leads fn fr close s scene.pages script := by
  have attempt : attempted id 1 s (.ok v) = ⟨s.observe o, o.page.toList, .ok (.settled o)⟩ := by
    simp [attempted, reads, judged, done, actionEvents]
  have came : (attempted id 1 s (.ok v)).result = .ok (.settled o) := by rw [attempt]
  have judgement := actionReacted_once first came
  have whole : reacted id s (.action handler routes none) (.ok v) =
      ⟨⟨Progress.settled s.progress id o, (s.observe o).feedback⟩, o.page.toList,
        .ok (.leave (settledStep 1 o))⟩ := by
    rw [attempt] at judgement
    exact judgement
  rw [whole] at comes
  have routed : (State.action handler routes none).target? (settledStep 1 o).event = some next := by
    have event : (settledStep 1 o).event = "done" := done
    rw [event, action_done, goes]
  have still : (Progress.settled s.progress id o).lifecycle = .running := by
    simp only [Progress.settled, done, if_true]
    exact running
  exact .of_leave comes rfl routed still arrives

theorem Holds.done {o : Outcome} {scene' : Scene} (holds : Holds scene rounds id p)
    (done : o.status = "done")
    (context : Fields.erase replyKey (Fields.overlay p.context (o.data.getD [])) = scene'.context)
    (kept : readReply none (Fields.overlay p.context (o.data.getD [])) = scene'.kept)
    (worded : ∀ reply ∈ scene'.replies, Text.isBlankText reply = false) :
    Holds scene' rounds next
      (Progress.moved (Progress.settled p id o) (settledStep 1 o) next).unwaited := by
  simp only [Progress.settled, done, if_true]
  refine ⟨holds.running, rfl, context, kept, ?_, holds.rounds, rfl, worded⟩
  have none_left : (Progress.clearAttempts p id).attempts = [] := by
    simp [Progress.clearAttempts, holds.attempts, Sorted.erase]
  exact none_left

theorem Holds.changed {fields : Fields} (holds : Holds scene rounds id p)
    (silent : Fields.get? replyKey fields = none) :
    Fields.erase replyKey (Fields.overlay p.context fields) = (scene.changed fields).context ∧
      readReply none (Fields.overlay p.context fields) = (scene.changed fields).kept := by
  obtain ⟨erased, same⟩ := Fields.overlay_silent p.context silent
  refine ⟨?_, ?_⟩
  · rw [erased, holds.context]
    rfl
  · rw [readReply_congr same none]
    exact holds.kept

/-! ## Steps, pages and ends -/

theorem read_done (id : String) (fields : Fields) :
    Outcome.read id (.result (.str "done") (.dict fields) .null .null) =
      .ok ⟨"done", some fields, none, none⟩ := rfl

theorem step_arrives {run : F} {name : Option String} {nums : Numbering}
    (failed : fr.graph.state? failedId = some (.terminal .failed none))
    (found : fr.graph.state? id =
      some (.action (.merge run) ⟨some next, some failedId, none⟩ none))
    (named : id ≠ "") (blind : Blind fn run) (mute : Mute fn run) (holds : Holds scene rounds id p)
    (follows : Follows fn fr close rounds next ((Node.step run name).eval fn nums scene)) :
    Arrives fn fr close none ⟨p, none⟩ id scene.pages scene.replies := by
  refine .onward found rfl rfl ?_
  have comes := foreseen_of_question (computed fn) ⟨p, none⟩
    (standsAt_here holds.here named found) rfl holds.running rfl
  have answered : recite (computed fn) (.handler (.merge run)
      (Stance.handlerInput ⟨p, none⟩ fr id (p.attemptNumber id))) =
      (fn run p.context none).bind fun v => v.toFields.map fun fields =>
        .result (.str "done") (.dict fields) .null .null := rfl
  rw [blind, holds.context] at answered
  simp only [Node.eval] at follows
  cases ran : fn run scene.context none with
  | error e =>
      rw [ran] at answered follows
      rw [answered] at comes
      exact .of_raise scene comes rfl failed holds.running holds.attempts holds.context follows
  | ok v =>
      rw [ran] at answered follows
      cases laid : v.toFields with
      | error e =>
          simp only [Except.bind, laid, Except.map] at answered follows
          rw [answered] at comes
          exact .of_raise scene comes rfl failed holds.running holds.attempts holds.context follows
      | ok fields =>
          simp only [Except.bind, laid, Except.map] at answered follows
          rw [answered] at comes
          have silent : Fields.get? replyKey fields = none := by
            refine mute scene.context none v (.changes fields) ran ?_
            unfold readingOf
            split
            · cases laid
            · rw [laid]
              rfl
          obtain ⟨context, kept⟩ := holds.changed silent
          have arrives := follows _ (holds.done (o := ⟨"done", some fields, none, none⟩) rfl context
            kept holds.worded)
          refine .of_done comes (read_done id fields) rfl rfl holds.running ?_ holds.attempts
          simpa [Stance.observe, Scene.changed] using arrives

theorem optional_of_page {v page : Value} (reads : readPage v = .ok page) :
    Outcome.optional page = some page := by
  have shown : page ≠ .null := by
    rintro rfl
    unfold readPage at reads
    repeat' split at reads
    all_goals cases reads
  unfold Outcome.optional
  split
  · exact absurd rfl shown
  · rfl

theorem read_page {v page : Value} (id : String) (reads : readPage v = .ok page) :
    Outcome.read id (.result (.str "done") .null .null page) =
      .ok ⟨"done", none, none, some page⟩ := by
  rw [← optional_of_page reads]
  rfl

theorem write_arrives {render : F} {name : Option String} {nums : Numbering}
    (failed : fr.graph.state? failedId = some (.terminal .failed none))
    (found : fr.graph.state? id =
      some (.action (.publish (.code render .context)) ⟨some next, some failedId, none⟩ none))
    (named : id ≠ "") (blind : Blind fn render) (holds : Holds scene rounds id p)
    (follows : Follows fn fr close rounds next ((Node.write render name).eval fn nums scene)) :
    Arrives fn fr close none ⟨p, none⟩ id scene.pages scene.replies := by
  refine .onward found rfl rfl ?_
  have comes := foreseen_of_question (computed fn) ⟨p, none⟩
    (standsAt_here holds.here named found) rfl holds.running rfl
  have answered : recite (computed fn) (.handler (.publish (.code render .context))
      (Stance.handlerInput ⟨p, none⟩ fr id (p.attemptNumber id))) =
      (fn render p.context none).bind fun v => ((readPage v).mapError (.fatal · none)).map
        fun page => .result (.str "done") .null .null page := rfl
  rw [blind, holds.context] at answered
  simp only [Node.eval] at follows
  cases shown : fn render scene.context none with
  | error e =>
      rw [shown] at answered follows
      rw [answered] at comes
      exact .of_raise scene comes rfl failed holds.running holds.attempts holds.context follows
  | ok v =>
      rw [shown] at answered follows
      cases reads : readPage v with
      | error cause =>
          simp only [Except.bind, reads] at answered follows
          change _ = Except.error (Raised.fatal cause none) at answered
          rw [answered] at comes
          have closes : Follows fn fr close rounds next (scene.raises (.fatal cause none)) := follows
          exact .of_raise scene comes rfl failed holds.running holds.attempts holds.context closes
      | ok page =>
          simp only [Except.bind, reads] at answered follows
          change _ = Except.ok (Value.result (.str "done") .null .null page) at answered
          rw [answered] at comes
          have arrives := follows _ (holds.done (o := ⟨"done", none, none, some page⟩) rfl
            holds.context holds.kept holds.worded)
          refine .of_done comes (read_page id reads) rfl rfl holds.running ?_ holds.attempts
          simpa [Stance.observe] using arrives

theorem finish_arrives {status : EndStatus} {message : Option String} {nums : Numbering}
    (found : fr.graph.state? id = some (.terminal status message))
    (holds : Holds scene rounds id p)
    (follows : Follows fn fr close rounds next
      ((Node.finish status message).eval fn nums scene)) :
    Arrives fn fr close none ⟨p, none⟩ id scene.pages scene.replies := by
  have words : firstWords [message, none, p.lastError] s!"Terminal state: {status.name}" =
      Node.nameOr s!"Terminal state: {status.name}" message := by
    rw [holds.lastError]
    cases message with
    | none => rfl
    | some text =>
        by_cases empty : text = ""
        · simp [firstWords, Node.nameOr, firstNonempty, empty]
        · simp [firstWords, Node.nameOr, firstNonempty, empty]
  cases follows
  refine .ended found ⟨rfl, ?_, holds.context, fun _ => rfl, ?_, fun _ => .inr rfl⟩
  · simp only [Progress.atEnd, words]
  · cases status <;> exact .inl rfl

end

end Pipe

end Tickwork

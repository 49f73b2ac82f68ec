import Tickwork.Proofs.Failures.Verdicts
import Tickwork.Proofs.Passes

/-!
# What a tick gathers

A tick collects the pages of the answers that it accepts and counts its transitions, and reports both when
it ends. `Turned` is one turn with its write as `Pass` has it, together with what the tick has collected by
then. Main statement: an advance that reports is a run of such turns, and reports what was collected when
the last of them was over. An advance that gives its task up reports nothing of it.
-/

set_option autoImplicit false

namespace Tickwork

variable {F W : Type}

/-! ## Reports -/

/-- The stage of a task that an ending leaves behind. -/
def Ending.stage : Ending → Lifecycle
  | .done => .done
  | .blocked => .blocked
  | .failed => .failed
  | .feedback => .feedback
  | .budgetExhausted => .running

/-- What is reported where a tick stops: what it has collected, and the stage of its task. -/
structure Finish.Sums (finish : Finish) (t : Tick) : Prop where
  tells : finish.Tells t
  ending : finish.ending = .ofLifecycle t.progress.lifecycle

theorem Finish.Sums.stage {finish : Finish} {t : Tick} (sums : finish.Sums t)
    (begun : t.progress.lifecycle ≠ .queued) : t.progress.lifecycle = finish.ending.stage := by
  rw [sums.ending]
  cases stage : t.progress.lifecycle with
  | queued => exact absurd stage begun
  | _ => rfl

namespace Engine

open Tickwork.Action

variable {h : Host F W} {fr : Frame F} {live middle after : Live W}

/-! ## Turns -/

/-- A row that follows from an answer, as `Due` has it, with the pages that came with the answer. -/
structure Yields (h : Host F W) (fr : Frame F) (a : Spot W) (row : Transition) (s : Stance)
    (pages : List Value) (w : W) : Prop where
  asked : ∃ id node q j verdict now world, Asked h fr a id node q j world ∧
    j.result = .ok verdict ∧ s.feedback = j.after.feedback ∧
    landed fr.graph id node now j.after.progress verdict = .ok (row.shape, s.progress) ∧
    Idles h world w ∧ pages = j.pages
  owner : row.taskId = s.progress.taskId

theorem Due.yields {a : Spot W} {row : Transition} {s : Stance} {w : W} (due : Due h fr a row s w) :
    ∃ pages, Yields h fr a row s pages w := by
  obtain ⟨⟨id, node, q, j, verdict, now, world, asked, decided, reply, lands, idles⟩, owner⟩ := due
  exact ⟨j.pages, ⟨id, node, q, j, verdict, now, world, asked, decided, reply, lands, idles, rfl⟩, owner⟩

/-- A tick after a row was recorded: it has its pages besides, and counts it if it moves the task. -/
def Tick.recorded (t : Tick) (row : Transition) (s : Stance) (pages : List Value)
    (events : List Transition) : Tick where
  progress := s.progress
  feedback := s.feedback
  events := events
  pages := t.pages ++ pages
  transitions := t.transitions + if row.moves then 1 else 0

/-- One turn of a tick, with a write that succeeded, and what the tick has collected after it. -/
inductive Turned (h : Host F W) (fr : Frame F) (a : Live W) : Live W → Prop
  | unasked {p : Progress} {w w' : W} (plain : Unasked h fr a.spot p w)
      (wrote : (h.checkpoint p).run w = (.ok (), w')) :
      Turned h fr a ⟨{ a.tick with progress := p }, w'⟩
  | visit {row : Transition} {s : Stance} {pages : List Value} {w w' w'' : W}
      {events : List Transition} (yields : Yields h fr a.spot row s pages w)
      (wrote : (h.record row s.progress).run w = (.ok (), w')) (waits : Idles h w' w'') :
      Turned h fr a ⟨Tick.recorded a.tick row s pages events, w''⟩

/-- A run of turns. -/
abbrev Turns (h : Host F W) (fr : Frame F) : Live W → Live W → Prop :=
  Relation.ReflTransGen (Turned h fr)

/-- Every pass is a turn of a tick that stands where the pass begins. -/
theorem Pass.turned {b : Spot W} (pass : Pass h fr live.spot b) :
    ∃ live', live'.spot = b ∧ Turned h fr live live' := by
  cases pass with
  | unasked plain wrote => exact ⟨_, rfl, .unasked plain wrote⟩
  | visit due wrote waits =>
      obtain ⟨pages, yields⟩ := due.yields
      exact ⟨⟨Tick.recorded live.tick _ _ pages [], _⟩, rfl, .visit yields wrote waits⟩

/-! ## Counts -/

theorem Unasked.count {a : Spot W} {p : Progress} {w : W} (plain : Unasked h fr a p w) :
    p.transitionCount = a.stance.progress.transitionCount := by
  cases plain <;> rfl

/-- A row counts as a transition exactly if the progress that is kept with it has one more. -/
theorem Yields.count {a : Spot W} {row : Transition} {s : Stance} {pages : List Value} {w : W}
    (yields : Yields h fr a row s pages w) :
    s.progress.transitionCount =
      a.stance.progress.transitionCount + if row.moves then 1 else 0 := by
  obtain ⟨id, node, q, j, verdict, now, world, asked, decided, -, lands, -, -⟩ := yields.asked
  have judged := asked.judged
  subst judged
  have place := (reacted_samePlace id a.stance node (q.ask h.behaviour a.world).1).transitionCount
  have landing := landing_of_landed lands
  generalize shown : row.shape = shape at landing
  generalize s.progress = p at landing
  cases landing with
  | again reason attempt =>
      have stays : row.moves = false := by
        have known : row.reason = .known reason := congrArg Shape.reason shown
        simp [Transition.moves, known, reacted_again_reason decided]
      rw [place, stays]
      simp
  | @left step target targetNode p leads found arrives =>
      have moves : row.moves = true := by
        have known : row.reason = .known step.reason := congrArg Shape.reason shown
        simp [Transition.moves, known, reacted_leave_reason decided]
      have moved : p.transitionCount =
          (reacted id a.stance node (q.ask h.behaviour a.world).1).after.progress.transitionCount + 1 := by
        cases arrives <;> rfl
      rw [moved, place, moves]
      rfl

/-- What a turn adds to the count of a task it adds to the transitions of the tick. -/
theorem Turned.count (turned : Turned h fr live after) :
    after.tick.progress.transitionCount + live.tick.transitions =
      live.tick.progress.transitionCount + after.tick.transitions := by
  cases turned with
  | unasked plain wrote => exact congrArg (· + (live.tick.transitions : Int)) plain.count
  | visit yields wrote waits =>
      have counted : _ = live.tick.progress.transitionCount + _ := yields.count
      simp only [Tick.recorded, counted]
      split <;> omega

theorem Turns.count (turns : Turns h fr live after) :
    after.tick.progress.transitionCount + live.tick.transitions =
      live.tick.progress.transitionCount + after.tick.transitions := by
  induction turns with
  | refl => rfl
  | tail _ last ih =>
      have step := last.count
      omega

/-! ## Stages -/

/-- Where a visit of a task under way lands, the task is not at the beginning of its life. -/
theorem begun_of_landing {g : Graph F} {id : String} {node : State F} {now : Instant} {p q : Progress}
    {verdict : Verdict} {shape : Shape} (running : p.lifecycle = .running)
    (landing : Landing g id node now p verdict shape q) : q.lifecycle ≠ .queued := by
  cases landing with
  | again reason attempt => simp [running]
  | left leads found arrives =>
      cases arrives with
      | ended status message => cases status <;> exact nofun
      | paused resumes => exact nofun
      | onward work => simp [Progress.moved, Progress.merge, running]

/-- After a turn no task is at the beginning of its life any more. -/
theorem Turned.begun (turned : Turned h fr live after) : after.tick.progress.lifecycle ≠ .queued := by
  cases turned with
  | unasked plain wrote =>
      cases plain with
      | begin => exact nofun
      | @halt id status message => cases status <;> exact nofun
      | rest => exact nofun
  | visit yields wrote waits =>
      obtain ⟨id, node, q, j, verdict, now, world, asked, -, -, lands, -, -⟩ := yields.asked
      exact begun_of_landing asked.under_way (landing_of_landed lands)

/-! ## Visits that lead out of a state -/

/-- A visit after some turns led out of its state by a step; the tick has taken its answer. -/
def LeftBy (h : Host F W) (fr : Frame F) (id : String) (node : State F) (live : Live W) (step : Step)
    (after : Live W) : Prop :=
  ∃ middle q j w, Turns h fr live middle ∧ Asked h fr middle.spot id node q j w ∧
    j.result = .ok (.leave step) ∧ after = ⟨middle.tick.taken j.after j.pages, w⟩

section Attempts

variable {id : String} {handler callable : Handler F} {routes : ActionRoutes}
variable {retry : Option RetryPolicy} {n : Int} {step : Step}

/-- A failed attempt that was tried again was recorded in a turn. -/
theorem again_turned {taken : Live W} {q : Question F} {j : Judgement Verdict} {reason : Reason}
    {attempt : Int} {next : Action W Step}
    (asked : Asked h fr live.spot id (.action handler routes retry) q j taken.world)
    (decided : j.result = .ok (.again reason attempt))
    (took : taken.tick = live.tick.taken j.after j.pages)
    (ran : (do
      record h fr id id "failed" reason attempt 0
      waitForRetry h retry attempt
      next : Action W Step).exec taken = (.ok step, after)) :
    ∃ middle, Turned h fr live middle ∧ middle.tick.progress = j.after.progress ∧
      next.exec middle = (.ok step, after) := by
  have isAttempt : reason.isAttempt = true := by
    have judged := asked.judged
    subst judged
    exact reacted_again_reason decided
  obtain ⟨tick, world⟩ := taken
  subst took
  obtain ⟨row, w, looks, owner, idles, ⟨w', events, wrote, recorded⟩ | ⟨fault, w', -, broke⟩⟩ :=
    record_writes h fr id id "failed" reason attempt 0 ⟨live.tick.taken j.after j.pages, world⟩
  · rw [exec_bind_of_ok recorded] at ran
    rcases waitForRetry_idles (h := h) retry attempt
        ⟨{ live.tick.taken j.after j.pages with events := events }, w'⟩ with
      ⟨w'', waited, waits⟩ | ⟨fault, -, waited⟩
    · rw [exec_bind_of_ok waited] at ran
      have yields : Yields h fr live.spot row j.after j.pages w :=
        ⟨⟨id, _, q, j, _, ⟨0⟩, _, asked, decided, rfl, by rw [looks]; rfl, idles, rfl⟩, owner⟩
      have turned : Turned h fr live ⟨Tick.recorded live.tick row j.after j.pages events, w''⟩ :=
        .visit yields wrote waits
      have stays : row.moves = false := by
        have known : row.reason = .known reason := congrArg Shape.reason looks
        simp [Transition.moves, known, isAttempt]
      simp only [Tick.recorded, stays, Bool.false_eq_true, if_false, Nat.add_zero] at turned
      exact ⟨_, turned, rfl, ran⟩
    · rw [exec_bind_of_error waited] at ran
      cases ran
  · rw [exec_bind_of_error broke] at ran
    cases ran

/-- Where an action stands to be run, a try of it asks its callable. -/
theorem asked_handler {attempt : Int} (number : live.tick.progress.attemptNumber id = attempt)
    (resolved : resolveHandler fr.graph id handler = .ok callable)
    (stands : StandsAt fr.graph live.tick.progress id (.action handler routes retry))
    (running : live.tick.progress.lifecycle = .running) {answer : Except Raised Value} {world : W}
    (ask : (Question.handler callable (live.tick.stance.handlerInput fr id attempt)).ask
      h.behaviour live.world = (answer, world)) :
    Asked h fr live.spot id (.action handler routes retry)
      (.handler callable (live.tick.stance.handlerInput fr id attempt))
      (actionReacted id retry live.tick.stance answer) world := by
  have questioned : question fr id live.tick.stance (.action handler routes retry) =
      .ok (.handler callable (live.tick.stance.handlerInput fr id attempt)) := by
    rw [← number]
    simp only [question, resolved]
    rfl
  exact ⟨stands, rfl, running, questioned,
    congrArg (reacted id live.tick.stance (.action handler routes retry)) (congrArg Prod.fst ask),
    congrArg Prod.snd ask⟩

/-- One try of an action that is left: it decides, or it is a turn and the tries go on after it. -/
theorem tryAttempts_once (limit : attemptLimit retry = .int n)
    (resolved : resolveHandler fr.graph id handler = .ok callable) (room : Nat)
    (left : room = (attemptLimit retry).roomFrom (live.tick.progress.attemptNumber id))
    (stands : StandsAt fr.graph live.tick.progress id (.action handler routes retry))
    (running : live.tick.progress.lifecycle = .running)
    (ran : (tryAttempts h fr id callable retry (attemptLimit retry) room
      (live.tick.progress.attemptNumber id)).exec live = (.ok step, after)) :
    LeftBy h fr id (.action handler routes retry) live step after ∨
      ∃ room' middle, room = room' + 1 ∧ Turned h fr live middle ∧
        room' = (attemptLimit retry).roomFrom (middle.tick.progress.attemptNumber id) ∧
        StandsAt fr.graph middle.tick.progress id (.action handler routes retry) ∧
        middle.tick.progress.lifecycle = .running ∧
        (tryAttempts h fr id callable retry (attemptLimit retry) room'
          (middle.tick.progress.attemptNumber id)).exec middle = (.ok step, after) := by
  rw [limit] at left ran ⊢
  generalize number : live.tick.progress.attemptNumber id = attempt at left ran
  obtain ⟨answer, world, ask⟩ : ∃ answer world,
      (Question.handler callable (live.tick.stance.handlerInput fr id attempt)).ask
        h.behaviour live.world = (answer, world) := ⟨_, _, rfl⟩
  have asked := asked_handler number resolved stands running ask
  have did := exec_attemptOnce h fr id callable attempt live answer world ask
  have unmoved := attempted_position id attempt live.tick.stance answer
  unfold tryAttempts at ran
  cases judged : (attempted id attempt live.tick.stance answer).result with
  | error fault =>
      rw [judged] at did
      rw [exec_bind_of_error did] at ran
      cases ran
  | ok outcome =>
      rw [judged] at did
      rw [exec_bind_of_ok did] at ran
      cases outcome with
      | settled o =>
          rw [actionReacted_of_ok number judged rfl] at asked
          cases ran
          exact .inl ⟨live, _, _, world, .refl, asked, rfl, rfl⟩
      | failed reason message =>
          simp only at ran
          rw [exec_bind_of_ok (exec_changeProgress _ _)] at ran
          cases room with
          | zero =>
              rw [actionReacted_of_ok number judged (limit ▸ concluded_exhausted left.symm)] at asked
              simp only [Value.isBelow?_int, Bool.false_eq_true, if_false] at ran
              cases ran
              exact .inl ⟨live, _, _, world, .refl, asked, rfl, rfl⟩
          | succ room' =>
              have some_room : (Value.int n).roomFrom attempt ≠ 0 := by
                rw [← left]
                exact Nat.succ_ne_zero room'
              rw [actionReacted_of_ok number judged (limit ▸ concluded_again some_room)] at asked
              simp only at ran
              rw [exec_bind_of_ok (exec_changeProgress _ _)] at ran
              obtain ⟨middle, turned, same, rest⟩ := again_turned asked rfl rfl ran
              have number' : middle.tick.progress.attemptNumber id = attempt + 1 := by
                rw [same]
                exact attemptNumber_put _ _ _
              refine .inr ⟨room', middle, rfl, turned, ?_, ?_, ?_, number' ▸ rest⟩
              · rw [number', Value.roomFrom_int]
                rw [Value.roomFrom_int] at left
                omega
              · rw [same]
                refine ⟨?_, stands.2⟩
                unfold position
                simp only [unmoved.1]
                exact stands.1
              · rw [same]
                exact unmoved.2.trans running

/-- The tries of an action that is left are turns, up to the one that decides. -/
theorem tryAttempts_left (limit : attemptLimit retry = .int n)
    (resolved : resolveHandler fr.graph id handler = .ok callable) (room : Nat) (live : Live W)
    (left : room = (attemptLimit retry).roomFrom (live.tick.progress.attemptNumber id))
    (stands : StandsAt fr.graph live.tick.progress id (.action handler routes retry))
    (running : live.tick.progress.lifecycle = .running)
    (ran : (tryAttempts h fr id callable retry (attemptLimit retry) room
      (live.tick.progress.attemptNumber id)).exec live = (.ok step, after)) :
    LeftBy h fr id (.action handler routes retry) live step after := by
  induction room generalizing live with
  | zero =>
      rcases tryAttempts_once limit resolved 0 left stands running ran with
        leaves | ⟨room', middle, none, -⟩
      · exact leaves
      · cases none
  | succ room ih =>
      rcases tryAttempts_once limit resolved (room + 1) left stands running ran with
        leaves | ⟨room', middle, same, turned, left', stands', running', rest⟩
      · exact leaves
      · cases same
        obtain ⟨last, q, j, w, turns, asked, decided, came⟩ := ih middle left' stands' running' rest
        exact ⟨last, q, j, w, .head turned turns, asked, decided, came⟩

end Attempts

theorem AsksOnce.left {id : String} {node : State F} {act : Action W Step} {step : Step}
    (asks : AsksOnce h fr id node act)
    (stands : StandsAt fr.graph live.tick.progress id node) (work : isWork node = true)
    (running : live.tick.progress.lifecycle = .running)
    (ran : act.exec live = (.ok step, after)) : LeftBy h fr id node live step after := by
  cases questioned : question fr id live.tick.stance node with
  | error cause =>
      rw [asks.unresolved live cause questioned] at ran
      cases ran
  | ok q =>
      obtain ⟨answer, world, ask⟩ : ∃ answer world,
          q.ask h.behaviour live.world = (answer, world) := ⟨_, _, rfl⟩
      obtain ⟨r, settles, did⟩ := asks.resolved live q answer world questioned ask
      have asked : Asked h fr live.spot id node q (reacted id live.tick.stance node answer) world :=
        ⟨stands, work, running, questioned,
          congrArg (reacted id live.tick.stance node) (congrArg Prod.fst ask),
          congrArg Prod.snd ask⟩
      rw [did] at ran
      generalize judged : (reacted id live.tick.stance node answer).result = verdict at settles
      cases settles with
      | broken fault => cases ran
      | left step' =>
          cases ran
          exact ⟨live, q, _, world, .refl, asked, judged, rfl⟩

/-- A visit that leads out of its state. -/
theorem runState_left (whole : fr.graph.WholeLimits) {id : String} {node : State F} {step : Step}
    (stands : StandsAt fr.graph live.tick.progress id node) (work : isWork node = true)
    (running : live.tick.progress.lifecycle = .running)
    (ran : (runState h fr id node).exec live = (.ok step, after)) :
    LeftBy h fr id node live step after := by
  cases node with
  | action handler routes retry =>
      obtain ⟨n, limit⟩ := whole id handler routes retry stands.2
      simp only [runState, runAction] at ran
      cases resolved : resolveHandler fr.graph id handler with
      | error cause =>
          rw [resolved, exec_bind_of_error (exec_orFail_error cause live)] at ran
          cases ran
      | ok callable =>
          rw [resolved, exec_bind_of_ok (exec_orFail_ok callable live),
            exec_bind_of_ok (exec_progress live)] at ran
          exact tryAttempts_left limit resolved _ live rfl stands running ran
  | orchestrate routes handler selector =>
      exact (runOrchestrate_asksOnce h fr id routes handler selector).left stands work running ran
  | loop body bound routes stop =>
      exact (runLoop_asksOnce h fr id body bound routes stop).left stands work running ran
  | unsupported v => cases ran
  | feedback resume => cases work
  | terminal status message => cases work

/-! ## Transitions -/

theorem arrivalFinish_sums {step : Step} {node : State F} {finish : Option Finish}
    (ran : (arrivalFinish step node : Action W (Option Finish)).exec live = (.ok finish, after)) :
    after = live ∧ (∀ report, finish = some report → Finish.Sums report live.tick) ∧
      (finish = none → isWork node = true) := by
  cases node with
  | terminal status message =>
      cases ran
      refine ⟨rfl, ?_, nofun⟩
      rintro _ ⟨⟩
      exact ⟨⟨rfl, rfl, rfl⟩, rfl⟩
  | feedback resume =>
      cases ran
      refine ⟨rfl, ?_, nofun⟩
      rintro _ ⟨⟩
      exact ⟨⟨rfl, rfl, rfl⟩, rfl⟩
  | _ =>
      cases ran
      exact ⟨rfl, nofun, fun _ => rfl⟩

theorem markRunning_turns {id : String} {node : State F}
    (stands : StandsAt fr.graph live.tick.progress id node) (work : isWork node = true)
    (ran : (markRunning h).exec live = (.ok (), after)) :
    Turns h fr live after ∧ after.tick.progress.lifecycle = .running ∧
      StandsAt fr.graph after.tick.progress id node := by
  unfold markRunning at ran
  rw [exec_bind_of_ok (exec_progress live)] at ran
  by_cases running : live.tick.progress.lifecycle = .running
  · simp only [running, ne_eq, not_true_eq_false, if_false] at ran
    cases ran
    exact ⟨.refl, running, stands⟩
  · simp only [ne_eq, running, not_false_eq_true, if_true] at ran
    rw [exec_bind_of_ok (exec_changeProgress _ _), checkpoint_writes] at ran
    have plain : Unasked h fr live.spot (Progress.begun live.tick.progress) live.world :=
      .begin stands work running
    cases wrote : (h.checkpoint (Progress.begun live.tick.progress)).run live.world with
    | mk r w =>
        have wrote' : (h.checkpoint { live.tick.progress with lifecycle := .running, waitingSince := none }).run
          live.world = (r, w) := wrote
        simp only [wrote'] at ran
        cases r with
        | error fault => cases ran
        | ok _ =>
            cases ran
            exact ⟨.single (.unasked plain wrote), rfl, stands⟩

/-- A step that leads out of a state is recorded in a turn, and the tick reports or the task goes on. -/
theorem departure_turned {id : String} {node : State F} {q : Question F} {j : Judgement Verdict} {w : W}
    {step : Step} {finish : Option Finish} (asked : Asked h fr live.spot id node q j w)
    (leaves : j.result = .ok (.leave step))
    (ran : (do
      let (target, targetNode) ← orFail (stepTarget fr.graph id node step)
      Action.change (move step target)
      applyArrival h fr id target step.message targetNode
      record h fr id target step.event step.reason step.attempt step.loopIteration
      arrivalFinish step targetNode : Action W (Option Finish)).exec
        ⟨live.tick.taken j.after j.pages, w⟩ = (.ok finish, after)) :
    Turned h fr live after ∧ (∀ report, finish = some report → Finish.Sums report after.tick) ∧
      (finish = none → after.tick.progress.lifecycle = .running) := by
  cases routed : stepTarget fr.graph id node step with
  | error cause =>
      rw [routed, exec_bind_of_error (exec_orFail_error _ _)] at ran
      cases ran
  | ok route =>
      obtain ⟨target, targetNode⟩ := route
      rw [routed, exec_bind_of_ok (exec_orFail_ok _ _)] at ran
      simp only at ran
      rw [exec_bind_of_ok (exec_change _ _)] at ran
      obtain ⟨now, p, w₁, arrived, idles, lands, onward⟩ :=
        arrival_idles (h := h) routed ⟨live.tick.taken j.after j.pages, w⟩
      rw [exec_bind_of_ok arrived] at ran
      obtain ⟨row, w₂, looks, owner, named, ⟨w₃, events, wrote, recorded⟩ | ⟨fault, w₃, -, broke⟩⟩ :=
        record_writes h fr id target step.event step.reason step.attempt step.loopIteration
          ⟨Tick.movedTo (live.tick.taken j.after j.pages) p, w₁⟩
      · rw [exec_bind_of_ok recorded] at ran
        have yields : Yields h fr live.spot row ⟨p, j.after.feedback⟩ j.pages w₂ :=
          ⟨⟨id, node, q, j, _, now, w, asked, leaves, rfl, by rw [looks]; exact lands,
            idles.trans named, rfl⟩, owner⟩
        have turned : Turned h fr live
            ⟨Tick.recorded live.tick row ⟨p, j.after.feedback⟩ j.pages events, w₃⟩ :=
          .visit yields wrote .still
        have moves : row.moves = true := by
          have known : row.reason = .known step.reason := congrArg Shape.reason looks
          have judged := asked.judged
          subst judged
          simp [Transition.moves, known, reacted_leave_reason leaves]
        simp only [Tick.recorded, moves, if_true] at turned
        obtain ⟨rfl, sums, goesOn⟩ := arrivalFinish_sums ran
        refine ⟨turned, sums, fun none => ?_⟩
        exact (onward (goesOn none)).trans asked.under_way
      · rw [exec_bind_of_error broke] at ran
        cases ran

/-- A transition that was taken: after some turns the task is under way, or the tick stops and reports
what it has collected. -/
theorem takeTransition_turns (whole : fr.graph.WholeLimits) (budget : Budget) {id : String}
    {node : State F} {finish : Option Finish}
    (stands : StandsAt fr.graph live.tick.progress id node) (work : isWork node = true)
    (ran : (takeTransition h fr budget id node).exec live = (.ok finish, after)) :
    Turns h fr live after ∧ after.tick.progress.lifecycle ≠ .queued ∧
      (∀ report, finish = some report → Finish.Sums report after.tick) ∧
      (finish = none → after.tick.progress.lifecycle = .running) := by
  unfold takeTransition at ran
  rw [exec_bind_of_ok (exec_tick live)] at ran
  by_cases isOver : budget.perRun ≤ live.tick.transitions
  · simp only [isOver, if_true] at ran
    cases ran
  · simp only [isOver, if_false] at ran
    cases marked : (markRunning h).exec live with
    | mk r begun =>
        cases r with
        | error fault =>
            rw [exec_bind_of_error marked] at ran
            cases ran
        | ok _ =>
            rw [exec_bind_of_ok marked] at ran
            obtain ⟨turns, running, stands'⟩ := markRunning_turns stands work marked
            cases visited : (runState h fr id node).exec begun with
            | mk r decided =>
                cases r with
                | error fault =>
                    rw [exec_bind_of_error visited] at ran
                    cases ran
                | ok step =>
                    rw [exec_bind_of_ok visited] at ran
                    obtain ⟨middle, q, j, w, more, asked, leaves, rfl⟩ :=
                      runState_left whole stands' work running visited
                    obtain ⟨turned, sums, goesOn⟩ := departure_turned asked leaves ran
                    exact ⟨(turns.trans more).tail turned, turned.begun, sums, goesOn⟩

/-! ## Runs -/

/-- A progress that stops the task is written in a turn, and then the tick reports. -/
theorem halt_turned {α : Type} {report : Action W (Finish ⊕ α)} {p : Progress} {w : W}
    {came : Finish ⊕ α} (plain : Unasked h fr live.spot p w) (tick : Tick)
    (here : tick = { live.tick with progress := p })
    (reports : ∀ live' : Live W, ∃ finish : Finish, report.exec live' = (.ok (.inl finish), live') ∧
      finish.Tells live'.tick ∧ finish.ending = .ofLifecycle live'.tick.progress.lifecycle)
    (ran : (do
      checkpoint h
      report : Action W (Finish ⊕ α)).exec ⟨tick, w⟩ = (.ok came, after)) :
    ∃ finish, came = .inl finish ∧ Turned h fr live after ∧ Finish.Sums finish after.tick := by
  subst here
  have writes := checkpoint_writes (h := h) ⟨{ live.tick with progress := p }, w⟩
  simp only at writes
  cases wrote : (h.checkpoint p).run w with
  | mk r w' =>
      rw [wrote] at writes
      cases r with
      | error fault =>
          rw [exec_bind_of_error writes] at ran
          cases ran
      | ok _ =>
          rw [exec_bind_of_ok writes] at ran
          obtain ⟨finish, reported, tells, ending⟩ := reports ⟨{ live.tick with progress := p }, w'⟩
          rw [reported] at ran
          cases ran
          exact ⟨finish, rfl, .unasked plain wrote, tells, ending⟩

/-- Where a run looks first: the task has work to do there, or one turn ends the run with a report. -/
theorem arrive_turns {previous : Option String} {came : Finish ⊕ (String × State F)}
    (ran : (arrive h fr previous).exec live = (.ok came, after)) :
    (∃ id node, came = .inr (id, node) ∧ after = live ∧ StandsAt fr.graph live.tick.progress id node ∧
        isWork node = true) ∨
      ∃ finish, came = .inl finish ∧ Turned h fr live after ∧ Finish.Sums finish after.tick := by
  unfold arrive at ran
  rw [exec_bind_of_ok (exec_progress live)] at ran
  simp only at ran
  cases found : fr.graph.state? (position fr.graph live.tick.progress) with
  | none =>
      rw [found] at ran
      cases ran
  | some node =>
      rw [found] at ran
      cases node with
      | terminal status message =>
          simp only [applyTerminal] at ran
          rw [exec_bind_of_ok (exec_changeProgress _ _)] at ran
          have plain : Unasked h fr live.spot
              (Progress.atEnd live.tick.progress _ status message none) live.world :=
            .halt ⟨rfl, found⟩
          exact .inr (halt_turned plain _ rfl (fun _ => ⟨_, rfl, ⟨rfl, rfl, rfl⟩, rfl⟩) ran)
      | feedback resume =>
          obtain ⟨next, resumes⟩ := resumeTarget_of_state? found previous
          simp only at ran
          rw [exec_bind_of_ok (exec_applyPause fr resumes live)] at ran
          have plain : Unasked h fr live.spot
              (Progress.pausedAt live.tick.progress next (h.now live.world).1) (h.now live.world).2 :=
            .rest ⟨rfl, found⟩
          exact .inr (halt_turned plain _ rfl (fun _ => ⟨_, rfl, ⟨rfl, rfl, rfl⟩, rfl⟩) ran)
      | _ =>
          cases ran
          exact .inl ⟨_, _, rfl, rfl, ⟨rfl, found⟩, rfl⟩

/-- What a run reports: what was collected in its turns, and the stage of the task, or that the budget is
spent, which it is where a task under way has work to do. -/
theorem run_turns (whole : fr.graph.WholeLimits) (budget : Budget) (left : Nat)
    (previous : Option String) (live : Live W) {finish : Finish}
    (under : left = 0 → live.tick.progress.lifecycle = .running)
    (ran : (run h fr budget left previous).exec live = (.ok finish, after)) :
    Turns h fr live after ∧ after.tick.progress.lifecycle ≠ .queued ∧ Finish.Sums finish after.tick := by
  induction left generalizing previous live with
  | zero =>
      unfold run at ran
      cases came : (arrive h fr previous).exec live with
      | mk r middle =>
          cases r with
          | error fault =>
              rw [exec_bind_of_error came] at ran
              cases ran
          | ok place =>
              rw [exec_bind_of_ok came] at ran
              rcases arrive_turns came with ⟨id, node, rfl, rfl, stands, work⟩ | ⟨report, rfl, turned, sums⟩
              · cases ran
                exact ⟨.refl, by simp [under rfl], ⟨rfl, rfl, rfl⟩, by rw [under rfl]; rfl⟩
              · cases ran
                exact ⟨.single turned, turned.begun, sums⟩
  | succ left ih =>
      unfold run at ran
      cases came : (arrive h fr previous).exec live with
      | mk r middle =>
          cases r with
          | error fault =>
              rw [exec_bind_of_error came] at ran
              cases ran
          | ok place =>
              rw [exec_bind_of_ok came] at ran
              rcases arrive_turns came with ⟨id, node, rfl, rfl, stands, work⟩ | ⟨report, rfl, turned, sums⟩
              · simp only at ran
                cases took : (takeTransition h fr budget id node).exec middle with
                | mk r later =>
                    cases r with
                    | error fault =>
                        rw [exec_bind_of_error took] at ran
                        cases ran
                    | ok report =>
                        rw [exec_bind_of_ok took] at ran
                        obtain ⟨turns, begun, sums, goesOn⟩ :=
                          takeTransition_turns whole budget stands work took
                        cases report with
                        | some report =>
                            cases ran
                            exact ⟨turns, begun, sums finish rfl⟩
                        | none =>
                            obtain ⟨more, ends⟩ := ih (some id) later (fun _ => goesOn rfl) ran
                            exact ⟨turns.trans more, ends⟩
              · cases ran
                exact ⟨.single turned, turned.begun, sums⟩

/-! ## Advances -/

/-- An advance that reports is a run of turns, and it reports what was collected in them and the stage
that the task then has. -/
theorem advance_turns (h : Host F W) {g : Graph F} (whole : g.WholeLimits) {budget : Budget}
    (room : 0 < budget.perTick) (task : TaskInfo) (runId : String) (tickId feedback : Option String)
    {p q : Progress} (w : W) {w' : W} {finish : Finish} (active : p.lifecycle.isTerminal = false)
    (ran : advance h budget g task runId tickId feedback p w = ((.ok finish, q), w')) :
    ∃ after, after.world = w' ∧ after.tick.progress = q ∧ q.lifecycle ≠ .queued ∧
      Finish.Sums finish after.tick ∧ Turns h ⟨g, task, runId, (tickIdFor h tickId w).1⟩
        ⟨firstTick g p feedback, (tickIdFor h tickId w).2⟩ after := by
  rw [advance_active h budget g task runId tickId feedback p w active] at ran
  simp only at ran
  unfold orPersistFailure at ran
  rw [exec_tryCatch] at ran
  cases came : (run h ⟨g, task, runId, (tickIdFor h tickId w).1⟩ budget budget.perTick none).exec
      ⟨firstTick g p feedback, (tickIdFor h tickId w).2⟩ with
  | mk r after =>
      rw [came] at ran
      cases r with
      | ok report =>
          cases ran
          have spare : budget.perTick ≠ 0 := Nat.pos_iff_ne_zero.mp room
          obtain ⟨turns, begun, sums⟩ := run_turns whole budget budget.perTick none
            ⟨firstTick g p feedback, (tickIdFor h tickId w).2⟩ (fun none => absurd none spare) came
          exact ⟨after, rfl, rfl, begun, sums, turns⟩
      | error fault =>
          -- A task that is given up is written, and then the fault goes on its way.
          cases fault with
          | fatal cause taskId =>
              simp only at ran
              rw [exec_bind_of_ok (exec_changeProgress _ _), exec_bind, checkpoint_writes] at ran
              generalize (h.checkpoint _).run _ = wrote at ran
              obtain ⟨r, w₁⟩ := wrote
              cases r <;> cases ran
          | _ => cases ran

end Engine

end Tickwork

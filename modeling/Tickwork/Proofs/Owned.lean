import Tickwork.Proofs.Calls
import Tickwork.Proofs.Requests
import Tickwork.Proofs.Running

/-!
# Ticks of one task

A tick never turns to another task: whatever it writes, it writes for the task that it began with. So it is
enough to know what the writes for this task preserve. Main statement: what each operation of a host
preserves, the writes for one task among them, an advance of this task preserves.
-/

set_option autoImplicit false

namespace Tickwork

variable {F W α β : Type} {taskId : String} {P : W → Prop}

/-- Each operation of a host preserves a property of its worlds; of the writes only those for one task
have to. -/
structure Host.PreservesFor (h : Host F W) (taskId : String) (P : W → Prop) : Prop where
  behaviour : ∀ f call, Preserves P (h.behaviour f call)
  now : Preserves P h.now
  freshEventId : Preserves P h.freshEventId
  freshTickId : Preserves P h.freshTickId
  sleep : ∀ delay, Preserves P (h.sleep delay)
  checkpoint : ∀ p : Progress, p.taskId = taskId → Preserves P (h.checkpoint p).run
  record : ∀ (row : Transition) (p : Progress), row.taskId = taskId → p.taskId = taskId →
    Preserves P (h.record row p).run

theorem Consults.holds {b : Behaviour F W} (preserves : ∀ f call, Preserves P (b f call)) {w w' : W}
    (consults : Consults b w w') (here : P w) : P w' := by
  induction consults with
  | still => exact here
  | called before f call ih => exact preserves f call _ ih

/-- A tick of one task, in a world with a property. -/
structure Live.Owned (taskId : String) (P : W → Prop) (live : Live W) : Prop where
  task : live.tick.progress.taskId = taskId
  world : P live.world

/-- A part of a tick stays with its task, and the world keeps its property. -/
def Action.Stays (taskId : String) (P : W → Prop) (act : Action W α) : Prop :=
  ∀ live : Live W, live.Owned taskId P → (act.exec live).2.Owned taskId P

namespace Action.Stays

theorem pure (a : α) : Stays taskId P (Pure.pure a : Action W α) := fun _ owned => owned

theorem throw (fault : Fault) : Stays taskId P (MonadExcept.throw fault : Action W α) := fun _ owned => owned

theorem fail (cause : FatalCause) : Stays taskId P (Action.fail cause : Action W α) := fun _ owned => owned

theorem tick : Stays taskId P (Action.tick : Action W Tick) := fun _ owned => owned

theorem progress : Stays taskId P (Action.progress : Action W Progress) := fun _ owned => owned

theorem change {f : Tick → Tick} (task : ∀ t, (f t).progress.taskId = t.progress.taskId) :
    Stays taskId P (Action.change f : Action W Unit) :=
  fun live owned => ⟨(task live.tick).trans owned.task, owned.world⟩

theorem changeProgress {f : Progress → Progress} (task : ∀ p, (f p).taskId = p.taskId) :
    Stays taskId P (Action.changeProgress f : Action W Unit) := .change fun t => task t.progress

theorem orFail (r : Except FatalCause α) : Stays taskId P (Engine.orFail r : Action W α) := by
  cases r with
  | ok a => exact pure a
  | error cause => exact fail cause

theorem onWorld {act : StateM W α} (preserves : Preserves P act) : Stays taskId P (Action.onWorld act) :=
  fun live owned => ⟨owned.task, preserves live.world owned.world⟩

theorem bind {act : Action W α} {next : α → Action W β} (first : Stays taskId P act)
    (later : ∀ a, Stays taskId P (next a)) : Stays taskId P (act >>= next) := by
  intro live owned
  have here := first live owned
  rw [exec_bind]
  generalize act.exec live = ran at here ⊢
  obtain ⟨result, after⟩ := ran
  cases result with
  | ok a => exact later a after here
  | error fault => exact here

theorem map (f : α → β) {act : Action W α} (first : Stays taskId P act) : Stays taskId P (f <$> act) := by
  rw [← bind_pure_comp]
  exact first.bind fun a => pure (f a)

end Action.Stays

namespace Engine

open Tickwork.Action

variable {h : Host F W} (preserves : h.PreservesFor taskId P) (fr : Frame F)

include preserves

theorem checkpoint_stays : Stays taskId P (checkpoint h) := fun live owned =>
  ⟨owned.task, preserves.checkpoint _ owned.task live.world owned.world⟩

theorem record_stays (fromId toId event : String) (reason : Reason) (attempt iteration : Int) :
    Stays taskId P (record h fr fromId toId event reason attempt iteration) := by
  intro live owned
  unfold record
  rw [exec_bind_of_ok (exec_onWorld _ _), exec_bind_of_ok (exec_onWorld _ _),
    exec_bind_of_ok (exec_progress _)]
  simp only
  have wrote := preserves.record
    ⟨(h.freshEventId live.world).1, fr.runId, fr.tickId, live.tick.progress.taskId, fromId, toId, event,
      .known reason, attempt, iteration, (h.now (h.freshEventId live.world).2).1⟩ live.tick.progress
    owned.task owned.task _ (preserves.now _ (preserves.freshEventId live.world owned.world))
  rw [exec_bind, exec_onStore]
  generalize ExceptT.run (h.record _ _) _ = r at wrote ⊢
  obtain ⟨result, after⟩ := r
  cases result <;> exact ⟨owned.task, wrote⟩

theorem handler_preserves (handler : Handler F) (input : HandlerInput) :
    Preserves P (handler.run h.behaviour input) := fun _ =>
  (Consults.handler handler input).holds preserves.behaviour

theorem selector_preserves (selector : Selector F) (input : SelectorInput) :
    Preserves P (selector.run h.behaviour input) := fun _ =>
  (Consults.selector selector input).holds preserves.behaviour

omit preserves in
theorem judge_stays (id : String) (attempt : Int) (o : Outcome) :
    Stays taskId P (judge id attempt o : Action W Attempt) := by
  refine .bind (.change fun _ => rfl) fun _ => ?_
  by_cases known : actionEvents.contains o.status = true
  · simp only [known, Bool.not_true, Bool.false_eq_true, if_false]
    by_cases failed : o.status = "failed"
    · simp only [failed, ne_eq, not_true_eq_false, if_false]
      exact .bind (.changeProgress fun _ => rfl) fun _ => .pure _
    · simp only [ne_eq, failed, not_false_eq_true, if_true]
      exact .pure _
  · simp only [known, Bool.not_false, if_true]
    exact .fail _

theorem attemptOnce_stays (id : String) (handler : Handler F) (attempt : Int) :
    Stays taskId P (attemptOnce h fr id handler attempt) := by
  refine .bind .tick fun t => .bind (.onWorld (handler_preserves preserves handler _)) fun answer => ?_
  match answer with
  | .error (.fatal cause taskId) => exact .throw _
  | .error (.error kind text) => exact .pure _
  | .ok v => exact .bind (.orFail _) fun o => judge_stays id attempt o

theorem waitForRetry_stays (retry : Option RetryPolicy) (attempt : Int) :
    Stays taskId P (waitForRetry h retry attempt) := by
  cases retry with
  | none => exact .pure _
  | some policy =>
      simp only [waitForRetry]
      cases policy.delaySeconds attempt with
      | error fault => exact .throw _
      | ok delay =>
          simp only
          by_cases positive : delay.isPositive = true
          · rw [if_pos positive]
            exact .onWorld (preserves.sleep delay)
          · rw [if_neg positive]
            exact .pure _

omit preserves in
theorem settle_stays (id : String) (attempt : Int) (o : Outcome) :
    Stays taskId P (do
      Action.changeProgress fun p =>
        let p := Progress.clearAttempts p id
        if o.status = "done" then { p with lastError := none } else p
      pure (settledStep attempt o) : Action W Step) := by
  refine .bind (.changeProgress fun p => ?_) fun _ => .pure _
  simp only
  split <;> rfl

theorem tryAttempts_stays (id : String) (handler : Handler F) (retry : Option RetryPolicy)
    (limit : Value) (room : Nat) (attempt : Int) :
    Stays taskId P (tryAttempts h fr id handler retry limit room attempt) := by
  induction room generalizing attempt with
  | zero =>
      unfold tryAttempts
      refine .bind (attemptOnce_stays preserves fr id handler attempt) fun a => ?_
      cases a with
      | settled o => exact settle_stays id attempt o
      | failed reason message =>
          refine .bind (.changeProgress fun _ => rfl) fun _ => ?_
          by_cases incomparable : (limit.isBelow? attempt).isNone = true
          · simp only [incomparable, if_true]
            exact .throw _
          · simp only [incomparable, Bool.false_eq_true, if_false]
            exact .bind (.changeProgress fun _ => rfl) fun _ => .pure _
  | succ room ih =>
      unfold tryAttempts
      refine .bind (attemptOnce_stays preserves fr id handler attempt) fun a => ?_
      cases a with
      | settled o => exact settle_stays id attempt o
      | failed reason message =>
          refine .bind (.changeProgress fun _ => rfl) fun _ => .bind (.changeProgress fun _ => rfl) fun _ => ?_
          refine .bind (record_stays preserves fr id id _ reason attempt 0) fun _ => ?_
          exact .bind (waitForRetry_stays preserves retry attempt) fun _ => ih (attempt + 1)

theorem runOrchestrate_stays (id : String) (handler : Handler F) (selector : Selector F) :
    Stays taskId P (runOrchestrate h fr id handler selector) := by
  unfold runOrchestrate
  by_cases has : Graph.hasHandler handler = true
  · rw [if_pos has]
    refine .bind (.orFail _) fun callable => .bind .tick fun t => ?_
    refine .bind (.onWorld (handler_preserves preserves callable _)) fun answer => ?_
    match answer with
    | .error (.fatal cause taskId) => exact .throw _
    | .error (.error kind text) => exact .fail _
    | .ok v => exact .bind (.orFail _) fun o => .bind (.change fun _ => rfl) fun _ => .pure _
  · rw [if_neg has]
    by_cases selects : Graph.hasSelector selector = true
    · rw [if_pos selects]
      refine .bind (.orFail _) fun callable => .bind .progress fun p => ?_
      refine .bind (.onWorld (selector_preserves preserves callable _)) fun answer => ?_
      match answer with
      | .error e => exact .fail _
      | .ok v =>
          cases v with
          | str s =>
              by_cases blank : Text.isBlankText s = true
              · simp only [blank, if_true]
                exact .fail _
              · simp only [blank, Bool.false_eq_true, if_false]
                exact .pure _
          | _ => exact .fail _
    · rw [if_neg selects]
      exact .fail _

theorem guardPasses_stays (id : String) (stop : Slot F) (iteration : Int) :
    Stays taskId P (guardPasses h fr id stop iteration) := by
  refine .bind (.orFail _) fun found => ?_
  cases found with
  | none => exact .pure _
  | some guard =>
      refine .bind .progress fun p => ?_
      have asked : ∀ call, Preserves P (guard.call h.behaviour call) := fun call w =>
        (Consults.still.slot guard call).holds preserves.behaviour
      refine .bind (.onWorld (asked _)) fun answer => ?_
      cases answer.value with
      | error e => exact .fail _
      | ok v => exact .pure _

theorem runLoop_stays (id : String) (bound : Value) (stop : Slot F) :
    Stays taskId P (runLoop h fr id bound stop) := by
  refine .bind .progress fun p => .bind (guardPasses_stays preserves fr id stop _) fun passed => ?_
  cases passed with
  | true => exact .bind (.changeProgress fun _ => rfl) fun _ => .pure _
  | false =>
      simp only [Bool.false_eq_true, if_false]
      cases bound.isReached? ((p.loopIterations.lookup id).getD 0) with
      | none => exact .throw _
      | some reached => cases reached <;> exact .bind (.changeProgress fun _ => rfl) fun _ => .pure _

theorem runState_stays (id : String) (node : State F) : Stays taskId P (runState h fr id node) := by
  cases node with
  | action handler routes retry =>
      exact .bind (.orFail _) fun callable => .bind .progress fun p =>
        tryAttempts_stays preserves fr id callable retry _ _ _
  | orchestrate routes handler selector => exact runOrchestrate_stays preserves fr id handler selector
  | loop body bound routes stop => exact runLoop_stays preserves fr id bound stop
  | unsupported v => exact .fail _
  | feedback resume => exact .fail _
  | terminal status message => exact .fail _

theorem applyPause_stays (id : String) (previous : Option String) :
    Stays taskId P (applyPause h fr id previous) := by
  unfold applyPause
  cases fr.graph.resumeTarget id previous with
  | error fault => exact .throw _
  | ok target =>
      exact .bind (.changeProgress fun _ => rfl) fun _ => .bind (.onWorld preserves.now) fun _ =>
        .changeProgress fun _ => rfl

theorem applyArrival_stays (id target : String) (arrival : Option String) (node : State F) :
    Stays taskId P (applyArrival h fr id target arrival node) := by
  cases node with
  | terminal status message => exact .changeProgress fun _ => rfl
  | feedback resume => exact applyPause_stays preserves fr target (some id)
  | _ => exact .pure _

theorem markRunning_stays : Stays taskId P (markRunning h) := by
  refine .bind .progress fun p => ?_
  by_cases running : p.lifecycle = .running
  · simp only [running, ne_eq, not_true_eq_false, if_false]
    exact .pure _
  · simp only [ne_eq, running, not_false_eq_true, if_true]
    exact .bind (.changeProgress fun _ => rfl) fun _ => checkpoint_stays preserves

omit preserves in
theorem finished_stays (ending : Lifecycle → Ending) (message : Option String) :
    Stays taskId P (finished ending message : Action W Finish) := .bind .tick fun _ => .pure _

omit preserves in
theorem arrivalFinish_stays (step : Step) (node : State F) :
    Stays taskId P (arrivalFinish step node : Action W (Option Finish)) := by
  cases node with
  | terminal status message => exact .bind .progress fun _ => .map _ (finished_stays _ _)
  | feedback resume => exact .map _ (finished_stays _ _)
  | _ => exact .pure _

theorem takeTransition_stays (budget : Budget) (id : String) (node : State F) :
    Stays taskId P (takeTransition h fr budget id node) := by
  refine .bind .tick fun t => ?_
  by_cases isOver : budget.perRun ≤ t.transitions
  · simp only [isOver, if_true]
    exact .fail _
  · simp only [isOver, if_false]
    refine .bind (markRunning_stays preserves) fun _ => ?_
    refine .bind (runState_stays preserves fr id node) fun step => .bind (.orFail _) fun route => ?_
    refine .bind (.change fun _ => rfl) fun _ => ?_
    refine .bind (applyArrival_stays preserves fr id route.1 step.message route.2) fun _ => ?_
    exact .bind (record_stays preserves fr id route.1 _ _ _ _) fun _ => arrivalFinish_stays _ _

theorem arrive_stays (previous : Option String) : Stays taskId P (arrive h fr previous) := by
  refine .bind .progress fun p => ?_
  simp only
  cases fr.graph.state? (position fr.graph p) with
  | none => exact .fail _
  | some node =>
      cases node with
      | terminal status message =>
          exact .bind (.changeProgress fun _ => rfl) fun _ => .bind (checkpoint_stays preserves) fun _ =>
            .bind .progress fun _ => .map _ (finished_stays _ _)
      | feedback resume =>
          exact .bind (applyPause_stays preserves fr _ previous) fun _ =>
            .bind (checkpoint_stays preserves) fun _ => .map _ (finished_stays _ _)
      | _ => exact .pure _

theorem run_stays (budget : Budget) (left : Nat) (previous : Option String) :
    Stays taskId P (run h fr budget left previous) := by
  induction left generalizing previous with
  | zero =>
      unfold run
      refine .bind (arrive_stays preserves fr previous) fun seen => ?_
      cases seen with
      | inl finish => exact .pure _
      | inr ahead => exact finished_stays _ _
  | succ left ih =>
      unfold run
      refine .bind (arrive_stays preserves fr previous) fun seen => ?_
      cases seen with
      | inl finish => exact .pure _
      | inr ahead =>
          refine .bind (takeTransition_stays preserves fr budget ahead.1 ahead.2) fun finish => ?_
          cases finish with
          | some finish => exact .pure _
          | none => exact ih (some ahead.1)

theorem orPersistFailure_stays {act : Action W α} (stays : Stays taskId P act) :
    Stays taskId P (orPersistFailure h act) := by
  intro live owned
  have here := stays live owned
  unfold orPersistFailure
  rw [exec_tryCatch]
  generalize act.exec live = ran at here ⊢
  obtain ⟨result, after⟩ := ran
  cases result with
  | ok a => exact here
  | error fault =>
      cases fault with
      | fatal cause named =>
          have written : Stays taskId P (do
              Action.changeProgress (Progress.failedWith · cause.message)
              checkpoint h
              let p ← Action.progress
              throw (.fatal cause (some (named.getD p.taskId))) : Action W α) :=
            .bind (.changeProgress fun _ => rfl) fun _ => .bind (checkpoint_stays preserves) fun _ =>
              .bind .progress fun _ => .throw _
          exact written after here
      | _ => exact here

omit fr in
/-- What each operation of a host preserves, the writes for one task among them, an advance of this task
preserves. -/
theorem advance_stays (budget : Budget) (g : Graph F) (task : TaskInfo) (runId : String)
    (tickId feedback : Option String) {p : Progress} (own : p.taskId = taskId) :
    Preserves P (advance h budget g task runId tickId feedback p) := by
  intro w here
  cases active : p.lifecycle.isTerminal with
  | true =>
      rw [advance_ended _ _ _ _ _ _ _ _ active]
      exact here
  | false =>
      rw [advance_active _ _ _ _ _ _ _ _ _ active]
      have drawn : P (tickIdFor h tickId w).2 := by
        unfold tickIdFor
        cases firstNonempty [tickId] with
        | some id => exact here
        | none => exact preserves.freshTickId w here
      exact (orPersistFailure_stays preserves (run_stays preserves _ budget budget.perTick none)
        ⟨firstTick g p feedback, _⟩ ⟨own, drawn⟩).world

end Engine

end Tickwork

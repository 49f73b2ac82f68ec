import Tickwork.Proofs.Keeping

/-!
# A visit, answer by answer

Each way in which the engine visits a state comes to what `reacted` says of the answer that it got. A
visit of an action is a run of turns, one for each attempt that is tried again, and one last answer.
-/

set_option autoImplicit false

namespace Tickwork

variable {F W S : Type}

/-- A tick that has taken an answer: it stands elsewhere and has more pages. -/
def Tick.taken (t : Tick) (s : Stance) (pages : List Value) : Tick :=
  { t with progress := s.progress, feedback := s.feedback, pages := t.pages ++ pages }

theorem Tick.taken_self (t : Tick) : t.taken t.stance [] = t := by
  simp [Tick.taken, Tick.stance]

namespace Engine

open Tickwork.Action

theorem exec_orFail_ok {α : Type} (a : α) (live : Live W) :
    (orFail (.ok a) : Action W α).exec live = (.ok a, live) := rfl

theorem exec_orFail_error {α : Type} (cause : FatalCause) (live : Live W) :
    (orFail (.error cause) : Action W α).exec live = (.error (.fatal cause none), live) := rfl

theorem exec_judge (id : String) (attempt : Int) (o : Outcome) (live : Live W) :
    (judge id attempt o).exec live =
      ((judged id attempt live.tick.stance o).result,
        ⟨live.tick.taken (judged id attempt live.tick.stance o).after o.page.toList,
          live.world⟩) := by
  unfold judge judged
  rw [exec_bind_of_ok (exec_change _ _)]
  by_cases known : actionEvents.contains o.status = true
  · simp only [known, Bool.not_true, Bool.false_eq_true, if_false]
    by_cases failed : o.status = "failed"
    · simp only [failed, ne_eq, not_true_eq_false, if_false]
      rw [exec_bind_of_ok (exec_changeProgress _ _)]
      rfl
    · simp only [ne_eq, failed, not_false_eq_true, if_true]
      rfl
  · simp only [Bool.not_eq_true] at known
    simp only [known, Bool.not_false, if_true]
    rfl

theorem exec_attemptOnce (h : Host F W) (fr : Frame F) (id : String) (handler : Handler F)
    (attempt : Int) (live : Live W) (answer : Except Raised Value) (world : W)
    (asked : (Question.handler handler (live.tick.stance.handlerInput fr id attempt)).ask
      h.behaviour live.world = (answer, world)) :
    (attemptOnce h fr id handler attempt).exec live =
      ((attempted id attempt live.tick.stance answer).result,
        ⟨live.tick.taken (attempted id attempt live.tick.stance answer).after
          (attempted id attempt live.tick.stance answer).pages, world⟩) := by
  have ran : (onWorld (handler.run h.behaviour (Engine.handlerInput fr live.tick id attempt))
      : Action W _).exec live = (.ok answer, ⟨live.tick, world⟩) := by
    rw [exec_onWorld]
    have asked' : handler.run h.behaviour (Engine.handlerInput fr live.tick id attempt) live.world =
        (answer, world) := asked
    rw [asked']
  unfold attemptOnce
  rw [exec_bind_of_ok (exec_tick _), exec_bind_of_ok ran]
  cases answer with
  | error e =>
      cases e with
      | fatal cause taskId =>
          simp only [attempted, Tick.taken_self]
          rfl
      | error kind text =>
          simp only [attempted, Tick.taken_self]
          rfl
  | ok v =>
      simp only [attempted]
      cases Outcome.read id v with
      | error cause =>
          rw [exec_bind_of_error (exec_orFail_error cause _)]
          simp only [Tick.taken_self]
      | ok o =>
          rw [exec_bind_of_ok (exec_orFail_ok o _), exec_judge]
          have pages : (judged id attempt live.tick.stance o).pages = o.page.toList := by
            unfold judged
            simp only
            repeat' split
            all_goals rfl
          rw [pages]

/-! ## States that ask once -/

/-- How the verdict on an answer becomes the result of a visit that asks once. -/
inductive Settles : Except Fault Verdict → Except Fault Step → Prop
  | left (step : Step) : Settles (.ok (.leave step)) (.ok step)
  | broken (fault : Fault) : Settles (.error fault) (.error fault)

/-- A part of a tick that asks the question of a state once and does what follows from the answer. -/
structure AsksOnce (h : Host F W) (fr : Frame F) (id : String) (node : State F)
    (act : Action W Step) : Prop where
  unresolved : ∀ live cause, question fr id live.tick.stance node = .error cause →
    act.exec live = (.error (.fatal cause none), live)
  resolved : ∀ live q answer world, question fr id live.tick.stance node = .ok q →
    q.ask h.behaviour live.world = (answer, world) →
    ∃ r, Settles (reacted id live.tick.stance node answer).result r ∧
      act.exec live =
        (r, ⟨live.tick.taken (reacted id live.tick.stance node answer).after
          (reacted id live.tick.stance node answer).pages, world⟩)

theorem exec_onWorld_of_eq {α : Type} {act : StateM W α} {live : Live W} {a : α} {world : W}
    (ran : act live.world = (a, world)) :
    (onWorld act : Action W α).exec live = (.ok a, ⟨live.tick, world⟩) := by
  rw [exec_onWorld, ran]

theorem exec_reported (id : String) (v : Value) (live : Live W) :
    ∃ r, Settles (handlerReacted id live.tick.stance (.ok v)).result r ∧
      (do
        let o ← orFail (Outcome.read id v)
        Action.change (observe o)
        pure (reportedStep o) : Action W Step).exec live =
      (r, ⟨live.tick.taken (handlerReacted id live.tick.stance (.ok v)).after
        (handlerReacted id live.tick.stance (.ok v)).pages, live.world⟩) := by
  simp only [handlerReacted]
  cases Outcome.read id v with
  | error cause =>
      rw [exec_bind_of_error (exec_orFail_error cause _)]
      simp only [Tick.taken_self]
      exact ⟨_, .broken _, rfl⟩
  | ok o =>
      rw [exec_bind_of_ok (exec_orFail_ok o _), exec_bind_of_ok (exec_change _ _)]
      exact ⟨_, .left _, rfl⟩

theorem runOrchestrateHandler_asksOnce (h : Host F W) (fr : Frame F) (id : String)
    (routes : Routes) (handler : Handler F) (selector : Selector F)
    (has : Graph.hasHandler handler = true) :
    AsksOnce h fr id (.orchestrate routes handler selector)
      (runOrchestrateHandler h fr id handler) where
  unresolved live cause unknown := by
    simp only [question, has, if_true] at unknown
    cases found : resolveHandler fr.graph id handler with
    | error cause' =>
        rw [found] at unknown
        cases unknown
        unfold runOrchestrateHandler
        rw [found, exec_bind_of_error (exec_orFail_error _ _)]
    | ok callable => simp [found, bind, Except.bind] at unknown
  resolved live q answer world known asked := by
    simp only [question, has, if_true] at known
    cases found : resolveHandler fr.graph id handler with
    | error cause => simp [found, bind, Except.bind] at known
    | ok callable =>
        rw [found] at known
        cases known
        simp only [reacted, has, if_true]
        have ran : callable.run h.behaviour (Engine.handlerInput fr live.tick id 1) live.world =
            (answer, world) := asked
        unfold runOrchestrateHandler
        rw [found, exec_bind_of_ok (exec_orFail_ok _ _), exec_bind_of_ok (exec_tick _),
          exec_bind_of_ok (exec_onWorld_of_eq ran)]
        cases answer with
        | ok v => exact exec_reported id v ⟨live.tick, world⟩
        | error e =>
            cases e with
            | fatal cause taskId =>
                simp only [handlerReacted, Tick.taken_self]
                exact ⟨_, .broken _, rfl⟩
            | error kind text =>
                simp only [handlerReacted, Tick.taken_self]
                exact ⟨_, .broken _, rfl⟩

theorem runSelector_asksOnce (h : Host F W) (fr : Frame F) (id : String) (routes : Routes)
    (handler : Handler F) (selector : Selector F) (none : Graph.hasHandler handler = false)
    (has : Graph.hasSelector selector = true) :
    AsksOnce h fr id (.orchestrate routes handler selector) (runSelector h fr id selector) where
  unresolved live cause unknown := by
    simp only [question, none, has, if_true, Bool.false_eq_true, if_false] at unknown
    cases found : resolveSelector fr.graph id selector with
    | error cause' =>
        rw [found] at unknown
        cases unknown
        unfold runSelector
        rw [found, exec_bind_of_error (exec_orFail_error _ _)]
    | ok callable => simp [found, bind, Except.bind] at unknown
  resolved live q answer world known asked := by
    simp only [question, none, has, if_true, Bool.false_eq_true, if_false] at known
    cases found : resolveSelector fr.graph id selector with
    | error cause => simp [found, bind, Except.bind] at known
    | ok callable =>
        rw [found] at known
        cases known
        simp only [reacted, none, Bool.false_eq_true, if_false]
        have ran : callable.run h.behaviour
            { context := live.tick.progress.context, task := fr.task, stateId := id,
              runId := fr.runId, tickId := fr.tickId } live.world = (answer, world) := asked
        unfold runSelector
        rw [found, exec_bind_of_ok (exec_orFail_ok _ _), exec_bind_of_ok (exec_progress _)]
        simp only
        rw [exec_bind_of_ok (exec_onWorld_of_eq ran)]
        cases answer with
        | error e =>
            simp only [selectorReacted, Tick.taken_self]
            exact ⟨_, .broken _, rfl⟩
        | ok v =>
            cases v with
            | str event =>
                simp only [selectorReacted]
                by_cases blank : Text.isBlankText event = true
                · simp only [blank, if_true, Tick.taken_self]
                  exact ⟨_, .broken _, rfl⟩
                · simp only [blank, Bool.false_eq_true, if_false, Tick.taken_self]
                  exact ⟨_, .left _, rfl⟩
            | _ =>
                simp only [selectorReacted, Tick.taken_self]
                exact ⟨_, .broken _, rfl⟩

theorem nothing_asksOnce (h : Host F W) (fr : Frame F) (id : String) (routes : Routes)
    (handler : Handler F) (selector : Selector F) (none : Graph.hasHandler handler = false)
    (neither : Graph.hasSelector selector = false) :
    AsksOnce h fr id (.orchestrate routes handler selector)
      (Action.fail (.nothingToRun id)) where
  unresolved live cause unknown := by
    simp only [question, none, neither, Bool.false_eq_true, if_false] at unknown
    cases unknown
    rfl
  resolved live q answer world known asked := by
    simp [question, none, neither] at known

theorem runOrchestrate_asksOnce (h : Host F W) (fr : Frame F) (id : String) (routes : Routes)
    (handler : Handler F) (selector : Selector F) :
    AsksOnce h fr id (.orchestrate routes handler selector)
      (runOrchestrate h fr id handler selector) := by
  unfold runOrchestrate
  by_cases has : Graph.hasHandler handler = true
  · rw [if_pos has]
    exact runOrchestrateHandler_asksOnce h fr id routes handler selector has
  · rw [if_neg has]
    simp only [Bool.not_eq_true] at has
    by_cases selects : Graph.hasSelector selector = true
    · rw [if_pos selects]
      exact runSelector_asksOnce h fr id routes handler selector has selects
    · rw [if_neg selects]
      simp only [Bool.not_eq_true] at selects
      exact nothing_asksOnce h fr id routes handler selector has selects

theorem exec_loopPassed (id : String) (bound v : Value) (live : Live W) :
    ∃ r, Settles (loopReacted id bound live.tick.stance (.ok v)).result r ∧
      (do
        if v.truthy then do
          Action.changeProgress (Progress.clearIterations · id)
          pure (loopStep "done" .loopDone (live.tick.progress.roundsBegun id))
        else
          match bound.isReached? (live.tick.progress.roundsBegun id) with
          | none =>
            throw (.incomparable ">=" (Value.int (live.tick.progress.roundsBegun id)).typeName
              bound.typeName)
          | some true => do
            Action.changeProgress (Progress.clearIterations · id)
            pure (loopStep "exhausted" .loopExhausted (live.tick.progress.roundsBegun id))
          | some false => do
            Action.changeProgress fun p =>
              { p with loopIterations :=
                  Sorted.put id (live.tick.progress.roundsBegun id + 1) p.loopIterations }
            pure (loopStep "continue" .loopContinue (live.tick.progress.roundsBegun id + 1))
          : Action W Step).exec live =
      (r, ⟨live.tick.taken (loopReacted id bound live.tick.stance (.ok v)).after
        (loopReacted id bound live.tick.stance (.ok v)).pages, live.world⟩) := by
  simp only [loopReacted]
  by_cases passed : v.truthy = true
  · simp only [passed, if_true]
    rw [exec_bind_of_ok (exec_changeProgress _ _)]
    refine ⟨_, .left _, ?_⟩
    simp only [Tick.taken, List.append_nil]
    rfl
  · simp only [passed, Bool.false_eq_true, if_false, Tick.stance]
    cases bound.isReached? (live.tick.progress.roundsBegun id) with
    | none =>
        refine ⟨_, .broken _, ?_⟩
        simp only [Tick.taken, List.append_nil]
        rfl
    | some reached =>
        cases reached with
        | true =>
            simp only
            rw [exec_bind_of_ok (exec_changeProgress _ _)]
            refine ⟨_, .left _, ?_⟩
            simp only [Tick.taken, List.append_nil]
            rfl
        | false =>
            simp only
            rw [exec_bind_of_ok (exec_changeProgress _ _)]
            refine ⟨_, .left _, ?_⟩
            simp only [Tick.taken, List.append_nil]
            rfl

theorem exec_guardPasses_unresolved (h : Host F W) (fr : Frame F) (id : String) (stop : Slot F)
    (rounds : Int) (live : Live W) (cause : FatalCause)
    (unknown : resolveGuard fr.graph id stop = .error cause) :
    (guardPasses h fr id stop rounds).exec live = (.error (.fatal cause none), live) := by
  unfold guardPasses
  rw [unknown, exec_bind_of_error (exec_orFail_error _ _)]

theorem exec_guardPasses_absent (h : Host F W) (fr : Frame F) (id : String) (stop : Slot F)
    (rounds : Int) (live : Live W) (absent : resolveGuard fr.graph id stop = .ok none) :
    (guardPasses h fr id stop rounds).exec live = (.ok false, live) := by
  unfold guardPasses
  rw [absent, exec_bind_of_ok (exec_orFail_ok _ _)]
  rfl

def guardResult (id : String) : Except Raised Value → Except Fault Bool
  | .error e => .error (.fatal (.guardRaised id e.message) none)
  | .ok v => .ok v.truthy

theorem exec_guardPasses (h : Host F W) (fr : Frame F) (id : String) (stop guard : Slot F)
    (live : Live W) (answer : Except Raised Value) (world : W)
    (found : resolveGuard fr.graph id stop = .ok (some guard))
    (asked : (Question.guard guard (live.tick.stance.guardInput fr id)).ask h.behaviour live.world =
      (answer, world)) :
    (guardPasses h fr id stop ((live.tick.progress.loopIterations.lookup id).getD 0)).exec live =
      (guardResult id answer, ⟨live.tick, world⟩) := by
  have moved : (guard.call h.behaviour (.guard (live.tick.stance.guardInput fr id))
      live.world).2 = world := congrArg Prod.snd asked
  have value : (guard.call h.behaviour (.guard (live.tick.stance.guardInput fr id))
      live.world).1.value = answer := congrArg Prod.fst asked
  have ran : (onWorld (guard.call h.behaviour (.guard (live.tick.stance.guardInput fr id)))
      : Action W Answer).exec live = (.ok (guard.call h.behaviour
        (.guard (live.tick.stance.guardInput fr id)) live.world).1, ⟨live.tick, world⟩) := by
    rw [exec_onWorld, moved]
  unfold guardPasses
  rw [found, exec_bind_of_ok (exec_orFail_ok _ _)]
  simp only
  rw [exec_bind_of_ok (exec_progress _)]
  refine (exec_bind_of_ok ran _).trans ?_
  rw [value]
  cases answer <;> rfl

theorem runLoop_asksOnce (h : Host F W) (fr : Frame F) (id : String) (body : Target)
    (bound : Value) (routes : LoopRoutes) (stop : Slot F) :
    AsksOnce h fr id (.loop body bound routes stop) (runLoop h fr id bound stop) where
  unresolved live cause unknown := by
    simp only [question] at unknown
    cases found : resolveGuard fr.graph id stop with
    | error cause' =>
        rw [found] at unknown
        cases unknown
        unfold runLoop
        rw [exec_bind_of_ok (exec_progress _)]
        simp only
        rw [exec_bind_of_error (exec_guardPasses_unresolved h fr id stop _ live _ found)]
    | ok guard =>
        rw [found] at unknown
        cases guard <;> cases unknown
  resolved live q answer world known asked := by
    simp only [question] at known
    cases found : resolveGuard fr.graph id stop with
    | error cause =>
        rw [found] at known
        cases known
    | ok guard =>
        rw [found] at known
        unfold runLoop
        rw [exec_bind_of_ok (exec_progress _)]
        simp only
        cases guard with
        | none =>
            cases known
            cases asked
            rw [exec_bind_of_ok (exec_guardPasses_absent h fr id stop _ live found)]
            exact exec_loopPassed id bound (.bool false) live
        | some guard =>
            cases known
            have passed := exec_guardPasses h fr id stop guard live answer world found asked
            cases answer with
            | error e =>
                rw [exec_bind_of_error passed]
                simp only [reacted, loopReacted, Tick.taken_self]
                exact ⟨_, .broken _, rfl⟩
            | ok v =>
                rw [exec_bind_of_ok passed]
                exact exec_loopPassed id bound v ⟨live.tick, world⟩

end Engine

end Tickwork

import Tickwork.Proofs.Blocks
import Tickwork.Proofs.Retries.Delays
import Tickwork.Proofs.Retries.Tries

/-!
# Retry schedules

What a visit of an action calls, writes and waits for. Main statement: `retries_on_schedule`, of an action
in an accepted graph: the tries of a visit go on from the stored counter up to the first answer that is no
failure, or one past the limit; each failure within the limit leaves its row, its counter and its delay,
and the row along the route has the number of the last try; the delays are gradual; and however often ticks
are interrupted, the rows of failed attempts stand in the ledger in blocks within the limit.
-/

set_option autoImplicit false

namespace Tickwork

variable {F W : Type}

/-- The row of failed attempt number `k` at an action. -/
structure AttemptFails (id : String) (limit k : Int) (row : Transition) : Prop where
  shape : ∃ reason, reason.isAttempt = true ∧ row.shape = ⟨id, id, "failed", .known reason, k, 0⟩
  within : k ≤ limit

/-- The row of an action that is left after `k` failed attempts that were tried again: it has the number
of the attempt that came last, and is for exhaustion only past the limit. -/
structure AttemptsEnd (limit k : Int) (row : Transition) : Prop where
  number : row.attempt = k + 1
  reason : ∃ reason, reason.isAttempt = false ∧ row.reason = .known reason
  exhausted : row.reason = .known .actionExhausted → k = limit

namespace Engine

open Tickwork.Action

variable {g : Graph F} {id : String} {handler : Handler F} {routes : ActionRoutes}
variable {retry : Option RetryPolicy} {limit : Int}

/-! ## Attempts in the ledger -/

/-- The attempts that were counted are within the limit. -/
theorem Tallied.attempts_le {p : Progress} (tallied : Tallied g p)
    (found : g.state? id = some (.action handler routes retry)) (whole : attemptLimit retry = .int limit)
    (nonneg : 0 ≤ limit) : (p.attempts.lookup id).getD 0 ≤ limit := by
  cases counted : p.attempts.lookup id with
  | none => exact nonneg
  | some n =>
      obtain ⟨-, handler', routes', retry', limit', found', whole', -, within⟩ :=
        tallied.attempts (id, n) (Graph.mem_of_lookup counted)
      rw [found] at found'
      cases found'
      rw [whole] at whole'
      cases whole'
      exact within

/-- The counter of an action numbers its rows. -/
theorem attempts_ruled (valid : g.violations = []) (found : g.state? id = some (.action handler routes retry))
    (whole : attemptLimit retry = .int limit) (nonneg : 0 ≤ limit) :
    Ruled g id (AttemptFails id limit) (AttemptsEnd limit) fun p => (p.attempts.lookup id).getD 0 where
  new taskId workflowId context := rfl
  same p q attempts rounds := by rw [attempts]
  apart same visit decided apart := by rw [(visit.counters_apart decided apart).1]
  visited := by
    intro answers fr s node j verdict now row q same inShape visit decided lands
    subst same
    have here := visit.stands.2
    rw [found] at here
    cases here
    obtain ⟨question, answer, -, -, reaction⟩ := visit.answered
    have reacts := reacted_cases id s (.action handler routes retry) answer
    have within := inShape.tallied.attempts_le found whole nonneg
    obtain ⟨shape, looks⟩ : ∃ shape, row.shape = shape := ⟨_, rfl⟩
    rw [looks] at lands
    have landing := landing_of_landed lands
    rw [← reaction, decided] at reacts
    generalize j.after.progress = p at reacts landing ⊢
    cases reacts with
    | @settled _ _ _ o status =>
        refine .inr ⟨?_, ?_⟩
        · cases landing with
          | left leads there arrives =>
              have reason : row.reason = _ := congrArg Shape.reason looks
              refine ⟨congrArg Shape.attempt looks, ⟨_, ?_, reason⟩, fun same => ?_⟩
              · unfold settledStep
                by_cases done : o.status = "done" <;> simp [done, Reason.isAttempt]
              · rw [reason] at same
                by_cases done : o.status = "done" <;> simp [settledStep, done] at same
        · unfold Progress.settled
          simp only
          split <;> simp [Progress.clearAttempts, lookup_erase_self]
    | exhausted failed spent =>
        have last : (s.progress.attempts.lookup id).getD 0 = limit := by
          rw [whole, Value.roomFrom_int] at spent
          unfold Progress.attemptNumber at spent
          omega
        refine .inr ⟨?_, ?_⟩
        · cases landing with
          | left leads there arrives =>
              exact ⟨congrArg Shape.attempt looks, ⟨_, rfl, congrArg Shape.reason looks⟩, fun _ => last⟩
        · simp [Progress.clearAttempts, lookup_erase_self]
    | again failed room =>
        have more : (s.progress.attempts.lookup id).getD 0 + 1 ≤ limit := by
          rw [whole, Value.roomFrom_int] at room
          unfold Progress.attemptNumber at room
          omega
        refine .inl ⟨?_, ?_⟩
        · cases landing with
          | again _ _ => exact ⟨⟨_, reacted_again_reason (reaction ▸ decided), looks⟩, more⟩
        · simp only [lookup_put, Option.getD_some]
          rfl

/-! ## The step out of an action -/

/-- A call of the handler writes nothing. -/
theorem Made.unwritten {h : Host F W} {fr : Frame F} {callable : Handler F} {t : Try (W × MemoryStore)}
    (made : Made h fr id callable t) : t.world.2 = t.before.world.2 := by
  have unseen := h.overMemory_keeps.ask
    (.handler callable (Engine.handlerInput fr t.before.tick id t.number)) t.before.world
  rwa [show (Question.handler callable _).ask h.overMemory.behaviour t.before.world = _ from made] at unseen

theorem Tries.last_made {h : Host F W} {fr : Frame F} {callable : Handler F} {number : Int}
    {live : Live (W × MemoryStore)} {tries : List (Try (W × MemoryStore))} {last : Try (W × MemoryStore)}
    (all : Tries h fr id callable retry limit number live tries last) : Made h fr id callable last := by
  induction all with
  | last made => exact made
  | again made within retried rest ih => exact ih

/-- Marking a task as running writes no row. -/
theorem exec_markRunning (h : Host F W) (live : Live (W × MemoryStore)) :
    ∃ started, (markRunning h.overMemory).exec live = (.ok (), started) ∧
      started.world.2.rows = live.world.2.rows ∧
      started.tick.progress.attempts = live.tick.progress.attempts := by
  unfold markRunning
  rw [exec_bind_of_ok (exec_progress live)]
  by_cases running : live.tick.progress.lifecycle = .running
  · rw [if_neg (not_not_intro running)]
    exact ⟨live, rfl, rfl, rfl⟩
  · rw [if_pos running]
    exact ⟨_, rfl, rfl, rfl⟩

/-- What is left of a transition once a visit has decided on its step. -/
def leaving (h : Host F W) (fr : Frame F) (id : String) (node : State F) (step : Step) :
    Action W (Option Finish) := do
  let (target, targetNode) ← orFail (stepTarget fr.graph id node step)
  Action.change (move step target)
  applyArrival h fr id target step.message targetNode
  record h fr id target step.event step.reason step.attempt step.loopIteration
  arrivalFinish step targetNode

/-- A step along a route, out of a state with a name: one row is kept, and nothing else is written. -/
theorem leave_kept (h : Host F W) {fr : Frame F} (valid : fr.graph.violations = []) (own : id ≠ "")
    {node : State F} (found : fr.graph.state? id = some node) {step : Step}
    (sane : Verdict.Sane (.leave step)) {target : String} (leads : node.target? step.event = some target)
    (taken : Live (W × MemoryStore)) :
    ∃ finish row kept after,
      (leaving h.overMemory fr id node step).exec taken = (.ok finish, after) ∧
      row.shape = ⟨id, target, step.event, .known step.reason, step.attempt, step.loopIteration⟩ ∧
      row.taskId = kept.taskId ∧ after.world.2 = taken.world.2.keep (some row) kept ∧
      (taken.tick.progress.attempts.lookup id = none → kept.attempts.lookup id = none) := by
  have keeps := h.overMemory_keeps
  obtain ⟨-, targetNode, there⟩ := Graph.target_sound valid found leads
  have routed : stepTarget fr.graph id node step = .ok (target, targetNode) := by
    simp only [stepTarget, leads, there]
  unfold leaving
  rw [routed, exec_bind_of_ok (exec_orFail_ok _ _)]
  simp only
  rw [exec_bind_of_ok (exec_change _ _)]
  rcases moved_landed keeps fr id node routed taken with
    ⟨now, p, world, ran, unseen, lands⟩ | ⟨now, fault, after, ran, unseen, calm, lost⟩
  · rw [exec_bind_of_ok ran]
    obtain ⟨r, after, ran, recorded⟩ := record_recorded keeps fr id target step.event step.reason
      step.attempt step.loopIteration ⟨Tick.movedTo taken.tick p, world⟩
    cases recorded with
    | refused looks owner unfit seen =>
        have fits := check_of_named valid own found sane (looks ▸ lands)
        rw [fits] at unfit
        cases unfit
    | broke looks owner fits seen weak calm => exact absurd h.overMemory_sturdy weak
    | @kept row world' looks owner fits seen =>
        rw [exec_bind_of_ok ran]
        have cleared : taken.tick.progress.attempts.lookup id = none → p.attempts.lookup id = none := by
          intro absent
          cases landing_of_landed lands with
          | left leads found arrives => cases arrives <;> first | rfl | exact absent
        have stored : world'.2 = taken.world.2.keep (some row) p := seen.trans (by rw [unseen]; rfl)
        rcases arrivalFinish_cases step targetNode
            ⟨{ Tick.movedTo taken.tick p with events := (Tick.movedTo taken.tick p).events ++ [row] },
              world'⟩ with
          ⟨work, ran⟩ | ⟨finish, rest, ran, ending, tells⟩
        · exact ⟨_, row, p, _, ran, looks, owner, stored, cleared⟩
        · exact ⟨_, row, p, _, ran, looks, owner, stored, cleared⟩
  · rw [landed_error lost] at calm
    cases calm

/-- The events of an action lead along its routes, but that it may have no route for a reply. -/
theorem action_leads (valid : g.violations = []) (found : g.state? id = some (.action handler routes retry))
    (event : String)
    (known : event = "done" ∨ event = "failed" ∨ (event = "feedback" ∧ routes.feedback ≠ none)) :
    ∃ target, (State.action handler routes retry).target? event = some target := by
  have sound := Graph.stateViolations_nil valid (Graph.mem_of_state? found)
  have fine := (List.append_eq_nil_iff.mp (List.append_eq_nil_iff.mp sound).1).1
  have declared : ∃ target, routes.toRoutes.lookup event = some target := by
    rcases known with rfl | rfl | ⟨rfl, asks⟩
    · exact ⟨_, rfl⟩
    · exact ⟨_, rfl⟩
    · cases pause : routes.feedback with
      | none => exact absurd pause asks
      | some next => exact ⟨some next, by simp [ActionRoutes.toRoutes, pause, List.lookup_cons]⟩
  obtain ⟨target, declared⟩ := declared
  obtain ⟨next, rfl⟩ := routesViolations_leads fine declared
  exact ⟨next, by simp only [State.target?, State.routes, declared, Option.join_some]⟩

/-! ## One visit -/

/-- The row along a route, and the progress that is kept with it, after the last try of a visit. -/
structure Routing (node : State F) (id : String) (limit : Int) (last : Try (W × MemoryStore))
    (row : Transition) (kept : Progress) : Prop where
  source : row.fromId = id
  owner : row.taskId = kept.taskId
  leads : node.target? row.event = some row.toId
  number : row.attempt = last.number
  settled : ∀ o, Decides id last.answer o → row.event = o.status ∧
    row.reason = .known (if o.status = "done" then .actionDone else .actionFeedback)
  exhausted : (row.event = "failed" ∧ row.reason = .known .actionExhausted) ↔
    last.number = limit + 1 ∧ ∃ reason, Fails id last.answer reason
  cleared : kept.attempts.lookup id = none

/-- What a visit of an action comes to after its last try. Nothing but its row is written, and no row if
the answer ends the task for good, or asks for a reply where no route is for that. -/
inductive Visiting (node : State F) (id : String) (limit : Int) (last : Try (W × MemoryStore)) :
    Except Fault (Option Finish) × Live (W × MemoryStore) → Prop
  | routed {finish : Option Finish} {row : Transition} {kept : Progress} {after : Live (W × MemoryStore)}
      (routing : Routing node id limit last row kept)
      (stored : after.world.2 = last.before.world.2.keep (some row) kept) :
      Visiting node id limit last (.ok finish, after)
  | unrouted {o : Outcome} {after : Live (W × MemoryStore)} (decides : Decides id last.answer o)
      (asks : o.status = "feedback") (nowhere : node.target? "feedback" = none)
      (unwritten : after.world.2 = last.before.world.2) :
      Visiting node id limit last (.error (.fatal (.noTransition "feedback" id) none), after)
  | ruined {cause : FatalCause} {taskId : Option String} {after : Live (W × MemoryStore)}
      (ruins : Ruins id last.answer) (unwritten : after.world.2 = last.before.world.2) :
      Visiting node id limit last (.error (.fatal cause taskId), after)

section Visit

variable {fr : Frame F}

theorem settledStep_sane {o : Outcome} {number : Int} (status : o.status = "done" ∨ o.status = "feedback")
    (nonneg : 0 ≤ number) : Verdict.Sane (.leave (settledStep number o)) := by
  rcases status with done | asks
  · exact ⟨by simp [settledStep, done, Reason.requiredEvent?],
      by simp [settledStep, done, Reason.isAttempt], nonneg, Int.le_refl 0⟩
  · exact ⟨by simp [settledStep, asks, Reason.requiredEvent?],
      by simp [settledStep, asks, Reason.isAttempt], nonneg, Int.le_refl 0⟩

/-- The last try failed past the limit: the task leaves along the route for failures. -/
theorem exhausted_visiting (h : Host F W) (valid : fr.graph.violations = []) (own : id ≠ "")
    (found : fr.graph.state? id = some (.action handler routes retry)) {last : Try (W × MemoryStore)}
    (nonneg : 0 ≤ last.number) (full : last.number = limit + 1)
    (unwritten : last.world.2 = last.before.world.2) {reason : Reason} (fails : Fails id last.answer reason)
    (message : String) {tick : Tick} (cleared : tick.progress.attempts.lookup id = none) :
    Visiting (.action handler routes retry) id limit last
      ((leaving h.overMemory fr id (.action handler routes retry)
        (exhaustedStep last.number message)).exec ⟨tick, last.world⟩) := by
  obtain ⟨target, leads⟩ := action_leads valid found "failed" (.inr (.inl rfl))
  have sane : Verdict.Sane (.leave (exhaustedStep last.number message)) :=
    ⟨rfl, rfl, nonneg, Int.le_refl 0⟩
  obtain ⟨finish, row, kept, after, left, looks, owner, stored, clear⟩ :=
    leave_kept h valid own found sane leads ⟨tick, last.world⟩
  have event : row.event = "failed" := congrArg Shape.event looks
  have toId : row.toId = target := congrArg Shape.toId looks
  rw [left]
  refine .routed ⟨congrArg Shape.fromId looks, owner, ?_, congrArg Shape.attempt looks, ?_, ?_,
    clear cleared⟩ (by rw [stored, unwritten])
  · rw [event, toId]
    exact leads
  · exact fun o decides => absurd decides fails.not_decides
  · exact ⟨fun _ => ⟨full, reason, fails⟩, fun _ => ⟨event, congrArg Shape.reason looks⟩⟩

/-- The last try did not fail: the task leaves along the route of its answer, if there is one. -/
theorem settled_visiting (h : Host F W) (valid : fr.graph.violations = []) (own : id ≠ "")
    (found : fr.graph.state? id = some (.action handler routes retry)) {last : Try (W × MemoryStore)}
    (nonneg : 0 ≤ last.number) (unwritten : last.world.2 = last.before.world.2) {o : Outcome}
    (decides : Decides id last.answer o) {tick : Tick}
    (cleared : tick.progress.attempts.lookup id = none) :
    Visiting (.action handler routes retry) id limit last
      ((leaving h.overMemory fr id (.action handler routes retry) (settledStep last.number o)).exec
        ⟨tick, last.world⟩) := by
  have status := decides.status
  by_cases silent : o.status = "feedback" ∧ routes.feedback = none
  · obtain ⟨asks, pause⟩ := silent
    have nowhere : (State.action handler routes retry).target? "feedback" = none := by
      simp [State.target?, State.routes, ActionRoutes.toRoutes, pause, List.lookup_cons]
    have astray : stepTarget fr.graph id (.action handler routes retry) (settledStep last.number o) =
        .error (.noTransition "feedback" id) := by
      simp only [stepTarget, settledStep, asks, nowhere]
    unfold leaving
    rw [astray, exec_bind_of_error (exec_orFail_error _ _)]
    exact .unrouted decides asks nowhere unwritten
  · have known : o.status = "done" ∨ o.status = "failed" ∨
        (o.status = "feedback" ∧ routes.feedback ≠ none) :=
      status.imp_right fun asks => .inr ⟨asks, fun pause => silent ⟨asks, pause⟩⟩
    obtain ⟨target, leads⟩ := action_leads valid found _ known
    obtain ⟨finish, row, kept, after, left, looks, owner, stored, clear⟩ := leave_kept h valid own found
      (settledStep_sane status nonneg) leads ⟨tick, last.world⟩
    have event : row.event = o.status := congrArg Shape.event looks
    have toId : row.toId = target := congrArg Shape.toId looks
    rw [left]
    refine .routed ⟨congrArg Shape.fromId looks, owner, ?_, congrArg Shape.attempt looks, ?_, ?_,
      clear cleared⟩ (by rw [stored, unwritten])
    · rw [event, toId]
      exact leads
    · intro o' decides'
      cases decides.unique decides'
      exact ⟨event, congrArg Shape.reason looks⟩
    · constructor
      · rintro ⟨failed, -⟩
        rw [event] at failed
        rw [failed] at status
        rcases status with same | same <;> exact absurd same (by decide)
      · rintro ⟨-, reason, fails⟩
        exact absurd decides fails.not_decides

/-- The step after the last try of a visit, out of an action with a name. -/
theorem lastTry_visiting (h : Host F W) (valid : fr.graph.violations = []) (own : id ≠ "")
    (found : fr.graph.state? id = some (.action handler routes retry)) {last : Try (W × MemoryStore)}
    (nonneg : 0 ≤ last.number) (within : last.number ≤ limit + 1)
    (waitable : last.number ≤ limit → ∃ delay, delayAfter retry last.number = .ok delay)
    (unwritten : last.world.2 = last.before.world.2) {r : Except Fault Step × Live (W × MemoryStore)}
    (came : LastTry id retry limit last r) {act : Action (W × MemoryStore) Step}
    {live : Live (W × MemoryStore)} (ran : act.exec live = r) :
    ((∃ reason, Fails id last.answer reason) → last.number = limit + 1) ∧
      Visiting (.action handler routes retry) id limit last
        ((act >>= leaving h.overMemory fr id (.action handler routes retry)).exec live) := by
  cases came with
  | ruined ruins =>
      rw [exec_bind_of_error ran]
      exact ⟨fun ⟨_, fails⟩ => absurd ruins fails.not_ruins, .ruined ruins unwritten⟩
  | stuck fails low barred =>
      exfalso
      obtain ⟨delay, delayed⟩ := waitable low
      rcases barred with unnamed | negative | missing
      · exact own unnamed
      · omega
      · rw [delayed] at missing
        cases missing
  | exhausted fails spent cleared =>
      have full : last.number = limit + 1 := by omega
      rw [exec_bind_of_ok ran]
      exact ⟨fun _ => full, exhausted_visiting h valid own found nonneg full unwritten fails _ cleared⟩
  | settled decides cleared =>
      rw [exec_bind_of_ok ran]
      exact ⟨fun ⟨_, fails⟩ => absurd decides fails.not_decides,
        settled_visiting h valid own found nonneg unwritten decides cleared⟩

/-- A visit of an action with a name, from a counter within the limit: the tries go on from the counter,
each failure within the limit is recorded, counted and waited for, and then the task leaves the action. -/
theorem visit_on_schedule (h : Host F W) (fr : Frame F) (valid : fr.graph.violations = []) (own : id ≠ "")
    (found : fr.graph.state? id = some (.action handler routes retry))
    (whole : attemptLimit retry = .int limit) (budget : Budget) (live : Live (W × MemoryStore))
    (room : live.tick.transitions < budget.perRun) {a : Int}
    (counter : (live.tick.progress.attempts.lookup id).getD 0 = a) (nonneg : 0 ≤ a) (within : a ≤ limit)
    (waitable : ∀ j, a < j → j ≤ limit → ∃ delay, delayAfter retry j = .ok delay) :
    ∃ callable started tries last,
      resolveHandler fr.graph id handler = .ok callable ∧
      (markRunning h.overMemory).exec live = (.ok (), started) ∧
      started.world.2.rows = live.world.2.rows ∧
      Tries h fr id callable retry limit (a + 1) started tries last ∧
      ((∃ reason, Fails id last.answer reason) → last.number = limit + 1) ∧
      Visiting (.action handler routes retry) id limit last
        ((takeTransition h.overMemory fr budget id (.action handler routes retry)).exec live) := by
  have sound := Graph.stateViolations_nil valid (Graph.mem_of_state? found)
  have fine := (List.append_eq_nil_iff.mp (List.append_eq_nil_iff.mp sound).1).2
  obtain ⟨callable, resolved, -⟩ := resolveHandler_of_fine fine id
  obtain ⟨started, ran, rows, attempts⟩ := exec_markRunning h live
  obtain ⟨tries, last, all, came⟩ := runAction_tries (h := h) whole resolved started
  have first : started.tick.progress.attemptNumber id = a + 1 := by
    rw [Progress.attemptNumber, attempts, counter]
  rw [first] at all
  have number := all.last_number
  have low : last.number ≤ limit + 1 := by
    by_cases alone : tries = []
    · simp only [alone, List.length_nil] at number
      omega
    · exact all.last_within alone
  obtain ⟨full, visiting⟩ := lastTry_visiting h valid own found (by omega) low
    (waitable last.number (by omega)) all.last_made.unwritten came rfl
  refine ⟨callable, started, tries, last, resolved, ran, rows, all, full, ?_⟩
  unfold takeTransition
  rw [exec_bind_of_ok (exec_tick live), if_neg (Nat.not_le.mpr room), exec_bind_of_ok ran]
  exact visiting

end Visit

end Engine

open Engine

/-- An action of an accepted graph, with the limit on its retries. A visit from a counter within the limit,
while its delays can be waited for, calls the handler from the number after the counter on, up to the first
answer that is no failure or one past the limit; each other failure leaves one row, its counter and its
delay; then there is one row along the route, for exhaustion exactly if the last try failed, and the
counter is gone. The delays are gradual. All career long, with ticks that break down at any write, the rows
that leave the action are in blocks: failed attempts within the limit, numbered from one, and then the row
that ends the visit, with the number after theirs. Only the last block may be open. -/
theorem retries_on_schedule {g : Graph F} (accepted : g.ensureValid = .ok g) {id : String}
    {handler : Handler F} {routes : ActionRoutes} {retry : Option RetryPolicy}
    (found : g.state? id = some (.action handler routes retry)) :
    ∃ limit : Int, attemptLimit retry = .int limit ∧ 0 ≤ limit ∧
      (id ≠ "" → ∀ {W : Type} (h : Host F W) (task : TaskInfo) (runId tickId : String) (budget : Budget)
        (live : Live (W × MemoryStore)) (a : Int), live.tick.transitions < budget.perRun →
        (live.tick.progress.attempts.lookup id).getD 0 = a → 0 ≤ a → a ≤ limit →
        (∀ j, a < j → j ≤ limit → ∃ delay, delayAfter retry j = .ok delay) →
        ∃ callable started tries last,
          resolveHandler g id handler = .ok callable ∧
          (markRunning h.overMemory).exec live = (.ok (), started) ∧
          started.world.2.rows = live.world.2.rows ∧
          Tries h ⟨g, task, runId, tickId⟩ id callable retry limit (a + 1) started tries last ∧
          ((∃ reason, Fails id last.answer reason) → last.number = limit + 1) ∧
          Visiting (.action handler routes retry) id limit last
            ((takeTransition h.overMemory ⟨g, task, runId, tickId⟩ budget id
              (.action handler routes retry)).exec live)) ∧
      (∀ policy b, retry = some policy → policy.backoff = some b → b.Gradual) ∧
      ∀ {m : MemoryStore} {p : Progress}, Career g m p →
        ∃ (blocks : List (List Transition × Transition)) (opened : List Transition),
          (m.rowsFor p.taskId).filter (fun row => row.fromId == id) =
            blocks.flatMap (fun block => block.1 ++ [block.2]) ++ opened ∧
          (∀ block ∈ blocks, Numbered (AttemptFails id limit) block.1 ∧
            AttemptsEnd limit block.1.length block.2 ∧ block.1.length ≤ limit) ∧
          Numbered (AttemptFails id limit) opened ∧ opened.length ≤ limit := by
  have valid := Graph.violations_of_accepted accepted
  have formed : g.StateWellFormed id _ :=
    (Graph.wellFormed_of_accepted accepted).states (id, _) (Graph.mem_of_state? found)
  obtain ⟨limit, whole, nonneg⟩ := Graph.attemptLimit_sound valid found
  refine ⟨limit, whole, nonneg, ?_, ?_, ?_⟩
  · intro own W h task runId tickId budget live a room counter low within waitable
    exact visit_on_schedule h ⟨g, task, runId, tickId⟩ valid own found whole budget live room counter low
      within waitable
  · intro policy b given backoff
    exact Backoff.gradual_of_ascending ((formed.2.2 policy given).backoff b backoff)
  · intro m p career
    exact (attempts_ruled valid found whole nonneg).blocks valid nonneg (fun _ _ => AttemptFails.within)
      career

/-! ## An action that is tried twice -/

/-- The policy of the action that is tried twice. -/
def patience : RetryPolicy := ⟨.int 1, .null, some ⟨.int 250, .fixed, .null⟩⟩

def twoTriesVisit : Except Fault (Option Finish) × Live (Unit × MemoryStore) :=
  (takeTransition failingHost.overMemory ⟨twoTries, ⟨"t1", none, none, none⟩, "run", "tick"⟩ ⟨25, 200⟩
    "work" (.action (.slot (.code () .whole)) ⟨some "finish", some "finish", none⟩ (some patience))).exec
    ⟨firstTick twoTries (.newTask "t1" "demo" []) none, ((), .empty)⟩

/-- A visit whose first try fails and whose second one does not: two rows, of which the second one has the
number of the last try. -/
theorem retries_on_schedule_twoTries :
    twoTriesVisit.2.world.2.rows.map (fun row => (row.toId, row.event, row.attempt)) =
      [("work", "failed", 1), ("finish", "done", 2)] ∧
    (∃ callable started tries last,
      Tries failingHost ⟨twoTries, ⟨"t1", none, none, none⟩, "run", "tick"⟩ "work" callable (some patience)
        1 1 started tries last ∧
      Visiting (.action (.slot (.code () .whole)) ⟨some "finish", some "finish", none⟩ (some patience))
        "work" 1 last twoTriesVisit) ∧
    Backoff.Gradual ⟨.int 250, .fixed, .null⟩ := by
  have found : twoTries.state? "work" = some (.action _ _ (some patience)) := rfl
  obtain ⟨limit, whole, -, visit, gradual, -⟩ := retries_on_schedule twoTries_accepted found
  have one : limit = 1 := by
    cases whole
    rfl
  subst one
  obtain ⟨callable, started, tries, last, -, -, -, all, -, visiting⟩ := visit (by decide) failingHost
    ⟨"t1", none, none, none⟩ "run" "tick" ⟨25, 200⟩
    ⟨firstTick twoTries (.newTask "t1" "demo" []) none, ((), .empty)⟩ 0 (by decide) rfl (by decide)
    (by decide) fun j _ _ => ⟨_, rfl⟩
  exact ⟨by decide +kernel, ⟨callable, started, tries, last, all, visiting⟩,
    gradual patience _ rfl rfl⟩

end Tickwork

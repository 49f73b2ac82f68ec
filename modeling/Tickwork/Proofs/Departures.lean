import Tickwork.Proofs.Budgets

/-!
# Departures

A visit that decides on a step leads out of its state: a row tells of it, with the progress that is kept
beside it, and the run goes on from the target or stops there. `Departure` is such a row and progress,
`Departs` what the run comes to. Main statement: a run whose visit decides on a step with a target departs,
unless the store refuses the row.
-/

set_option autoImplicit false

namespace Tickwork

variable {F W : Type}

namespace Engine

open Tickwork.Action

/-- A row that tells of a step from the state `id` to `target`, and the progress that is kept with it. -/
structure Departure (g : Graph F) (id : String) (step : Step) (target : String) (node : State F)
    (before : Progress) (row : Transition) (after : Progress) : Prop where
  told : row.shape = ⟨id, target, step.event, .known step.reason, step.attempt, step.loopIteration⟩
  owner : row.taskId = after.taskId
  found : g.state? target = some node
  arrives : ∃ now, Arrival g id target now step.message (Progress.moved before step target) node after

/-- What a run comes to that has decided on a step: it goes on from the target where there is work to do,
it stops there, or the row cannot be written. -/
inductive Departs (h : Host F W) (fr : Frame F) (budget : Budget) (left : Nat) (id : String) (step : Step)
    (target : String) (decided : Live W) : Except Fault Finish × Live W → Prop
  | onward {node : State F} {row : Transition} {tick : Tick} {w w' : W}
      (departure : Departure fr.graph id step target node decided.tick.progress row tick.progress)
      (work : isWork node = true) (idles : Idles h decided.world w)
      (wrote : (h.record row tick.progress).run w = (.ok (), w')) :
      Departs h fr budget left id step target decided
        ((run h fr budget left (some id)).exec ⟨tick, w'⟩)
  | stops {node : State F} {row : Transition} {tick : Tick} {w w' : W} (finish : Finish)
      (departure : Departure fr.graph id step target node decided.tick.progress row tick.progress)
      (rest : isWork node = false) (idles : Idles h decided.world w)
      (wrote : (h.record row tick.progress).run w = (.ok (), w')) :
      Departs h fr budget left id step target decided (.ok finish, ⟨tick, w'⟩)
  | unrecorded {node : State F} {row : Transition} {tick : Tick} {w w' : W} {fault : Fault}
      (departure : Departure fr.graph id step target node decided.tick.progress row tick.progress)
      (idles : Idles h decided.world w)
      (broke : (h.record row tick.progress).run w = (.error fault, w')) :
      Departs h fr budget left id step target decided (.error fault, ⟨tick, w'⟩)

variable {h : Host F W} {fr : Frame F} {budget : Budget} {left : Nat} {id target : String} {step : Step}
variable {node targetNode : State F} {live begun decided : Live W}

/-- However the run goes on, there was a row to write. -/
theorem Departs.departure {ran : Except Fault Finish × Live W}
    (departs : Departs h fr budget left id step target decided ran) :
    ∃ node row after, Departure fr.graph id step target node decided.tick.progress row after := by
  cases departs with
  | onward departure | stops _ departure | unrecorded departure => exact ⟨_, _, _, departure⟩

/-- Only the data of the step changes the context. -/
theorem Departure.context {g : Graph F} {before after : Progress} {row : Transition}
    (departure : Departure g id step target node before row after) :
    after.context = Fields.overlay before.context (step.data.getD []) := by
  obtain ⟨now, arrives⟩ := departure.arrives
  exact arrives.context

/-- The row of a step by a free event is in order, but from a state without a name the ledger refuses it. -/
theorem Departure.check {g : Graph F} {before after : Progress} {row : Transition}
    (departure : Departure g id step target node before row after) (named : target ≠ "")
    (free : step.reason.requiredEvent? = none) (leaves : step.reason.isAttempt = false)
    (counted : 0 ≤ step.attempt ∧ 0 ≤ step.loopIteration) :
    row.check = if id = "" then .error (.transition (.emptyState row.eventId)) else .ok () := by
  have told := departure.told
  have fromId : row.fromId = id := congrArg Shape.fromId told
  have toId : row.toId = target := congrArg Shape.toId told
  have reason : row.reason = .known step.reason := congrArg Shape.reason told
  have attempt : row.attempt = step.attempt := congrArg Shape.attempt told
  have rounds : row.loopIteration = step.loopIteration := congrArg Shape.loopIteration told
  have calm : ¬ (row.attempt < 0 ∨ row.loopIteration < 0) := by
    rw [attempt, rounds]
    omega
  unfold Transition.check Transition.checkReason
  rw [fromId, toId, reason]
  by_cases nameless : id = ""
  · simp [nameless]
  · simp [nameless, named, free, leaves, calm]

/-- Marking a task as running does not change its context. -/
theorem marked_context (marked : (markRunning h).exec live = (.ok (), begun)) :
    begun.tick.progress.context = live.tick.progress.context := by
  unfold markRunning at marked
  rw [exec_bind_of_ok (exec_progress live)] at marked
  by_cases running : live.tick.progress.lifecycle = .running
  · simp only [running, ne_eq, not_true_eq_false, if_false] at marked
    cases marked
    rfl
  · simp only [ne_eq, running, not_false_eq_true, if_true] at marked
    rw [exec_bind_of_ok (exec_changeProgress _ _), checkpoint_writes] at marked
    have left : begun.tick = { live.tick with progress := Progress.begun live.tick.progress } :=
      congrArg (fun ran => ran.2.tick) marked.symm
    rw [left]
    rfl

/-- Nothing is reported of an arrival where there is work to do. -/
theorem exec_arrivalFinish_work (step : Step) (work : isWork node = true) (live : Live W) :
    (arrivalFinish step node : Action W (Option Finish)).exec live = (.ok none, live) := by
  cases node with
  | terminal => cases work
  | feedback => cases work
  | _ => rfl

/-- A transition once its visit has decided on a step. -/
def leave (h : Host F W) (fr : Frame F) (id : String) (node : State F) (step : Step) :
    Action W (Option Finish) := do
  let (target, targetNode) ← orFail (stepTarget fr.graph id node step)
  Action.change (move step target)
  applyArrival h fr id target step.message targetNode
  record h fr id target step.event step.reason step.attempt step.loopIteration
  arrivalFinish step targetNode

/-- A transition of a task that was marked as running is its visit and what follows from that. -/
theorem exec_takeTransition (fr : Frame F) (id : String) (node : State F) (room : live.tick.transitions < budget.perRun)
    (marked : (markRunning h).exec live = (.ok (), begun)) :
    (takeTransition h fr budget id node).exec live =
      (runState h fr id node >>= leave h fr id node).exec begun := by
  have within : ¬ budget.perRun ≤ live.tick.transitions := Nat.not_le.mpr room
  unfold takeTransition
  rw [exec_bind_of_ok (exec_tick live)]
  simp only [within, if_false]
  rw [exec_bind_of_ok marked]
  rfl

/-- Of a step with a target the row is written, or the store refuses it. -/
theorem exec_leave (h : Host F W) (id : String) (decided : Live W) (leads : node.target? step.event = some target)
    (found : fr.graph.state? target = some targetNode) :
    ∃ row tick w w', Departure fr.graph id step target targetNode decided.tick.progress row tick.progress ∧
      Idles h decided.world w ∧
      ((∃ finish, (h.record row tick.progress).run w = (.ok (), w') ∧
          (finish = none ↔ isWork targetNode = true) ∧
          (leave h fr id node step).exec decided = (.ok finish, ⟨tick, w'⟩)) ∨
        ∃ fault, (h.record row tick.progress).run w = (.error fault, w') ∧
          (leave h fr id node step).exec decided = (.error fault, ⟨tick, w'⟩)) := by
  have routed : stepTarget fr.graph id node step = .ok (target, targetNode) := by
    unfold stepTarget
    rw [leads]
    simp only [found]
  unfold leave
  rw [routed, exec_bind_of_ok (exec_orFail_ok _ _)]
  simp only
  rw [exec_bind_of_ok (exec_change _ _)]
  obtain ⟨now, p, w, arrived, idles, lands, -⟩ := arrival_idles (h := h) routed decided
  rw [exec_bind_of_ok arrived]
  obtain ⟨row, w', looks, owner, named, written⟩ :=
    record_writes h fr id target step.event step.reason step.attempt step.loopIteration
      ⟨Tick.movedTo decided.tick p, w⟩
  have departure : Departure fr.graph id step target targetNode decided.tick.progress row p := by
    refine ⟨looks, owner, found, now, ?_⟩
    cases landing_of_landed lands with
    | left _ found' arrives =>
        rw [found] at found'
        cases found'
        exact arrives
  rcases written with ⟨w'', events, wrote, ran⟩ | ⟨fault, w'', broke, ran⟩
  · refine ⟨row, { Tick.movedTo decided.tick p with events }, w', w'', departure, idles.trans named, .inl ?_⟩
    rw [exec_bind_of_ok ran]
    obtain ⟨finish, reported, goesOn⟩ := exec_arrivalFinish step targetNode
      ⟨{ Tick.movedTo decided.tick p with events := events }, w''⟩
    refine ⟨finish, wrote, ⟨goesOn, fun work => ?_⟩, reported⟩
    exact Except.ok.inj ((congrArg Prod.fst reported).symm.trans
      (congrArg Prod.fst (exec_arrivalFinish_work step work _)))
  · refine ⟨row, Tick.movedTo decided.tick p, w', w'', departure, idles.trans named, .inr ⟨fault, broke, ?_⟩⟩
    rw [exec_bind_of_error ran]

/-- A run whose visit decides on a step with a target departs. -/
theorem run_departs {previous : Option String} (stands : StandsAt fr.graph live.tick.progress id node)
    (work : isWork node = true) (room : live.tick.transitions < budget.perRun)
    (marked : (markRunning h).exec live = (.ok (), begun))
    (visited : (runState h fr id node).exec begun = (.ok step, decided))
    (leads : node.target? step.event = some target) (found : fr.graph.state? target = some targetNode) :
    Departs h fr budget left id step target decided ((run h fr budget (left + 1) previous).exec live) := by
  obtain ⟨row, tick, w, w', departure, idles, left'⟩ :=
    exec_leave h id decided leads found
  have taken := exec_takeTransition fr id node room marked
  rw [exec_bind_of_ok visited] at taken
  unfold run
  rw [exec_bind_of_ok (exec_arrive_work previous stands work)]
  simp only
  rcases left' with ⟨finish, wrote, onward, ran⟩ | ⟨fault, broke, ran⟩
  · rw [exec_bind_of_ok (taken.trans ran)]
    cases finish with
    | none => exact .onward departure (onward.mp rfl) idles wrote
    | some finish =>
        exact .stops finish departure (Bool.eq_false_iff.mpr fun work => nomatch onward.mpr work) idles wrote
  · rw [exec_bind_of_error (taken.trans ran)]
    exact .unrecorded departure idles broke

/-- A run whose visit breaks off ends with its fault. -/
theorem run_breaks {previous : Option String} {fault : Fault}
    (stands : StandsAt fr.graph live.tick.progress id node) (work : isWork node = true)
    (room : live.tick.transitions < budget.perRun)
    (marked : (markRunning h).exec live = (.ok (), begun))
    (visited : (runState h fr id node).exec begun = (.error fault, decided)) :
    (run h fr budget (left + 1) previous).exec live = (.error fault, decided) := by
  have taken := exec_takeTransition fr id node room marked
  rw [exec_bind_of_error visited] at taken
  unfold run
  rw [exec_bind_of_ok (exec_arrive_work previous stands work)]
  simp only
  rw [exec_bind_of_error taken]

/-! ## Visits of orchestrate states -/

section

variable {routes : Routes} {handler : Handler F} {selector : Selector F} {q : Question F}
variable {answer : Except Raised Value} {w : W} {s : Stance} {pages : List Value}

/-- A visit whose answer leads out of the state decides on that step. -/
theorem visited_of_leave
    (asks : question fr id begun.tick.stance (.orchestrate routes handler selector) = .ok q)
    (answered : q.ask h.behaviour begun.world = (answer, w))
    (judged : reacted id begun.tick.stance (.orchestrate routes handler selector) answer =
      ⟨s, pages, .ok (.leave step)⟩) :
    (runState h fr id (.orchestrate routes handler selector)).exec begun =
      (.ok step, ⟨begun.tick.taken s pages, w⟩) := by
  obtain ⟨r, settles, ran⟩ := (runOrchestrate_asksOnce h fr id routes handler selector).resolved
    begun q answer w asks answered
  rw [judged] at settles ran
  cases settles
  exact ran

/-- A visit whose answer is a fault breaks off with it. -/
theorem visited_of_fault {fault : Fault}
    (asks : question fr id begun.tick.stance (.orchestrate routes handler selector) = .ok q)
    (answered : q.ask h.behaviour begun.world = (answer, w))
    (judged : reacted id begun.tick.stance (.orchestrate routes handler selector) answer =
      ⟨s, pages, .error fault⟩) :
    (runState h fr id (.orchestrate routes handler selector)).exec begun =
      (.error fault, ⟨begun.tick.taken s pages, w⟩) := by
  obtain ⟨r, settles, ran⟩ := (runOrchestrate_asksOnce h fr id routes handler selector).resolved
    begun q answer w asks answered
  rw [judged] at settles ran
  cases settles
  exact ran

end

end Engine

end Tickwork

import Tickwork.Proofs.Turn

/-!
# Where a verdict lands

`landed` fails or gives a row's shape and the progress that is kept with it. `Landing` says what it can
give, case by case: an attempt that is tried again keeps the task where it is, and a step out of a state
leads along one of its routes, to an end, into a pause or to further work.
-/

set_option autoImplicit false

namespace Tickwork

variable {F : Type}

namespace Engine

variable {g : Graph F} {id target : String} {node targetNode : State F} {now : Instant}
variable {arrival : Option String} {p q : Progress} {step : Step} {shape : Shape}
variable {verdict : Verdict}

theorem stepTarget_ok (routed : stepTarget g id node step = .ok (target, targetNode)) :
    node.target? step.event = some target ∧ g.state? target = some targetNode := by
  unfold stepTarget at routed
  cases leads : node.target? step.event with
  | none =>
      rw [leads] at routed
      cases routed
  | some target' =>
      simp only [leads] at routed
      cases found : g.state? target' with
      | none =>
          rw [found] at routed
          cases routed
      | some node' =>
          rw [found] at routed
          cases routed
          exact ⟨rfl, found⟩

/-- What an arrival can come to. -/
inductive Arrival (g : Graph F) (id target : String) (now : Instant) (arrival : Option String)
    (moved : Progress) : State F → Progress → Prop
  | ended (status : EndStatus) (message : Option String) :
      Arrival g id target now arrival moved (.terminal status message)
        (Progress.atEnd moved target status message arrival)
  | paused {resume next : String} (resumes : g.resumeTarget target (some id) = .ok next) :
      Arrival g id target now arrival moved (.feedback resume) (Progress.pausedAt moved next now)
  | onward {node : State F} (work : isWork node = true) :
      Arrival g id target now arrival moved node moved

theorem arrival_of_arrived (arrives : arrived g id target now arrival p targetNode = .ok q) :
    Arrival g id target now arrival p targetNode q := by
  cases targetNode with
  | terminal status message =>
      cases arrives
      exact .ended status message
  | feedback resume =>
      simp only [arrived] at arrives
      cases resumes : g.resumeTarget target (some id) with
      | error fault =>
          rw [resumes] at arrives
          cases arrives
      | ok next =>
          rw [resumes] at arrives
          cases arrives
          exact .paused resumes
  | _ =>
      cases arrives
      exact .onward rfl

/-- What a verdict can land as. -/
inductive Landing (g : Graph F) (id : String) (node : State F) (now : Instant) (p : Progress) :
    Verdict → Shape → Progress → Prop
  | again (reason : Reason) (attempt : Int) :
      Landing g id node now p (.again reason attempt)
        ⟨id, id, "failed", .known reason, attempt, 0⟩ p
  | left {step : Step} {target : String} {targetNode : State F} {q : Progress}
      (leads : node.target? step.event = some target) (found : g.state? target = some targetNode)
      (arrives : Arrival g id target now step.message (Progress.moved p step target) targetNode q) :
      Landing g id node now p (.leave step)
        ⟨id, target, step.event, .known step.reason, step.attempt, step.loopIteration⟩ q

theorem landing_of_landed (lands : landed g id node now p verdict = .ok (shape, q)) :
    Landing g id node now p verdict shape q := by
  cases verdict with
  | again reason attempt =>
      cases lands
      exact .again reason attempt
  | leave step =>
      simp only [landed] at lands
      cases routed : stepTarget g id node step with
      | error cause =>
          rw [routed] at lands
          cases lands
      | ok route =>
          obtain ⟨target, targetNode⟩ := route
          obtain ⟨leads, found⟩ := stepTarget_ok routed
          simp only [routed] at lands
          cases arrives : arrived g id target now step.message (Progress.moved p step target)
              targetNode with
          | error fault =>
              rw [arrives] at lands
              cases lands
          | ok landing =>
              rw [arrives] at lands
              cases lands
              exact .left leads found (arrival_of_arrived arrives)

/-! ## What follows for the task -/

theorem Arrival.taskId (arrives : Arrival g id target now arrival p targetNode q) :
    q.taskId = p.taskId := by
  cases arrives <;> rfl

theorem Arrival.context (arrives : Arrival g id target now arrival p targetNode q) :
    q.context = p.context := by
  cases arrives <;> rfl

theorem Landing.taskId (lands : Landing g id node now p verdict shape q) : q.taskId = p.taskId := by
  cases lands with
  | again reason attempt => rfl
  | left leads found arrives => exact arrives.taskId

/-- The row tells of the state that was visited. -/
theorem Landing.source (lands : Landing g id node now p verdict shape q) : shape.fromId = id := by
  cases lands <;> rfl

/-- The arrival at a pause or an end stops the task. -/
theorem Arrival.halted (arrives : Arrival g id target now arrival p targetNode q)
    (rest : isWork targetNode = false) : q.lifecycle ≠ .running := by
  cases arrives with
  | ended status message => cases status <;> exact nofun
  | paused resumes => exact nofun
  | onward work =>
      rw [rest] at work
      cases work

theorem Arrival.at_work (arrives : Arrival g id target now arrival p targetNode q)
    (work : isWork targetNode = true) : q = p := by
  cases arrives with
  | ended status message => cases work
  | paused resumes => cases work
  | onward work => rfl

theorem Arrival.moved (arrives : Arrival g id target now arrival p targetNode q)
    (running : q.lifecycle = .running) : q = p := by
  cases arrives with
  | ended status message => cases status <;> cases running
  | paused resumes => cases running
  | onward work => rfl

/-- A task that has not ended where it lands has a position there. -/
theorem Landing.placed (lands : Landing g id node now p verdict shape q)
    (alive : q.lifecycle.isTerminal = false) (placed : ∃ id, p.currentStateId = some id) :
    ∃ id, q.currentStateId = some id := by
  cases lands with
  | again reason attempt => exact placed
  | left leads found arrives =>
      cases arrives with
      | ended status message => cases status <;> cases alive
      | paused resumes => exact ⟨_, rfl⟩
      | onward work => exact ⟨_, rfl⟩

end Engine

end Tickwork

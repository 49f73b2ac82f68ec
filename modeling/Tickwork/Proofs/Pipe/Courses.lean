import Tickwork.Proofs.Determinism
import Tickwork.Proofs.Pipe.Meaning
import Tickwork.Proofs.Replies.Key

/-!
# Courses

A course is what becomes of a task, turn after turn, when every pause gets the next reply of a script: the
turns are the foreseen ones, and the course closes where the task ends or waits for a reply that is not
there. `Leads` says that a stance has a course to a given close.
-/

set_option autoImplicit false

namespace Tickwork

variable {F : Type}

namespace Pipe

open Engine

/-- The functions of a pipe as callables. They leave their context as it is. -/
def computed (fn : Functions F) (f : F) (call : Call) : Answer :=
  ⟨fn f call.context call.reply?, call.context⟩

/-- A task that came to rest as told, with the pages so far and the replies that are left. -/
structure Closed (p : Progress) (pages : List Value) (script : List String) (close : Close) :
    Prop where
  lifecycle : p.lifecycle = close.lifecycle
  lastError : p.lastError = close.lastError
  context : Fields.erase replyKey p.context = close.context
  pages : close.fatal = false → pages = close.pages
  halted : p.lifecycle.isTerminal = true ∨ p.lifecycle = .feedback ∧ script = []
  left : close.fatal = false → p.lifecycle = .feedback ∨ p.currentStateId = none

/-- What becomes of a task within a number of turns. A reply is handed out once: it is not there any more
where the task goes on. -/
inductive Course (fn : Functions F) (fr : Frame F) (close : Close) :
    Nat → Stance → List Value → List String → Prop
  | closes {k : Nat} {s : Stance} {pages : List Value} {script : List String} {trace : Trace}
      {kept : Option String} (next : foreseen (computed fn) fr s = some (trace, kept))
      (closed : Closed trace.progress (pages ++ trace.pages) script close) :
      Course fn fr close k s pages script
  | begins {k : Nat} {s : Stance} {pages : List Value} {script : List String} {id : String}
      {node : State F} (stands : StandsAt fr.graph s.progress id node) (work : isWork node = true)
      (idle : s.progress.lifecycle ≠ .running)
      (rest : Course fn fr close k ⟨Progress.begun s.progress, s.feedback⟩ pages script) :
      Course fn fr close (k + 1) s pages script
  | goes {k : Nat} {s : Stance} {pages : List Value} {script : List String} {trace : Trace}
      (next : foreseen (computed fn) fr s = some (trace, none))
      (running : trace.progress.lifecycle = .running)
      (rest : Course fn fr close k ⟨trace.progress, none⟩ (pages ++ trace.pages) script) :
      Course fn fr close (k + 1) s pages script
  | resumes {k : Nat} {s : Stance} {pages : List Value} {reply : String} {script : List String}
      {trace : Trace} {kept : Option String}
      (next : foreseen (computed fn) fr s = some (trace, kept))
      (paused : trace.progress.lifecycle = .feedback)
      (rest : Course fn fr close k ⟨trace.progress, some reply⟩ (pages ++ trace.pages) script) :
      Course fn fr close (k + 1) s pages (reply :: script)

/-- What becomes of a task in the end. -/
def Leads (fn : Functions F) (fr : Frame F) (close : Close) (s : Stance) (pages : List Value)
    (script : List String) : Prop :=
  ∃ k, Course fn fr close k s pages script

/-- What becomes of a task that arrives at a state: it ends there, or it goes on from there. -/
inductive Arrives (fn : Functions F) (fr : Frame F) (close : Close) (arrival : Option String)
    (s : Stance) (target : String) (pages : List Value) (script : List String) : Prop
  | ended {status : EndStatus} {message : Option String}
      (found : fr.graph.state? target = some (.terminal status message))
      (closed : Closed (Progress.atEnd s.progress target status message arrival) pages script close)
  | onward {node : State F} (found : fr.graph.state? target = some node) (work : isWork node = true)
      (silent : s.feedback = none) (leads : Leads fn fr close s pages script)

section

variable {fn : Functions F} {fr : Frame F} {close : Close} {s : Stance} {pages : List Value}
variable {script : List String} {id target : String} {node : State F} {step : Step}

/-! ## One turn -/

theorem foreseen_of_question (reply : F → Call → Answer) (s : Stance) {q : Question F}
    (stands : StandsAt fr.graph s.progress id node) (work : isWork node = true)
    (running : s.progress.lifecycle = .running) (asked : question fr id s node = .ok q) :
    foreseen reply fr s = foreseenFrom fr id node (reacted id s node (recite reply q)) := by
  rw [foreseen_of_work stands work, if_pos running]
  unfold foreseenVisit
  rw [asked]

theorem landed_of_route {now : Instant} {p q : Progress} {targetNode : State F}
    (routed : node.target? step.event = some target)
    (found : fr.graph.state? target = some targetNode)
    (arrives : arrived fr.graph id target now step.message (Progress.moved p step target)
      targetNode = .ok q) :
    landed fr.graph id node now p (.leave step) =
      .ok (⟨id, target, step.event, .known step.reason, step.attempt, step.loopIteration⟩, q) := by
  have taken : stepTarget fr.graph id node step = .ok (target, targetNode) := by
    simp only [stepTarget, routed, found]
  simp only [landed, taken, arrives]
  rfl

theorem foreseenFrom_of_route (fr : Frame F) (id : String) {j : Judgement Verdict} {q : Progress} {targetNode : State F}
    (decided : j.result = .ok (.leave step)) (routed : node.target? step.event = some target)
    (found : fr.graph.state? target = some targetNode)
    (arrives : arrived fr.graph id target ⟨0⟩ step.message
      (Progress.moved j.after.progress step target) targetNode = .ok q) :
    ∃ shape, foreseenFrom fr id node j =
      some (⟨some shape, q.unwaited, j.pages⟩, j.after.feedback) := by
  unfold foreseenFrom
  rw [decided]
  simp only [landed_of_route routed found arrives]
  exact ⟨_, rfl⟩

theorem Leads.of_leave {j : Judgement Verdict}
    (comes : foreseen (computed fn) fr s = foreseenFrom fr id node j)
    (decided : j.result = .ok (.leave step)) (routed : node.target? step.event = some target)
    (running : j.after.progress.lifecycle = .running)
    (arrives : Arrives fn fr close step.message
      ⟨(Progress.moved j.after.progress step target).unwaited, j.after.feedback⟩ target
      (pages ++ j.pages) script) :
    Leads fn fr close s pages script := by
  cases arrives with
  | @ended status message found closed =>
      obtain ⟨shape, next⟩ := foreseenFrom_of_route fr id decided routed found rfl
      exact ⟨0, .closes (comes.trans next) closed⟩
  | @onward targetNode found work silent leads =>
      obtain ⟨k, rest⟩ := leads
      simp only at silent
      have stays : arrived fr.graph id target ⟨0⟩ step.message
          (Progress.moved j.after.progress step target) targetNode =
            .ok (Progress.moved j.after.progress step target) := by
        cases targetNode with
        | terminal status message => cases work
        | feedback resume => cases work
        | _ => rfl
      obtain ⟨shape, next⟩ := foreseenFrom_of_route fr id decided routed found stays
      rw [silent] at next rest
      exact ⟨k + 1, .goes (comes.trans next) running rest⟩

theorem Leads.of_givenUp {cause : FatalCause} {after : Stance} (scene : Scene)
    (comes : foreseen (computed fn) fr s = some (givenUp after cause))
    (context : Fields.erase replyKey after.progress.context = scene.context)
    (closes : scene.givesUp cause = .rested close) : Leads fn fr close s pages script := by
  cases closes
  exact ⟨0, .closes comes ⟨rfl, rfl, context, nofun, .inl rfl, nofun⟩⟩

end

end Pipe

end Tickwork

import Tickwork.Proofs.Attempts
import Tickwork.Proofs.Landings

/-!
# A tick is a walk

Whatever its callables answer, a tick of the engine is a walk of turns: `advance_walks` gives the writes
of the tick in order, each of them one turn after the one before, and says where and why the walk ends.
-/

set_option autoImplicit false

namespace Tickwork

variable {F W S : Type}

/-- Two progresses that differ in the context, the counters and the last error at most. -/
structure Progress.SamePlace (p q : Progress) : Prop where
  taskId : p.taskId = q.taskId
  workflowId : p.workflowId = q.workflowId
  currentStateId : p.currentStateId = q.currentStateId
  lifecycle : p.lifecycle = q.lifecycle
  terminalStateId : p.terminalStateId = q.terminalStateId
  waitingSince : p.waitingSince = q.waitingSince
  transitionCount : p.transitionCount = q.transitionCount

/-- What the engine relies on in a graph: whole numbers for retry limits, and no route to nowhere. -/
structure Graph.Fit (g : Graph F) : Prop where
  wholeLimits : g.WholeLimits
  named : ∀ id node event target, g.state? id = some node → node.target? event = some target →
    target ≠ ""

/-- What a tick reports of its transitions, rows and pages. -/
structure Finish.Tells (finish : Finish) (t : Tick) : Prop where
  transitions : finish.transitions = t.transitions
  events : finish.events = t.events
  pages : finish.pages = t.pages

namespace Engine

open Tickwork.Action

variable {answers : Question F → Except Raised Value → Prop} {capped : Prop} {fr : Frame F}
variable {h : Host F W} {view : W → S} {keep : S → Option Transition → Progress → S}

theorem reacted_samePlace (id : String) (s : Stance) (node : State F)
    (answer : Except Raised Value) :
    (reacted id s node answer).after.progress.SamePlace s.progress := by
  cases node with
  | action handler routes retry =>
      unfold reacted actionReacted attempted judged concluded Progress.settled
      simp only
      repeat' split
      all_goals exact ⟨rfl, rfl, rfl, rfl, rfl, rfl, rfl⟩
  | orchestrate routes handler selector =>
      unfold reacted handlerReacted selectorReacted
      simp only
      repeat' split
      all_goals exact ⟨rfl, rfl, rfl, rfl, rfl, rfl, rfl⟩
  | loop body bound routes stop =>
      unfold reacted loopReacted
      simp only
      repeat' split
      all_goals exact ⟨rfl, rfl, rfl, rfl, rfl, rfl, rfl⟩
  | feedback resume => exact ⟨rfl, rfl, rfl, rfl, rfl, rfl, rfl⟩
  | terminal status message => exact ⟨rfl, rfl, rfl, rfl, rfl, rfl, rfl⟩
  | unsupported v => exact ⟨rfl, rfl, rfl, rfl, rfl, rfl, rfl⟩

theorem alive_of_running {p : Progress} (running : p.lifecycle = .running) :
    p.lifecycle.isTerminal = false := by
  rw [running]
  rfl

/-! ## Where a task stands -/

section Placed

variable {s after : Stance} {e : Entry} {entries : List Entry}

theorem Doomed.placed {cause : FatalCause} {taskId : Option String}
    (doomed : Doomed answers capped fr s cause taskId after)
    (placed : ∃ id, s.progress.currentStateId = some id) :
    ∃ id, after.progress.currentStateId = some id := by
  obtain ⟨id, current⟩ := placed
  have stays : ∀ {id' : String} {node : State F} {j : Judgement Verdict},
      Visit answers fr s id' node j → j.after.progress.currentStateId = some id := by
    intro id' node j visit
    obtain ⟨q, answer, -, -, rfl⟩ := visit.answered
    exact (reacted_samePlace _ _ _ _).currentStateId.trans current
  cases doomed with
  | missing absent => exact ⟨id, current⟩
  | spent transitions stands work cap => exact ⟨id, current⟩
  | unasked stands work running unresolved => exact ⟨id, current⟩
  | judged visit refused => exact ⟨id, stays visit⟩
  | unrouted visit decided astray => exact ⟨id, stays visit⟩

theorem Turn.placed (turn : Turn answers capped fr s e after)
    (placed : ∃ id, s.progress.currentStateId = some id)
    (alive : after.progress.lifecycle.isTerminal = false) :
    ∃ id, after.progress.currentStateId = some id := by
  cases turn with
  | begin stands work idle => exact placed
  | @halt id status message stands => cases status <;> cases alive
  | rest stands resumes => exact ⟨_, rfl⟩
  | visit visit decided lands owner fits =>
      obtain ⟨q, answer, -, -, rfl⟩ := visit.answered
      obtain ⟨id, current⟩ := placed
      exact (landing_of_landed lands).placed alive
        ⟨id, (reacted_samePlace _ _ _ _).currentStateId.trans current⟩
  | fail doomed => cases alive

end Placed

/-! ## Transitions -/

theorem calm_resumeTarget (g : Graph F) (id : String) (previous : Option String) :
    Calm (g.resumeTarget id previous) := by
  intro fault refused
  unfold Graph.resumeTarget at refused
  repeat' split at refused
  all_goals cases refused
  all_goals rfl

theorem exec_applyPause (fr : Frame F) {id next : String} {previous : Option String}
    (resumes : fr.graph.resumeTarget id previous = .ok next) (live : Live W) :
    (applyPause h fr id previous).exec live =
      (.ok (), ⟨{ live.tick with
        progress := Progress.pausedAt live.tick.progress next (h.now live.world).1 },
        (h.now live.world).2⟩) := by
  unfold applyPause
  rw [resumes]
  simp only
  rw [exec_bind_of_ok (exec_changeProgress _ _), exec_bind_of_ok (exec_onWorld _ _)]
  rfl

/-- A tick whose task has moved along a route. -/
def Tick.movedTo (t : Tick) (p : Progress) : Tick :=
  { t with progress := p, transitions := t.transitions + 1 }

/-- The move along a route, with what the arrival means, is what `landed` says. -/
theorem moved_landed (keeps : h.Keeps view keep) (fr : Frame F) (id : String) (node : State F)
    {step : Step} {target : String} {targetNode : State F}
    (routed : stepTarget fr.graph id node step = .ok (target, targetNode)) (live : Live W) :
    (∃ now p world, (applyArrival h fr id target step.message targetNode).exec
        ⟨move step target live.tick, live.world⟩ = (.ok (), ⟨Tick.movedTo live.tick p, world⟩) ∧
      view world = view live.world ∧
      landed fr.graph id node now live.tick.progress (.leave step) =
        .ok (⟨id, target, step.event, .known step.reason, step.attempt, step.loopIteration⟩, p)) ∨
    ∃ now fault after, (applyArrival h fr id target step.message targetNode).exec
        ⟨move step target live.tick, live.world⟩ = (.error fault, after) ∧
      view after.world = view live.world ∧ fault.isFatal = false ∧
      landed fr.graph id node now live.tick.progress (.leave step) = .error fault := by
  cases targetNode with
  | terminal status message =>
      refine .inl ⟨⟨0⟩, _, live.world, rfl, rfl, ?_⟩
      simp only [landed, routed]
      rfl
  | feedback resume =>
      simp only [applyArrival, landed, routed, arrived]
      cases resumed : fr.graph.resumeTarget target (some id) with
      | error fault =>
          refine .inr ⟨⟨0⟩, fault, ⟨move step target live.tick, live.world⟩, ?_, rfl,
            calm_resumeTarget _ _ _ _ resumed, rfl⟩
          unfold applyPause
          rw [resumed]
          rfl
      | ok next =>
          exact .inl ⟨(h.now live.world).1, _, (h.now live.world).2,
            exec_applyPause fr resumed _, keeps.now _, rfl⟩
  | action handler routes retry =>
      refine .inl ⟨⟨0⟩, _, live.world, rfl, rfl, ?_⟩
      simp only [landed, routed]
      rfl
  | orchestrate routes handler selector =>
      refine .inl ⟨⟨0⟩, _, live.world, rfl, rfl, ?_⟩
      simp only [landed, routed]
      rfl
  | loop body bound routes stop =>
      refine .inl ⟨⟨0⟩, _, live.world, rfl, rfl, ?_⟩
      simp only [landed, routed]
      rfl
  | unsupported v =>
      refine .inl ⟨⟨0⟩, _, live.world, rfl, rfl, ?_⟩
      simp only [landed, routed]
      rfl

/-- A walk that may go on: nothing was written yet, or the task is under way. -/
def Open (entries : List Entry) (s : Stance) : Prop :=
  s.progress.lifecycle = .running ∨ entries = []

theorem Walk.then {s middle after : Stance} {first second : List Entry}
    (front : Walk answers capped fr s first middle) (more : Open first middle)
    (back : Walk answers capped fr middle second after) :
    Walk answers capped fr s (first ++ second) after := by
  rcases more with running | rfl
  · exact front.of_running running back
  · cases front
    exact back

theorem Walk.placed {s after : Stance} {entries : List Entry}
    (walk : Walk answers capped fr s entries after)
    (placed : ∃ id, s.progress.currentStateId = some id) (more : Open entries after) :
    ∃ id, after.progress.currentStateId = some id := by
  induction walk with
  | refl s => exact placed
  | last turn =>
      rcases more with running | none_left
      · exact turn.placed placed (alive_of_running running)
      · cases none_left
  | step turn running rest ih =>
      have running' := more.resolve_right (by simp)
      exact ih (turn.placed placed (alive_of_running running)) (.inl running')

theorem Walk.placed_of_alive {s after : Stance} {entries : List Entry}
    (walk : Walk answers capped fr s entries after)
    (placed : ∃ id, s.progress.currentStateId = some id)
    (alive : after.progress.lifecycle.isTerminal = false) :
    ∃ id, after.progress.currentStateId = some id := by
  induction walk with
  | refl s => exact placed
  | last turn => exact turn.placed placed alive
  | step turn running rest ih => exact ih (turn.placed placed (alive_of_running running)) alive

/-- What one transition comes to: the task is under way at its target, stopped there, is given up or a
fault escapes. -/
inductive Took (answers : Question F → Except Raised Value → Prop) (capped : Prop)
    (h : Host F W) (view : W → S) (keep : S → Option Transition → Progress → S) (fr : Frame F)
    (live : Live W) : Except Fault (Option Finish) × Live W → Prop
  | went {entries : List Entry} {s : Stance} {world : W} {target : String} {node : State F}
      (walk : Walk answers capped fr live.tick.stance entries s)
      (seen : view world = keepAll keep (view live.world) entries)
      (running : s.progress.lifecycle = .running) (one : entries.countP Entry.moves = 1)
      (ahead : StandsAt fr.graph s.progress target node) (work : isWork node = true) :
      Took answers capped h view keep fr live (.ok none, ⟨live.tick.grown entries s, world⟩)
  | stopped {entries : List Entry} {s : Stance} {world : W} {finish : Finish}
      (walk : Walk answers capped fr live.tick.stance entries s)
      (seen : view world = keepAll keep (view live.world) entries)
      (wrote : entries ≠ []) (halted : s.progress.lifecycle ≠ .running)
      (one : entries.countP Entry.moves = 1)
      (off : ∃ row ∈ rowsOf entries, ∃ node,
        fr.graph.state? row.toId = some node ∧ isWork node = false)
      (ending : finish.ending = .ofLifecycle s.progress.lifecycle)
      (tells : finish.Tells (live.tick.grown entries s)) :
      Took answers capped h view keep fr live (.ok (some finish), ⟨live.tick.grown entries s, world⟩)
  | doomed {entries : List Entry} {s : Stance} {cause : FatalCause} {taskId : Option String}
      {after : Live W} (walk : Walk answers capped fr live.tick.stance entries s)
      (more : Open entries s) (seen : view after.world = keepAll keep (view live.world) entries)
      (doom : Doomed answers capped fr s cause taskId after.tick.stance)
      (still : entries.countP Entry.moves = 0) :
      Took answers capped h view keep fr live (.error (.fatal cause taskId), after)
  | escaped {entries : List Entry} {s : Stance} {fault : Fault} {after : Live W}
      (walk : Walk answers capped fr live.tick.stance entries s)
      (seen : view after.world = keepAll keep (view live.world) entries)
      (calm : fault.isFatal = false)
      (escape : Escape answers h fr entries s fault after.tick.progress)
      (still : h.Sturdy → entries.countP Entry.moves = 0) :
      Took answers capped h view keep fr live (.error fault, after)

/-- A write of the progress reaches the view, and then it may break down. -/
theorem checkpoint_cases (keeps : h.Keeps view keep) (live : Live W) :
    ∃ world, view world = keep (view live.world) none live.tick.progress ∧
      ((checkpoint h).exec live = (.ok (), ⟨live.tick, world⟩) ∨
        ∃ fault, (checkpoint h).exec live = (.error fault, ⟨live.tick, world⟩) ∧
          fault.isFatal = false ∧ ¬ h.Sturdy) := by
  unfold checkpoint
  rw [exec_bind_of_ok (exec_progress _), exec_onStore]
  have seen := keeps.checkpoint live.tick.progress live.world
  refine ⟨_, seen, ?_⟩
  cases written : ((h.checkpoint live.tick.progress).run live.world).1 with
  | ok _ => exact .inl rfl
  | error fault =>
      refine .inr ⟨fault, rfl, keeps.checkpoint_calm _ _ _ written, ?_⟩
      intro sturdy
      have fine := sturdy.checkpoint live.tick.progress live.world
      rw [written] at fine
      cases fine

theorem markRunning_cases (keeps : h.Keeps view keep) (live : Live W) {id : String}
    {node : State F} (stands : StandsAt fr.graph live.tick.progress id node)
    (work : isWork node = true) :
    ∃ entries s, Walk answers capped fr live.tick.stance entries s ∧
      s.progress.lifecycle = .running ∧ StandsAt fr.graph s.progress id node ∧
      entries.countP Entry.moves = 0 ∧
      ((∃ world, (markRunning h).exec live = (.ok (), ⟨live.tick.grown entries s, world⟩) ∧
          view world = keepAll keep (view live.world) entries) ∨
        ∃ fault world, (markRunning h).exec live =
            (.error fault, ⟨live.tick.grown entries s, world⟩) ∧
          view world = keepAll keep (view live.world) entries ∧ fault.isFatal = false ∧
          entries ≠ [] ∧ ¬ h.Sturdy) := by
  unfold markRunning
  rw [exec_bind_of_ok (exec_progress live)]
  by_cases running : live.tick.progress.lifecycle = .running
  · refine ⟨[], live.tick.stance, .refl _, running, stands, rfl, .inl ⟨live.world, ?_, rfl⟩⟩
    simp only [running, ne_eq, not_true_eq_false, if_false, Tick.grown_nil]
    rfl
  · have turn : Turn answers capped fr live.tick.stance _ _ := .begin stands work running
    refine ⟨_, _, .last turn, rfl, stands, rfl, ?_⟩
    simp only [ne_eq, running, not_false_eq_true, if_true]
    rw [exec_bind_of_ok (exec_changeProgress _ _)]
    have grown : live.tick.grown [⟨none, Progress.begun live.tick.stance.progress, []⟩]
        ⟨Progress.begun live.tick.stance.progress, live.tick.stance.feedback⟩ =
        { live.tick with progress := Progress.begun live.tick.progress } := by
      simp [Tick.grown, Tick.stance, rowsOf, pagesOf, Entry.moves]
    rw [grown]
    obtain ⟨world, seen, ran | ⟨fault, ran, calm, weak⟩⟩ := checkpoint_cases keeps
      ⟨{ live.tick with progress := Progress.begun live.tick.progress }, live.world⟩
    · exact .inl ⟨world, ran, seen⟩
    · exact .inr ⟨fault, world, ran, seen, calm, by simp, weak⟩

theorem Took.after_walk {live : Live W} {entries : List Entry} {middle : Stance} {world : W}
    {r : Except Fault (Option Finish) × Live W}
    (walk : Walk answers capped fr live.tick.stance entries middle)
    (more : Open entries middle) (still : entries.countP Entry.moves = 0)
    (seen : view world = keepAll keep (view live.world) entries)
    (rest : Took answers capped h view keep fr ⟨live.tick.grown entries middle, world⟩ r) :
    Took answers capped h view keep fr live r := by
  have open_append : ∀ (second : List Entry) (s : Stance),
      Walk answers capped fr middle second s → Open second s →
      Open (entries ++ second) s := by
    intro second s back open'
    rcases open' with running | rfl
    · exact .inl running
    · cases back
      simpa using more
  cases rest with
  | @went second s world target node back seen' running one ahead work =>
      simp only [Tick.grown_append]
      refine .went (walk.then more back) ?_ running ?_ ahead work
      · rw [seen', seen, keepAll_append]
      · rw [List.countP_append, still, one]
  | @stopped second s world finish back seen' wrote halted one off ending tells =>
      simp only [Tick.grown_append] at tells ⊢
      refine .stopped (walk.then more back) ?_ (by simp [wrote]) halted ?_ ?_ ending tells
      · rw [seen', seen, keepAll_append]
      · rw [List.countP_append, still, one]
      · obtain ⟨row, among, reached⟩ := off
        refine ⟨row, ?_, reached⟩
        rw [rowsOf_append]
        exact List.mem_append_right _ among
  | @doomed second s cause taskId after back open' seen' doom still' =>
      refine .doomed (walk.then more back) (open_append second s back open') ?_ doom ?_
      · rw [seen', seen, keepAll_append]
      · rw [List.countP_append, still, still']
  | @escaped second s fault after back seen' calm escape still' =>
      refine .escaped (walk.then more back) ?_ calm (Escape.after escape) fun sturdy => ?_
      · rw [seen', seen, keepAll_append]
      · rw [List.countP_append, still, still' sturdy]

theorem arrivalFinish_cases (step : Step) (targetNode : State F) (live : Live W) :
    (isWork targetNode = true ∧ (arrivalFinish step targetNode).exec live = (.ok none, live)) ∨
      ∃ finish : Finish, isWork targetNode = false ∧
        (arrivalFinish step targetNode).exec live = (.ok (some finish), live) ∧
        finish.ending = .ofLifecycle live.tick.progress.lifecycle ∧ finish.Tells live.tick := by
  cases targetNode with
  | terminal status message => exact .inr ⟨_, rfl, rfl, rfl, rfl, rfl, rfl⟩
  | feedback resume => exact .inr ⟨_, rfl, rfl, rfl, rfl, rfl, rfl⟩
  | action handler routes retry => exact .inl ⟨rfl, rfl⟩
  | orchestrate routes handler selector => exact .inl ⟨rfl, rfl⟩
  | loop body bound routes stop => exact .inl ⟨rfl, rfl⟩
  | unsupported v => exact .inl ⟨rfl, rfl⟩

theorem position_of_current {g : Graph F} {p : Progress} {id : String}
    (current : p.currentStateId = some id) (named : id ≠ "") : position g p = id := by
  simp [position, current, firstNonempty, named]

/-- A verdict to leave ends the transition with one row, at the target of its step. -/
theorem leave_took (keeps : h.Keeps view keep) (fit : fr.graph.Fit) {id : String} {node : State F}
    {live taken : Live W} {j : Judgement Verdict} {step : Step}
    (visit : Visit answers fr live.tick.stance id node j) (decided : j.result = .ok (.leave step))
    (stands : taken.tick = live.tick.taken j.after j.pages)
    (unseen : view taken.world = view live.world) (notAttempt : step.reason.isAttempt = false) :
    Took answers capped h view keep fr live
      ((do
        let (target, targetNode) ← orFail (stepTarget fr.graph id node step)
        Action.change (move step target)
        applyArrival h fr id target step.message targetNode
        record h fr id target step.event step.reason step.attempt step.loopIteration
        arrivalFinish step targetNode : Action W (Option Finish)).exec taken) := by
  obtain ⟨tick, world⟩ := taken
  subst stands
  have running : live.tick.stance.progress.lifecycle = .running := visit.running
  cases routed : stepTarget fr.graph id node step with
  | error cause =>
      rw [exec_bind_of_error (exec_orFail_error cause _)]
      have astray : landed fr.graph id node ⟨0⟩ j.after.progress (.leave step) =
          .error (.fatal cause none) := by
        simp only [landed, routed]
      exact .doomed (.refl _) (.inl running) unseen (.unrouted visit decided astray) rfl
  | ok route =>
      obtain ⟨target, targetNode⟩ := route
      rw [exec_bind_of_ok (exec_orFail_ok _ _)]
      simp only
      rw [exec_bind_of_ok (exec_change _ _)]
      rcases moved_landed keeps fr id node routed ⟨live.tick.taken j.after j.pages, world⟩ with
        ⟨now, p, world', ran, unseen', lands⟩ | ⟨now, fault, after, ran, unseen', calm, lost⟩
      · rw [exec_bind_of_ok ran]
        obtain ⟨leads, found⟩ := stepTarget_ok routed
        have arrives : Arrival fr.graph id target now step.message
            (Progress.moved j.after.progress step target) targetNode p := by
          cases landing_of_landed lands with
          | left leads' found' arrives =>
              rw [found] at found'
              cases found'
              exact arrives
        obtain ⟨r, after, ran, recorded⟩ := record_recorded keeps fr id target step.event
          step.reason step.attempt step.loopIteration
          ⟨Tick.movedTo (live.tick.taken j.after j.pages) p, world'⟩
        have lands' : ∀ row : Transition, row.shape = _ →
            landed fr.graph id node now j.after.progress (.leave step) = .ok (row.shape, p) :=
          fun row looks => looks ▸ lands
        cases recorded with
        | @refused row world'' fault looks owner unfit seen =>
            rw [exec_bind_of_error ran]
            exact .escaped (.refl _) (seen.trans (unseen'.trans unseen)) (row.calm_check _ unfit)
              (.refused visit decided (lands' row looks) owner unfit) fun _ => rfl
        | @broke row world'' fault looks owner fits seen weak calm =>
            rw [exec_bind_of_error ran]
            have turn : Turn answers capped fr live.tick.stance ⟨some row, p, j.pages⟩
                ⟨p, j.after.feedback⟩ := .visit visit decided (lands' row looks) owner fits
            exact .escaped (.last turn) (by rw [seen, unseen', unseen]; rfl) calm
              (.broke (by simp) weak) fun sturdy => absurd sturdy weak
        | @kept row world'' looks owner fits seen =>
            rw [exec_bind_of_ok ran]
            have turn : Turn answers capped fr live.tick.stance ⟨some row, p, j.pages⟩
                ⟨p, j.after.feedback⟩ := .visit visit decided (lands' row looks) owner fits
            have seen' : view world'' =
                keepAll keep (view live.world) [⟨some row, p, j.pages⟩] := by
              rw [seen, unseen', unseen]
              rfl
            have moves : row.moves = true := by
              have reason_eq : row.reason = .known step.reason := congrArg Shape.reason looks
              simp [Transition.moves, reason_eq, notAttempt]
            have grown : { Tick.movedTo (live.tick.taken j.after j.pages) p with
                events := (Tick.movedTo (live.tick.taken j.after j.pages) p).events ++ [row] } =
                live.tick.grown [⟨some row, p, j.pages⟩] ⟨p, j.after.feedback⟩ := by
              simp [Tick.grown, Tick.taken, Tick.movedTo, rowsOf, pagesOf, Entry.moves, moves]
            simp only [grown]
            rcases arrivalFinish_cases step targetNode
                ⟨live.tick.grown [⟨some row, p, j.pages⟩] ⟨p, j.after.feedback⟩, world''⟩ with
              ⟨work, ran⟩ | ⟨finish, rest, ran, ending, tells⟩
            · rw [ran]
              have moved := arrives.at_work work
              have named := fit.named id node step.event target visit.stands.2 leads
              have place : Progress.SamePlace j.after.progress live.tick.stance.progress := by
                obtain ⟨q, answer, -, -, rfl⟩ := visit.answered
                exact reacted_samePlace id live.tick.stance node answer
              have under : p.lifecycle = .running := by
                rw [moved]
                exact place.lifecycle.trans running
              have current : p.currentStateId = some target := by
                rw [moved]
                rfl
              refine .went (.last turn) seen' under ?_
                ⟨position_of_current current named, found⟩ work
              simp [Entry.moves, moves]
            · rw [ran]
              have aims : row.toId = target := congrArg Shape.toId looks
              exact .stopped (.last turn) seen' (by simp) (arrives.halted rest)
                (by simp [Entry.moves, moves])
                ⟨row, by simp [rowsOf], targetNode, by rw [aims]; exact found, rest⟩ ending tells
      · rw [exec_bind_of_error ran]
        exact .escaped (.refl _) (unseen'.trans unseen) calm
          (.unlanded visit decided lost) fun _ => rfl

theorem reacted_leave_reason {id : String} {s : Stance} {node : State F}
    {answer : Except Raised Value} {step : Step}
    (decided : (reacted id s node answer).result = .ok (.leave step)) :
    step.reason.isAttempt = false := by
  cases node with
  | action handler routes retry =>
      unfold reacted actionReacted at decided
      simp only at decided
      split at decided
      · cases decided
      · rename_i outcome _
        cases outcome with
        | settled o =>
            simp only [concluded] at decided
            cases decided
            unfold settledStep
            by_cases done : o.status = "done" <;> simp [done, Reason.isAttempt]
        | failed reason message =>
            simp only [concluded] at decided
            split at decided
            · split at decided <;> cases decided
              rfl
            · cases decided
  | orchestrate routes handler selector =>
      unfold reacted handlerReacted selectorReacted at decided
      simp only at decided
      repeat' split at decided
      all_goals cases decided
      all_goals rfl
  | loop body bound routes stop =>
      unfold reacted loopReacted at decided
      simp only at decided
      repeat' split at decided
      all_goals cases decided
      all_goals rfl
  | feedback resume => cases decided
  | terminal status message => cases decided
  | unsupported v => cases decided

/-- One transition, from a state where the task has work to do. -/
theorem takeTransition_took (serves : Serves h answers view keep) (fit : fr.graph.Fit)
    (budget : Budget) {id : String} {node : State F} (live : Live W)
    (stands : StandsAt fr.graph live.tick.progress id node) (work : isWork node = true)
    (cap : live.tick.transitions < budget.perRun ∨ capped) :
    Took answers capped h view keep fr live ((takeTransition h fr budget id node).exec live) := by
  unfold takeTransition
  rw [exec_bind_of_ok (exec_tick live)]
  by_cases isOver : budget.perRun ≤ live.tick.transitions
  · simp only [isOver, if_true]
    have given_up : capped := cap.resolve_left (Nat.not_lt.mpr isOver)
    exact .doomed (.refl _) (.inr rfl) rfl (.spent live.tick.transitions stands work given_up) rfl
  · simp only [isOver, if_false]
    obtain ⟨entries, s, walk, running, stands', still, marked⟩ :=
      markRunning_cases serves.keeps live stands work
    rcases marked with ⟨world, ran, seen⟩ | ⟨fault, world, ran, seen, calm, wrote, weak⟩
    · rw [exec_bind_of_ok ran]
      refine Took.after_walk walk (.inl running) still seen ?_
      have visited : Visited answers capped h view keep fr id node
          ⟨live.tick.grown entries s, world⟩ _ :=
        runState_visited serves fit.wholeLimits ⟨live.tick.grown entries s, world⟩ stands' work
          running
      generalize came : (runState h fr id node).exec ⟨live.tick.grown entries s, world⟩ = r
        at visited
      cases visited with
      | doomed walk running seen doom still =>
          rw [exec_bind_of_error came]
          exact .doomed walk (.inl running) seen doom still
      | escaped walk running seen calm escape still =>
          rw [exec_bind_of_error came]
          exact .escaped walk seen calm escape fun _ => still
      | @left second s' j step world' walk seen still visit decided =>
          rw [exec_bind_of_ok came]
          have leaves : step.reason.isAttempt = false := by
            obtain ⟨q, answer, -, -, rfl⟩ := visit.answered
            exact reacted_leave_reason decided
          refine Took.after_walk walk (.inl visit.running) still seen ?_
          exact leave_took serves.keeps fit visit decided rfl rfl leaves
    · rw [exec_bind_of_error ran]
      exact .escaped walk seen calm (.broke wrote weak) fun _ => still

/-! ## Runs -/

/-- What a run of at most `left` transitions comes to: the task stopped, all of them were taken, the task
is given up or a fault escapes. -/
inductive Ran (answers : Question F → Except Raised Value → Prop) (capped : Prop)
    (h : Host F W) (view : W → S) (keep : S → Option Transition → Progress → S) (fr : Frame F)
    (left : Nat) (live : Live W) : Except Fault Finish × Live W → Prop
  | stopped {entries : List Entry} {s : Stance} {world : W} {finish : Finish}
      (walk : Walk answers capped fr live.tick.stance entries s)
      (seen : view world = keepAll keep (view live.world) entries)
      (wrote : entries ≠ []) (halted : s.progress.lifecycle ≠ .running)
      (ending : finish.ending = .ofLifecycle s.progress.lifecycle)
      (tells : finish.Tells (live.tick.grown entries s)) :
      Ran answers capped h view keep fr left live (.ok finish, ⟨live.tick.grown entries s, world⟩)
  | spent {entries : List Entry} {s : Stance} {world : W} {finish : Finish} {target : String}
      {node : State F} (walk : Walk answers capped fr live.tick.stance entries s)
      (more : Open entries s) (seen : view world = keepAll keep (view live.world) entries)
      (count : entries.countP Entry.moves = left)
      (ahead : StandsAt fr.graph s.progress target node) (work : isWork node = true)
      (ending : finish.ending = .budgetExhausted)
      (tells : finish.Tells (live.tick.grown entries s)) :
      Ran answers capped h view keep fr left live (.ok finish, ⟨live.tick.grown entries s, world⟩)
  | doomed {entries : List Entry} {s : Stance} {cause : FatalCause} {taskId : Option String}
      {after : Live W} (walk : Walk answers capped fr live.tick.stance entries s)
      (more : Open entries s) (seen : view after.world = keepAll keep (view live.world) entries)
      (doom : Doomed answers capped fr s cause taskId after.tick.stance) :
      Ran answers capped h view keep fr left live (.error (.fatal cause taskId), after)
  | escaped {entries : List Entry} {s : Stance} {fault : Fault} {after : Live W}
      (walk : Walk answers capped fr live.tick.stance entries s)
      (seen : view after.world = keepAll keep (view live.world) entries)
      (calm : fault.isFatal = false)
      (escape : Escape answers h fr entries s fault after.tick.progress) :
      Ran answers capped h view keep fr left live (.error fault, after)

theorem Ran.after_transition {live : Live W} {entries : List Entry} {middle : Stance} {world : W}
    {left : Nat} {r : Except Fault Finish × Live W}
    (walk : Walk answers capped fr live.tick.stance entries middle)
    (running : middle.progress.lifecycle = .running) (one : entries.countP Entry.moves = 1)
    (seen : view world = keepAll keep (view live.world) entries)
    (rest : Ran answers capped h view keep fr left ⟨live.tick.grown entries middle, world⟩ r) :
    Ran answers capped h view keep fr (left + 1) live r := by
  have open_append : ∀ (second : List Entry) (s : Stance),
      Walk answers capped fr middle second s → Open second s → Open (entries ++ second) s := by
    intro second s back open'
    rcases open' with under | rfl
    · exact .inl under
    · cases back
      exact .inl running
  cases rest with
  | @stopped second s world finish back seen' wrote halted ending tells =>
      simp only [Tick.grown_append] at tells ⊢
      refine .stopped (walk.of_running running back) ?_ (by simp [wrote]) halted ending tells
      rw [seen', seen, keepAll_append]
  | @spent second s world finish target node back open' seen' count ahead work ending tells =>
      simp only [Tick.grown_append] at tells ⊢
      refine .spent (walk.of_running running back) (open_append second s back open') ?_ ?_ ahead
        work ending tells
      · rw [seen', seen, keepAll_append]
      · rw [List.countP_append, one, count, Nat.add_comm]
  | @doomed second s cause taskId after back open' seen' doom =>
      refine .doomed (walk.of_running running back) (open_append second s back open') ?_ doom
      rw [seen', seen, keepAll_append]
  | @escaped second s fault after back seen' calm escape =>
      refine .escaped (walk.of_running running back) ?_ calm (Escape.after escape)
      rw [seen', seen, keepAll_append]

theorem lookup_of_state? {g : Graph F} {id : String} {node : State F}
    (found : g.state? id = some node) : g.states.lookup id = some node := by
  unfold Graph.state? at found
  split at found
  · cases found
  · exact found

theorem resumeTarget_of_state? {g : Graph F} {id resume : String}
    (found : g.state? id = some (.feedback resume)) (previous : Option String) :
    ∃ next, g.resumeTarget id previous = .ok next := by
  unfold Graph.resumeTarget
  rw [lookup_of_state? found]
  simp only
  split
  · exact ⟨_, rfl⟩
  · exact ⟨_, rfl⟩

theorem Tick.rowless_grown (t : Tick) (p : Progress) :
    t.grown [⟨none, p, []⟩] ⟨p, t.feedback⟩ = { t with progress := p } := by
  simp [Tick.grown, rowsOf, pagesOf, Entry.moves]

/-- A turn without a row that stops the task: it is written, and then the tick reports. -/
theorem halt_ran (keeps : h.Keeps view keep) {live : Live W} {p : Progress} {world : W} (left : Nat)
    {α : Type} {report : Action W (Finish ⊕ α)}
    (turn : Turn answers capped fr live.tick.stance ⟨none, p, []⟩ ⟨p, live.tick.feedback⟩)
    (halted : p.lifecycle ≠ .running) (unseen : view world = view live.world)
    (reports : ∀ live' : Live W, ∃ finish : Finish,
      report.exec live' = (.ok (.inl finish), live') ∧
      finish.ending = .ofLifecycle live'.tick.progress.lifecycle ∧ finish.Tells live'.tick) :
    ∃ r after, (do
        checkpoint h
        report : Action W (Finish ⊕ α)).exec ⟨{ live.tick with progress := p }, world⟩ =
        (r, after) ∧
      ((∃ finish, r = .ok (.inl finish) ∧
          Ran answers capped h view keep fr left live (.ok finish, after)) ∨
        ∃ fault, r = .error fault ∧
          Ran answers capped h view keep fr left live (.error fault, after)) := by
  rw [← Tick.rowless_grown]
  obtain ⟨world', seen, ran | ⟨fault, ran, calm, weak⟩⟩ := checkpoint_cases keeps
    ⟨live.tick.grown [⟨none, p, []⟩] ⟨p, live.tick.feedback⟩, world⟩
  · rw [exec_bind_of_ok ran]
    rw [unseen] at seen
    obtain ⟨finish, reported, ending, tells⟩ := reports
      ⟨live.tick.grown [⟨none, p, []⟩] ⟨p, live.tick.feedback⟩, world'⟩
    exact ⟨_, _, reported, .inl ⟨finish, rfl,
      .stopped (.last turn) seen (by simp) halted ending tells⟩⟩
  · rw [exec_bind_of_error ran]
    rw [unseen] at seen
    exact ⟨_, _, rfl, .inr ⟨fault, rfl,
      .escaped (.last turn) seen calm (.broke (by simp) weak)⟩⟩

/-- Where a run looks first: the task has work to do there, or the run ends with at most one write. -/
theorem arrive_ran (keeps : h.Keeps view keep) (live : Live W) (previous : Option String)
    (left : Nat)
    (first : previous = none ∨
      ∃ id node, StandsAt fr.graph live.tick.progress id node ∧ isWork node = true) :
    (∃ id node, StandsAt fr.graph live.tick.progress id node ∧ isWork node = true ∧
      (arrive h fr previous).exec live = (.ok (.inr (id, node)), live)) ∨
    ∃ r after, (arrive h fr previous).exec live = (r, after) ∧
      ((∃ finish, r = .ok (.inl finish) ∧
          Ran answers capped h view keep fr left live (.ok finish, after)) ∨
        ∃ fault, r = .error fault ∧
          Ran answers capped h view keep fr left live (.error fault, after)) := by
  unfold arrive
  rw [exec_bind_of_ok (exec_progress live)]
  simp only
  cases found : fr.graph.state? (position fr.graph live.tick.progress) with
  | none =>
      refine .inr ⟨_, _, rfl, .inr ⟨_, rfl, ?_⟩⟩
      exact .doomed (.refl _) (.inr rfl) rfl (.missing found)
  | some node =>
      cases node with
      | terminal status message =>
          refine .inr ?_
          have turn : Turn answers capped fr live.tick.stance _ _ := .halt ⟨rfl, found⟩
          simp only [applyTerminal]
          rw [exec_bind_of_ok (exec_changeProgress _ _)]
          refine halt_ran keeps left turn ?_ rfl ?_
          · cases status <;> exact nofun
          · intro live'
            exact ⟨_, rfl, rfl, rfl, rfl, rfl⟩
      | feedback resume =>
          refine .inr ?_
          have unmoved : previous = none := by
            rcases first with unmoved | ⟨id, node, stands, work⟩
            · exact unmoved
            · rw [stands.1, stands.2] at found
              cases found
              cases work
          obtain ⟨next, resumes⟩ := resumeTarget_of_state? found none
          have turn : Turn answers capped fr live.tick.stance
              ⟨none, Progress.pausedAt live.tick.progress next (h.now live.world).1, []⟩
              ⟨Progress.pausedAt live.tick.progress next (h.now live.world).1,
                live.tick.feedback⟩ := .rest ⟨rfl, found⟩ resumes
          subst unmoved
          simp only
          rw [exec_bind_of_ok (exec_applyPause fr resumes live)]
          refine halt_ran keeps left turn nofun (keeps.now _) ?_
          intro live'
          exact ⟨_, rfl, rfl, rfl, rfl, rfl⟩
      | action handler routes retry => exact .inl ⟨_, _, ⟨rfl, found⟩, rfl, rfl⟩
      | orchestrate routes handler selector => exact .inl ⟨_, _, ⟨rfl, found⟩, rfl, rfl⟩
      | loop body bound routes stop => exact .inl ⟨_, _, ⟨rfl, found⟩, rfl, rfl⟩
      | unsupported v => exact .inl ⟨_, _, ⟨rfl, found⟩, rfl, rfl⟩

/-- A run of transitions. -/
theorem run_ran (serves : Serves h answers view keep) (fit : fr.graph.Fit) (budget : Budget)
    (left : Nat) (previous : Option String) (live : Live W)
    (first : previous = none ∨
      ∃ id node, StandsAt fr.graph live.tick.progress id node ∧ isWork node = true)
    (cap : live.tick.transitions + left ≤ budget.perRun ∨ capped) :
    Ran answers capped h view keep fr left live ((run h fr budget left previous).exec live) := by
  induction left generalizing previous live with
  | zero =>
      unfold run
      rcases arrive_ran serves.keeps live previous 0 first with
        ⟨id, node, stands, work, ran⟩ | ⟨r, after, ran, ⟨finish, rfl, stops⟩ | ⟨fault, rfl, breaks⟩⟩
      · rw [exec_bind_of_ok ran]
        have tells : Finish.Tells ⟨.budgetExhausted, live.tick.transitions, live.tick.events,
            live.tick.pages, none⟩ (live.tick.grown [] live.tick.stance) := by
          rw [Tick.grown_nil]
          exact ⟨rfl, rfl, rfl⟩
        have spent : Ran answers capped h view keep fr 0 live
            (.ok _, ⟨live.tick.grown [] live.tick.stance, live.world⟩) :=
          .spent (.refl _) (.inr rfl) rfl rfl stands work rfl tells
        rw [Tick.grown_nil] at spent
        exact spent
      · rw [exec_bind_of_ok ran]
        exact stops
      · rw [exec_bind_of_error ran]
        exact breaks
  | succ left ih =>
      unfold run
      rcases arrive_ran serves.keeps live previous (left + 1) first with
        ⟨id, node, stands, work, ran⟩ | ⟨r, after, ran, ⟨finish, rfl, stops⟩ | ⟨fault, rfl, breaks⟩⟩
      · rw [exec_bind_of_ok ran]
        simp only
        have took : Took answers capped h view keep fr live _ :=
          takeTransition_took serves fit budget live stands work
            (cap.imp_left fun room => by omega)
        generalize came : (takeTransition h fr budget id node).exec live = r at took
        cases took with
        | @went entries s world target node walk seen running one ahead work =>
            rw [exec_bind_of_ok came]
            refine .after_transition walk running one seen (ih (some id) _ (.inr ⟨_, _, ahead, work⟩) ?_)
            refine cap.imp_left fun room => ?_
            simp only [Tick.grown, one]
            omega
        | @stopped entries s world finish walk seen wrote halted one off ending tells =>
            rw [exec_bind_of_ok came]
            exact .stopped walk seen wrote halted ending tells
        | doomed walk more seen doom still =>
            rw [exec_bind_of_error came]
            exact .doomed walk more seen doom
        | escaped walk seen calm escape still =>
            rw [exec_bind_of_error came]
            exact .escaped walk seen calm escape
      · rw [exec_bind_of_ok ran]
        exact stops
      · rw [exec_bind_of_error ran]
        exact breaks

/-! ## Advances -/

/-- The tick that an advance starts with. -/
def firstTick (g : Graph F) (p : Progress) (feedback : Option String) : Tick where
  progress := prepare g p
  feedback := acceptedReply p feedback
  events := []
  pages := []
  transitions := 0

/-- How an advance ends whose walk led to `s`, and where it says that the task stands. -/
inductive Advanced (answers : Question F → Except Raised Value → Prop) (h : Host F W) (fr : Frame F)
    (limit : Nat) (entries : List Entry) (s : Stance) : Except Fault Finish × Progress → Prop
  | stopped {finish : Finish} (wrote : entries ≠ []) (halted : s.progress.lifecycle ≠ .running)
      (ending : finish.ending = .ofLifecycle s.progress.lifecycle)
      (events : finish.events = rowsOf entries) (pages : finish.pages = pagesOf entries)
      (transitions : finish.transitions = entries.countP Entry.moves) :
      Advanced answers h fr limit entries s (.ok finish, s.progress)
  | spent {finish : Finish} {target : String} {node : State F} (more : Open entries s)
      (count : entries.countP Entry.moves = limit)
      (ahead : StandsAt fr.graph s.progress target node) (work : isWork node = true)
      (ending : finish.ending = .budgetExhausted)
      (events : finish.events = rowsOf entries) (pages : finish.pages = pagesOf entries)
      (transitions : finish.transitions = entries.countP Entry.moves) :
      Advanced answers h fr limit entries s (.ok finish, s.progress)
  | failed {cause : FatalCause} {taskId : String} (wrote : entries ≠ [])
      (lifecycle : s.progress.lifecycle = .failed)
      (error : s.progress.lastError = some cause.message)
      (placed : ∃ id, s.progress.currentStateId = some id) :
      Advanced answers h fr limit entries s (.error (.fatal cause (some taskId)), s.progress)
  | escaped {fault : Fault} {p : Progress} (calm : fault.isFatal = false)
      (escape : Escape answers h fr entries s fault p) :
      Advanced answers h fr limit entries s (.error fault, p)

theorem advance_active (h : Host F W) (budget : Budget) (g : Graph F) (task : TaskInfo)
    (runId : String) (tickId feedback : Option String) (p : Progress) (w : W)
    (active : p.lifecycle.isTerminal = false) :
    advance h budget g task runId tickId feedback p w =
      let named := tickIdFor h tickId w
      let r := (orPersistFailure h (run h ⟨g, task, runId, named.1⟩ budget budget.perTick none)).exec
        ⟨firstTick g p feedback, named.2⟩
      ((r.1, r.2.tick.progress), r.2.world) := by
  unfold advance
  simp only [active, Bool.false_eq_true, if_false]
  rfl

/-- A task that has ended is not advanced any more. -/
theorem advance_ended (h : Host F W) (budget : Budget) (g : Graph F) (task : TaskInfo)
    (runId : String) (tickId feedback : Option String) {p : Progress} (w : W)
    (ended : p.lifecycle.isTerminal = true) :
    advance h budget g task runId tickId feedback p w =
      ((.ok { ending := .ofLifecycle p.lifecycle, transitions := 0, events := [], pages := [],
              message := p.lastError }, p), w) := by
  unfold advance
  rw [if_pos ended]
  rfl

theorem tickIdFor_view (keeps : h.Keeps view keep) (given : Option String) (w : W) :
    view (tickIdFor h given w).2 = view w := by
  unfold tickIdFor
  cases firstNonempty [given] with
  | some id => rfl
  | none => exact keeps.freshTickId w

/-- An advance of a task that has not ended is a walk of turns, each of them written. -/
theorem advance_walks (serves : Serves h answers view keep) {g : Graph F} (fit : g.Fit)
    (budget : Budget) (task : TaskInfo) (runId : String) (tickId feedback : Option String)
    (p : Progress) (w : W) (active : p.lifecycle.isTerminal = false)
    (cap : budget.perTick ≤ budget.perRun ∨ capped) :
    ∃ (tick : String) (entries : List Entry) (s : Stance),
      Walk answers capped ⟨g, task, runId, tick⟩ ⟨prepare g p, acceptedReply p feedback⟩ entries s ∧
      view (advance h budget g task runId tickId feedback p w).2 =
        keepAll keep (view w) entries ∧
      Advanced answers h ⟨g, task, runId, tick⟩ budget.perTick entries s
        (advance h budget g task runId tickId feedback p w).1 := by
  rw [advance_active h budget g task runId tickId feedback p w active]
  simp only
  have unseen := tickIdFor_view serves.keeps tickId w
  generalize tickIdFor h tickId w = named at unseen ⊢
  obtain ⟨tick, world⟩ := named
  refine ⟨tick, ?_⟩
  have ran : Ran answers capped h view keep ⟨g, task, runId, tick⟩ budget.perTick
      ⟨firstTick g p feedback, world⟩ _ :=
    run_ran serves fit budget budget.perTick none ⟨firstTick g p feedback, world⟩ (.inl rfl)
      (cap.imp_left fun room => by simpa [firstTick] using room)
  unfold orPersistFailure
  rw [exec_tryCatch]
  generalize (run h ⟨g, task, runId, tick⟩ budget budget.perTick none).exec
    ⟨firstTick g p feedback, world⟩ = r at ran ⊢
  cases ran with
  | @stopped entries s world' finish walk seen wrote halted ending tells =>
      refine ⟨entries, s, walk, seen.trans (congrArg (keepAll keep · entries) unseen), ?_⟩
      exact .stopped wrote halted ending tells.events tells.pages
        (tells.transitions.trans (Nat.zero_add _))
  | @spent entries s world' finish target node walk more seen count ahead work ending tells =>
      refine ⟨entries, s, walk, seen.trans (congrArg (keepAll keep · entries) unseen), ?_⟩
      exact .spent more count ahead work ending tells.events tells.pages
        (tells.transitions.trans (Nat.zero_add _))
  | @escaped entries s fault after walk seen calm escape =>
      cases fault with
      | fatal cause taskId => cases calm
      | _ =>
          refine ⟨entries, s, walk, seen.trans (congrArg (keepAll keep · entries) unseen), ?_⟩
          exact .escaped calm escape
  | @doomed entries s cause taskId after walk more seen doom =>
      have whole := walk.then more (.last (.fail doom))
      simp only
      rw [exec_bind_of_ok (exec_changeProgress _ _)]
      obtain ⟨world', kept, ran | ⟨fault, ran, calm, weak⟩⟩ := checkpoint_cases serves.keeps
        ⟨{ after.tick with progress := Progress.failedWith after.tick.progress cause.message },
          after.world⟩
      · rw [exec_bind_of_ok ran, exec_bind_of_ok (exec_progress _)]
        have placed := doom.placed (walk.placed ⟨_, rfl⟩ more)
        refine ⟨_, _, whole, ?_, .failed (by simp) rfl rfl placed⟩
        rw [keepAll_append, ← unseen, ← seen]
        exact kept
      · rw [exec_bind_of_error ran]
        refine ⟨_, _, whole, ?_, .escaped calm (.broke (by simp) weak)⟩
        rw [keepAll_append, ← unseen, ← seen]
        exact kept

end Engine

end Tickwork

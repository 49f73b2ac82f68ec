import Tickwork.Proofs.Failures.Blame
import Tickwork.Proofs.Failures.Lives

/-!
# Where tasks stand

In a graph that breaks no rule a task always stands at a state of the graph, at a pause only before it
has left the start, and a pause goes on at a state that is no pause. A graph may call its start by the
empty id, though, and a task that leaves such a state can be paused where it will pause again: the row
of the step is refused, but the progress at hand is paused already.
-/

set_option autoImplicit false

namespace Tickwork

variable {F W : Type}

/-- The start has the empty id, and there is work to do. -/
def Graph.StartsNameless (g : Graph F) : Prop :=
  g.start = "" ∧ ∃ node, g.state? "" = some node ∧ Engine.isWork node = true

/-- A state of the graph where a pause may go on. -/
def Graph.GoesOnAt (g : Graph F) (id : String) : Prop :=
  ∃ node, g.state? id = some node ∧ (node.isFeedback = false ∨ g.StartsNameless)

namespace Engine

/-- The task stands at a state of its graph, and if it is paused it goes on at one. -/
structure Upright (g : Graph F) (p : Progress) : Prop where
  there : ∃ node, g.state? (position g p) = some node ∧
    (node.isFeedback = true → position g p = g.start ∨ g.StartsNameless)
  paused : p.lifecycle = .feedback → ∃ id, p.currentStateId = some id ∧ g.GoesOnAt id

variable {answers : Question F → Except Raised Value → Prop} {capped : Prop} {fr : Frame F}
variable {g : Graph F} {p q : Progress} {s after : Stance} {id next : String} {node : State F}

/-! ## Positions -/

theorem position_prepare (g : Graph F) (p : Progress) : position g (prepare g p) = position g p := by
  cases current : p.currentStateId with
  | some id => simp [position, prepare, current]
  | none =>
      by_cases empty : g.start = "" <;> simp [position, prepare, current, firstNonempty, empty]

/-- Only a start with the empty id is a position with the empty id. -/
theorem start_of_position_empty (empty : position g p = "") : g.start = "" := by
  unfold position at empty
  cases current : p.currentStateId with
  | none => simpa [current, firstNonempty] using empty
  | some id =>
      by_cases blank : id = ""
      · simpa [current, firstNonempty, blank] using empty
      · simp [current, firstNonempty, blank] at empty

theorem Upright.of_start (valid : g.violations = []) (fresh : p.currentStateId = none)
    (awake : p.lifecycle ≠ .feedback) : Upright g p := by
  obtain ⟨node, found⟩ := Graph.state?_of_hasState valid (Graph.hasState_start valid)
  have start : position g p = g.start := by simp [position, fresh, firstNonempty]
  exact ⟨⟨node, start ▸ found, fun _ => .inl start⟩, fun paused => absurd paused awake⟩

/-- A task that goes on at such a state stands upright. -/
theorem Upright.of_current (valid : g.violations = []) (current : p.currentStateId = some id)
    (goes : g.GoesOnAt id) : Upright g p := by
  refine ⟨?_, fun _ => ⟨id, current, goes⟩⟩
  by_cases empty : id = ""
  · obtain ⟨node, found⟩ := Graph.state?_of_hasState valid (Graph.hasState_start valid)
    have start : position g p = g.start := by simp [position, current, firstNonempty, empty]
    exact ⟨node, start ▸ found, fun _ => .inl start⟩
  · obtain ⟨node, found, fine⟩ := goes
    have here : position g p = id := position_of_current current empty
    refine ⟨node, here ▸ found, fun pause => .inr (fine.resolve_left ?_)⟩
    simp [pause]

theorem Upright.of_same (upright : Upright g q) (current : p.currentStateId = q.currentStateId)
    (awake : p.lifecycle ≠ .feedback) : Upright g p := by
  refine ⟨?_, fun paused => absurd paused awake⟩
  rw [position_of_same current]
  exact upright.there

/-! ## Pauses -/

theorem goesOnAt_of_work (found : g.state? id = some node) (work : isWork node = true) :
    g.GoesOnAt id := by
  refine ⟨node, found, .inl ?_⟩
  cases node with
  | feedback resume => cases work
  | _ => rfl

/-- A pause that is met on the way goes on at a state that is no pause, unless the task came from a state
with the empty id. -/
theorem goesOnAt_of_met (valid : g.violations = []) {target resume : String}
    (found : g.state? id = some node) (work : isWork node = true) (nameless : id = "" → g.start = "")
    (pause : g.state? target = some (.feedback resume))
    (resumes : g.resumeTarget target (some id) = .ok next) : g.GoesOnAt next := by
  unfold Graph.resumeTarget at resumes
  rw [lookup_of_state? pause] at resumes
  simp only at resumes
  rcases Graph.pause_sound valid pause with ⟨back, -⟩ | ⟨node', apart, found', awake⟩
  · rw [if_neg (by simp [back])] at resumes
    by_cases empty : id = ""
    · rw [if_pos empty] at resumes
      cases resumes
      exact ⟨_, pause, .inr ⟨nameless empty, node, empty ▸ found, work⟩⟩
    · rw [if_neg empty] at resumes
      cases resumes
      exact goesOnAt_of_work found work
  · rw [if_pos apart] at resumes
    cases resumes
    exact ⟨node', found', .inl awake⟩

/-- A pause where a task is found goes on at a state that is no pause, if the pause is the start. -/
theorem goesOnAt_of_found (valid : g.violations = []) {resume : String}
    (pause : g.state? id = some (.feedback resume)) (start : id = g.start ∨ g.StartsNameless)
    (resumes : g.resumeTarget id none = .ok next) : g.GoesOnAt next := by
  unfold Graph.resumeTarget at resumes
  rw [lookup_of_state? pause] at resumes
  simp only at resumes
  rcases Graph.pause_sound valid pause with ⟨back, notStart⟩ | ⟨node', apart, found', awake⟩
  · rw [if_neg (by simp [back])] at resumes
    cases resumes
    exact ⟨_, pause, .inr (start.resolve_left notStart)⟩
  · rw [if_pos apart] at resumes
    cases resumes
    exact ⟨node', found', .inl awake⟩

/-! ## Lives -/

theorem Upright.landing (valid : fr.graph.violations = []) {j : Judgement Verdict}
    {verdict : Verdict} {now : Instant} {shape : Shape} (visit : Visit answers fr s id node j)
    (lands : landed fr.graph id node now j.after.progress verdict = .ok (shape, q))
    (upright : Upright fr.graph s.progress) : Upright fr.graph q := by
  have place := visit.samePlace
  have awake : j.after.progress.lifecycle ≠ .feedback := by
    rw [place.lifecycle, visit.running]
    exact nofun
  cases landing_of_landed lands with
  | again reason attempt => exact upright.of_same place.currentStateId awake
  | @left step target targetNode q leads found arrives =>
      cases arrives with
      | ended status message =>
          refine .of_start valid rfl ?_
          cases status <;> exact nofun
      | paused resumes =>
          have nameless : id = "" → fr.graph.start = "" := fun empty =>
            start_of_position_empty (visit.stands.1.trans empty)
          exact .of_current valid rfl
            (goesOnAt_of_met valid visit.stands.2 visit.work nameless found resumes)
      | onward work => exact .of_current valid rfl (goesOnAt_of_work found work)

theorem Upright.turn (valid : fr.graph.violations = []) {e : Entry}
    (turn : Turn answers capped fr s e after) (upright : Upright fr.graph s.progress) :
    Upright fr.graph after.progress := by
  cases turn with
  | begin stands work idle => exact upright.of_same rfl nofun
  | @halt id status message stands =>
      refine .of_start valid rfl ?_
      cases status <;> exact nofun
  | rest stands resumes =>
      obtain ⟨node, found, start⟩ := upright.there
      rw [stands.1] at found start
      rw [stands.2] at found
      cases found
      exact .of_current valid rfl (goesOnAt_of_found valid stands.2 (start rfl) resumes)
  | visit visit decided lands owner fits => exact upright.landing valid visit lands
  | fail doomed => exact upright.of_same (doomed.blame valid).same.place.currentStateId nofun

/-- Standing upright lasts all life long. -/
theorem Upright.lasts (valid : g.violations = []) : Lasting g (Upright g) where
  new taskId workflowId context := .of_start valid rfl nofun
  prepared active upright := by
    refine ⟨?_, fun paused => ?_⟩
    · rw [position_prepare]
      exact upright.there
    · obtain ⟨id, current, goes⟩ := upright.paused paused
      exact ⟨id, by simp [prepare, current], goes⟩
  turn same turn alive upright := by
    subst same
    exact upright.turn valid turn
  landing same visit decided lands upright := by
    subst same
    exact upright.landing valid visit lands
  replied text paused upright := upright.of_same rfl nofun

/-! ## Advances -/

theorem raises_of_overMemory {h : Host F W} {cause : FatalCause}
    (raises : h.overMemory.behaviour.Raises cause) : h.behaviour.Raises cause := by
  obtain ⟨f, call, world, taskId, raised⟩ := raises
  exact ⟨f, call, world.1, taskId, raised⟩

/-- The state under `id` was asked, and it named an event in answer that it has no route for. -/
def Strays (h : Host F W) (g : Graph F) (id event : String) : Prop :=
  ∃ (fr : Frame F) (s : Stance) (node : State F) (j : Judgement Verdict) (step : Step),
    fr.graph = g ∧ Visit (Answers h) fr s id node j ∧ j.result = .ok (.leave step) ∧
      step.event = event ∧ Stray node step

end Engine

open Engine

/-- All life long a paused task goes on at a state of its graph that is no pause, in the store as at hand,
unless the start of the graph has the empty id. And whatever an advance gives the task up for, it is not
that there is no state to visit, unless a callable says so; where no transition is found, the state has
been asked and has no route for what it answered. -/
theorem routing_never_dangles {g : Graph F} (valid : g.violations = []) {m : MemoryStore}
    {p : Progress} (life : Life g m p) :
    (p.lifecycle = .feedback → ∃ id, p.currentStateId = some id ∧ g.GoesOnAt id) ∧
    (∀ q, m.load? p.taskId = some q → q.lifecycle = .feedback →
      ∃ id, q.currentStateId = some id ∧ g.GoesOnAt id) ∧
    ∀ {W : Type} (h : Host F W) (w : W) (budget : Budget) (task : TaskInfo) (runId : String)
      (tickId feedback : Option String) (cause : FatalCause) (taskId : Option String) (q : Progress)
      (after : W × MemoryStore),
      Engine.advance h.overMemory budget g task runId tickId feedback p (w, m) =
        ((.error (.fatal cause taskId), q), after) →
      h.behaviour.Raises cause ∨
        cause.isPosition = false ∧ ∀ event id, cause = .noTransition event id →
          position g q = id ∧ Strays h.overMemory g id event := by
  obtain ⟨upright, stored⟩ := life.lasting (Upright.lasts valid) valid
  refine ⟨upright.paused, fun q kept => (stored q kept).2.paused, ?_⟩
  intro W h w budget task runId tickId feedback cause taskId q after failed
  have serves : Serves h.overMemory (Answers h.overMemory) Prod.snd MemoryStore.keep :=
    ⟨h.overMemory_keeps, fun q w => ⟨w, rfl⟩⟩
  obtain ⟨fr, entries, s, rfl, up, -, -⟩ := advance_given_up serves (Graph.fit_of_valid valid) budget
    task runId tickId feedback failed
  obtain ⟨reply, walk⟩ := up.walk
  have lasts := Upright.lasts valid
  have standing : Upright fr.graph s.progress :=
    lasts.walk rfl walk up.active (lasts.prepared up.active upright)
  have here := up.position valid
  obtain ⟨last, blame, -⟩ := up.blame valid
  cases blame with
  | missing absent =>
      obtain ⟨node, found, -⟩ := standing.there
      rw [absent] at found
      cases found
  | spent transitions => exact .inr ⟨rfl, nofun⟩
  | unguarded stands inert => exact .inr ⟨rfl, nofun⟩
  | judged visit refused =>
      refine (visit.refused_cause valid refused).imp raises_of_overMemory fun judged => ?_
      refine ⟨FatalCause.not_isPosition_of_isJudgement judged, ?_⟩
      rintro event id rfl
      cases judged
  | @strayed id node j step visit decided stray =>
      refine .inr ⟨rfl, ?_⟩
      rintro event id' same
      cases same
      exact ⟨here.trans visit.stands.1, fr, s, node, j, step, rfl, visit, decided, rfl, stray⟩

/-! ## A start with the empty id -/

/-- A graph whose start has the empty id and asks for a reply. -/
def nameless : Graph Unit where
  id := "demo"
  start := ""
  context := []
  states :=
    [("", .action (.slot (.code () .whole)) ⟨some "finish", some "finish", some "wait"⟩ none),
      ("wait", .feedback "previous"), ("finish", .terminal .done none)]
  guards := []
  handlers := []

/-- The advance whose row is refused: the task at hand is paused, but not in the store. -/
def refusedPause : (Except Fault Finish × Progress) × (Unit × MemoryStore) :=
  advance askingHost.overMemory (.clamped 25 200) nameless ⟨"t1", none, none, none⟩ "run" none none
    (.newTask "t1" "demo" []) ((), .empty)

def storedPause : (Except Fault Finish × Progress) × (Unit × MemoryStore) :=
  advance askingHost.overMemory (.clamped 25 200) nameless ⟨"t1", none, none, none⟩ "run" none none
    refusedPause.1.2 refusedPause.2

/-- The task is stored at a pause that goes on at a pause, itself. -/
theorem routing_never_dangles_nameless :
    (storedPause.2.2.load? "t1").map Progress.currentStateId = some (some "wait") ∧
      nameless.state? "wait" = some (.feedback "previous") ∧ nameless.GoesOnAt "wait" ∧
      nameless.StartsNameless := by
  have valid : nameless.violations = [] := by decide +kernel
  have life : Life nameless storedPause.2.2 storedPause.1.2 :=
    ((Life.of_empty nameless "t1" "demo" []).advanced askingHost () (.clamped 25 200)
      ⟨"t1", none, none, none⟩ "run" none none).advanced askingHost () (.clamped 25 200)
      ⟨"t1", none, none, none⟩ "run" none none
  obtain ⟨id, current, goes⟩ := (routing_never_dangles valid life).1 (by decide +kernel)
  have wait : storedPause.1.2.currentStateId = some "wait" := by decide +kernel
  rw [wait] at current
  cases current
  exact ⟨by decide +kernel, rfl, goes, rfl, _, rfl, rfl⟩

end Tickwork

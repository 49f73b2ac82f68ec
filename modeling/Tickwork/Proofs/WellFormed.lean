import Tickwork.Proofs.Failures.Positions
import Tickwork.Proofs.Failures.Writes

/-!
# Every stored progress is well-formed

Retries, loops, pauses, ends, replies and failures change different fields of a progress. `InShape` is
what all of them keep together, for the progress at hand; `Formed` is what it comes to in a write. Both
speak of the position, which is the start where the current id is empty: a pause may go on at a state with
the empty id, and a task that is paused so does not find it again.
-/

set_option autoImplicit false

namespace Tickwork

variable {F W : Type}

/-! ## Well-formed progresses -/

/-- The state `id` is an action, and after `n` failed attempts it may be tried again. -/
def Graph.MayTry (g : Graph F) (id : String) (n : Int) : Prop :=
  ∃ handler routes retry limit, g.state? id = some (.action handler routes retry) ∧
    Engine.attemptLimit retry = .int limit ∧ 1 ≤ n ∧ n ≤ limit

/-- The state `id` is a loop, and round number `n` of it may begin. -/
def Graph.MayRepeat (g : Graph F) (id : String) (n : Int) : Prop :=
  ∃ body bound routes stop, g.state? id = some (.loop body (.int bound) routes stop) ∧
    1 ≤ n ∧ n ≤ bound

theorem Graph.state?_of_not_hasState {g : Graph F} {id : String} (absent : g.hasState id = false) :
    g.state? id = none := by
  unfold Graph.hasState at absent
  unfold Graph.state?
  rw [Option.isSome_eq_false_iff, Option.isNone_iff_eq_none] at absent
  rw [absent]

namespace Engine

/-- The task has ended at the state `id`, and nothing is left of its way there. -/
structure EndedAt (g : Graph F) (p : Progress) (id : String) : Prop where
  reached : ∃ status message, g.state? id = some (.terminal status message) ∧
    p.lifecycle = .ofEnd status ∧ (p.lastError = none ↔ status = .done)
  unplaced : p.currentStateId = none
  attempts : p.attempts = []
  rounds : p.loopIterations = []

/-- Only the action where the task stands has failed attempts, and the counters keep to their bounds. -/
structure Tallied (g : Graph F) (p : Progress) : Prop where
  attempts : ∀ entry ∈ p.attempts, entry.1 = position g p ∧ g.MayTry entry.1 entry.2
  rounds : ∀ entry ∈ p.loopIterations, g.MayRepeat entry.1 entry.2

/-- A well-formed progress, as it is written to the store. -/
structure Formed (g : Graph F) (p : Progress) : Prop where
  waiting : p.lifecycle = .feedback ↔ p.waitingSince.isSome = true
  ended : ∀ id, p.terminalStateId = some id → EndedAt g p id
  placed : p.terminalStateId = none → ∃ id, p.currentStateId = some id ∧ g.GoesOnAt id
  tallied : Tallied g p

/-- The current id of a task that has not ended is that of a state which is no pause, and failed attempts
are counted under it. -/
structure PlacedByName (g : Graph F) (p : Progress) : Prop where
  current : p.terminalStateId = none → ∃ id node, p.currentStateId = some id ∧
    g.state? id = some node ∧ node.isFeedback = false
  attempts : ∀ entry ∈ p.attempts, p.currentStateId = some entry.1

/-- Where no state has the empty id, a position is a current id. -/
theorem Formed.placedByName {g : Graph F} {p : Progress} (formed : Formed g p)
    (named : g.hasState "" = false) : PlacedByName g p := by
  have nameless := Graph.state?_of_not_hasState named
  refine ⟨fun open' => ?_, fun entry inside => ?_⟩
  · obtain ⟨id, current, node, found, awake | ⟨-, node', empty, -⟩⟩ := formed.placed open'
    · exact ⟨id, node, current, found, awake⟩
    · rw [nameless] at empty
      cases empty
  · cases ended : p.terminalStateId with
    | some id =>
        rw [(formed.ended id ended).attempts] at inside
        cases inside
    | none =>
        obtain ⟨id, current, node, found, -⟩ := formed.placed ended
        have own : id ≠ "" := by
          rintro rfl
          rw [nameless] at found
          cases found
        rw [current, (formed.tallied.attempts entry inside).1, position_of_current current own]

variable {answers : Question F → Except Raised Value → Prop} {capped : Prop} {fr : Frame F}
variable {g : Graph F} {p q : Progress} {s after : Stance} {id : String} {node : State F}

/-! ## Counters -/

theorem name_ne_of_mem_erase {α : Type} {name : String} {entries : List (String × α)}
    {entry : String × α} (inside : entry ∈ Sorted.erase name entries) : entry.1 ≠ name := by
  simpa using (List.mem_filter.mp inside).2

theorem lookup_erase_self {α : Type} (name : String) (entries : List (String × α)) :
    (Sorted.erase name entries).lookup name = none := by
  cases found : (Sorted.erase name entries).lookup name with
  | none => rfl
  | some value => exact absurd rfl (name_ne_of_mem_erase (Graph.mem_of_lookup found))

theorem Tallied.of_same (tallied : Tallied g q) (current : p.currentStateId = q.currentStateId)
    (attempts : p.attempts = q.attempts) (rounds : p.loopIterations = q.loopIterations) :
    Tallied g p := by
  refine ⟨fun entry inside => ?_, fun entry inside => tallied.rounds entry (rounds ▸ inside)⟩
  rw [position_of_same current]
  exact tallied.attempts entry (attempts ▸ inside)

/-- A task without failed attempts may go anywhere. -/
theorem Tallied.of_rested (rested : p.attempts = [])
    (rounds : ∀ entry ∈ p.loopIterations, g.MayRepeat entry.1 entry.2) : Tallied g p := by
  refine ⟨fun entry inside => ?_, rounds⟩
  rw [rested] at inside
  cases inside

/-- Attempts are counted at actions only. -/
theorem Tallied.rested (tallied : Tallied g p) (stands : StandsAt g p id node)
    (other : ∀ handler routes retry, node ≠ .action handler routes retry) : p.attempts = [] := by
  refine List.eq_nil_iff_forall_not_mem.mpr fun entry inside => ?_
  obtain ⟨here, handler, routes, retry, -, found, -⟩ := tallied.attempts entry inside
  rw [here, stands.1, stands.2] at found
  cases found
  exact other handler routes retry rfl

/-- Once the attempts of the state where it stands are forgotten, a task has none. -/
theorem Tallied.erased (tallied : Tallied g p) (here : position g p = id) :
    Sorted.erase id p.attempts = [] := by
  refine List.eq_nil_iff_forall_not_mem.mpr fun entry inside => ?_
  have own := (tallied.attempts entry (mem_erase inside)).1
  exact name_ne_of_mem_erase inside (own.trans here)

theorem Tallied.counted (tallied : Tallied g p) : p.Counted := by
  refine ⟨fun entry inside => ?_, fun entry inside => ?_⟩
  · obtain ⟨-, handler, routes, retry, limit, -, -, least, -⟩ := tallied.attempts entry inside
    exact least
  · obtain ⟨body, bound, routes, stop, -, least, -⟩ := tallied.rounds entry inside
    omega

theorem Tallied.attemptNumber_pos (tallied : Tallied g p) (id : String) : 1 ≤ p.attemptNumber id :=
  tallied.counted.attemptNumber_pos id

theorem Tallied.roundsBegun_nonneg (tallied : Tallied g p) (id : String) : 0 ≤ p.roundsBegun id :=
  lookup_nonneg tallied.counted.2 id

theorem attempted_attempts {answer : Except Raised Value} {r : Except Fault Attempt}
    (came : Attempted s answer r p) :
    p.currentStateId = s.progress.currentStateId ∧ p.attempts = s.progress.attempts ∧
      p.loopIterations = s.progress.loopIterations := by
  cases came <;> exact ⟨rfl, rfl, rfl⟩

/-- An attempt that fails with room for another is counted within the limit. -/
theorem Tallied.again (valid : g.violations = []) (tallied : Tallied g s.progress) {handler : Handler F}
    {routes : ActionRoutes} {retry : Option RetryPolicy}
    (stands : StandsAt g s.progress id (.action handler routes retry))
    (room : (attemptLimit retry).roomFrom (s.progress.attemptNumber id) ≠ 0)
    (current : p.currentStateId = s.progress.currentStateId)
    (attempts : p.attempts = Sorted.put id (s.progress.attemptNumber id) s.progress.attempts)
    (rounds : p.loopIterations = s.progress.loopIterations) : Tallied g p := by
  obtain ⟨limit, whole, -⟩ := Graph.attemptLimit_sound valid stands.2
  have within : s.progress.attemptNumber id ≤ limit := by
    rw [whole, Value.roomFrom_int] at room
    omega
  refine ⟨fun entry inside => ?_, fun entry inside => tallied.rounds entry (rounds ▸ inside)⟩
  rw [attempts] at inside
  rw [position_of_same current]
  rcases mem_put inside with rfl | old
  · exact ⟨stands.1.symm, handler, routes, retry, limit, stands.2, whole,
      tallied.attemptNumber_pos id, within⟩
  · exact tallied.attempts entry old

/-- A round that the bound of its loop allows is counted within it. -/
theorem Tallied.round (valid : g.violations = []) (tallied : Tallied g s.progress) {body : Target}
    {bound : Value} {routes : LoopRoutes} {stop : Slot F}
    (found : g.state? id = some (.loop body bound routes stop))
    (more : bound.isReached? (s.progress.roundsBegun id) = some false) :
    ∀ entry ∈ Sorted.put id (s.progress.roundsBegun id + 1) s.progress.loopIterations,
      g.MayRepeat entry.1 entry.2 := by
  obtain ⟨n, rfl, -⟩ := Graph.bound_sound valid found
  have below : s.progress.roundsBegun id < n := by
    rw [Value.isReached?_int] at more
    simpa using more
  have begun := tallied.roundsBegun_nonneg id
  intro entry inside
  rcases mem_put inside with rfl | old
  · exact ⟨body, n, routes, stop, found, by omega, by omega⟩
  · exact tallied.rounds entry old

/-- What a state makes of an answer keeps the counters within their bounds; a task that leaves the state
has no failed attempts. -/
theorem Visit.tallied (valid : fr.graph.violations = []) {j : Judgement Verdict}
    (visit : Visit answers fr s id node j) (tallied : Tallied fr.graph s.progress) :
    Tallied fr.graph j.after.progress ∧
      ∀ step, j.result = .ok (.leave step) → j.after.progress.attempts = [] := by
  obtain ⟨q, answer, -, -, reaction⟩ := visit.answered
  have reacts := reacted_cases id s node answer
  have fatal : ∀ fault, j.result = .error fault → fault.isFatal = true := fun fault broken =>
    reacted_error valid visit.stands.2 (reaction ▸ broken)
  rw [← reaction] at reacts
  have stands := visit.stands
  generalize j.after.progress = p at reacts ⊢
  generalize j.result = r at reacts fatal ⊢
  cases reacts with
  | refused blames => exact ⟨tallied, nofun⟩
  | unvisited bare => exact ⟨tallied, nofun⟩
  | incomparable op left right p => cases fatal _ rfl
  | @settled _ _ _ o status =>
      have rested : (Progress.settled s.progress id o).attempts = [] := by
        unfold Progress.settled
        simp only
        split <;> exact tallied.erased stands.1
      refine ⟨.of_rested rested ?_, fun _ _ => rested⟩
      unfold Progress.settled
      simp only
      split <;> exact tallied.rounds
  | exhausted failed spent =>
      obtain ⟨-, attempts, rounds⟩ := attempted_attempts failed
      have rested := tallied.erased stands.1
      rw [← attempts] at rested
      exact ⟨.of_rested rested fun entry inside => tallied.rounds entry (rounds ▸ inside),
        fun _ _ => rested⟩
  | again failed room =>
      obtain ⟨current, attempts, rounds⟩ := attempted_attempts failed
      exact ⟨tallied.again valid stands room current (by rw [← attempts]) rounds, nofun⟩
  | reported o => exact ⟨tallied, fun _ _ => tallied.rested stands fun _ _ _ same => by cases same⟩
  | selected event => exact ⟨tallied, fun _ _ => tallied.rested stands fun _ _ _ same => by cases same⟩
  | left named =>
      have rested := tallied.rested stands fun _ _ _ same => by cases same
      exact ⟨.of_rested rested fun entry inside => tallied.rounds entry (mem_erase inside),
        fun _ _ => rested⟩
  | continued more =>
      have rested := tallied.rested stands fun _ _ _ same => by cases same
      exact ⟨.of_rested rested (tallied.round valid stands.2 more), fun _ _ => rested⟩

theorem Landing.tallied {now : Instant} {verdict : Verdict} {shape : Shape}
    (lands : Landing g id node now p verdict shape q) (tallied : Tallied g p)
    (left : ∀ step, verdict = .leave step → p.attempts = []) : Tallied g q := by
  cases lands with
  | again reason attempt => exact tallied
  | left leads found arrives =>
      have rested := left _ rfl
      cases arrives with
      | ended status message => exact ⟨nofun, nofun⟩
      | paused resumes => exact .of_rested rested tallied.rounds
      | onward work => exact .of_rested rested tallied.rounds

theorem Doomed.tallied {cause : FatalCause} {taskId : Option String}
    (valid : fr.graph.violations = []) (doomed : Doomed answers capped fr s cause taskId after)
    (tallied : Tallied fr.graph s.progress) : Tallied fr.graph after.progress := by
  cases doomed with
  | missing absent => exact tallied
  | spent transitions stands work cap => exact tallied
  | unasked stands work running unresolved => exact tallied
  | judged visit refused => exact (visit.tallied valid tallied).1
  | unrouted visit decided astray => exact (visit.tallied valid tallied).1

/-! ## What a task keeps -/

/-- What is kept of the progress at hand. Only the first write gives a new task its current id. -/
structure InShape (g : Graph F) (p : Progress) : Prop where
  upright : Upright g p
  waiting : p.lifecycle = .feedback ↔ p.waitingSince.isSome = true
  ended : ∀ id, p.terminalStateId = some id → EndedAt g p id
  goesOn : ∀ id, p.currentStateId = some id → g.GoesOnAt id ∨ id = g.start
  tallied : Tallied g p

theorem EndedAt.isTerminal (ended : EndedAt g p id) : p.lifecycle.isTerminal = true := by
  obtain ⟨status, message, -, stopped, -⟩ := ended.reached
  rw [stopped]
  cases status <;> rfl

namespace InShape

theorem unended (inShape : InShape g p) (alive : p.lifecycle.isTerminal = false) :
    p.terminalStateId = none := by
  cases stopped : p.terminalStateId with
  | none => rfl
  | some id =>
      rw [(inShape.ended id stopped).isTerminal] at alive
      cases alive

/-- What is in shape and has a current id where the task may go on can be written. -/
theorem formed (inShape : InShape g p)
    (placed : p.terminalStateId = none → ∃ id, p.currentStateId = some id ∧ g.GoesOnAt id) :
    Formed g p :=
  ⟨inShape.waiting, inShape.ended, placed, inShape.tallied⟩

/-- The current id of a task that stands at a state with work to do is that of a state where it may go
on, though it may not be the state where it stands. -/
theorem placed (inShape : InShape g p) (current : ∃ id, p.currentStateId = some id)
    (stands : StandsAt g p id node) (work : isWork node = true) :
    ∃ id, p.currentStateId = some id ∧ g.GoesOnAt id := by
  obtain ⟨id', current⟩ := current
  refine ⟨id', current, ?_⟩
  by_cases empty : id' = ""
  · have start : position g p = g.start := by simp [position, current, firstNonempty, empty]
    rcases inShape.goesOn id' current with goes | atStart
    · exact goes
    · have found := stands.2
      rw [← stands.1, start, ← atStart] at found
      exact goesOnAt_of_work found work
  · have here : position g p = id' := position_of_current current empty
    have found := stands.2
    rw [← stands.1, here] at found
    exact goesOnAt_of_work found work

end InShape

theorem endedAt_of_found {status : EndStatus} {message : Option String} (arrival : Option String)
    (found : g.state? id = some (.terminal status message)) :
    EndedAt g (Progress.atEnd p id status message arrival) id := by
  refine ⟨⟨status, message, found, rfl, ?_⟩, rfl, rfl, rfl⟩
  simp [Progress.atEnd]

theorem waiting_of_ended {status : EndStatus} {message arrival : Option String} :
    (Progress.atEnd p id status message arrival).lifecycle = .feedback ↔
      (Progress.atEnd p id status message arrival).waitingSince.isSome = true := by
  cases status <;> exact ⟨nofun, nofun⟩

theorem inShape_of_ended (valid : g.violations = []) {status : EndStatus} {message : Option String}
    (arrival : Option String) (found : g.state? id = some (.terminal status message)) :
    InShape g (Progress.atEnd p id status message arrival) where
  upright := .of_start valid rfl (by cases status <;> exact nofun)
  waiting := waiting_of_ended
  ended id' stopped := by
    cases stopped
    exact endedAt_of_found arrival found
  goesOn id' current := nomatch current
  tallied := ⟨nofun, nofun⟩

/-- Where a step out of a state has not ended its task, the task goes on at a state that is no pause. -/
theorem Arrival.goesOn (valid : g.violations = []) {target : String} {targetNode : State F}
    {now : Instant} {arrival : Option String} {step : Step} (visited : g.state? id = some node)
    (work : isWork node = true) (nameless : id = "" → g.start = "")
    (found : g.state? target = some targetNode)
    (arrives : Arrival g id target now arrival (Progress.moved p step target) targetNode q)
    (open' : q.terminalStateId = none) : ∃ next, q.currentStateId = some next ∧ g.GoesOnAt next := by
  cases arrives with
  | ended status message => cases open'
  | paused resumes => exact ⟨_, rfl, goesOnAt_of_met valid visited work nameless found resumes⟩
  | onward more => exact ⟨target, rfl, goesOnAt_of_work found more⟩

theorem Visit.nameless {j : Judgement Verdict} (visit : Visit answers fr s id node j)
    (empty : id = "") : fr.graph.start = "" :=
  start_of_position_empty (visit.stands.1.trans empty)

theorem InShape.landing (valid : fr.graph.violations = []) {j : Judgement Verdict} {verdict : Verdict}
    {now : Instant} {shape : Shape} (visit : Visit answers fr s id node j)
    (decided : j.result = .ok verdict)
    (lands : landed fr.graph id node now j.after.progress verdict = .ok (shape, q))
    (inShape : InShape fr.graph s.progress) : InShape fr.graph q := by
  have upright := inShape.upright.landing valid visit lands
  have place := visit.samePlace
  have unended : j.after.progress.terminalStateId = none :=
    place.terminalStateId.trans (inShape.unended (alive_of_running visit.running))
  have waiting : j.after.progress.lifecycle = .feedback ↔ j.after.progress.waitingSince.isSome = true := by
    rw [place.lifecycle, place.waitingSince]
    exact inShape.waiting
  obtain ⟨kept, rested⟩ := visit.tallied valid inShape.tallied
  have lands := landing_of_landed lands
  have tallied := lands.tallied kept fun step leaves => rested step (leaves ▸ decided)
  cases lands with
  | again reason attempt =>
      refine ⟨upright, waiting, fun id' stopped => ?_, fun id' current => ?_, tallied⟩
      · rw [unended] at stopped
        cases stopped
      · exact inShape.goesOn id' (place.currentStateId ▸ current)
  | @left step target targetNode q leads found arrives =>
      have onward := arrives.goesOn valid visit.stands.2 visit.work visit.nameless found
      cases arrives with
      | ended status message => exact inShape_of_ended valid step.message found
      | paused resumes =>
          refine ⟨upright, ⟨fun _ => rfl, fun _ => rfl⟩, fun id' stopped => ?_, fun id' current => ?_, tallied⟩
          · exact absurd stopped (by simp [Progress.pausedAt, Progress.moved, Progress.merge, unended])
          · obtain ⟨next, here, goes⟩ := onward unended
            rw [here] at current
            cases current
            exact .inl goes
      | onward work =>
          refine ⟨upright, waiting, fun id' stopped => ?_, fun id' current => ?_, tallied⟩
          · exact absurd stopped (by simp [Progress.moved, Progress.merge, unended])
          · obtain ⟨next, here, goes⟩ := onward unended
            rw [here] at current
            cases current
            exact .inl goes

theorem InShape.turn (valid : fr.graph.violations = []) {e : Entry}
    (turn : Turn answers capped fr s e after) (alive : s.progress.lifecycle.isTerminal = false)
    (inShape : InShape fr.graph s.progress) : InShape fr.graph after.progress := by
  have upright := inShape.upright.turn valid turn
  have unended := inShape.unended alive
  have stopped : ∀ {id : String}, s.progress.terminalStateId = some id → EndedAt fr.graph after.progress id := by
    intro id stopped
    rw [unended] at stopped
    cases stopped
  cases turn with
  | begin stands work idle =>
      exact ⟨upright, ⟨nofun, nofun⟩, fun id' ended => stopped ended, inShape.goesOn,
        inShape.tallied.of_same rfl rfl rfl⟩
  | halt stands => exact inShape_of_ended valid none stands.2
  | @rest id resume next now stands resumes =>
      have goes : fr.graph.GoesOnAt next := by
        obtain ⟨node, found, start⟩ := inShape.upright.there
        rw [stands.1] at found start
        rw [stands.2] at found
        cases found
        exact goesOnAt_of_found valid stands.2 (start rfl) resumes
      refine ⟨upright, ⟨fun _ => rfl, fun _ => rfl⟩, fun id' ended => stopped ended, ?_, ?_⟩
      · rintro id' ⟨⟩
        exact .inl goes
      · exact .of_rested (inShape.tallied.rested stands fun _ _ _ same => by cases same) inShape.tallied.rounds
  | visit visit decided lands owner fits => exact inShape.landing valid visit decided lands
  | fail doomed =>
      have place := (doomed.blame valid).same.place
      refine ⟨upright, ⟨nofun, nofun⟩, fun id' ended => stopped (place.terminalStateId ▸ ended),
        fun id' current => ?_, (doomed.tallied valid inShape.tallied).of_same rfl rfl rfl⟩
      exact inShape.goesOn id' (place.currentStateId ▸ current)

/-- Being in shape lasts all life long. -/
theorem InShape.lasts (valid : g.violations = []) : Lasting g (InShape g) where
  new taskId workflowId context :=
    { upright := .of_start valid rfl fun paused => by cases paused
      waiting := .intro (fun paused => by cases paused) (fun since => by cases since)
      ended := fun _ stopped => by cases stopped
      goesOn := fun _ current => by cases current
      tallied :=
        { attempts := fun _ inside => absurd inside List.not_mem_nil
          rounds := fun _ inside => absurd inside List.not_mem_nil } }
  prepared := by
    intro p active inShape
    have upright := (Upright.lasts valid).prepared active inShape.upright
    refine ⟨upright, inShape.waiting, fun id stopped => ?_, fun id current => ?_, ?_⟩
    · have stopped : p.terminalStateId = some id := stopped
      rw [inShape.unended active] at stopped
      cases stopped
    · cases here : p.currentStateId with
      | none =>
          simp only [prepare, here, Option.getD_none, Option.some.injEq] at current
          exact .inr current.symm
      | some id' =>
          simp only [prepare, here, Option.getD_some, Option.some.injEq] at current
          exact inShape.goesOn id (here.trans (congrArg some current))
    · refine ⟨fun entry inside => ?_, inShape.tallied.rounds⟩
      rw [position_prepare]
      exact inShape.tallied.attempts entry inside
  turn same turn alive inShape := by
    subst same
    exact inShape.turn valid turn alive
  landing same visit decided lands inShape := by
    subst same
    exact inShape.landing valid visit decided lands
  replied := by
    intro p text paused inShape
    have unended := inShape.unended (by rw [paused]; rfl)
    refine ⟨inShape.upright.of_same rfl (fun same => by cases same),
      .intro (fun same => by cases same) (fun since => by cases since), fun id stopped => ?_,
      inShape.goesOn, inShape.tallied.of_same rfl rfl rfl⟩
    have stopped : p.terminalStateId = some id := stopped
    rw [unended] at stopped
    cases stopped

/-! ## What is written -/

/-- The task of a write has ended, or its current id is that of a state where it may go on. -/
theorem Turn.goesOn (valid : fr.graph.violations = []) {e : Entry}
    (turn : Turn answers capped fr s e after) (inShape : InShape fr.graph s.progress)
    (current : ∃ id, s.progress.currentStateId = some id) (open' : after.progress.terminalStateId = none) :
    ∃ id, after.progress.currentStateId = some id ∧ fr.graph.GoesOnAt id := by
  cases turn with
  | begin stands work idle => exact inShape.placed current stands work
  | halt stands => cases open'
  | @rest id resume next now stands resumes =>
      obtain ⟨node, found, start⟩ := inShape.upright.there
      rw [stands.1] at found start
      rw [stands.2] at found
      cases found
      exact ⟨next, rfl, goesOnAt_of_found valid stands.2 (start rfl) resumes⟩
  | @visit id node j verdict now row p visit decided lands owner fits =>
      obtain ⟨shape, looks⟩ : ∃ shape, row.shape = shape := ⟨_, rfl⟩
      rw [looks] at lands
      cases landing_of_landed lands with
      | again reason attempt =>
          rw [visit.samePlace.currentStateId]
          exact inShape.placed current visit.stands visit.work
      | left leads found arrives =>
          exact arrives.goesOn valid visit.stands.2 visit.work visit.nameless found open'
  | @fail cause taskId last doomed =>
      have same : last.progress.currentStateId = s.progress.currentStateId :=
        (doomed.blame valid).same.place.currentStateId
      have here : ∃ id, s.progress.currentStateId = some id ∧ fr.graph.GoesOnAt id := by
        cases doomed with
        | missing absent =>
            obtain ⟨node, found, -⟩ := inShape.upright.there
            rw [absent] at found
            cases found
        | spent transitions stands work cap => exact inShape.placed current stands work
        | unasked stands work running unresolved => exact inShape.placed current stands work
        | judged visit refused => exact inShape.placed current visit.stands visit.work
        | unrouted visit decided astray => exact inShape.placed current visit.stands visit.work
      obtain ⟨id, current, goes⟩ := here
      exact ⟨id, same.trans current, goes⟩

theorem Turn.formed (valid : fr.graph.violations = []) {e : Entry}
    (turn : Turn answers capped fr s e after) (alive : s.progress.lifecycle.isTerminal = false)
    (inShape : InShape fr.graph s.progress) (current : ∃ id, s.progress.currentStateId = some id) :
    Formed fr.graph e.progress := by
  rw [turn.owner.1]
  exact (inShape.turn valid turn alive).formed fun open' => turn.goesOn valid inShape current open'

theorem Walk.formed (valid : fr.graph.violations = []) {entries : List Entry}
    (walk : Walk answers capped fr s entries after) (alive : s.progress.lifecycle.isTerminal = false)
    (inShape : InShape fr.graph s.progress) (current : ∃ id, s.progress.currentStateId = some id) :
    ∀ e ∈ entries, Formed fr.graph e.progress := by
  induction walk with
  | refl s =>
      intro e inside
      cases inside
  | last turn =>
      intro e inside
      rw [List.mem_singleton.mp inside]
      exact turn.formed valid alive inShape current
  | step turn running rest ih =>
      intro e inside
      have awake := alive_of_running running
      rcases List.mem_cons.mp inside with rfl | later
      · exact turn.formed valid alive inShape current
      · exact ih awake (inShape.turn valid turn alive) (turn.placed current awake) e later

end Engine

open Engine

/-- What an advance from `p` over the store `m` writes, and what is written when a reply is kept for the
task. -/
inductive Written (g : Graph F) (m : MemoryStore) (p : Progress) : Progress → Prop
  | advanced {W : Type} (h : Host F W) (w : W) (budget : Budget) (task : TaskInfo) (runId : String)
      (tickId feedback : Option String) {row : Option Transition} {q : Progress}
      (wrote : (row, q) ∈ writesOfAdvance h budget g task runId tickId feedback p (w, m)) :
      Written g m p q
  | replied (paused : p.lifecycle = .feedback) (text : String) : Written g m p (p.replied text)

theorem writesOfAdvance_ended (h : Host F W) (budget : Budget) (g : Graph F) (task : TaskInfo)
    (runId : String) (tickId feedback : Option String) {p : Progress} (world : W × MemoryStore)
    (ended : p.lifecycle.isTerminal = true) :
    writesOfAdvance h budget g task runId tickId feedback p world = [] := by
  unfold writesOfAdvance
  rw [advance_ended _ _ _ _ _ _ _ _ ended]
  rfl

/-- Over a store in memory, callables answer as they do without one. -/
theorem Host.overMemory_answers (h : Host F W) (q : Question F) (world : W × MemoryStore) :
    Answers h q (q.ask h.overMemory.behaviour world).1 := by
  have sees : ∀ f call, Sees Prod.fst (h.overMemory.behaviour f call) (h.behaviour f call) :=
    fun _ _ _ => rfl
  exact ⟨world.1, congrArg Prod.fst (Sees.question sees q world)⟩

theorem Host.noting_answers (h : Host F W) (q : Question F) (world : Noted (W × MemoryStore)) :
    Answers h q (q.ask h.overMemory.noting.behaviour world).1 := by
  rw [← congrArg Prod.fst (Sees.question h.overMemory.noting_projects.behaviour q world)]
  exact h.overMemory_answers q world.1

/-- The writes of an advance are those of a walk. -/
theorem writesOfAdvance_walks {g : Graph F} (fit : g.Fit) (h : Host F W) (budget : Budget)
    (task : TaskInfo) (runId : String) (tickId feedback : Option String) {p : Progress}
    (world : W × MemoryStore) (active : p.lifecycle.isTerminal = false) :
    ∃ tick entries s, Walk (Answers h) True ⟨g, task, runId, tick⟩
        ⟨prepare g p, acceptedReply p feedback⟩ entries s ∧
      writesOfAdvance h budget g task runId tickId feedback p world =
        entries.map fun e => (e.row, e.progress) := by
  have serves : Serves h.overMemory.noting (Answers h) (journal Prod.snd) (keepJournal MemoryStore.keep) :=
    ⟨h.overMemory_keeps.noting h.overMemory_sturdy, h.noting_answers⟩
  obtain ⟨tick, entries, s, walk, seen, -⟩ := advance_walks serves fit budget task runId tickId feedback p
    (world, []) active (.inr trivial)
  rw [keepAll_journal] at seen
  exact ⟨tick, entries, s, walk, (Prod.mk.inj seen).2⟩

/-- All life long, whatever is written of a task is well-formed: it waits exactly while it is paused, an
ended task has only its end left, and any other has a state to go on at, failed attempts at the action
where it stands at most, and counters within their bounds. Where no state has the empty id, the current
id is that of the state where the task stands. -/
theorem written_is_formed {g : Graph F} (valid : g.violations = []) {m : MemoryStore} {p q : Progress}
    (life : Life g m p) (written : Written g m p q) :
    Formed g q ∧ (g.hasState "" = false → PlacedByName g q) := by
  have lasts := InShape.lasts valid
  have inShape := (life.lasting lasts valid).1
  have formed : Formed g q := by
    cases written with
    | @advanced W h w budget task runId tickId feedback row q wrote =>
        cases active : p.lifecycle.isTerminal with
        | true =>
            rw [writesOfAdvance_ended h budget g task runId tickId feedback (w, m) active] at wrote
            cases wrote
        | false =>
            obtain ⟨tick, entries, s, walk, writes⟩ := writesOfAdvance_walks (Graph.fit_of_valid valid) h
              budget task runId tickId feedback (w, m) active
            rw [writes] at wrote
            obtain ⟨e, inside, same⟩ := List.mem_map.mp wrote
            cases same
            exact walk.formed valid active (lasts.prepared active inShape) ⟨_, rfl⟩ e inside
    | replied paused text =>
        exact (lasts.replied text paused inShape).formed fun _ => inShape.upright.paused paused
  exact ⟨formed, formed.placedByName⟩

/-! ## A pause that goes on at a state with the empty id -/

/-- A graph whose pause goes on at a state with the empty id. -/
def resumesNameless : Graph Unit where
  id := "demo"
  start := "work"
  context := []
  states :=
    [("work", .action (.slot (.code () .whole)) ⟨some "finish", some "finish", some "wait"⟩
        (some ⟨.int 1, .null, none⟩)),
      ("wait", .feedback ""), ("", .terminal .blocked none), ("finish", .terminal .done none)]
  guards := []
  handlers := []

/-- A host whose callable asks for a reply, fails once when it has one, and then reports what no action
can report. -/
def falteringHost : Host Unit Unit where
  behaviour
    | _, .handler input => pure ⟨.ok (plainReport (if input.feedback = none then "feedback"
        else if input.attempt = 1 then "failed" else "lost")), input.context⟩
    | _, call => pure ⟨.ok .null, call.context⟩
  now := pure ⟨0⟩
  freshEventId := pure "row"
  freshTickId := pure "tick"
  sleep _ := pure ()
  checkpoint _ := pure ()
  record _ _ := pure ()

def pausedNameless : (Except Fault Finish × Progress) × (Unit × MemoryStore) :=
  Engine.advance falteringHost.overMemory (.clamped 25 200) resumesNameless ⟨"t1", none, none, none⟩
    "run" none none (.newTask "t1" "demo" []) ((), .empty)

def retriedNameless : (Except Fault Finish × Progress) × (Unit × MemoryStore) :=
  Engine.advance falteringHost.overMemory (.clamped 25 200) resumesNameless ⟨"t1", none, none, none⟩
    "run" none (some "yes") pausedNameless.1.2 pausedNameless.2

/-- The last write of the second advance is well-formed, with an attempt counted at the start where the
task stands. But its current id is that of another state, the one where its pause went on. -/
theorem written_is_formed_nameless :
    Formed resumesNameless retriedNameless.1.2 ∧
      retriedNameless.1.2.attempts = [("work", 1)] ∧
      position resumesNameless retriedNameless.1.2 = "work" ∧
      retriedNameless.1.2.currentStateId = some "" ∧ ¬ PlacedByName resumesNameless retriedNameless.1.2 := by
  have valid : resumesNameless.violations = [] := by decide +kernel
  have life : Life resumesNameless pausedNameless.2.2 pausedNameless.1.2 :=
    (Life.of_empty resumesNameless "t1" "demo" []).advanced falteringHost () (.clamped 25 200)
      ⟨"t1", none, none, none⟩ "run" none none
  have wrote : (writesOfAdvance falteringHost (.clamped 25 200) resumesNameless
      ⟨"t1", none, none, none⟩ "run" none (some "yes") pausedNameless.1.2
      pausedNameless.2).getLast? = some (none, retriedNameless.1.2) := by
    decide +kernel
  have formed := (written_is_formed valid life (.advanced falteringHost () (.clamped 25 200)
    ⟨"t1", none, none, none⟩ "run" none (some "yes") (List.mem_of_getLast? wrote))).1
  have attempts : retriedNameless.1.2.attempts = [("work", 1)] := by decide +kernel
  have current : retriedNameless.1.2.currentStateId = some "" := by decide +kernel
  refine ⟨formed, attempts, by decide +kernel, current, fun byName => ?_⟩
  have counted := byName.attempts ("work", 1) (by simp [attempts])
  rw [current] at counted
  exact absurd (Option.some.inj counted) (by decide)

end Tickwork

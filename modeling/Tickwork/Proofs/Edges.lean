import Tickwork.Proofs.WellFormed

/-!
# Every row of the ledger is an edge of the graph

A row tells of a failed attempt, and then it stays at an action that may be tried again, or it tells of a
step along a route, for a reason that the state which was left can have. The progress of a task counts its
steps, so at every write its count is that of the rows that the ledger then has of the task; and what an
advance reports is what it has appended.
-/

set_option autoImplicit false

namespace Tickwork

variable {F W : Type}

/-- The reasons that a state is left for. -/
def State.reasons : State F → List Reason
  | .action _ _ _ => [.actionDone, .actionFeedback, .actionExhausted]
  | .orchestrate _ handler _ =>
    if Graph.hasHandler handler then [.orchestrateHandler] else [.orchestrateSelect]
  | .loop _ _ _ _ => [.loopContinue, .loopDone, .loopExhausted]
  | .feedback _ | .terminal _ _ | .unsupported _ => []

/-- What a row may tell of in a graph: a failed attempt, or a step along a route. -/
inductive Edge (g : Graph F) (row : Transition) : Prop
  | tried {reason : Reason} {handler : Handler F} {routes : ActionRoutes} {policy : RetryPolicy}
      {limit : Int} (known : row.reason = .known reason) (attempt : reason.isAttempt = true)
      (found : g.state? row.fromId = some (.action handler routes (some policy)))
      (stays : row.toId = row.fromId) (bound : policy.limit = .int limit) (first : 1 ≤ row.attempt)
      (within : row.attempt ≤ limit) : Edge g row
  | left {reason : Reason} {node : State F} (known : row.reason = .known reason)
      (step : reason.isAttempt = false) (found : g.state? row.fromId = some node)
      (leads : node.target? row.event = some row.toId) (fits : reason ∈ node.reasons) : Edge g row

/-- How many steps some rows tell of. -/
def stepsIn (rows : List Transition) : Nat :=
  rows.countP Transition.moves

theorem stepsIn_append (first second : List Transition) :
    stepsIn (first ++ second) = stepsIn first + stepsIn second :=
  List.countP_append

namespace Engine

variable {answers : Question F → Except Raised Value → Prop} {capped : Prop} {fr : Frame F}
variable {g : Graph F} {s after : Stance} {id : String} {node : State F}

theorem countP_moves (entries : List Entry) : entries.countP Entry.moves = stepsIn (rowsOf entries) := by
  induction entries with
  | nil => rfl
  | cons e rest ih =>
      rw [rowsOf_cons, stepsIn_append, List.countP_cons, ih]
      cases row : e.row with
      | none => simp [stepsIn, Entry.moves, row]
      | some t => cases moves : t.moves <;> simp [stepsIn, Entry.moves, row, moves, Nat.add_comm]

/-! ## The row of a turn -/

/-- A state is left for one of its reasons. -/
theorem reacted_leave_fits {answer : Except Raised Value} {step : Step}
    (decided : (reacted id s node answer).result = .ok (.leave step)) : step.reason ∈ node.reasons := by
  cases node with
  | action handler routes retry =>
      have reaction := reacted_cases id s (.action handler routes retry) answer
      rw [decided] at reaction
      generalize (reacted id s (.action handler routes retry) answer).after.progress = p at reaction
      cases reaction with
      | @settled _ _ _ o status =>
          by_cases done : o.status = "done"
          · simp [settledStep, State.reasons, done]
          · simp [settledStep, State.reasons, done]
      | exhausted failed spent => simp [exhaustedStep, State.reasons]
  | orchestrate routes handler selector =>
      unfold reacted at decided
      unfold State.reasons
      simp only at decided ⊢
      split at decided
      · rename_i handled
        rw [if_pos handled]
        unfold handlerReacted at decided
        repeat' split at decided
        all_goals cases decided
        exact List.mem_singleton_self _
      · rename_i handled
        rw [if_neg handled]
        unfold selectorReacted at decided
        repeat' split at decided
        all_goals cases decided
        exact List.mem_singleton_self _
  | loop body bound routes stop =>
      unfold reacted loopReacted at decided
      simp only at decided
      repeat' split at decided
      all_goals cases decided
      all_goals simp [loopStep, State.reasons]
  | feedback resume => cases decided
  | terminal status message => cases decided
  | unsupported v => cases decided

/-- An action is tried again within the limit of its policy. -/
theorem reacted_again {answer : Except Raised Value} {reason : Reason} {attempt : Int}
    (valid : g.violations = []) (tallied : Tallied g s.progress) (stands : StandsAt g s.progress id node)
    (decided : (reacted id s node answer).result = .ok (.again reason attempt)) :
    ∃ handler routes policy limit, node = .action handler routes (some policy) ∧
      policy.limit = .int limit ∧ 1 ≤ attempt ∧ attempt ≤ limit := by
  have reaction := reacted_cases id s node answer
  rw [decided] at reaction
  generalize (reacted id s node answer).after.progress = p at reaction
  cases reaction with
  | @again handler routes retry reason message p failed room =>
      obtain ⟨limit, whole, -⟩ := Graph.attemptLimit_sound valid stands.2
      have first := tallied.attemptNumber_pos id
      rw [whole, Value.roomFrom_int] at room
      cases retry with
      | none =>
          cases whole
          omega
      | some policy => exact ⟨handler, routes, policy, limit, rfl, whole, first, by omega⟩

/-- A row that a turn records is an edge of the graph. -/
theorem Turn.edge (valid : fr.graph.violations = []) {e : Entry}
    (turn : Turn answers capped fr s e after) (tallied : Tallied fr.graph s.progress) :
    ∀ row, e.row = some row → Edge fr.graph row := by
  cases turn with
  | begin stands work idle => exact nofun
  | halt stands => exact nofun
  | rest stands resumes => exact nofun
  | fail doomed => exact nofun
  | @visit id node j verdict now row p visit decided lands owner fits =>
      rintro row' ⟨⟩
      obtain ⟨q, answer, -, -, rfl⟩ := visit.answered
      obtain ⟨shape, looks⟩ : ∃ shape, row.shape = shape := ⟨_, rfl⟩
      rw [looks] at lands
      cases landing_of_landed lands with
      | again reason attempt =>
          have isAttempt := reacted_again_reason decided
          obtain ⟨handler, routes, policy, limit, rfl, bound, first, within⟩ :=
            reacted_again valid tallied visit.stands decided
          have fromId : row.fromId = id := congrArg Shape.fromId looks
          have toId : row.toId = id := congrArg Shape.toId looks
          have number : row.attempt = attempt := congrArg Shape.attempt looks
          exact .tried (congrArg Shape.reason looks) isAttempt (fromId ▸ visit.stands.2)
            (toId.trans fromId.symm) bound (number ▸ first) (number ▸ within)
      | @left step target targetNode p leads found arrives =>
          have fromId : row.fromId = id := congrArg Shape.fromId looks
          have toId : row.toId = target := congrArg Shape.toId looks
          have event : row.event = step.event := congrArg Shape.event looks
          refine .left (congrArg Shape.reason looks) (reacted_leave_reason decided)
            (fromId ▸ visit.stands.2) ?_ (reacted_leave_fits decided)
          rw [event, toId]
          exact leads

theorem Landing.transitionCount {now : Instant} {p q : Progress} {step : Step} {shape : Shape}
    (lands : Landing g id node now p (.leave step) shape q) :
    q.transitionCount = p.transitionCount + 1 := by
  cases lands with
  | left leads found arrives => cases arrives <;> rfl

/-- A turn counts the step that its row tells of. -/
theorem Turn.transitionCount (valid : fr.graph.violations = []) {e : Entry}
    (turn : Turn answers capped fr s e after) :
    after.progress.transitionCount = s.progress.transitionCount + stepsIn e.row.toList := by
  cases turn with
  | begin stands work idle => exact (Int.add_zero _).symm
  | halt stands => exact (Int.add_zero _).symm
  | rest stands resumes => exact (Int.add_zero _).symm
  | fail doomed =>
      refine Eq.trans ?_ (Int.add_zero _).symm
      exact (doomed.blame valid).same.place.transitionCount
  | @visit id node j verdict now row p visit decided lands owner fits =>
      obtain ⟨q, answer, -, -, rfl⟩ := visit.answered
      have same := (reacted_samePlace id s node answer).transitionCount
      obtain ⟨shape, looks⟩ : ∃ shape, row.shape = shape := ⟨_, rfl⟩
      rw [looks] at lands
      have lands := landing_of_landed lands
      cases verdict with
      | again reason attempt =>
          cases lands with
          | again reason attempt =>
              have known : row.reason = .known reason := congrArg Shape.reason looks
              have stays : row.moves = false := by
                simp [Transition.moves, known, reacted_again_reason decided]
              simpa [stepsIn, stays] using same
      | leave step =>
          have count := lands.transitionCount
          cases lands with
          | left leads found arrives =>
              have known : row.reason = .known step.reason := congrArg Shape.reason looks
              have moves : row.moves = true := by
                simp [Transition.moves, known, reacted_leave_reason decided]
              rw [same] at count
              simpa [stepsIn, moves] using count

/-! ## The rows of a walk -/

theorem Walk.edges (valid : fr.graph.violations = []) {entries : List Entry}
    (walk : Walk answers capped fr s entries after) (alive : s.progress.lifecycle.isTerminal = false)
    (inShape : InShape fr.graph s.progress) :
    ∀ row ∈ rowsOf entries, row.check = .ok () ∧ Edge fr.graph row := by
  have checked : ∀ {s after : Stance} {e : Entry}, Turn answers capped fr s e after →
      ∀ row, e.row = some row → row.check = .ok () := by
    intro s after e turn row found
    cases turn with
    | visit visit decided lands owner fits =>
        cases found
        exact fits
    | _ => cases found
  induction walk with
  | refl s =>
      intro row inside
      cases inside
  | @last s after e turn =>
      intro row inside
      rw [rowsOf_cons] at inside
      have own : e.row = some row := by simpa [rowsOf] using inside
      exact ⟨checked turn row own, turn.edge valid inShape.tallied row own⟩
  | @step s middle after e entries turn running rest ih =>
      intro row inside
      rw [rowsOf_cons] at inside
      rcases List.mem_append.mp inside with first | later
      · have own : e.row = some row := by simpa using first
        exact ⟨checked turn row own, turn.edge valid inShape.tallied row own⟩
      · exact ih (alive_of_running running) (inShape.turn valid turn alive) row later

theorem Walk.transitionCount (valid : fr.graph.violations = []) {entries : List Entry}
    (walk : Walk answers capped fr s entries after) :
    after.progress.transitionCount = s.progress.transitionCount + stepsIn (rowsOf entries) := by
  induction walk with
  | refl s => exact (Int.add_zero _).symm
  | last turn =>
      rw [turn.transitionCount valid, rowsOf_cons]
      simp [rowsOf]
  | step turn running rest ih =>
      rw [ih, turn.transitionCount valid, rowsOf_cons, stepsIn_append]
      push_cast
      omega

/-- The writes of a walk up to one of them are those of a walk that leads there. -/
theorem Walk.front {entries : List Entry} (walk : Walk answers capped fr s entries after) :
    ∀ {front back : List Entry} {e : Entry}, entries = front ++ e :: back →
      ∃ middle, Walk answers capped fr s (front ++ [e]) middle ∧ middle.progress = e.progress := by
  induction walk with
  | refl s =>
      intro front back e split
      cases front <;> cases split
  | last turn =>
      intro front back e split
      cases front with
      | nil =>
          cases split
          exact ⟨_, .last turn, turn.owner.1.symm⟩
      | cons first front => cases front <;> cases split
  | step turn running rest ih =>
      intro front back e split
      cases front with
      | nil =>
          cases split
          exact ⟨_, .last turn, turn.owner.1.symm⟩
      | cons first front =>
          obtain ⟨rfl, later⟩ := List.cons.inj split
          obtain ⟨middle, walk, here⟩ := ih later
          exact ⟨middle, .step turn running walk, here⟩

end Engine

open Engine

/-! ## Ledgers and progresses -/

/-- Something holds of the ledger of a task and its progress, at hand as stored. -/
structure Accords (K : List Transition → Progress → Prop) (m : MemoryStore) (p : Progress) : Prop where
  here : K (m.rowsFor p.taskId) p
  stored : ∀ q, m.load? p.taskId = some q → q.taskId = p.taskId ∧ K (m.rowsFor p.taskId) q

namespace Accords

variable {K L : List Transition → Progress → Prop} {m m' : MemoryStore} {p q : Progress}

theorem mono (accords : Accords K m p) (weaker : ∀ rows q, K rows q → L rows q) : Accords L m p :=
  ⟨weaker _ _ accords.here, fun q kept => ⟨(accords.stored q kept).1, weaker _ _ (accords.stored q kept).2⟩⟩

theorem new {taskId workflowId : String} {context : Fields}
    (untouched : ∀ q, m.load? taskId = some q → q = .newTask taskId workflowId context)
    (unwritten : m.rowsFor taskId = []) (fresh : K [] (.newTask taskId workflowId context)) :
    Accords K m (.newTask taskId workflowId context) := by
  have there : K (m.rowsFor taskId) (.newTask taskId workflowId context) := unwritten ▸ fresh
  refine ⟨there, fun q kept => ?_⟩
  rw [untouched q kept]
  exact ⟨rfl, there⟩

theorem at_hand (accords : Accords K m p) (same : q.taskId = p.taskId) (here : K (m.rowsFor p.taskId) q) :
    Accords K m q :=
  ⟨same ▸ here, same ▸ accords.stored⟩

theorem checkpoint (here : K (m.rowsFor p.taskId) p) : Accords K (m.checkpoint p) p := by
  refine ⟨here, fun q kept => ?_⟩
  have loaded := MemoryStore.load?_checkpoint m p
  rw [kept] at loaded
  cases loaded
  exact ⟨rfl, here⟩

theorem loaded (accords : Accords K m p) (kept : m.load? p.taskId = some q) : Accords K m q :=
  accords.at_hand (accords.stored q kept).1 (accords.stored q kept).2

theorem elsewhere (accords : Accords K m p) (same : m'.load? p.taskId = m.load? p.taskId)
    (rows : m'.rowsFor p.taskId = m.rowsFor p.taskId) : Accords K m' p :=
  ⟨rows ▸ accords.here, rows ▸ same ▸ accords.stored⟩

theorem rowsFor_of_walk {answers : Question F → Except Raised Value → Prop} {capped : Prop} {fr : Frame F}
    {s after : Stance} {entries : List Entry} (walk : Walk answers capped fr s entries after)
    (m : MemoryStore) :
    (keepAll MemoryStore.keep m entries).rowsFor s.progress.taskId =
      m.rowsFor s.progress.taskId ++ rowsOf entries := by
  obtain ⟨-, owner, -, -⟩ := walk.owner
  rw [MemoryStore.rowsFor_keepAll]
  congr 1
  exact List.filter_eq_self.mpr fun row inside => beq_iff_eq.mpr (owner row inside)

/-- A walk appends its rows and keeps the progress that it leads to, if it writes at all. -/
theorem walk {answers : Question F → Except Raised Value → Prop} {capped : Prop} {fr : Frame F}
    {g : Graph F} {s : Stance} {entries : List Entry} {reply : Option String} (accords : Accords K m p)
    (walk : Walk answers capped fr ⟨prepare g p, reply⟩ entries s)
    (grown : K (m.rowsFor p.taskId ++ rowsOf entries) s.progress) :
    Accords K (keepAll MemoryStore.keep m entries) s.progress := by
  have owner : s.progress.taskId = p.taskId := walk.owner.1
  have rows : (keepAll MemoryStore.keep m entries).rowsFor s.progress.taskId =
      m.rowsFor p.taskId ++ rowsOf entries := by
    rw [owner]
    exact rowsFor_of_walk walk m
  refine ⟨rows ▸ grown, fun q kept => ?_⟩
  rw [rows]
  by_cases wrote : entries = []
  · subst wrote
    rw [owner] at kept ⊢
    have unwritten : m.rowsFor p.taskId ++ rowsOf [] = m.rowsFor p.taskId := List.append_nil _
    rw [unwritten]
    exact accords.stored q kept
  · rw [owner, walk.stored wrote m] at kept
    cases kept
    exact ⟨rfl, grown⟩

end Accords

/-! ## Chronicles -/

/-- The stores and the progresses at hand that a new task comes to, like a life, but the ledger has only
the rows of the task that its advances have appended. -/
inductive Chronicle (g : Graph F) : MemoryStore → Progress → Prop
  | new {m : MemoryStore} (taskId workflowId : String) (context : Fields)
      (untouched : ∀ q, m.load? taskId = some q → q = .newTask taskId workflowId context)
      (unwritten : m.rowsFor taskId = []) : Chronicle g m (.newTask taskId workflowId context)
  | advanced {W : Type} {m : MemoryStore} {p : Progress} (before : Chronicle g m p) (h : Host F W)
      (w : W) (budget : Budget) (task : TaskInfo) (runId : String) (tickId feedback : Option String) :
      Chronicle g (Engine.advance h.overMemory budget g task runId tickId feedback p (w, m)).2.2
        (Engine.advance h.overMemory budget g task runId tickId feedback p (w, m)).1.2
  | replied {m : MemoryStore} {p : Progress} (before : Chronicle g m p) (paused : p.lifecycle = .feedback)
      (text : String) : Chronicle g (m.checkpoint (p.replied text)) (p.replied text)
  | loaded {m : MemoryStore} {p q : Progress} (before : Chronicle g m p)
      (kept : m.load? p.taskId = some q) : Chronicle g m q
  | elsewhere {m m' : MemoryStore} {p : Progress} (before : Chronicle g m p)
      (same : m'.load? p.taskId = m.load? p.taskId) (rows : m'.rowsFor p.taskId = m.rowsFor p.taskId) :
      Chronicle g m' p

namespace Chronicle

theorem life {g : Graph F} {m : MemoryStore} {p : Progress} (chronicle : Chronicle g m p) :
    Life g m p := by
  induction chronicle with
  | new taskId workflowId context untouched unwritten => exact .new taskId workflowId context untouched
  | advanced before h w budget task runId tickId feedback ih =>
      exact ih.advanced h w budget task runId tickId feedback
  | replied before paused text ih => exact ih.replied paused text
  | loaded before kept ih => exact ih.loaded kept
  | elsewhere before same rows ih => exact ih.elsewhere same

/-- The ledger tells of edges, and the task has counted their steps. -/
structure Accounted (g : Graph F) (rows : List Transition) (p : Progress) : Prop where
  edges : ∀ row ∈ rows, row.check = .ok () ∧ Edge g row
  count : p.transitionCount = stepsIn rows

/-- A walk that begins with an accounted task leads to one. -/
theorem Accounted.walk {answers : Question F → Except Raised Value → Prop} {capped : Prop} {fr : Frame F}
    {s : Stance} {rows : List Transition} {entries : List Entry} {p : Progress} {reply : Option String}
    (accounted : Accounted fr.graph rows p) (valid : fr.graph.violations = [])
    (active : p.lifecycle.isTerminal = false) (inShape : InShape fr.graph p)
    (walk : Walk answers capped fr ⟨prepare fr.graph p, reply⟩ entries s) :
    Accounted fr.graph (rows ++ rowsOf entries) s.progress := by
  have prepared := (InShape.lasts valid).prepared active inShape
  refine ⟨fun row inside => ?_, ?_⟩
  · rcases List.mem_append.mp inside with old | new
    · exact accounted.edges row old
    · exact walk.edges valid active prepared row new
  · have steps := walk.transitionCount valid
    have start : (prepare fr.graph p).transitionCount = stepsIn rows := accounted.count
    rw [stepsIn_append]
    push_cast
    rw [← start]
    exact steps

theorem accounted {g : Graph F} (sound : g.Sound) {m : MemoryStore} {p : Progress}
    (chronicle : Chronicle g m p) : Accords (Accounted g) m p := by
  have lasts := InShape.lasts sound.valid
  induction chronicle with
  | new taskId workflowId context untouched unwritten => exact .new untouched unwritten ⟨nofun, rfl⟩
  | @advanced W m p before h w budget task runId tickId feedback ih =>
      have inShape := (before.life.lasting lasts sound.valid).1
      cases active : p.lifecycle.isTerminal with
      | true =>
          rw [advance_ended _ _ _ _ _ _ _ _ active]
          exact ih
      | false =>
          have serves : Serves h.overMemory (fun _ _ => True) Prod.snd MemoryStore.keep :=
            ⟨h.overMemory_keeps, fun _ _ => trivial⟩
          have cap : budget.perTick ≤ budget.perRun ∨ True := .inr trivial
          obtain ⟨tick, entries, s, walk, seen, ending⟩ := advance_walks serves
            (Graph.fit_of_valid sound.valid) budget task runId tickId feedback p (w, m) active cap
          rw [seen]
          have accounted := ih.walk walk (ih.here.walk sound.valid active inShape walk)
          generalize (Engine.advance h.overMemory budget g task runId tickId feedback p (w, m)).1 = r
            at ending ⊢
          cases ending with
          | stopped wrote halted ending events pages => exact accounted
          | spent more count ahead work ending events pages => exact accounted
          | failed wrote lifecycle error placed => exact accounted
          | escaped calm escape =>
              have counted := walk.counted (inShape.tallied.counted)
              rw [escape.here sound h.overMemory_sturdy counted calm]
              exact accounted
  | replied before paused text ih => exact .checkpoint ⟨ih.here.edges, ih.here.count⟩
  | loaded before kept ih => exact ih.loaded kept
  | elsewhere before same rows ih => exact ih.elsewhere same rows

end Chronicle

/-- A host whose callable is done with the first action, fails the second one once and is then done. -/
def persistentHost : Host Unit Unit where
  behaviour
    | _, .handler input => pure ⟨.ok (plainReport (if input.stateId = "first" then "done"
        else if input.attempt = 1 then "failed" else "done")), input.context⟩
    | _, call => pure ⟨.ok .null, call.context⟩
  now := pure ⟨0⟩
  freshEventId := pure "row"
  freshTickId := pure "tick"
  sleep _ := pure ()
  checkpoint _ := pure ()
  record _ _ := pure ()

def persistentAdvance : (Except Fault Finish × Progress) × (Unit × MemoryStore) :=
  Engine.advance persistentHost.overMemory (.clamped 25 200) twoActions ⟨"t1", none, none, none⟩ "run"
    none none (.newTask "t1" "demo" []) ((), .empty)

end Tickwork

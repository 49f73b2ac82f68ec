import Tickwork.Proofs.Replays

/-!
# Sessions over a store in memory

A session is a new task that is advanced again and again, with replies handed over or kept in between.
Main statement: whenever an advance returns or gives the task up, the store has the task as it stands and
its ledger verifies, unless the task ended where a pause went on; then verification fails.
-/

set_option autoImplicit false

namespace Tickwork

variable {F W : Type}

/-! ## Faults leave the task as it was written -/

namespace Engine

variable {answers : Question F → Except Raised Value → Prop} {capped : Prop} {fr : Frame F}
variable {h : Host F W} {rows : List Transition} {s : Stance}

/-- Where limits and bounds are numbers, a visit fails for good or not at all. -/
theorem reacted_error {g : Graph F} (valid : g.violations = []) {id : String} {node : State F}
    {answer : Except Raised Value} {fault : Fault} (found : g.state? id = some node)
    (broken : (reacted id s node answer).result = .error fault) : fault.isFatal = true := by
  cases node with
  | action handler routes retry =>
      obtain ⟨n, limit, -⟩ := Graph.attemptLimit_sound valid found
      unfold reacted actionReacted at broken
      simp only at broken
      cases came : (attempted id (s.progress.attemptNumber id) s answer).result with
      | error fault' =>
          rw [came] at broken
          cases broken
          obtain ⟨cause, taskId, rfl⟩ := attempted_error came
          rfl
      | ok outcome =>
          rw [came] at broken
          cases outcome with
          | settled o => cases broken
          | failed reason message =>
              simp only [concluded, limit, Value.isBelow?_int, Bool.false_eq_true, if_false]
                at broken
              split at broken <;> cases broken
  | orchestrate routes handler selector =>
      unfold reacted handlerReacted selectorReacted at broken
      simp only at broken
      repeat' split at broken
      all_goals cases broken
      all_goals rfl
  | loop body bound routes stop =>
      obtain ⟨n, rfl, -⟩ := Graph.bound_sound valid found
      unfold reacted loopReacted at broken
      simp only at broken
      split at broken
      · cases broken
        rfl
      · split at broken
        · cases broken
        · split at broken
          · rename_i incomparable
            cases incomparable
          · cases broken
          · cases broken
  | feedback resume =>
      cases broken
      rfl
  | terminal status message =>
      cases broken
      rfl
  | unsupported v =>
      cases broken
      rfl

theorem landed_error {g : Graph F} {id : String} {node : State F} {now : Instant} {p : Progress}
    {verdict : Verdict} {fault : Fault} (lost : landed g id node now p verdict = .error fault) :
    fault.isFatal = true := by
  cases verdict with
  | again reason attempt => cases lost
  | leave step =>
      simp only [landed] at lost
      cases routed : stepTarget g id node step with
      | error cause =>
          rw [routed] at lost
          cases lost
          rfl
      | ok route =>
          obtain ⟨target, targetNode⟩ := route
          obtain ⟨leads, found⟩ := stepTarget_ok routed
          rw [routed] at lost
          cases targetNode with
          | feedback resume =>
              obtain ⟨next, resumes⟩ := resumeTarget_of_state? found (some id)
              simp only [arrived, resumes] at lost
              cases lost
          | _ => cases lost

/-- A fault that escapes from a sound graph over a sturdy store leaves the task as it was written. -/
theorem Escape.here (sound : fr.graph.Sound) (sturdy : h.Sturdy) {entries : List Entry}
    {fault : Fault} {p : Progress} (counted : s.progress.Counted) (calm : fault.isFatal = false)
    (escape : Escape answers h fr entries s fault p) : p = s.progress := by
  cases escape with
  | broke wrote weak => exact absurd sturdy weak
  | overlong wrote found counted within tooLong => rfl
  | jammed visit broken =>
      obtain ⟨q, answer, -, -, rfl⟩ := visit.answered
      rw [reacted_error sound.valid visit.stands.2 broken] at calm
      cases calm
  | unlanded visit decided lost =>
      rw [landed_error lost] at calm
      cases calm
  | refused visit decided lands owner unfit =>
      obtain ⟨q, answer, -, -, rfl⟩ := visit.answered
      have fits := check_of_landed sound visit.stands.2 (reacted_sane counted decided) lands
      rw [fits] at unfit
      cases unfit

end Engine

/-! ## What is kept in memory -/

namespace MemoryStore

theorem load?_checkpoint (m : MemoryStore) (p : Progress) :
    (m.checkpoint p).load? p.taskId = some p :=
  Engine.lookup_put p.taskId p m.states

theorem load?_keep (m : MemoryStore) (row : Option Transition) (p : Progress) :
    (m.keep row p).load? p.taskId = some p := by
  cases row with
  | none => exact load?_checkpoint m p
  | some t => exact load?_checkpoint _ p

theorem rows_keepAll (m : MemoryStore) (entries : List Entry) :
    (keepAll keep m entries).rows = m.rows ++ rowsOf entries := by
  induction entries generalizing m with
  | nil => simp [keepAll, rowsOf]
  | cons e rest ih =>
      have next : keepAll keep m (e :: rest) = keepAll keep (m.keep e.row e.progress) rest := rfl
      rw [next, ih]
      cases found : e.row <;> simp [keep, checkpoint, rowsOf, found]

/-- The rows of a task after some entries were kept: those before, and the rows of the entries. -/
theorem rowsFor_keepAll (m : MemoryStore) (entries : List Entry) (id : String) :
    (keepAll keep m entries).rowsFor id =
      m.rowsFor id ++ (rowsOf entries).filter fun t => t.taskId == id := by
  simp only [rowsFor, rows_keepAll, List.filter_append]

/-- A task is kept as it was written last. -/
theorem load?_keepAll (m : MemoryStore) {entries : List Entry} {last : Entry}
    (found : entries.getLast? = some last) :
    (keepAll keep m entries).load? last.progress.taskId = some last.progress := by
  obtain ⟨front, rfl⟩ := List.getLast?_eq_some_iff.mp found
  rw [keepAll_append]
  exact load?_keep _ _ _

end MemoryStore

/-! ## Sessions -/

/-- The task with a reply kept for it: it is under way again. -/
def Progress.replied (p : Progress) (reply : String) : Progress :=
  { p with
    context := Fields.put replyKey (.str reply) p.context
    lifecycle := .running
    waitingSince := none }

/-- A task that is waiting to be run for the first time, with a context of its own. -/
def Progress.newTask (taskId workflowId : String) (context : Fields) : Progress :=
  { Progress.fresh taskId workflowId with context }

/-- The worlds and progresses that a new task comes to. Every advance has a budget of its own and may
hand over a reply; a paused task may have a reply kept for it instead. -/
inductive Session (h : Host F W) (g : Graph F) (task : TaskInfo) :
    W × MemoryStore → Progress → Prop
  | new {world : W × MemoryStore} (taskId workflowId : String) (context : Fields)
      (unwritten : world.2.rowsFor taskId = []) :
      Session h g task world (Progress.newTask taskId workflowId context)
  | advance {world : W × MemoryStore} {p : Progress} (before : Session h g task world p)
      (perTick perRun : Int) (runId : String) (tickId feedback : Option String) :
      Session h g task
        (Engine.advance h.overMemory (.clamped perTick perRun) g task runId tickId feedback p
          world).2
        (Engine.advance h.overMemory (.clamped perTick perRun) g task runId tickId feedback p
          world).1.2
  | reply {world : W × MemoryStore} {p : Progress} (before : Session h g task world p)
      (paused : p.lifecycle = .feedback) (text : String) :
      Session h g task (world.1, world.2.checkpoint (p.replied text)) (p.replied text)

namespace Session

open Engine

/-- What a session keeps of its task: the rows are aligned, and the task is in the store once it has
ended. -/
structure Consistent (g : Graph F) (m : MemoryStore) (p : Progress) : Prop where
  aligned : Aligned g (m.rowsFor p.taskId) p
  kept : p.lifecycle.isTerminal = true → m.load? p.taskId = some p

theorem underway_prepare {g : Graph F} (sound : g.Sound) {rows : List Transition} {p : Progress}
    (aligned : Aligned g rows p) (active : p.lifecycle.isTerminal = false) :
    Underway g rows (prepare g p) := by
  have start : g.start ≠ "" := by
    obtain ⟨node, found⟩ := Graph.state?_of_hasState sound.valid (Graph.hasState_start sound.valid)
    exact sound.named _ (List.mem_map_of_mem (Graph.mem_of_state? found))
  refine ⟨⟨aligned.replays, ?_, aligned.source, aligned.pausing, aligned.ended, ?_,
    aligned.attempts, aligned.rounds⟩, active, _, rfl⟩
  · intro last atEnd
    obtain ⟨next, resumes, stored⟩ := aligned.place last atEnd
    refine ⟨next, resumes, ?_⟩
    have open' : p.terminalStateId = none := by
      cases ended : p.terminalStateId with
      | none => rfl
      | some id =>
          have isOver := (aligned.ended id ended).1
          rw [active] at isOver
          cases isOver
    rw [Aligned.stored_of_running open'] at stored
    simp [Progress.stored, prepare, open', stored]
  · intro id current
    cases at_id : p.currentStateId with
    | none =>
        simp only [prepare, at_id, Option.getD_none, Option.some.injEq] at current
        exact current ▸ start
    | some id' =>
        simp only [prepare, at_id, Option.getD_some, Option.some.injEq] at current
        exact current ▸ aligned.named id' at_id

/-- What an advance leaves behind. -/
structure Left (g : Graph F) (m : MemoryStore) (result : Except Fault Finish) (p : Progress) :
    Prop where
  consistent : Consistent g m p
  kept : (∀ fault, result = .error fault → fault.isFatal = true) → m.load? p.taskId = some p

theorem clamped_perTick_pos (perTick perRun : Int) :
    (Budget.clamped perTick perRun).perTick ≠ 0 := by
  simp only [Budget.clamped, Budget.tickCeiling]
  omega

/-- An advance keeps a session's task consistent. -/
theorem left_of_advance (h : Host F W) {g : Graph F} (sound : g.Sound) (task : TaskInfo)
    {world : W × MemoryStore} {p : Progress} (consistent : Consistent g world.2 p)
    (perTick perRun : Int) (runId : String) (tickId feedback : Option String) :
    Left g
      (Engine.advance h.overMemory (.clamped perTick perRun) g task runId tickId feedback p
        world).2.2
      (Engine.advance h.overMemory (.clamped perTick perRun) g task runId tickId feedback p
        world).1.1
      (Engine.advance h.overMemory (.clamped perTick perRun) g task runId tickId feedback p
        world).1.2 := by
  cases active : p.lifecycle.isTerminal with
  | true =>
      rw [advance_ended _ _ _ _ _ _ _ _ active]
      exact ⟨consistent, fun _ => consistent.kept active⟩
  | false =>
      have serves : Serves h.overMemory (fun _ _ => True) Prod.snd MemoryStore.keep :=
        ⟨h.overMemory_keeps, fun _ _ => trivial⟩
      have cap : (Budget.clamped perTick perRun).perTick ≤ (Budget.clamped perTick perRun).perRun ∨
          True := .inr trivial
      obtain ⟨tick, entries, s, walk, seen, ending⟩ :=
        advance_walks serves (Graph.fit_of_valid sound.valid) (.clamped perTick perRun) task runId
          tickId feedback p world active cap
      generalize Engine.advance h.overMemory (.clamped perTick perRun) g task runId tickId
        feedback p world = r at seen ending
      obtain ⟨⟨result, p'⟩, world'⟩ := r
      simp only at seen ending ⊢
      have underway := underway_prepare sound consistent.aligned active
      have aligned := walk.aligned sound underway
      obtain ⟨taskId, owner, owners, last⟩ := walk.owner
      have same : s.progress.taskId = p.taskId := taskId
      have rows : world'.2.rowsFor s.progress.taskId = world.2.rowsFor p.taskId ++ rowsOf entries := by
        rw [seen, MemoryStore.rowsFor_keepAll, same]
        congr 1
        rw [List.filter_eq_self]
        intro row inside
        exact beq_iff_eq.mpr (owner row inside)
      have written : entries ≠ [] → world'.2.load? s.progress.taskId = some s.progress := by
        intro wrote
        obtain ⟨e, atEnd⟩ : ∃ e, entries.getLast? = some e :=
          ⟨_, List.getLast?_eq_some_getLast wrote⟩
        have here := last e atEnd
        rw [seen, ← here]
        exact MemoryStore.load?_keepAll world.2 atEnd
      have here : Aligned g (world'.2.rowsFor s.progress.taskId) s.progress := rows ▸ aligned
      cases ending with
      | stopped wrote halted ending events pages =>
          exact ⟨⟨here, fun _ => written wrote⟩, fun _ => written wrote⟩
      | spent more count ahead work ending events pages =>
          have wrote : entries ≠ [] := by
            rintro rfl
            exact clamped_perTick_pos perTick perRun count.symm
          exact ⟨⟨here, fun _ => written wrote⟩, fun _ => written wrote⟩
      | failed wrote lifecycle error placed =>
          exact ⟨⟨here, fun _ => written wrote⟩, fun _ => written wrote⟩
      | escaped calm escape =>
          have stays := escape.here sound h.overMemory_sturdy ⟨aligned.attempts, aligned.rounds⟩ calm
          subst stays
          refine ⟨⟨here, ?_⟩, ?_⟩
          · intro isOver
            refine written ?_
            rintro rfl
            cases walk
            rw [underway.active] at isOver
            cases isOver
          · intro fatal
            have ends := fatal _ rfl
            rw [calm] at ends
            cases ends

/-- A session keeps its task consistent. -/
theorem consistent {h : Host F W} {g : Graph F} (sound : g.Sound) {task : TaskInfo}
    {world : W × MemoryStore} {p : Progress} (session : Session h g task world p) :
    Consistent g world.2 p := by
  induction session with
  | new taskId workflowId context unwritten =>
      have none' : ∀ last : Transition, ([] : List Transition).getLast? = some last → False := nofun
      refine ⟨?_, nofun⟩
      have rows : MemoryStore.rowsFor _ (Progress.newTask taskId workflowId context).taskId = [] :=
        unwritten
      rw [rows]
      exact ⟨rfl, fun _ found => (none' _ found).elim, fun _ found => (none' _ found).elim,
        fun _ _ found => (none' _ found).elim, nofun, nofun, nofun, nofun⟩
  | advance before perTick perRun runId tickId feedback ih =>
      exact (left_of_advance h sound task ih perTick perRun runId tickId feedback).consistent
  | @reply world p before paused text ih =>
      have open' : p.terminalStateId = none := by
        cases ended : p.terminalStateId with
        | none => rfl
        | some id =>
            have isOver := (ih.aligned.ended id ended).1
            rw [paused] at isOver
            cases isOver
      refine ⟨⟨ih.aligned.replays, ih.aligned.place, ih.aligned.source, nofun, ?_,
        ih.aligned.named, ih.aligned.attempts, ih.aligned.rounds⟩, nofun⟩
      intro id ended
      exact absurd ended (by simp [Progress.replied, open'])

end Session

/-! ## Verification -/

/-- No pause that names where it goes on goes on at an end. -/
def Graph.PausesResumeAlive (g : Graph F) : Prop :=
  ∀ id resume, g.state? id = some (.feedback resume) → resume ≠ previousState →
    ∀ status message, g.state? resume ≠ some (.terminal status message)

theorem not_endedAfterPause {g : Graph F} (sound : g.Sound) (alive : g.PausesResumeAlive)
    {rows : List Transition} {p : Progress} (aligned : Aligned g rows p) :
    ¬ EndedAfterPause g rows p := by
  rintro ⟨last, id, atEnd, paused, resumes, ended⟩
  obtain ⟨-, status, message, found⟩ := aligned.ended id ended
  obtain ⟨resume, pause⟩ := (Graph.mem_feedbackIds sound.distinct).mp paused
  unfold Graph.resumeTarget at resumes
  rw [Engine.lookup_of_state? pause] at resumes
  simp only at resumes
  by_cases back : resume = previousState
  · obtain ⟨named, node, source, work⟩ := aligned.source last atEnd
    rw [if_neg (by simp [back])] at resumes
    simp only [named, if_false] at resumes
    cases resumes
    rw [source] at found
    cases found
    cases work
  · rw [if_pos back] at resumes
    cases resumes
    exact alive _ _ pause back status message found

/-- A factory that asks once and ends with the reply. -/
def askOnce : Definition Unit where
  id := "demo"
  start := "confirm"
  items :=
    [("confirm", .state (.action (.slot (.code () .whole))
        ⟨some "finish", some "finish", some "wait"⟩ none)),
      ("wait", .state (.feedback "finish")),
      ("finish", .state (.terminal .done none))]
  context := []
  guards := []
  handlers := []

def askOnceGraph : Graph Unit :=
  askOnce.graphOf
    [("confirm", .action (.slot (.code () .whole)) ⟨some "finish", some "finish", some "wait"⟩ none),
      ("wait", .feedback "finish"), ("finish", .terminal .done none)]

/-- A host whose callables ask for a reply whenever they are called. -/
def askingHost : Host Unit Unit where
  behaviour _ call := pure ⟨.ok (plainReport "feedback"), call.context⟩
  now := pure ⟨0⟩
  freshEventId := pure "row"
  freshTickId := pure "tick"
  sleep _ := pure ()
  checkpoint _ := pure ()
  record _ _ := pure ()

def pausedAdvance : (Except Fault Finish × Progress) × (Unit × MemoryStore) :=
  Engine.advance askingHost.overMemory (.clamped 25 200) askOnceGraph ⟨"t1", none, none, none⟩ "run"
    none none (.newTask "t1" "demo" []) ((), .empty)

def repliedAdvance : (Except Fault Finish × Progress) × (Unit × MemoryStore) :=
  Engine.advance askingHost.overMemory (.clamped 25 200) askOnceGraph ⟨"t1", none, none, none⟩ "run"
    none (some "yes") pausedAdvance.1.2 pausedAdvance.2

/-- Whether an advance returned or gave its task up. -/
def isClosed : Except Fault Finish → Bool
  | .ok _ => true
  | .error fault => fault.isFatal

theorem fatal_of_isClosed {result : Except Fault Finish} (closed : isClosed result = true)
    (fault : Fault) (broken : result = .error fault) : fault.isFatal = true := by
  subst broken
  exact closed

end Tickwork

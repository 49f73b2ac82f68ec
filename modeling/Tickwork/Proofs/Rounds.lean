import Tickwork.Proofs.Blocks
import Tickwork.Proofs.Validity

/-!
# The rounds of a loop

The counter of a loop is a sidecar of the task: it is changed where the loop is visited, and it outlasts
pauses, retries and ticks in the body, and the rounds of loops within it. Main statement:
`rounds_are_bounded`, in the ledger the rows that leave a loop are in blocks, each of them at most as many
rounds as the bound allows, numbered from one, and then the row of an exit.
-/

set_option autoImplicit false

namespace Tickwork

variable {F : Type}

/-- The row of a loop whose round number `k` begins: it leads into the body. -/
structure RoundBegins (body : Target) (bound k : Int) (row : Transition) : Prop where
  event : row.event = "continue"
  reason : row.reason = .known .loopContinue
  iteration : row.loopIteration = k
  target : body = some row.toId
  within : k ≤ bound

/-- The row of a loop that ends after `k` rounds: its guard passed, or they were all that are allowed. -/
inductive RoundsEnd (bound k : Int) (row : Transition) : Prop
  | done (event : row.event = "done") (reason : row.reason = .known .loopDone)
      (iteration : row.loopIteration = k)
  | exhausted (event : row.event = "exhausted") (reason : row.reason = .known .loopExhausted)
      (iteration : row.loopIteration = k) (spent : k = bound)

namespace Engine

variable {g : Graph F} {id : String} {s : Stance} {answer : Except Raised Value}

/-! ## What a visit of a loop comes to -/

/-- A visit of a loop that is left: through its guard, at its bound, or for one more round. -/
inductive LoopLeft (id : String) (bound : Int) (s : Stance) : Step → Progress → Prop
  | done : LoopLeft id bound s (loopStep "done" .loopDone (s.progress.roundsBegun id))
      (Progress.clearIterations s.progress id)
  | exhausted (spent : bound ≤ s.progress.roundsBegun id) :
      LoopLeft id bound s (loopStep "exhausted" .loopExhausted (s.progress.roundsBegun id))
        (Progress.clearIterations s.progress id)
  | again (more : s.progress.roundsBegun id < bound) :
      LoopLeft id bound s (loopStep "continue" .loopContinue (s.progress.roundsBegun id + 1))
        { s.progress with
          loopIterations := Sorted.put id (s.progress.roundsBegun id + 1) s.progress.loopIterations }

theorem loopReacted_left {bound : Int} {verdict : Verdict}
    (decided : (loopReacted id (.int bound) s answer).result = .ok verdict) :
    ∃ step, verdict = .leave step ∧
      LoopLeft id bound s step (loopReacted id (.int bound) s answer).after.progress := by
  unfold loopReacted at decided ⊢
  cases answer with
  | error e => cases decided
  | ok v =>
      simp only [Value.isReached?_int] at decided ⊢
      by_cases passes : v.truthy = true
      · rw [if_pos passes] at decided ⊢
        cases decided
        exact ⟨_, rfl, .done⟩
      · rw [if_neg passes] at decided ⊢
        by_cases reached : bound ≤ s.progress.roundsBegun id
        · simp only [reached, decide_true] at decided ⊢
          cases decided
          exact ⟨_, rfl, .exhausted reached⟩
        · simp only [reached, decide_false] at decided ⊢
          cases decided
          exact ⟨_, rfl, .again (Int.not_le.mp reached)⟩

/-- The rounds that have begun are within the bound. -/
theorem Tallied.roundsBegun_le (tallied : Tallied g s.progress) {body : Target} {bound : Int}
    {routes : LoopRoutes} {stop : Slot F} (found : g.state? id = some (.loop body (.int bound) routes stop))
    (nonneg : 0 ≤ bound) : s.progress.roundsBegun id ≤ bound := by
  unfold Progress.roundsBegun
  cases begun : s.progress.loopIterations.lookup id with
  | none => exact nonneg
  | some n =>
      obtain ⟨body', bound', routes', stop', found', -, within⟩ :=
        tallied.rounds (id, n) (Graph.mem_of_lookup begun)
      rw [found] at found'
      cases found'
      exact within

/-- The counter of a loop numbers its rows. -/
theorem rounds_ruled (valid : g.violations = []) {body : Target} {bound : Int} {routes : LoopRoutes}
    {stop : Slot F} (found : g.state? id = some (.loop body (.int bound) routes stop))
    (nonneg : 0 ≤ bound) (again : routes.again = body) :
    Ruled g id (RoundBegins body bound) (RoundsEnd bound) fun p => p.roundsBegun id where
  new taskId workflowId context := rfl
  same p q attempts rounds := by
    unfold Progress.roundsBegun
    rw [rounds]
  apart same visit decided apart := by
    unfold Progress.roundsBegun
    rw [(visit.counters_apart decided apart).2]
  visited := by
    intro answers fr s node j verdict now row q same inShape visit decided lands
    subst same
    have here := visit.stands.2
    rw [found] at here
    cases here
    obtain ⟨question, answer, -, -, rfl⟩ := visit.answered
    obtain ⟨step, rfl, left⟩ : ∃ step, verdict = .leave step ∧ LoopLeft id bound s step
      (reacted id s (.loop body (.int bound) routes stop) answer).after.progress :=
      loopReacted_left decided
    obtain ⟨shape, looks⟩ : ∃ shape, row.shape = shape := ⟨_, rfl⟩
    rw [looks] at lands
    have within := inShape.tallied.roundsBegun_le found nonneg
    have landing := landing_of_landed lands
    generalize (reacted id s (.loop body (.int bound) routes stop) answer).after.progress = p
      at left landing ⊢
    have event : row.event = step.event := by cases landing; exact congrArg Shape.event looks
    have reason : row.reason = .known step.reason := by cases landing; exact congrArg Shape.reason looks
    have iteration : row.loopIteration = step.loopIteration := by
      cases landing
      exact congrArg Shape.loopIteration looks
    cases left with
    | done =>
        refine .inr ⟨.done event reason iteration, ?_⟩
        simp only [Progress.roundsBegun, Progress.clearIterations, lookup_erase_self, Option.getD_none]
    | exhausted spent =>
        refine .inr ⟨.exhausted event reason iteration (Int.le_antisymm within spent), ?_⟩
        simp only [Progress.roundsBegun, Progress.clearIterations, lookup_erase_self, Option.getD_none]
    | again more =>
        refine .inl ⟨⟨event, reason, iteration, ?_, more⟩, ?_⟩
        · cases landing with
          | left leads there arrives =>
              have toId : row.toId = _ := congrArg Shape.toId looks
              rw [toId, ← again]
              exact leads
        · simp only [Progress.roundsBegun, lookup_put, Option.getD_some]

end Engine

open Engine

/-- In an accepted graph, and all career long of a task, the rows of the ledger that leave a loop are in
blocks: rounds numbered from one, each of them a step into the body, and then an exit, which has the number
of the last round and is for exhaustion only at the bound. Only the last block may still be open, and none
has more rounds than the bound allows. -/
theorem rounds_are_bounded {g : Graph F} (accepted : g.ensureValid = .ok g) {id : String} {body : Target}
    {bound : Value} {routes : LoopRoutes} {stop : Slot F}
    (found : g.state? id = some (.loop body bound routes stop)) :
    ∃ n : Int, bound = .int n ∧ 0 ≤ n ∧
      ∀ {m : MemoryStore} {p : Progress}, Career g m p →
      ∃ (blocks : List (List Transition × Transition)) (opened : List Transition),
        (m.rowsFor p.taskId).filter (fun row => row.fromId == id) =
          blocks.flatMap (fun block => block.1 ++ [block.2]) ++ opened ∧
        (∀ block ∈ blocks, Numbered (RoundBegins body n) block.1 ∧
          RoundsEnd n block.1.length block.2 ∧ block.1.length ≤ n) ∧
        Numbered (RoundBegins body n) opened ∧ opened.length ≤ n := by
  have valid := Graph.violations_of_accepted accepted
  have formed : g.StateWellFormed id _ :=
    (Graph.wellFormed_of_accepted accepted).states (id, _) (Graph.mem_of_state? found)
  obtain ⟨n, rfl, nonneg⟩ := Graph.bound_sound valid found
  exact ⟨n, rfl, nonneg, fun career =>
    (rounds_ruled valid found nonneg formed.2.2.1).blocks valid nonneg (fun _ _ => RoundBegins.within) career⟩

/-! ## A loop in the body of a loop -/

/-- A graph with a loop of one round in the body of a loop of two rounds, around one action that may be
tried again. -/
def nestedLoops : Graph Unit where
  id := "demo"
  start := "outer"
  context := []
  states :=
    [("outer", .loop (some "inner") (.int 2) ⟨some "inner", some "finish", some "finish"⟩ .absent),
      ("inner", .loop (some "work") (.int 1) ⟨some "work", some "outer", some "outer"⟩ .absent),
      ("work", .action (.slot (.code () .whole)) ⟨some "inner", some "finish", none⟩
        (some ⟨.int 1, .null, none⟩)),
      ("finish", .terminal .done none)]
  guards := []
  handlers := []

def nestedTick (perTick : Int) (p : Progress) (world : Unit × MemoryStore) :
    (Except Fault Finish × Progress) × (Unit × MemoryStore) :=
  Engine.advance persistentHost.overMemory (.clamped perTick 200) nestedLoops ⟨"t1", none, none, none⟩
    "run" none none p world

/-- A tick that stops in the second round of the outer loop. -/
def firstNestedTick : (Except Fault Finish × Progress) × (Unit × MemoryStore) :=
  nestedTick 5 (.newTask "t1" "demo" []) ((), .empty)

def secondNestedTick : (Except Fault Finish × Progress) × (Unit × MemoryStore) :=
  nestedTick 25 firstNestedTick.1.2 firstNestedTick.2

theorem nestedLoops_accepted : nestedLoops.ensureValid = .ok nestedLoops := by
  have ordered : nestedLoops.ensureOrdered = .ok () := rfl
  have unbroken : nestedLoops.violations = [] := by decide +kernel
  simp only [Graph.ensureValid, Graph.examined, ordered, unbroken, bind, Except.bind]

/-- The inner loop begins its one round twice, once in each round of the outer one: each exit begins the
count again, though the task goes on in another tick. -/
theorem rounds_are_bounded_nested :
    ((secondNestedTick.2.2.rowsFor "t1").filter fun row => row.fromId == "inner").map
        (fun row => (row.event, row.loopIteration)) =
      [("continue", 1), ("exhausted", 1), ("continue", 1), ("exhausted", 1)] ∧
    ∃ (blocks : List (List Transition × Transition)) (opened : List Transition),
      (secondNestedTick.2.2.rowsFor "t1").filter (fun row => row.fromId == "inner") =
        blocks.flatMap (fun block => block.1 ++ [block.2]) ++ opened ∧
      (∀ block ∈ blocks, Numbered (RoundBegins (some "work") 1) block.1 ∧
        RoundsEnd 1 block.1.length block.2 ∧ (block.1.length : Int) ≤ 1) ∧
      Numbered (RoundBegins (some "work") 1) opened ∧ (opened.length : Int) ≤ 1 := by
  have first : Career nestedLoops firstNestedTick.2.2 firstNestedTick.1.2 :=
    .advanced persistentHost.overMemory_keeps ((), .empty)
      (.new "t1" "demo" [] (fun q kept => by cases kept) rfl) (.clamped 5 200) ⟨"t1", none, none, none⟩
      "run" none none
  have second : Career nestedLoops secondNestedTick.2.2 secondNestedTick.1.2 :=
    .advanced persistentHost.overMemory_keeps firstNestedTick.2 first (.clamped 25 200)
      ⟨"t1", none, none, none⟩ "run" none none
  have owner : secondNestedTick.1.2.taskId = "t1" := by decide +kernel
  refine ⟨by decide +kernel, ?_⟩
  have found : nestedLoops.state? "inner" = some _ := rfl
  obtain ⟨n, same, -, bounded⟩ := rounds_are_bounded nestedLoops_accepted found
  cases same
  have blocks := bounded second
  rw [owner] at blocks
  exact blocks

end Tickwork

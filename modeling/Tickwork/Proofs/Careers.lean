import Tickwork.Proofs.Edges

/-!
# Careers of tasks

A career is what can become of a new task over a store whose ledger has only the rows of the task that
its advances have appended. An advance may be interrupted at any of its writes: the store then breaks down
right after the write, and the task goes on from what is stored. Main statement: `Career.enduring`, the
induction over careers. What endures each turn holds of the rows and the progress at hand, and of the rows
and the stored one.
-/

set_option autoImplicit false

namespace Tickwork

variable {F : Type}

open Engine

/-- The stores and the progresses at hand that a new task comes to, with advances over any host that keeps
what it writes in a store in memory, whether it breaks down after a write or not. Other tasks may be
written to the store in between. -/
inductive Career (g : Graph F) : MemoryStore → Progress → Prop
  | new {m : MemoryStore} (taskId workflowId : String) (context : Fields)
      (untouched : ∀ q, m.load? taskId = some q → q = .newTask taskId workflowId context)
      (unwritten : m.rowsFor taskId = []) : Career g m (.newTask taskId workflowId context)
  | advanced {W : Type} {p : Progress} {h : Host F W} {view : W → MemoryStore}
      (keeps : h.Keeps view MemoryStore.keep) (w : W) (before : Career g (view w) p) (budget : Budget)
      (task : TaskInfo) (runId : String) (tickId feedback : Option String) :
      Career g (view (Engine.advance h budget g task runId tickId feedback p w).2)
        (Engine.advance h budget g task runId tickId feedback p w).1.2
  | replied {m : MemoryStore} {p : Progress} (before : Career g m p) (paused : p.lifecycle = .feedback)
      (text : String) : Career g (m.checkpoint (p.replied text)) (p.replied text)
  | loaded {m : MemoryStore} {p q : Progress} (before : Career g m p)
      (kept : m.load? p.taskId = some q) : Career g m q
  | elsewhere {m m' : MemoryStore} {p : Progress} (before : Career g m p)
      (same : m'.load? p.taskId = m.load? p.taskId) (rows : m'.rowsFor p.taskId = m.rowsFor p.taskId) :
      Career g m' p

/-- Chronicles are careers without an interruption. -/
theorem Chronicle.career {g : Graph F} {m : MemoryStore} {p : Progress} (chronicle : Chronicle g m p) :
    Career g m p := by
  induction chronicle with
  | new taskId workflowId context untouched unwritten =>
      exact .new taskId workflowId context untouched unwritten
  | @advanced W m p before h w budget task runId tickId feedback ih =>
      exact .advanced h.overMemory_keeps (w, m) ih budget task runId tickId feedback
  | replied before paused text ih => exact ih.replied paused text
  | loaded before kept ih => exact ih.loaded kept
  | elsewhere before same rows ih => exact ih.elsewhere same rows

/-- A property of rows and progress that a new task has and that every step of a career keeps. A row that
is refused is not in the ledger, but the progress that was to go with it is at hand afterwards. -/
structure Enduring (g : Graph F) (K : List Transition → Progress → Prop) : Prop where
  new : ∀ taskId workflowId context, K [] (.newTask taskId workflowId context)
  prepared : ∀ {rows : List Transition} {p : Progress}, p.lifecycle.isTerminal = false → K rows p →
    K rows (prepare g p)
  turn : ∀ {answers : Question F → Except Raised Value → Prop} {capped : Prop} {fr : Frame F}
    {s after : Stance} {e : Entry} {rows : List Transition}, fr.graph = g →
    Turn answers capped fr s e after → s.progress.lifecycle.isTerminal = false → K rows s.progress →
    K (rows ++ e.row.toList) after.progress
  refused : ∀ {answers : Question F → Except Raised Value → Prop} {fr : Frame F} {s : Stance}
    {id : String} {node : State F} {j : Judgement Verdict} {verdict : Verdict} {now : Instant}
    {row : Transition} {fault : Fault} {q : Progress} {rows : List Transition}, fr.graph = g →
    Visit answers fr s id node j → j.result = .ok verdict →
    landed fr.graph id node now j.after.progress verdict = .ok (row.shape, q) →
    row.check = .error fault → K rows s.progress → K rows q
  replied : ∀ {rows : List Transition} {p : Progress} (text : String), p.lifecycle = .feedback →
    K rows p → K rows (p.replied text)

namespace Enduring

variable {g : Graph F} {K : List Transition → Progress → Prop}
variable {answers : Question F → Except Raised Value → Prop} {capped : Prop} {fr : Frame F}

theorem walk (enduring : Enduring g K) (same : fr.graph = g) {s after : Stance} {entries : List Entry}
    (walk : Walk answers capped fr s entries after) {rows : List Transition}
    (alive : s.progress.lifecycle.isTerminal = false) (holds : K rows s.progress) :
    K (rows ++ rowsOf entries) after.progress := by
  induction walk generalizing rows with
  | refl s =>
      rw [show rowsOf [] = [] from rfl, List.append_nil]
      exact holds
  | last turn =>
      rw [rowsOf_cons, show rowsOf [] = [] from rfl, List.append_nil]
      exact enduring.turn same turn alive holds
  | step turn running rest ih =>
      rw [rowsOf_cons, ← List.append_assoc]
      exact ih (alive_of_running running) (enduring.turn same turn alive holds)

/-- What is at hand when a fault escapes, over a store that may have broken down. -/
theorem escape {W : Type} {h : Host F W} (enduring : Enduring g K) (valid : g.violations = [])
    (same : fr.graph = g) {s : Stance} {entries : List Entry} {fault : Fault} {p : Progress}
    (calm : fault.isFatal = false) (escape : Escape answers h fr entries s fault p)
    {rows : List Transition} (holds : K rows s.progress) :
    K rows p ∧ p.taskId = s.progress.taskId := by
  cases escape with
  | broke wrote weak => exact ⟨holds, rfl⟩
  | overlong wrote found counted within tooLong => exact ⟨holds, rfl⟩
  | jammed visit broken =>
      obtain ⟨q, answer, -, -, rfl⟩ := visit.answered
      rw [reacted_error (same ▸ valid) visit.stands.2 broken] at calm
      cases calm
  | unlanded visit decided lost =>
      rw [landed_error lost] at calm
      cases calm
  | refused visit decided lands owner unfit =>
      exact ⟨enduring.refused same visit decided lands unfit holds,
        (landing_of_landed lands).taskId.trans visit.samePlace.taskId⟩

end Enduring

/-- What endures holds of the rows and the progress at hand, and of the rows and the stored one. -/
theorem Career.enduring {g : Graph F} {K : List Transition → Progress → Prop} (enduring : Enduring g K)
    (valid : g.violations = []) {m : MemoryStore} {p : Progress} (career : Career g m p) :
    Accords K m p := by
  induction career with
  | new taskId workflowId context untouched unwritten =>
      exact .new untouched unwritten (enduring.new taskId workflowId context)
  | @advanced W p h view keeps w before budget task runId tickId feedback ih =>
      cases active : p.lifecycle.isTerminal with
      | true =>
          rw [advance_ended _ _ _ _ _ _ _ _ active]
          exact ih
      | false =>
          have serves : Serves h (fun _ _ => True) view MemoryStore.keep := ⟨keeps, fun _ _ => trivial⟩
          have cap : budget.perTick ≤ budget.perRun ∨ True := .inr trivial
          obtain ⟨tick, entries, s, walk, seen, ending⟩ := advance_walks serves
            (Graph.fit_of_valid valid) budget task runId tickId feedback p w active cap
          rw [seen]
          have grown : K ((view w).rowsFor p.taskId ++ rowsOf entries) s.progress :=
            enduring.walk rfl walk active (enduring.prepared active ih.here)
          have accords := ih.walk walk grown
          generalize (Engine.advance h budget g task runId tickId feedback p w).1 = r at ending ⊢
          cases ending with
          | stopped wrote halted ending events pages => exact accords
          | spent more count ahead work ending events pages => exact accords
          | failed wrote lifecycle error placed => exact accords
          | escaped calm escape =>
              obtain ⟨here, owner⟩ := enduring.escape valid rfl calm escape accords.here
              exact accords.at_hand owner here
  | replied before paused text ih => exact .checkpoint (enduring.replied text paused ih.here)
  | loaded before kept ih => exact ih.loaded kept
  | elsewhere before same rows ih => exact ih.elsewhere same rows

end Tickwork

import Tickwork.Proofs.Failures.Escapes
import Tickwork.Proofs.Kept
import Tickwork.Proofs.WellFormed

/-!
# Advances over a store in memory

An accepted graph with named states is advanced over a store in memory, from a task whose counters are in
order. Main statement: every write keeps them in order and belongs to the factory of the task, the last one
is in the store, and the store refuses none.
-/

set_option autoImplicit false

namespace Tickwork

variable {F W : Type}

namespace Engine

variable {answers : Question F → Except Raised Value → Prop} {capped : Prop} {fr : Frame F}
variable {g : Graph F} {p q : Progress} {s after : Stance} {id : String} {node : State F}
variable {workflowId : String}

theorem reacted_neat (id : String) (s : Stance) (node : State F) (answer : Except Raised Value)
    (neat : s.progress.Neat workflowId) : (reacted id s node answer).after.progress.Neat workflowId := by
  have strict : Sorted.Strict (reacted id s node answer).after.progress.attempts ∧
      Sorted.Strict (reacted id s node answer).after.progress.loopIterations := by
    obtain ⟨-, attempts, rounds, -⟩ := neat
    cases node with
    | action handler routes retry =>
        unfold reacted actionReacted attempted judged concluded Progress.settled
        simp only
        repeat' split
        all_goals first
          | exact ⟨attempts, rounds⟩
          | exact ⟨attempts.erase _, rounds⟩
          | exact ⟨attempts.put _ _, rounds⟩
    | orchestrate routes handler selector =>
        unfold reacted handlerReacted selectorReacted
        simp only
        repeat' split
        all_goals exact ⟨attempts, rounds⟩
    | loop body bound routes stop =>
        unfold reacted loopReacted
        simp only
        repeat' split
        all_goals first
          | exact ⟨attempts, rounds⟩
          | exact ⟨attempts, rounds.erase _⟩
          | exact ⟨attempts, rounds.put _ _⟩
    | _ => exact ⟨attempts, rounds⟩
  exact ⟨(reacted_samePlace _ _ _ _).workflowId.trans neat.factory, strict.1, strict.2,
    reacted_counted _ _ _ _ neat.counted⟩

theorem Landing.neat {now : Instant} {verdict : Verdict} {shape : Shape}
    (lands : Landing g id node now p verdict shape q) (neat : p.Neat workflowId) : q.Neat workflowId := by
  have counted := lands.counted neat.counted
  cases lands with
  | again reason attempt => exact neat
  | left leads found arrives =>
      cases arrives with
      | ended status message => exact ⟨neat.factory, .nil, .nil, counted⟩
      | paused resumes => exact ⟨neat.factory, neat.attempts, neat.rounds, counted⟩
      | onward work => exact ⟨neat.factory, neat.attempts, neat.rounds, counted⟩

theorem Turn.neat {e : Entry} (turn : Turn answers capped fr s e after) (neat : s.progress.Neat workflowId) :
    after.progress.Neat workflowId := by
  have counted := turn.counted neat.counted
  cases turn with
  | begin stands work idle => exact ⟨neat.factory, neat.attempts, neat.rounds, counted⟩
  | halt stands => exact ⟨neat.factory, .nil, .nil, counted⟩
  | rest stands resumes => exact ⟨neat.factory, neat.attempts, neat.rounds, counted⟩
  | visit visit decided lands owner fits =>
      obtain ⟨question, answer, -, -, rfl⟩ := visit.answered
      exact (landing_of_landed lands).neat (reacted_neat _ _ _ _ neat)
  | fail doomed =>
      have last : ∀ {p : Progress} {message : String}, p.Neat workflowId →
          (Progress.failedWith p message).Neat workflowId := by
        intro p message neat
        exact ⟨neat.factory, neat.attempts, neat.rounds, neat.counted⟩
      cases doomed with
      | judged visit refused =>
          obtain ⟨question, answer, -, -, rfl⟩ := visit.answered
          exact last (reacted_neat _ _ _ _ neat)
      | unrouted visit decided astray =>
          obtain ⟨question, answer, -, -, rfl⟩ := visit.answered
          exact last (reacted_neat _ _ _ _ neat)
      | _ => exact last neat

theorem Walk.neat {entries : List Entry} (walk : Walk answers capped fr s entries after)
    (neat : s.progress.Neat workflowId) :
    after.progress.Neat workflowId ∧ ∀ e ∈ entries, e.progress.Neat workflowId := by
  induction walk with
  | refl s => exact ⟨neat, fun _ inside => absurd inside List.not_mem_nil⟩
  | last turn =>
      refine ⟨turn.neat neat, fun e inside => ?_⟩
      rw [List.mem_singleton.mp inside, turn.owner.1]
      exact turn.neat neat
  | step turn running rest ih =>
      obtain ⟨last, each⟩ := ih (turn.neat neat)
      refine ⟨last, fun e inside => ?_⟩
      rcases List.mem_cons.mp inside with rfl | later
      · rw [turn.owner.1]
        exact turn.neat neat
      · exact each e later

end Engine

open Engine

/-- What an advance over a store in memory comes to: what it wrote, what is stored then, and that no row was
refused. -/
structure Advancement (workflowId : String) (p : Progress) (writes : List (Option Transition × Progress))
    (result : Except Fault Finish) (m : MemoryStore) : Prop where
  writes : ∀ write ∈ writes, write.2.Neat workflowId ∧ write.2.taskId = p.taskId
  stored : ∃ q, m.load? p.taskId = some q ∧ q.Neat workflowId ∧ q.taskId = p.taskId
  accepted : ∀ problem, result ≠ .error (.transition problem)

theorem advance_in_memory {g : Graph F} (accepted : g.ensureValid = .ok g) (distinct : (names g.states).Nodup)
    (named : ∀ id ∈ names g.states, id ≠ "") (h : Host F W) (w : W) (budget : Budget) (task : TaskInfo)
    (runId : String) (tickId feedback : Option String) {m : MemoryStore} {p : Progress} {workflowId : String}
    (neat : p.Neat workflowId) (stored : m.load? p.taskId = some p) :
    Advancement workflowId p (writesOfAdvance h budget g task runId tickId feedback p (w, m))
      (Engine.advance h.overMemory budget g task runId tickId feedback p (w, m)).1.1
      (Engine.advance h.overMemory budget g task runId tickId feedback p (w, m)).2.2 := by
  have valid := Graph.violations_of_accepted accepted
  have sound : g.Sound := ⟨valid, distinct, named⟩
  cases active : p.lifecycle.isTerminal with
  | true =>
      rw [writesOfAdvance_ended h budget g task runId tickId feedback (w, m) active,
        advance_ended _ _ _ _ _ _ _ _ active]
      exact ⟨fun _ inside => absurd inside List.not_mem_nil, ⟨p, stored, neat, rfl⟩, nofun⟩
  | false =>
      have prepared : (prepare g p).Neat workflowId :=
        ⟨neat.factory, neat.attempts, neat.rounds, neat.counted⟩
      have writes : ∀ write ∈ writesOfAdvance h budget g task runId tickId feedback p (w, m),
          write.2.Neat workflowId ∧ write.2.taskId = p.taskId := by
        obtain ⟨tick, entries, s, walk, writes⟩ := writesOfAdvance_walks (Graph.fit_of_valid valid) h budget task
          runId tickId feedback (w, m) active
        intro write inside
        rw [writes] at inside
        obtain ⟨e, there, rfl⟩ := List.mem_map.mp inside
        exact ⟨(walk.neat prepared).2 e there, walk.owner.2.2.1 e there⟩
      have serves : Serves h.overMemory (fun _ _ => True) Prod.snd MemoryStore.keep :=
        ⟨h.overMemory_keeps, fun _ _ => trivial⟩
      obtain ⟨tick, entries, s, walk, seen, ending⟩ := advance_walks serves (Graph.fit_of_valid valid) budget
        task runId tickId feedback p (w, m) active (.inr trivial)
      have last := (walk.neat prepared).1
      refine ⟨writes, ?_, ?_⟩
      · rw [seen]
        by_cases wrote : entries = []
        · rw [wrote]
          exact ⟨p, stored, neat, rfl⟩
        · exact ⟨s.progress, walk.stored wrote m, last, walk.owner.1⟩
      · generalize (Engine.advance h.overMemory budget g task runId tickId feedback p (w, m)).1 = outcome
          at ending ⊢
        intro problem refused
        cases ending with
        | stopped wrote halted ending events pages => cases refused
        | spent more count ahead work ending events pages => cases refused
        | failed wrote lifecycle error placed => cases refused
        | @escaped fault p calm escape =>
            obtain rfl : fault = .transition problem := Except.error.inj refused
            cases escape.slip valid h.overMemory_sturdy calm with
            | overlong wrote found attempted within tooLong =>
                have large := RetryPolicy.delaySeconds_error
                  (fun b backoff => Graph.backoff_ordered accepted found backoff) tooLong
                cases large
            | refused visit decided lands unfit =>
                obtain ⟨question, answer, -, -, rfl⟩ := visit.answered
                have fits := check_of_landed sound visit.stands.2 (reacted_sane last.counted decided) lands
                rw [fits] at unfit
                cases unfit

end Tickwork

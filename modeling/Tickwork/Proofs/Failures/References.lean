import Tickwork.Proofs.Failures.Blame
import Tickwork.Proofs.Sessions

/-!
# References are looked up in vain only where no rule looks

The handlers, selectors and guards of a graph are named or stand in the graph as they are. In a graph
that breaks no rule all of them can be called when their state is visited, wherever the task came from,
but for values in two places that the rules do not look at: the guard of a loop, and inside of what the
library provides.
-/

set_option autoImplicit false

namespace Tickwork

variable {F : Type}

open Engine

/-- In a graph that breaks no rule a visit can call all that it calls, unless its state is hollow. And an
advance gives a task up for a reference only at a loop that is guarded by a value, unless a callable
says so. -/
theorem references_resolve {g : Graph F} (valid : g.violations = []) :
    (∀ (fr : Frame F) (s : Stance) (id : String) (node : State F), fr.graph = g →
      g.state? id = some node → isWork node = true → node.isHollow = false →
      ∃ q, question fr id s node = .ok q ∧ q.isReady = true) ∧
    ∀ {W S : Type} (h : Host F W) (view : W → S) (keep : S → Option Transition → Progress → S),
      h.Keeps view keep → ∀ (budget : Budget) (task : TaskInfo) (runId : String)
      (tickId feedback : Option String) (p : Progress) (w : W) (cause : FatalCause)
      (taskId : Option String) (q : Progress) (after : W),
      advance h budget g task runId tickId feedback p w = ((.error (.fatal cause taskId), q), after) →
      cause.isReference = true → h.behaviour.Raises cause ∨
        cause = .guardNotCallable (position g q) ∧
          ∃ node, g.state? (position g q) = some node ∧ HasInertGuard node := by
  refine ⟨?_, ?_⟩
  · rintro fr s id node rfl found work solid
    rcases question_of_valid valid found work s with ⟨q, asked, ready⟩ | ⟨inert, -⟩
    · exact ⟨q, asked, ready solid⟩
    · obtain ⟨body, bound, routes, v, rfl⟩ := inert
      cases solid
  · intro W S h view keep keeps budget task runId tickId feedback p w cause taskId q after failed
      reference
    have serves : Serves h (Answers h) view keep := ⟨keeps, fun q w => ⟨w, rfl⟩⟩
    obtain ⟨fr, entries, s, rfl, up, -, -⟩ := advance_given_up serves (Graph.fit_of_valid valid) budget
      task runId tickId feedback failed
    have here := up.position valid
    obtain ⟨last, blame, -⟩ := up.blame valid
    cases blame with
    | missing absent => cases reference
    | spent transitions => cases reference
    | @unguarded id node stands inert =>
        rw [here, stands.1]
        exact .inr ⟨rfl, node, stands.2, inert⟩
    | judged visit refused =>
        refine .inl ((visit.refused_cause valid refused).resolve_right fun judged => ?_)
        rw [FatalCause.not_isReference_of_isJudgement judged] at reference
        cases reference
    | strayed visit decided stray => cases reference

/-! ## A loop that is guarded by a number -/

/-- A graph that breaks no rule. The guard of its loop is a number. -/
def guardedByNumber : Graph Unit where
  id := "demo"
  start := "again"
  context := []
  states :=
    [("again", .loop (some "work") (.int 2) ⟨some "work", some "finish", some "finish"⟩
        (.inert (.int 5))),
      ("work", .action (.slot (.code () .whole)) ⟨some "again", some "finish", none⟩ none),
      ("finish", .terminal .done none)]
  guards := []
  handlers := []

def guardedAdvance : (Except Fault Finish × Progress) × (Unit × MemoryStore) :=
  advance askingHost.overMemory (.clamped 25 200) guardedByNumber ⟨"t1", none, none, none⟩ "run" none
    none (.newTask "t1" "demo" []) ((), .empty)

/-- The loop is accepted, and yet the task is given up for its guard. -/
theorem references_resolve_guardedByNumber :
    guardedAdvance.1.1 = .error (.fatal (.guardNotCallable "again") (some "t1")) ∧
      ∃ node, guardedByNumber.state? "again" = some node ∧ HasInertGuard node := by
  have valid : guardedByNumber.violations = [] := by decide +kernel
  have calm : ¬ askingHost.overMemory.behaviour.Raises (.guardNotCallable "again") := by
    rintro ⟨f, call, w, taskId, raised⟩
    cases raised
  have failed : guardedAdvance.1.1 = .error (.fatal (.guardNotCallable "again") (some "t1")) :=
    error_of_faultOf? (by decide +kernel)
  have here : position guardedByNumber guardedAdvance.1.2 = "again" := by decide +kernel
  have ended : guardedAdvance = ((.error (.fatal (.guardNotCallable "again") (some "t1")),
      guardedAdvance.1.2), guardedAdvance.2) := by rw [← failed]
  have blamed := ((references_resolve valid).2 askingHost.overMemory Prod.snd MemoryStore.keep
    askingHost.overMemory_keeps (.clamped 25 200) ⟨"t1", none, none, none⟩ "run" none none
    (.newTask "t1" "demo" []) ((), .empty) _ _ _ _ ended rfl).resolve_left calm
  rw [here] at blamed
  exact ⟨failed, blamed.2⟩

end Tickwork

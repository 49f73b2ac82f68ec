import Tickwork.Proofs.Pipe.Decisions
import Tickwork.Proofs.Pipe.Loops
import Tickwork.Proofs.Pipe.Questions

/-!
# Meaning is preserved

By induction on the tree: a task that arrives where a node is entered is led where running the node
leads. The nodes of a flow are joined by the ids that they are entered by.
-/

set_option autoImplicit false

namespace Tickwork

variable {F : Type}

namespace Pipe

open Engine

section

variable {fn : Functions F} {fr : Frame F} {close : Close}

theorem flow_preserves {nodes : List (Node F)} (entered : ∀ node ∈ nodes, Entered node)
    (all : ∀ node ∈ nodes, Preserves fn fr close node) {family : Nat → Numbering} {next : String}
    {rounds : Counters} {scene : Scene} {p : Progress} (named : next ≠ "")
    (placed : Placed fr.graph rounds (itemsFlow family next nodes) (serialsFlow family nodes))
    (holds : Holds scene rounds (entryFlow family next nodes) p)
    (follows : Follows fn fr close rounds next (Node.evalFlow fn family nodes scene)) :
    Arrives fn fr close none ⟨p, none⟩ (entryFlow family next nodes) scene.pages scene.replies := by
  induction nodes generalizing family scene p with
  | nil => exact follows p holds
  | cons node rest ih =>
      obtain ⟨placedRest, placedNode⟩ := placed.append
      have enteredRest : ∀ node ∈ rest, Entered node :=
        fun node inside => entered node (List.mem_cons_of_mem _ inside)
      have namedRest : entryFlow (fun child => family (child + 1)) next rest ≠ "" :=
        (entered_flow enteredRest _ next).named named
      refine all node List.mem_cons_self (family 0) _ rounds scene p namedRest placedNode holds ?_
      refine follows.first ?_
      intro scene' p' holds' follows'
      exact ih enteredRest (fun node inside => all node (List.mem_cons_of_mem _ inside)) placedRest
        holds' follows'

/-- A pipe is led where running it leads. -/
theorem Supported.preserves {node : Node F} (supported : Supported fn node)
    (failed : fr.graph.state? failedId = some (.terminal .failed none)) :
    Preserves fn fr close node := by
  induction supported with
  | flow all ih =>
      intro nums next rounds scene p named placed holds follows
      exact flow_preserves (fun node inside => (all node inside).built.entered) ih named placed holds follows
  | step blind mute =>
      intro nums next rounds scene p named placed holds follows
      have found := @Placed.last F fr rounds _ [] _ _ placed _ _
        (by rw [lowered_step named]; exact List.mem_singleton.mpr rfl)
      exact step_arrives failed found (numbered_ne_empty _ _) blind mute holds follows
  | @ask prompt parse name blind reads =>
      intro nums next rounds scene p named placed holds follows
      have found := @Placed.last F fr rounds _ [] _ _ placed _ _
        (by rw [lowered_ask named]; exact List.mem_cons_self)
      have pause := @Placed.last F fr rounds _ [] _ _ placed _ _
        (by rw [lowered_ask named]; exact List.mem_cons_of_mem _ (List.mem_singleton.mpr rfl))
      exact ask_arrives ⟨numbered_ne_empty _ _, found, pause, failed⟩ blind reads holds follows
  | decide blind named all other ihAll ihOther =>
      exact decide_preserves failed blind named ihAll ihOther
  | loop blind count inner other ihInner ihOther =>
      exact loop_preserves blind count ihInner (fun node is => (other node is).built.entered) ihOther
  | write blind =>
      intro nums next rounds scene p named placed holds follows
      have found := @Placed.last F fr rounds _ [] _ _ placed _ _
        (by rw [lowered_write named]; exact List.mem_singleton.mpr rfl)
      exact write_arrives failed found (numbered_ne_empty _ _) blind holds follows
  | finish =>
      intro nums next rounds scene p named placed holds follows
      have found := @Placed.last F fr rounds _ [] _ _ placed _ _ (List.mem_singleton.mpr rfl)
      exact finish_arrives found holds follows

end

end Pipe

end Tickwork

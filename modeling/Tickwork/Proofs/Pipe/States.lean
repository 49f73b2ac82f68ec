import Tickwork.Proofs.Pipe.Serials
import Tickwork.Proofs.Rules

/-!
# The states of a pipe

What the items of a pipe are lowered to. Each node has ids of its own for its states, so no id comes
twice.
-/

set_option autoImplicit false

namespace Tickwork

variable {F : Type}

namespace Pipe

/-- The states that items are lowered to. -/
def statesOf (items : List (String × Item F)) : List (String × State F) :=
  items.flatMap fun item => (lowerItem [] item.1 item.2).states

theorem statesOf_append (first second : List (String × Item F)) :
    statesOf (first ++ second) = statesOf first ++ statesOf second :=
  List.flatMap_append

/-! ## The states of a node -/

section

variable {id next : String}

theorem requiredRoute_some {on : Routes} {event target : String}
    (leads : on.lookup event = some (some target)) (named : target ≠ "") :
    requiredRoute id on event = ([], some target) := by
  unfold requiredRoute
  rw [leads]
  simp only [Option.join_some, Option.getD_some]

theorem actionRoutes_onward (named : next ≠ "") :
    actionRoutes id (onward next) = ([], ⟨some next, some failedId, none⟩) := by
  have done : requiredRoute id (onward next) "done" = ([], some next) :=
    requiredRoute_some rfl named
  have failed : requiredRoute id (onward next) "failed" = ([], some failedId) :=
    requiredRoute_some rfl (by decide)
  unfold actionRoutes
  rw [done, failed]
  rfl

theorem actionRoutes_paused (named : next ≠ "") :
    actionRoutes id (Ordered.put "feedback" (some (feedbackId id)) (onward next)) =
      ([], ⟨some next, some failedId, some (feedbackId id)⟩) := by
  have done : requiredRoute id (Ordered.put "feedback" (some (feedbackId id)) (onward next)) "done" =
      ([], some next) := requiredRoute_some rfl named
  have failed : requiredRoute id (Ordered.put "feedback" (some (feedbackId id)) (onward next))
      "failed" = ([], some failedId) := requiredRoute_some rfl (by decide)
  unfold actionRoutes
  rw [done, failed]
  rfl

theorem lowered_step (named : next ≠ "") (run : F) :
    lowerItem [] id (.primitive (.step (.merge run) (onward next) none)) =
      ⟨[], [(id, .action (.merge run) ⟨some next, some failedId, none⟩ none)]⟩ := by
  simp only [lowerItem, actionRoutes_onward named]

theorem lowered_ask (named : next ≠ "") (prompt : Slot F) (reader : Option (ReplyReader F)) :
    lowerItem [] id (.primitive (.ask prompt reader (onward next) none)) =
      ⟨[], [(id, .action (.ask prompt reader) ⟨some next, some failedId, some (feedbackId id)⟩ none),
        (feedbackId id, .feedback previousState)]⟩ := by
  simp only [lowerItem, actionRoutes_paused named]
  rfl

theorem lowered_write (named : next ≠ "") (render : Slot F) :
    lowerItem [] id (.primitive (.publish render (onward next))) =
      ⟨[], [(id, .action (.publish render) ⟨some next, some failedId, none⟩ none)]⟩ := by
  simp only [lowerItem, actionRoutes_onward named]

theorem lowered_loop {exhausted : String} (named : next ≠ "") (named' : exhausted ≠ "")
    (body : Target) (bound : Value) (stop : Slot F) :
    lowerItem [] id (.primitive (.loop body bound
        [("done", some next), ("exhausted", some exhausted)] stop)) =
      ⟨[], [(id, .loop body bound ⟨body, some next, some exhausted⟩ stop)]⟩ := by
  have done : requiredRoute id [("done", some next), ("exhausted", some exhausted)] "done" =
      ([], some next) := requiredRoute_some rfl named
  have used : requiredRoute id [("done", some next), ("exhausted", some exhausted)] "exhausted" =
      ([], some exhausted) := requiredRoute_some rfl named'
  simp only [lowerItem, done, used]
  rfl

end

/-! ## Ids of states -/

/-- Ids that come once each, all of them ids of nodes with given numbers. -/
structure Owns (numbers : List Nat) (ids : List String) : Prop where
  nodup : ids.Nodup
  belong : ∀ id ∈ ids, ∃ n ∈ numbers, Belongs n id

namespace Owns

variable {first second numbers : List Nat} {ids ids' : List String} {label : String} {n : Nat}

theorem append (front : Owns first ids) (back : Owns second ids')
    (apart : (first ++ second).Nodup) : Owns (first ++ second) (ids ++ ids') := by
  constructor
  · refine List.nodup_append.mpr ⟨front.nodup, back.nodup, ?_⟩
    intro id inFront id' inBack same
    obtain ⟨n, inFirst, own⟩ := front.belong id inFront
    obtain ⟨m, inSecond, own'⟩ := back.belong id' inBack
    subst same
    exact (List.nodup_append.mp apart).2.2 n inFirst m inSecond (own.unique own')
  · intro id inside
    rcases List.mem_append.mp inside with inFront | inBack
    · obtain ⟨n, inFirst, own⟩ := front.belong id inFront
      exact ⟨n, List.mem_append_left _ inFirst, own⟩
    · obtain ⟨n, inSecond, own⟩ := back.belong id inBack
      exact ⟨n, List.mem_append_right _ inSecond, own⟩

theorem nil : Owns [] [] := ⟨List.nodup_nil, fun _ inside => absurd inside List.not_mem_nil⟩

theorem one : Owns [n] [numbered label n] := by
  refine ⟨by simp, ?_⟩
  intro id inside
  rw [List.mem_singleton.mp inside]
  exact ⟨n, List.mem_singleton.mpr rfl, .own label⟩

theorem with_pause : Owns [n] [numbered label n, feedbackId (numbered label n)] := by
  have apart := numbered_ending_ne label n
    (ending_feedbackId (numbered label n)) rfl
  refine ⟨by simp [apart], ?_⟩
  intro id inside
  rcases List.mem_cons.mp inside with rfl | last
  · exact ⟨n, List.mem_singleton.mpr rfl, .own label⟩
  · rw [List.mem_singleton.mp last]
    exact ⟨n, List.mem_singleton.mpr rfl, .pause label⟩

theorem with_exhausted : Owns [n] [exhaustedId (numbered label n), numbered label n] := by
  have apart := numbered_ending_ne label n
    (ending_exhaustedId (numbered label n)) rfl
  refine ⟨by simp [apart.symm], ?_⟩
  intro id inside
  rcases List.mem_cons.mp inside with rfl | last
  · exact ⟨n, List.mem_singleton.mpr rfl, .exhausted label⟩
  · rw [List.mem_singleton.mp last]
    exact ⟨n, List.mem_singleton.mpr rfl, .own label⟩

end Owns

/-- The states of a node have ids of their own. -/
def OwnIds (node : Node F) : Prop :=
  ∀ (nums : Numbering) (next : String), (serials nums node).Nodup →
    Owns (serials nums node) (names (statesOf (items nums next node)))

theorem ownIds_flow {nodes : List (Node F)} (all : ∀ node ∈ nodes, OwnIds node)
    {family : Nat → Numbering} {next : String} (nodup : (serialsFlow family nodes).Nodup) :
    Owns (serialsFlow family nodes) (names (statesOf (itemsFlow family next nodes))) := by
  induction nodes generalizing family with
  | nil => exact .nil
  | cons node rest ih =>
      simp only [serialsFlow] at nodup
      obtain ⟨inRest, inNode, -⟩ := List.nodup_append.mp nodup
      have later := ih (fun node inside => all node (List.mem_cons_of_mem _ inside)) inRest
      have first := all node List.mem_cons_self (family 0)
        (entryFlow (fun child => family (child + 1)) next rest) inNode
      simp only [serialsFlow, itemsFlow, statesOf_append, names_append]
      exact later.append first nodup

theorem ownIds_branches {branches : List (String × Node F)}
    (all : ∀ branch ∈ branches, OwnIds branch.2) {family : Nat → Numbering} (next : String)
    (nodup : (serialsBranches family branches).Nodup) :
    Owns (serialsBranches family branches)
      (names (statesOf (itemsBranches family next branches))) := by
  induction branches generalizing family with
  | nil => exact .nil
  | cons branch rest ih =>
      obtain ⟨key, node⟩ := branch
      simp only [serialsBranches] at nodup
      obtain ⟨inNode, inRest, -⟩ := List.nodup_append.mp nodup
      have fine : OwnIds node := all (key, node) List.mem_cons_self
      have first := fine (family 0) next inNode
      have later := ih (fun branch inside => all branch (List.mem_cons_of_mem _ inside)) inRest
      simp only [serialsBranches, itemsBranches, statesOf_append, names_append]
      exact first.append later nodup

theorem ownIds_option {other : Option (Node F)} (all : ∀ node, other = some node → OwnIds node)
    {nums : Numbering} (next : String) (nodup : (serialsOption nums other).Nodup) :
    Owns (serialsOption nums other) (names (statesOf (itemsOption nums next other))) := by
  cases other with
  | none => exact .nil
  | some node => exact all node rfl nums next nodup

theorem Recognized.ownIds {node : Node F} (recognized : Recognized node) : OwnIds node := by
  induction recognized with
  | flow all ih =>
      intro nums next nodup
      exact ownIds_flow ih nodup
  | step =>
      intro nums next nodup
      exact .one
  | ask =>
      intro nums next nodup
      exact .with_pause
  | decide all other ihAll ihOther =>
      intro nums next nodup
      simp only [serials] at nodup ⊢
      obtain ⟨before, -, -⟩ := List.nodup_append.mp nodup
      obtain ⟨inBranches, inOther, -⟩ := List.nodup_append.mp before
      have both := (ownIds_branches ihAll next inBranches).append
        (ownIds_option ihOther next inOther) before
      simp only [items, statesOf_append, names_append]
      exact both.append .one nodup
  | @loop body stop bound onExhausted name inner other ihInner ihOther =>
      intro nums next nodup
      simp only [serials] at nodup ⊢
      obtain ⟨before, -, -⟩ := List.nodup_append.mp nodup
      obtain ⟨inBody, inOther, -⟩ := List.nodup_append.mp before
      have first := ihInner (nums.under 0) (numbered (Node.nameOr "loop" name) (nums [])) inBody
      simp only [items, statesOf_append, names_append]
      cases onExhausted with
      | none =>
          simp only [serialsOption, List.append_nil] at nodup ⊢
          rw [List.append_assoc]
          exact first.append .with_exhausted nodup
      | some node =>
          have second := ihOther node rfl (nums.under 1) next inOther
          exact (first.append second before).append .one nodup
  | write =>
      intro nums next nodup
      exact .one
  | finish =>
      intro nums next nodup
      exact .one

end Pipe

end Tickwork

import Tickwork.Proofs.Departures
import Tickwork.Proofs.Pipe.Accepted

/-!
# Branches of decisions

Where the decisions of a pipe lead, wherever they stand in its tree. `nested` lists the nodes of a tree, each
with its numbers and the id that comes after it; `DecidesFor` says where a decision leads for what was
selected. Main statement: `branches_are_reached`, with the keys that a decision cannot lead to their branch:
a blank key, and a key that is one of the events the decision uses itself.
-/

set_option autoImplicit false

namespace Tickwork

variable {F W : Type}

namespace Pipe

/-! ## Nodes of a tree -/

/-- A node of a tree, where it is compiled. -/
structure Nested (F : Type) where
  nums : Numbering
  next : String
  node : Node F

mutual

/-- The nodes of a tree, with the numbers and the id that comes after each. -/
def nested (nums : Numbering) (next : String) : Node F → List (Nested F)
  | .flow nodes => ⟨nums, next, .flow nodes⟩ :: nestedFlow nums.under next nodes
  | .decide select branches otherwise name =>
    ⟨nums, next, .decide select branches otherwise name⟩ ::
      (nestedBranches (nums.under 0).under next branches ++ nestedOption (nums.under 1) next otherwise)
  | .loop body stop bound onExhausted name =>
    ⟨nums, next, .loop body stop bound onExhausted name⟩ ::
      (nested (nums.under 0) (numbered (Node.nameOr "loop" name) (nums [])) body ++
        nestedOption (nums.under 1) next onExhausted)
  | node => [⟨nums, next, node⟩]

def nestedFlow (family : Nat → Numbering) (next : String) : List (Node F) → List (Nested F)
  | [] => []
  | node :: rest =>
    nested (family 0) (entryFlow (fun child => family (child + 1)) next rest) node ++
      nestedFlow (fun child => family (child + 1)) next rest

def nestedBranches (family : Nat → Numbering) (next : String) : List (String × Node F) → List (Nested F)
  | [] => []
  | (_, node) :: rest =>
    nested (family 0) next node ++ nestedBranches (fun child => family (child + 1)) next rest

def nestedOption (nums : Numbering) (next : String) : Option (Node F) → List (Nested F)
  | none => []
  | some node => nested nums next node

end

/-- What a part becomes is part of what its tree becomes. -/
def Contained (node : Node F) : Prop :=
  ∀ (nums : Numbering) (next : String), ∀ part ∈ nested nums next node,
    items part.nums part.next part.node ⊆ items nums next node

theorem contained_flow {nodes : List (Node F)} (all : ∀ node ∈ nodes, Contained node)
    (family : Nat → Numbering) (next : String) :
    ∀ part ∈ nestedFlow family next nodes,
      items part.nums part.next part.node ⊆ itemsFlow family next nodes := by
  induction nodes generalizing family with
  | nil => exact nofun
  | cons node rest ih =>
      intro part inside
      rcases List.mem_append.mp inside with here | later
      · exact List.Subset.trans (all node List.mem_cons_self _ _ part here) (List.subset_append_right _ _)
      · exact List.Subset.trans
          (ih (fun node inside => all node (List.mem_cons_of_mem _ inside)) _ part later)
          (List.subset_append_left _ _)

theorem contained_branches {branches : List (String × Node F)} (all : ∀ branch ∈ branches, Contained branch.2)
    (family : Nat → Numbering) (next : String) :
    ∀ part ∈ nestedBranches family next branches,
      items part.nums part.next part.node ⊆ itemsBranches family next branches := by
  induction branches generalizing family with
  | nil => exact nofun
  | cons branch rest ih =>
      intro part inside
      rcases List.mem_append.mp inside with here | later
      · exact List.Subset.trans (all branch List.mem_cons_self _ _ part here) (List.subset_append_left _ _)
      · exact List.Subset.trans
          (ih (fun branch inside => all branch (List.mem_cons_of_mem _ inside)) _ part later)
          (List.subset_append_right _ _)

theorem contained_option {other : Option (Node F)} (all : ∀ node, other = some node → Contained node)
    (nums : Numbering) (next : String) :
    ∀ part ∈ nestedOption nums next other,
      items part.nums part.next part.node ⊆ itemsOption nums next other := by
  cases other with
  | none => exact nofun
  | some node => exact all node rfl nums next

theorem contained_exhausted {other : Option (Node F)} (all : ∀ node, other = some node → Contained node)
    (nums : Numbering) (id next : String) :
    ∀ part ∈ nestedOption nums next other,
      items part.nums part.next part.node ⊆ itemsExhausted nums id next other := by
  cases other with
  | none => exact nofun
  | some node => exact all node rfl nums next

theorem Built.contained {node : Node F} (built : Built node) : Contained node := by
  induction built with
  | flow all ih =>
      intro nums next part inside
      rcases List.mem_cons.mp inside with rfl | below
      · exact List.Subset.refl _
      · exact contained_flow ih _ _ part below
  | decide named all other ihAll ihOther =>
      intro nums next part inside
      rcases List.mem_cons.mp inside with rfl | below
      · exact List.Subset.refl _
      · refine List.Subset.trans ?_ (List.subset_append_left _ _)
        rcases List.mem_append.mp below with branch | other
        · exact List.Subset.trans (contained_branches ihAll _ _ part branch) (List.subset_append_left _ _)
        · exact List.Subset.trans (contained_option ihOther _ _ part other) (List.subset_append_right _ _)
  | loop count inner other ihInner ihOther =>
      intro nums next part inside
      rcases List.mem_cons.mp inside with rfl | below
      · exact List.Subset.refl _
      · refine List.Subset.trans ?_ (List.subset_append_left _ _)
        rcases List.mem_append.mp below with body | other
        · exact List.Subset.trans (ihInner _ _ part body) (List.subset_append_left _ _)
        · refine List.Subset.trans ?_ (List.subset_append_right _ _)
          exact contained_exhausted ihOther _ _ _ part other
  | step | ask | write | finish =>
      intro nums next part inside
      rw [List.mem_singleton.mp inside]
      exact List.Subset.refl _

/-- The state that a decision becomes. -/
def decideState (nums : Numbering) (next : String) (select : F) (branches : List (String × Node F))
    (otherwise : Option (Node F)) : State F :=
  .orchestrate (decideRoutes nums next branches otherwise)
    (.decide select (names branches) otherwise.isSome) (.slot .absent)

/-- Every decision of a tree is a state of its graph. -/
theorem Built.state?_of_decide {root : Node F} (built : Built root) {id : String} {initial : Fields}
    {nums : Numbering} {next : String} {select : F} {branches : List (String × Node F)}
    {otherwise : Option (Node F)} {name : Option String}
    (part : ⟨nums, next, .decide select branches otherwise name⟩ ∈ nested root.numbering doneId root) :
    (graphOf id initial root).state? (numbered (Node.nameOr "decide" name) (nums [])) =
      some (decideState nums next select branches otherwise) := by
  have own : (numbered (Node.nameOr "decide" name) (nums []),
      .state (decideState nums next select branches otherwise)) ∈
        items nums next (.decide select branches otherwise name) :=
    List.mem_append_right _ List.mem_cons_self
  refine built.state? (List.mem_flatMap.mpr ⟨_, List.mem_append_right ends
    (built.contained root.numbering doneId _ part own), ?_⟩)
  exact List.mem_cons_self

/-! ## Where a key leads -/

/-- The branch under a key, with its numbers. -/
def branchAt (family : Nat → Numbering) : List (String × Node F) → String → Option (Numbering × Node F)
  | [], _ => none
  | (key, node) :: rest, k =>
    if k = key then some (family 0, node) else branchAt (fun child => family (child + 1)) rest k

/-- A key that a decision can tell from its own events, and that says something. -/
structure OwnKey (otherwise : Option (Node F)) (k : String) : Prop where
  words : Text.isBlankText k = false
  known : k ≠ unknownBranchEvent
  free : k = otherwiseEvent → otherwise = none

/-- No branch is declared for what was selected. -/
def Undeclared (branches : List (String × Node F)) (key : Value) : Prop :=
  ∀ k, key = .str k → k ∉ names branches

/-- Where a decision leads for what was selected: the event, the target and the message that goes with it. A
key leads to its branch, anything else to what the decision has for that, or to the failed end of the pipe.
The last two are declared keys that never reach their branch, since an event of the decision has their
name. -/
inductive DecidesFor (nums : Numbering) (next : String) (branches : List (String × Node F))
    (otherwise : Option (Node F)) : Value → String → String → Option String → Prop
  | branch {k : String} {child : Numbering} {node : Node F}
      (declared : branchAt (nums.under 0).under branches k = some (child, node)) (own : OwnKey otherwise k) :
      DecidesFor nums next branches otherwise (.str k) k (entry child next node) none
  | other {key : Value} {node : Node F} (undeclared : Undeclared branches key)
      (somewhere : otherwise = some node) :
      DecidesFor nums next branches otherwise key otherwiseEvent (entry (nums.under 1) next node) none
  | failed {key : Value} {shown : String} (undeclared : Undeclared branches key)
      (nowhere : otherwise = none) (spelled : key.sentence = .ok shown) :
      DecidesFor nums next branches otherwise key unknownBranchEvent failedId
        (some ("Unknown branch selected: " ++ shown))
  | shadowedByOther {node : Node F} (declared : otherwiseEvent ∈ names branches)
      (somewhere : otherwise = some node) :
      DecidesFor nums next branches otherwise (.str otherwiseEvent) otherwiseEvent
        (entry (nums.under 1) next node) none
  | shadowedByFailure (declared : unknownBranchEvent ∈ names branches) :
      DecidesFor nums next branches otherwise (.str unknownBranchEvent) unknownBranchEvent failedId none

/-- Why the decision with the id `id` cannot be made: the key is blank, or nothing was declared for what was
selected and it cannot be spelled. -/
inductive CannotDecide (id : String) (branches : List (String × Node F)) (otherwise : Option (Node F)) :
    Value → FatalCause → Prop
  | blank {k : String} (declared : k ∈ names branches) (blank : Text.isBlankText k = true) :
      CannotDecide id branches otherwise (.str k) (.noStatus id)
  | unspelled {key : Value} (undeclared : Undeclared branches key) (nowhere : otherwise = none)
      (unspelled : key.sentence = .error .unspellable) :
      CannotDecide id branches otherwise key (.orchestrateRaised id Raised.unspellable.message)

section

variable {nums : Numbering} {next : String} {branches : List (String × Node F)} {otherwise : Option (Node F)}
variable {family : Nat → Numbering} {k : String}

theorem lookup_branchRoutes : (branchRoutes family next branches).lookup k =
    (branchAt family branches k).map fun branch => some (entry branch.1 next branch.2) := by
  induction branches generalizing family with
  | nil => rfl
  | cons branch rest ih =>
      obtain ⟨key, node⟩ := branch
      by_cases same : k = key
      · subst same
        simp [branchRoutes, branchAt]
      · have differs : (k == key) = false := by simpa using same
        rw [branchRoutes, List.lookup_cons, differs, branchAt, if_neg same]
        exact ih

theorem branchAt_isSome : (branchAt family branches k).isSome = true ↔ k ∈ names branches := by
  induction branches generalizing family with
  | nil => simp [branchAt, names]
  | cons branch rest ih =>
      obtain ⟨key, node⟩ := branch
      unfold branchAt
      by_cases same : k = key
      · simp [same, names]
      · rw [if_neg same, ih]
        simp [names, same]

/-- The routes of a decision lead a key of its own to its branch. -/
theorem decideRoutes_own (own : OwnKey otherwise k) :
    (decideRoutes nums next branches otherwise).lookup k =
      (branchRoutes (nums.under 0).under next branches).lookup k := by
  unfold decideRoutes
  rw [lookup_put_other own.known]
  cases otherwise with
  | none => rfl
  | some node =>
      have apart : k ≠ otherwiseEvent := fun same => nomatch own.free same
      exact lookup_put_other apart _ _

theorem decideRoutes_otherwise {node : Node F} :
    (decideRoutes nums next branches (some node)).lookup otherwiseEvent =
      some (some (entry (nums.under 1) next node)) := by
  unfold decideRoutes
  rw [lookup_put_other (by decide)]
  exact lookup_put_same _ _ _

theorem decideRoutes_unknown :
    (decideRoutes nums next branches otherwise).lookup unknownBranchEvent = some (some failedId) :=
  lookup_put_same _ _ _

/-! ## What a decision reports -/

theorem toKey_str (k : String) : (Value.str k).toKey = .ok (.text k) := rfl

/-- A declared key is reported as the status. -/
theorem decisionReport_declared (declared : k ∈ names branches) (hasOtherwise : Bool) :
    decisionReport (names branches) hasOtherwise (.str k) = .ok (.result (.str k) .null .null .null) :=
  decisionReport_known (toKey_str k) declared

theorem decisionReport_undeclared {key : Value} {word : Key} (hashable : key.toKey = .ok word)
    (undeclared : Undeclared branches key) (hasOtherwise : Bool) :
    decisionReport (names branches) hasOtherwise key =
      if hasOtherwise then .ok (plainReport otherwiseEvent)
      else (key.sentence).map fun shown => .result (.str unknownBranchEvent) .null
        (.str ("Unknown branch selected: " ++ shown)) .null := by
  refine decisionReport_unknown hashable fun name inside spelled => ?_
  cases word with
  | text s =>
      cases spelled
      exact undeclared name (eq_str_of_toKey hashable) inside
  | _ => cases spelled

end

/-! ## Decisions lead to their branches -/

/-- The step of a decision: its event, and the message that goes with it. -/
def decidedStep (event : String) (message : Option String) : Step :=
  Engine.reportedStep ⟨event, none, message, none⟩

section

open Engine

variable {h : Host F W} {fr : Frame F} {budget : Budget} {left : Nat} {live begun : Live W}
variable {id : String} {nums : Numbering} {next : String} {select : F} {branches : List (String × Node F)}
variable {otherwise : Option (Node F)} {key : Value} {seen : Fields} {w : W}

/-- What the handler of a decision answers for what was selected. -/
theorem decide_answers (known : List String) (hasOtherwise : Bool) (input : HandlerInput)
    (returned : h.behaviour select (.node input.context) begun.world = (⟨.ok key, seen⟩, w)) :
    (Question.handler (.decide select known hasOtherwise) input).ask h.behaviour begun.world =
      (decisionReport known hasOtherwise key, w) := by
  have both : (Question.handler (.decide select known hasOtherwise) input).ask h.behaviour begun.world =
      ((h.behaviour select (.node input.context) begun.world).1.value.bind (decisionReport known hasOtherwise),
        (h.behaviour select (.node input.context) begun.world).2) := rfl
  rw [both, returned]
  rfl

/-- A decision whose report names an event that is not blank decides on it. -/
theorem decide_visited {event : String} {message : Option String}
    (returned : h.behaviour select (.node begun.tick.progress.context) begun.world = (⟨.ok key, seen⟩, w))
    (reports : decisionReport (names branches) otherwise.isSome key =
      .ok (.result (.str event) .null (.ofOption message) .null))
    (words : Text.isBlankText event = false) :
    (runState h fr id (decideState nums next select branches otherwise)).exec begun =
      (.ok (decidedStep event message), ⟨begun.tick, w⟩) := by
  have answered := decide_answers (names branches) otherwise.isSome
    (begun.tick.stance.handlerInput fr id 1) returned
  rw [reports] at answered
  have visited : (runState h fr id (decideState nums next select branches otherwise)).exec begun =
      (.ok (decidedStep event message), ⟨begun.tick.taken begun.tick.stance [], w⟩) :=
    visited_of_leave rfl answered (handlerReacted_status words)
  rwa [Tick.taken_self] at visited

/-- A decision whose report is an error, or names a blank event, breaks off. -/
theorem decide_broken {fault : Fault} {answer : Except Raised Value}
    (returned : h.behaviour select (.node begun.tick.progress.context) begun.world = (⟨.ok key, seen⟩, w))
    (reports : decisionReport (names branches) otherwise.isSome key = answer)
    (breaks : handlerReacted id begun.tick.stance answer = ⟨begun.tick.stance, [], .error fault⟩) :
    (runState h fr id (decideState nums next select branches otherwise)).exec begun =
      (.error fault, ⟨begun.tick, w⟩) := by
  have answered := decide_answers (names branches) otherwise.isSome
    (begun.tick.stance.handlerInput fr id 1) returned
  rw [reports] at answered
  have visited : (runState h fr id (decideState nums next select branches otherwise)).exec begun =
      (.error fault, ⟨begun.tick.taken begun.tick.stance [], w⟩) :=
    visited_of_fault rfl answered breaks
  rwa [Tick.taken_self] at visited

/-- What a decision's row says, and how the task stands that is kept with it. -/
theorem departure_of_decided {g : Graph F}
    (failed : g.state? failedId = some (.terminal .failed none)) {event target : String}
    {message : Option String} {node : State F} {before after : Progress} {row : Transition}
    (named : id ≠ "") (target' : target ≠ "")
    (departure : Departure g id (decidedStep event message) target node before row after) :
    row.shape = ⟨id, target, event, .known .orchestrateHandler, 1, 0⟩ ∧ row.check = .ok () ∧
      after.context = before.context ∧
      (target = failedId → after.lifecycle = .failed ∧ after.terminalStateId = some failedId ∧
        ∀ text, message = some text → text ≠ "" → after.lastError = some text) := by
  have check := departure.check target' rfl rfl ⟨Int.one_nonneg, Int.le_refl 0⟩
  rw [if_neg named] at check
  refine ⟨departure.told, check, departure.context, ?_⟩
  rintro rfl
  obtain ⟨now, arrives⟩ := departure.arrives
  cases failed.symm.trans departure.found
  cases arrives with
  | ended =>
      refine ⟨rfl, rfl, ?_⟩
      rintro text rfl worded
      have told : firstWords [none, some text, (Progress.moved before (decidedStep event (some text))
          failedId).lastError] s!"Terminal state: {EndStatus.failed.name}" = text := by
        simp [firstWords, firstNonempty, worded]
      exact congrArg some told
  | onward work => cases work

/-- A run that stands at a decision departs by the event that the decision reports. -/
theorem decision_departs {previous : Option String} {event target : String} {message : Option String}
    {node : State F}
    (found : fr.graph.state? id = some (decideState nums next select branches otherwise))
    (here : position fr.graph live.tick.progress = id) (room : live.tick.transitions < budget.perRun)
    (marked : (markRunning h).exec live = (.ok (), begun))
    (returned : h.behaviour select (.node begun.tick.progress.context) begun.world = (⟨.ok key, seen⟩, w))
    (reports : decisionReport (names branches) otherwise.isSome key =
      .ok (.result (.str event) .null (.ofOption message) .null))
    (words : Text.isBlankText event = false)
    (leads : (decideRoutes nums next branches otherwise).lookup event = some (some target))
    (there : fr.graph.state? target = some node) :
    Departs h fr budget left id (decidedStep event message) target ⟨begun.tick, w⟩
      ((run h fr budget (left + 1) previous).exec live) :=
  run_departs ⟨here, found⟩ rfl room marked (decide_visited returned reports words)
    (congrArg Option.join leads) there

/-- For everything that can be selected, a decision leads somewhere or there is a reason that it does not. -/
theorem decides_or_cannot (nums : Numbering) (next : String) (id : String) (branches : List (String × Node F))
    (otherwise : Option (Node F)) (key : Value) :
    (∃ event target message, DecidesFor nums next branches otherwise key event target message) ∨
      ∃ cause, CannotDecide id branches otherwise key cause := by
  by_cases declared : ∃ k, key = .str k ∧ k ∈ names branches
  · obtain ⟨k, rfl, inside⟩ := declared
    by_cases words : Text.isBlankText k = true
    · exact .inr ⟨_, .blank inside words⟩
    · refine .inl ?_
      by_cases unknown : k = unknownBranchEvent
      · subst unknown
        exact ⟨_, _, _, .shadowedByFailure inside⟩
      · have reached : (branchAt (nums.under 0).under branches k).isSome = true := branchAt_isSome.mpr inside
        obtain ⟨⟨child, node⟩, there⟩ := Option.isSome_iff_exists.mp reached
        by_cases taken : k = otherwiseEvent
        · subst taken
          cases otherwise with
          | none => exact ⟨_, _, _, .branch there ⟨by simpa using words, unknown, fun _ => rfl⟩⟩
          | some other => exact ⟨_, _, _, .shadowedByOther inside rfl⟩
        · exact ⟨_, _, _, .branch there ⟨by simpa using words, unknown, fun same => absurd same taken⟩⟩
  · have undeclared : Undeclared branches key := fun k same inside => declared ⟨k, same, inside⟩
    cases otherwise with
    | some other => exact .inl ⟨_, _, _, .other undeclared rfl⟩
    | none =>
        by_cases spelled : key.isSpellable = true
        · exact .inl ⟨_, _, _, .failed undeclared rfl (if_pos spelled)⟩
        · exact .inr ⟨_, .unspelled undeclared rfl (if_neg spelled)⟩

/-- What a decision reports where it leads somewhere, and where its routes lead by that. -/
theorem DecidesFor.reports {event target : String} {message : Option String} {word : Key}
    (hashable : key.toKey = .ok word)
    (decides : DecidesFor nums next branches otherwise key event target message) :
    decisionReport (names branches) otherwise.isSome key =
        .ok (.result (.str event) .null (.ofOption message) .null) ∧
      Text.isBlankText event = false ∧
      (decideRoutes nums next branches otherwise).lookup event = some (some target) := by
  cases decides with
  | branch declared own =>
      have inside := branchAt_isSome.mp (Option.isSome_iff_exists.mpr ⟨_, declared⟩)
      refine ⟨decisionReport_declared inside _, own.words, ?_⟩
      rw [decideRoutes_own own, lookup_branchRoutes, declared]
      rfl
  | other undeclared somewhere =>
      subst somewhere
      exact ⟨decisionReport_undeclared hashable undeclared true, by decide, decideRoutes_otherwise⟩
  | failed undeclared nowhere spelled =>
      subst nowhere
      refine ⟨?_, by decide, decideRoutes_unknown⟩
      rw [Option.isSome_none, decisionReport_undeclared hashable undeclared false, spelled]
      rfl
  | shadowedByOther declared somewhere =>
      subst somewhere
      exact ⟨decisionReport_declared declared _, by decide, decideRoutes_otherwise⟩
  | shadowedByFailure declared =>
      exact ⟨decisionReport_declared declared _, by decide, decideRoutes_unknown⟩

theorem DecidesFor.worded {event target text : String} {message : Option String}
    (decides : DecidesFor nums next branches otherwise key event target message)
    (told : message = some text) : text ≠ "" := by
  cases decides with
  | failed =>
      cases told
      intro empty
      exact absurd (String.append_eq_empty_iff.mp empty).1 (by decide)
  | _ => cases told

/-- What a decision answers that cannot be made ends the visit for that reason. -/
theorem CannotDecide.breaks {cause : FatalCause} {word : Key} (hashable : key.toKey = .ok word)
    (cannot : CannotDecide id branches otherwise key cause) (s : Stance) :
    handlerReacted id s (decisionReport (names branches) otherwise.isSome key) =
      ⟨s, [], .error (.fatal cause none)⟩ := by
  cases cannot with
  | blank declared blank =>
      rename_i k
      have read : Outcome.read id (.result (.str k) .null .null .null) = .error (.noStatus id) := by
        change Outcome.ofParts id (.str k) .null .null .null = _
        simp [Outcome.ofParts, blank, bind, Except.bind]
      rw [decisionReport_declared declared]
      simp only [handlerReacted, read]
  | unspelled undeclared nowhere unspelled =>
      subst nowhere
      rw [Option.isSome_none, decisionReport_undeclared hashable undeclared false, unspelled]
      rfl

/-- Every decision of a pipe that compiles, wherever it stands in the tree, leads where `DecidesFor` says for
whatever is selected: the run departs there with the context as it was, and a pipe that ends failed keeps the
message. Only for the reasons of `CannotDecide` the run breaks off instead. -/
theorem branches_are_reached {root : Node F} {graphId : String} {initial : Fields} {name : Option String}
    (part : ⟨nums, next, .decide select branches otherwise name⟩ ∈ nested root.numbering doneId root)
    (compiled : root.compile graphId initial = .ok fr.graph)
    (own : id = numbered (Node.nameOr "decide" name) (nums []))
    (here : position fr.graph live.tick.progress = id)
    (room : live.tick.transitions < budget.perRun) (marked : (markRunning h).exec live = (.ok (), begun))
    {word : Key} (hashable : key.toKey = .ok word)
    (returned : h.behaviour select (.node live.tick.progress.context) begun.world = (⟨.ok key, seen⟩, w))
    (previous : Option String) :
    ((∃ event target message, DecidesFor nums next branches otherwise key event target message) ∨
      ∃ cause, CannotDecide id branches otherwise key cause) ∧
    (∀ event target message, DecidesFor nums next branches otherwise key event target message →
      Departs h fr budget left id (decidedStep event message) target ⟨begun.tick, w⟩
        ((run h fr budget (left + 1) previous).exec live) ∧
      ∀ node row after,
        Departure fr.graph id (decidedStep event message) target node begun.tick.progress row after →
        row.shape = ⟨id, target, event, .known .orchestrateHandler, 1, 0⟩ ∧ row.check = .ok () ∧
        after.context = live.tick.progress.context ∧
        (target = failedId → after.lifecycle = .failed ∧ after.terminalStateId = some failedId ∧
          ∀ text, message = some text → after.lastError = some text)) ∧
    ∀ cause, CannotDecide id branches otherwise key cause →
      (run h fr budget (left + 1) previous).exec live = (.error (.fatal cause none), ⟨begun.tick, w⟩) := by
  obtain ⟨built, graph⟩ := compile_iff.mp compiled
  have valid : fr.graph.violations = [] := graph ▸ built.violations_nil
  have found : fr.graph.state? id = some (decideState nums next select branches otherwise) := by
    rw [graph, own]
    exact built.state?_of_decide part
  have failed : fr.graph.state? failedId = some (.terminal .failed none) := by
    rw [graph]
    exact built.state? (by
      rw [states_graphOf]
      exact List.mem_cons_of_mem _ List.mem_cons_self)
  have named : id ≠ "" := own ▸ numbered_ne_empty _ _
  rw [← marked_context marked] at returned
  refine ⟨decides_or_cannot nums next id branches otherwise key, ?_, ?_⟩
  · intro event target message decides
    obtain ⟨reports, words, leads⟩ := decides.reports hashable
    have taken : (decideState nums next select branches otherwise).target? event = some target :=
      congrArg Option.join leads
    obtain ⟨target', node, there⟩ := Graph.target_sound valid found taken
    refine ⟨decision_departs found here room marked returned reports words leads there, ?_⟩
    intro node row after departure
    obtain ⟨shape, check, context, ended⟩ := departure_of_decided failed named target' departure
    refine ⟨shape, check, context.trans (marked_context marked), fun atEnd => ?_⟩
    obtain ⟨lifecycle, terminal, told⟩ := ended atEnd
    exact ⟨lifecycle, terminal, fun text worded => told text worded (decides.worded worded)⟩
  · intro cause cannot
    exact run_breaks ⟨here, found⟩ rfl room marked
      (decide_broken returned rfl (cannot.breaks hashable begun.tick.stance))

end

/-! ## A branch that is never reached -/

/-- A decision with a branch of the name of its own event. -/
def overshadowed : Node Unit :=
  .decide () [(unknownBranchEvent, .step () (some "picked"))] none none

theorem overshadowed_built : Built overshadowed := by
  refine .decide (by decide) ?_ nofun
  intro branch inside
  rw [List.mem_singleton.mp inside]
  exact .step

/-- A host whose callable selects that branch. -/
def selectingHost : Host Unit Unit where
  behaviour _ call := pure ⟨.ok (.str unknownBranchEvent), call.context⟩
  now := pure ⟨0⟩
  freshEventId := pure "row"
  freshTickId := pure "tick"
  sleep _ := pure ()
  checkpoint _ := pure ()
  record _ _ := pure ()

def overshadowedFrame : Frame Unit :=
  ⟨graphOf "demo" [(.text "n", .int 1)] overshadowed, ⟨"t1", none, none, none⟩, "run", "tick"⟩

def overshadowedStart : Live (Unit × MemoryStore) :=
  ⟨Engine.firstTick overshadowedFrame.graph (.newTask "t1" "demo" []) none, ((), .empty)⟩

/-- The branch is declared, and its key is selected, but the pipe ends failed. -/
theorem branches_are_reached_overshadowed :
    unknownBranchEvent ∈ names [(unknownBranchEvent, (.step () (some "picked") : Node Unit))] ∧
    ∃ (row : Transition) (after : Progress),
      row.shape = ⟨"decide_1", failedId, unknownBranchEvent, .known .orchestrateHandler, 1, 0⟩ ∧
      after.context = [(.text "n", .int 1)] ∧ after.lifecycle = .failed ∧
      after.terminalStateId = some failedId := by
  have declared : unknownBranchEvent ∈ names [(unknownBranchEvent, (.step () (some "picked") : Node Unit))] :=
    List.mem_cons_self
  obtain ⟨-, decided, -⟩ := @branches_are_reached _ _ selectingHost.overMemory overshadowedFrame ⟨25, 200⟩ 24
    overshadowedStart ((Engine.markRunning selectingHost.overMemory).exec overshadowedStart).2 "decide_1" _ _
    _ _ _ _ _ _ _ _ _ _ List.mem_cons_self overshadowed_built.compile (by decide +kernel)
    (by decide +kernel) (by decide) rfl _ rfl rfl none
  obtain ⟨departs, ends⟩ := decided _ _ _ (.shadowedByFailure declared)
  obtain ⟨node, row, after, departure⟩ := departs.departure
  obtain ⟨shape, -, context, ended⟩ := ends node row after departure
  obtain ⟨lifecycle, terminal, -⟩ := ended rfl
  exact ⟨declared, row, after, shape, context.trans (by decide +kernel), lifecycle, terminal⟩

end Pipe

end Tickwork

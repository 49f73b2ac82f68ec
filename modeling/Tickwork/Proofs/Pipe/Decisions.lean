import Tickwork.Proofs.Pipe.Formed
import Tickwork.Proofs.Pipe.Nodes

/-!
# Decisions

`Preserves` is what the compiler owes to a node: a task that arrives where the node is entered is led where
running the node leads. A decision preserves the meaning of its branches.
-/

set_option autoImplicit false

namespace Tickwork

variable {F : Type}

namespace Pipe

open Engine

/-- A part of a tree whose states are in the graph, with numbers of its own: none comes twice, and none
belongs to a loop that is being repeated. -/
structure Placed (g : Graph F) (rounds : Counters) (items : List (String × Item F))
    (numbers : List Nat) : Prop where
  laid : ∀ id s, (id, s) ∈ statesOf items → g.state? id = some s
  nodup : numbers.Nodup
  apart : ∀ n ∈ numbers, ∀ label, numbered label n ∉ names rounds

/-- A task that enters a node is led where running the node leads. -/
def Preserves (fn : Functions F) (fr : Frame F) (close : Close) (node : Node F) : Prop :=
  ∀ (nums : Numbering) (next : String) (rounds : Counters) (scene : Scene) (p : Progress),
    next ≠ "" → Placed fr.graph rounds (items nums next node) (serials nums node) →
    Holds scene rounds (entry nums next node) p →
    Follows fn fr close rounds next (node.eval fn nums scene) →
    Arrives fn fr close none ⟨p, none⟩ (entry nums next node) scene.pages scene.replies

theorem Placed.append {g : Graph F} {rounds : Counters} {first second : List (String × Item F)}
    {numbers numbers' : List Nat} (placed : Placed g rounds (first ++ second) (numbers ++ numbers')) :
    Placed g rounds first numbers ∧ Placed g rounds second numbers' := by
  obtain ⟨laid, nodup, apart⟩ := placed
  rw [statesOf_append] at laid
  obtain ⟨nodup, nodup', -⟩ := List.nodup_append.mp nodup
  constructor
  · exact ⟨fun id s inside => laid id s (List.mem_append_left _ inside), nodup,
      fun n inside => apart n (List.mem_append_left _ inside)⟩
  · exact ⟨fun id s inside => laid id s (List.mem_append_right _ inside), nodup',
      fun n inside => apart n (List.mem_append_right _ inside)⟩

theorem EnteredBy.named {entered next : String} {items : List (String × Item F)}
    (by' : EnteredBy entered next items) (named : next ≠ "") : entered ≠ "" := by
  rcases by' with through | ⟨-, label, n, form⟩
  · rw [through]
    exact named
  · rw [form]
    exact numbered_ne_empty label n

/-! ## Routes -/

theorem lookup_put_same (event : String) (target : Target) (routes : Routes) :
    (Ordered.put event target routes).lookup event = some target := by
  induction routes with
  | nil => simp [Ordered.put]
  | cons head rest ih =>
      obtain ⟨k, v⟩ := head
      unfold Ordered.put
      by_cases same : k = event
      · simp [same]
      · have differs : (event == k) = false := by simpa using Ne.symm same
        rw [if_neg same, List.lookup_cons, differs]
        exact ih

theorem lookup_put_other {event other : String} (apart : other ≠ event) (target : Target)
    (routes : Routes) : (Ordered.put event target routes).lookup other = routes.lookup other := by
  have differs : (other == event) = false := by simpa using apart
  induction routes with
  | nil =>
      unfold Ordered.put
      rw [List.lookup_cons, differs]
  | cons head rest ih =>
      obtain ⟨k, v⟩ := head
      unfold Ordered.put
      by_cases same : k = event
      · subst same
        rw [if_pos rfl, List.lookup_cons, List.lookup_cons, differs]
      · rw [if_neg same, List.lookup_cons, List.lookup_cons, ih]

section

variable {fn : Functions F} {fr : Frame F} {close : Close} {scene : Scene} {rounds : Counters}
variable {id next word : String} {p : Progress} {branches : List (String × Node F)}
variable {family : Nat → Numbering} {other : Scene → Result} {routes : Routes}
variable {handler : Handler F}

theorem branch_arrives (scene : Scene) (all : ∀ branch ∈ branches, Preserves fn fr close branch.2)
    (named : next ≠ "")
    (placed : Placed fr.graph rounds (itemsBranches family next branches)
      (serialsBranches family branches)) (known : word ∈ names branches) :
    ∃ target, (branchRoutes family next branches).lookup word = some (some target) ∧
      ∀ p, Holds scene rounds target p →
        Follows fn fr close rounds next
          (Node.evalBranches fn family (some word) other branches scene) →
        Arrives fn fr close none ⟨p, none⟩ target scene.pages scene.replies := by
  induction branches generalizing family with
  | nil => exact absurd known List.not_mem_nil
  | cons branch rest ih =>
      obtain ⟨key, node⟩ := branch
      obtain ⟨here, later⟩ := placed.append
      by_cases same : word = key
      · subst same
        refine ⟨entry (family 0) next node, by simp [branchRoutes], ?_⟩
        intro p holds follows
        have preserves : Preserves fn fr close node := all (word, node) List.mem_cons_self
        simp only [Node.evalBranches, if_true] at follows
        exact preserves (family 0) next rounds scene p named here holds follows
      · have inRest : word ∈ names rest := by
          simpa [names, same] using known
        obtain ⟨target, found, arrives⟩ := ih
          (fun branch inside => all branch (List.mem_cons_of_mem _ inside)) later inRest
        refine ⟨target, ?_, ?_⟩
        · have differs : (word == key) = false := by simpa using same
          rw [branchRoutes, List.lookup_cons, differs]
          exact found
        · intro p holds follows
          have apart : ¬ some word = some key := by simpa using same
          simp only [Node.evalBranches, apart, if_false] at follows
          exact arrives p holds follows

theorem evalBranches_other {word : Option String} (unknown : ∀ key ∈ names branches, word ≠ some key) :
    Node.evalBranches fn family word other branches scene = other scene := by
  induction branches generalizing family with
  | nil => rfl
  | cons branch rest ih =>
      obtain ⟨key, node⟩ := branch
      have apart : word ≠ some key := unknown key List.mem_cons_self
      simp only [Node.evalBranches, apart, if_false]
      exact ih fun key inside => unknown key (List.mem_cons_of_mem _ inside)

/-! ## What a decision reports -/

theorem Holds.goes {step : Step} (holds : Holds scene rounds id p)
    (silent : step.data.getD [] = []) (target : String) :
    Holds scene rounds target (Progress.moved p step target).unwaited := by
  have same : Fields.overlay p.context (step.data.getD []) = p.context := by
    rw [silent]
    rfl
  refine ⟨holds.running, rfl, ?_, ?_, holds.attempts, holds.rounds, holds.lastError, holds.worded⟩
  · exact (congrArg (Fields.erase replyKey) same).trans holds.context
  · exact (congrArg (readReply none) same).trans holds.kept

/-- A decision that cannot be made gives the pipe up. -/
theorem Leads.of_undecided {e : Raised} {s : Stance} {state : State F}
    (comes : foreseen (computed fn) fr s = foreseenFrom fr id state (handlerReacted id s (.error e)))
    (context : Fields.erase replyKey s.progress.context = scene.context)
    (closes : Follows fn fr close rounds next (scene.cannotDecide id e)) :
    Leads fn fr close s scene.pages scene.replies := by
  cases e with
  | fatal cause taskId => exact .of_givenUp scene comes context (congrArg Result.rested closes)
  | error kind text => exact .of_givenUp scene comes context (congrArg Result.rested closes)

theorem handlerReacted_status {status : String} {message : Option String} {s : Stance}
    (words : Text.isBlankText status = false) :
    handlerReacted id s (.ok (.result (.str status) .null (.ofOption message) .null)) =
      ⟨s.observe ⟨status, none, message, none⟩, [],
        .ok (.leave (reportedStep ⟨status, none, message, none⟩))⟩ := by
  have reads : Outcome.read id (.result (.str status) .null (.ofOption message) .null) =
      .ok ⟨status, none, message, none⟩ := by
    have parts : Outcome.read id (.result (.str status) .null (.ofOption message) .null) =
        Outcome.ofParts id (.str status) .null (.ofOption message) .null := rfl
    rw [parts]
    cases message <;>
      simp [Outcome.ofParts, words, Outcome.readData, Outcome.readMessage, Value.ofOption,
        Outcome.optional, bind, Except.bind]
  simp only [handlerReacted, reads]
  rfl

theorem Leads.of_decided {status target : String} {s : Stance} {selector : Selector F}
    (message : Option String)
    (comes : foreseen (computed fn) fr s = foreseenFrom fr id (.orchestrate routes handler selector)
      (handlerReacted id s (.ok (.result (.str status) .null (.ofOption message) .null))))
    (words : Text.isBlankText status = false) (routed : routes.lookup status = some (some target))
    (running : s.progress.lifecycle = .running)
    (arrives : Arrives fn fr close message
      ⟨(Progress.moved s.progress (reportedStep ⟨status, none, message, none⟩) target).unwaited,
        s.feedback⟩ target scene.pages scene.replies) :
    Leads fn fr close s scene.pages scene.replies := by
  rw [handlerReacted_status words] at comes
  have taken : (State.orchestrate routes handler selector).target?
      (reportedStep ⟨status, none, message, none⟩).event = some target := by
    unfold State.target?
    have event : (reportedStep ⟨status, none, message, none⟩).event = status := rfl
    rw [event]
    exact congrArg Option.join routed
  refine .of_leave comes rfl taken running ?_
  simp only [List.append_nil]
  exact arrives

/-! ## Decisions preserve meaning -/

theorem eq_str_of_toKey {key : Value} (keyed : key.toKey = .ok (.text word)) : key = .str word := by
  unfold Value.toKey Value.toKey? at keyed
  split at keyed
  · cases keyed
    rename_i found
    split at found
    all_goals cases found
    rfl
  · cases keyed

theorem decisionReport_known {key : Value} {names : List String} {hasOtherwise : Bool}
    (keyed : key.toKey = .ok (.text word)) (known : word ∈ names) :
    decisionReport names hasOtherwise key = .ok (.result (.str word) .null .null .null) := by
  have same : key = .str word := eq_str_of_toKey keyed
  subst same
  unfold decisionReport
  rw [keyed]
  simp [bind, Except.bind, Key.asString?, known]

theorem decisionReport_unknown {key : Value} {keyed : Key} {names : List String} {hasOtherwise : Bool}
    (isKey : key.toKey = .ok keyed) (unknown : ∀ name ∈ names, keyed.asString? ≠ some name) :
    decisionReport names hasOtherwise key =
      if hasOtherwise then .ok (plainReport otherwiseEvent)
      else (key.sentence).map fun shown => .result (.str unknownBranchEvent) .null
        (.str ("Unknown branch selected: " ++ shown)) .null := by
  have absent : (keyed.asString?.any names.contains) = false := by
    cases words : keyed.asString? with
    | none => rfl
    | some word =>
        have apart : word ∉ names := fun inside => unknown word inside words
        simpa using apart
  unfold decisionReport
  rw [isKey]
  simp only [bind, Except.bind, absent, Bool.false_eq_true, if_false]
  cases hasOtherwise with
  | true => rfl
  | false => cases key.sentence <;> rfl

theorem decisionReport_error {key : Value} {e : Raised} {names : List String} {hasOtherwise : Bool}
    (refused : key.toKey = .error e) : decisionReport names hasOtherwise key = .error e := by
  unfold decisionReport
  rw [refused]
  rfl

theorem Placed.last {items : List (String × Item F)} {item : Item F} {numbers : List Nat}
    (placed : Placed fr.graph rounds (items ++ [(id, item)]) numbers) {emitted : String}
    {s : State F} (inside : (emitted, s) ∈ (lowerItem [] id item).states) :
    fr.graph.state? emitted = some s := by
  refine placed.laid emitted s ?_
  rw [statesOf_append]
  exact List.mem_append_right _ (List.mem_flatMap.mpr ⟨(id, item), List.mem_singleton.mpr rfl, inside⟩)

theorem undecided_arrives {otherwise : Option (Node F)} {nums : Numbering} {key : Value}
    {selector : Selector F}
    (failed : fr.graph.state? failedId = some (.terminal .failed none))
    (all : ∀ node, otherwise = some node → Preserves fn fr close node) (named : next ≠ "")
    (placed : Placed fr.graph rounds (itemsOption (nums.under 1) next otherwise)
      (serialsOption (nums.under 1) otherwise))
    (holds : Holds scene rounds id p)
    (comes : foreseen (computed fn) fr ⟨p, none⟩ = foreseenFrom fr id
      (.orchestrate (decideRoutes nums next branches otherwise) handler selector)
      (handlerReacted id ⟨p, none⟩
        (if otherwise.isSome then .ok (plainReport otherwiseEvent)
        else (key.sentence).map fun shown => .result (.str unknownBranchEvent) .null
          (.str ("Unknown branch selected: " ++ shown)) .null)))
    (follows : Follows fn fr close rounds next
      (Node.evalOtherwise fn (nums.under 1) id key otherwise scene)) :
    Leads fn fr close ⟨p, none⟩ scene.pages scene.replies := by
  cases otherwise with
  | some node =>
      have routed : (decideRoutes nums next branches (some node)).lookup otherwiseEvent =
          some (some (entry (nums.under 1) next node)) := by
        unfold decideRoutes
        rw [lookup_put_other (by decide)]
        exact lookup_put_same _ _ _
      refine .of_decided none comes rfl routed holds.running ?_
      exact all node rfl (nums.under 1) next rounds scene _ named placed (holds.goes rfl _) follows
  | none =>
      simp only [Option.isSome_none, Bool.false_eq_true, if_false] at comes
      cases shown : key.sentence with
      | error e =>
          simp only [shown, Except.map] at comes
          simp only [Node.evalOtherwise, shown] at follows
          exact .of_undecided comes holds.context follows
      | ok text =>
          simp only [shown, Except.map] at comes
          simp only [Node.evalOtherwise, shown] at follows
          have routed : (decideRoutes nums next branches none).lookup unknownBranchEvent =
              some (some failedId) := lookup_put_same _ _ _
          refine .of_decided (some ("Unknown branch selected: " ++ text)) comes rfl routed
            holds.running (.ended failed ?_)
          have words : "Unknown branch selected: " ++ text ≠ "" := by
            intro empty
            exact absurd (String.append_eq_empty_iff.mp empty).1 (by decide)
          have told : firstWords [none, some ("Unknown branch selected: " ++ text), p.lastError]
              s!"Terminal state: {EndStatus.failed.name}" = "Unknown branch selected: " ++ text := by
            simp [firstWords, firstNonempty, words]
          cases follows
          exact ⟨rfl, congrArg some told, holds.context, fun _ => rfl, .inl rfl, fun _ => .inr rfl⟩

theorem decide_preserves {select : F} {otherwise : Option (Node F)} {name : Option String}
    (failed : fr.graph.state? failedId = some (.terminal .failed none)) (blind : Blind fn select)
    (own : ∀ branch ∈ branches, Text.isBlankText branch.1 = false ∧
      branch.1 ≠ otherwiseEvent ∧ branch.1 ≠ unknownBranchEvent)
    (all : ∀ branch ∈ branches, Preserves fn fr close branch.2)
    (others : ∀ node, otherwise = some node → Preserves fn fr close node) :
    Preserves fn fr close (.decide select branches otherwise name) := by
  intro nums next rounds scene p named placed holds follows
  have found := placed.last (List.mem_singleton.mpr rfl)
  have entered : entry nums next (.decide select branches otherwise name) =
      numbered (Node.nameOr "decide" name) (nums []) := rfl
  rw [entered] at holds ⊢
  refine .onward found rfl rfl ?_
  have comes := foreseen_of_question (computed fn) ⟨p, none⟩
    (standsAt_here holds.here (numbered_ne_empty _ _) found) rfl holds.running rfl
  have answered : recite (computed fn)
      (.handler (.decide select (names branches) otherwise.isSome)
        (Stance.handlerInput ⟨p, none⟩ fr (numbered (Node.nameOr "decide" name) (nums [])) 1)) =
      (fn select p.context none).bind (decisionReport (names branches) otherwise.isSome) := rfl
  rw [blind, holds.context] at answered
  obtain ⟨before, -⟩ := placed.append
  obtain ⟨inBranches, inOther⟩ := before.append
  simp only [Node.eval] at follows
  cases selected : fn select scene.context none with
  | error e =>
      rw [selected] at answered follows
      rw [answered] at comes
      exact .of_undecided comes holds.context follows
  | ok key =>
      rw [selected] at answered follows
      simp only [Except.bind] at answered
      cases keyed : key.toKey with
      | error e =>
          rw [decisionReport_error keyed] at answered
          rw [answered] at comes
          simp only [keyed] at follows
          exact .of_undecided comes holds.context follows
      | ok word =>
          simp only [keyed] at follows
          by_cases known : ∃ name ∈ names branches, word.asString? = some name
          · obtain ⟨name, inside, isName⟩ := known
            have text : word = .text name := by
              cases word <;> cases isName
              rfl
            subst text
            rw [decisionReport_known keyed inside] at answered
            rw [answered] at comes
            obtain ⟨branch, isBranch, sameName⟩ := List.mem_map.mp inside
            obtain ⟨words, notOther, notUnknown⟩ := own branch isBranch
            rw [sameName] at words notOther notUnknown
            obtain ⟨target, leads, arrives⟩ :=
              branch_arrives scene all named inBranches inside
            have routed : (decideRoutes nums next branches otherwise).lookup name =
                some (some target) := by
              unfold decideRoutes
              rw [lookup_put_other notUnknown]
              cases otherwise with
              | none => exact leads
              | some node =>
                  simp only [otherRoutes]
                  rw [lookup_put_other notOther]
                  exact leads
            refine .of_decided none comes words routed holds.running ?_
            exact arrives _ (holds.goes rfl target) follows
          · have unknown : ∀ name ∈ names branches, word.asString? ≠ some name :=
              fun name inside same => known ⟨name, inside, same⟩
            rw [decisionReport_unknown keyed unknown] at answered
            rw [answered] at comes
            rw [evalBranches_other unknown] at follows
            exact undecided_arrives failed others named inOther holds comes follows

end

end Pipe

end Tickwork

import Tickwork.Proofs.Pipe.Formed

/-!
# The graph of a pipe

Every tree of proper nodes compiles, and the graph breaks no rule. `Compiled` says what it holds: the states of
the tree and the two ends.
-/

set_option autoImplicit false

namespace Tickwork

variable {F : Type}

namespace Pipe

/-- A state that breaks no rule and is never tried twice. -/
structure Clean (g : Graph F) (id : String) (s : State F) : Prop where
  fine : g.stateViolations id s = []
  untried : ∀ handler routes retry, s = .action handler routes retry → retry = none
  proper : ∀ v, s ≠ .unsupported v

section

variable {g : Graph F} {id path : String} {item : Item F}

/-- The ids that a route of the graph may lead to. -/
def Known (g : Graph F) (id : String) : Prop := id ≠ "" ∧ g.hasState id = true

def triedOnce : State F → Bool
  | .action _ _ _ | .unsupported _ => false
  | _ => true

theorem Clean.of_rule {s : State F} (fine : g.stateViolations id s = [])
    (kind : triedOnce s = true) : Clean g id s := by
  refine ⟨fine, ?_, ?_⟩
  · rintro handler routes retry rfl
    cases kind
  · rintro v rfl
    cases kind

theorem Clean.of_action {handler : Handler F} {routes : ActionRoutes}
    (fine : g.stateViolations id (.action handler routes none) = []) :
    Clean g id (.action handler routes none) := by
  refine ⟨fine, ?_, nofun⟩
  rintro handler' routes' retry ⟨⟩
  rfl

theorem routesViolations_known {routes : Routes} (some : routes ≠ [])
    (leads : ∀ route ∈ routes, route.1 ≠ "" ∧ ∃ target, route.2 = .some target ∧ Known g target) :
    g.routesViolations path routes = [] := by
  unfold Graph.routesViolations
  have full : routes.isEmpty = false := by simpa using some
  rw [if_neg (by simp [full]), List.flatMap_eq_nil_iff]
  intro route inside
  obtain ⟨named, target, leads, known⟩ := leads route inside
  unfold Graph.routeViolations
  rw [if_neg named, leads, List.nil_append, Option.getD_some]
  split
  · exact absurd rfl known.1
  · rw [if_pos known.2]

theorem actionRoutes_known {next : String} {pause : Option String} (fails : Known g failedId)
    (goes : Known g next) (waits : ∀ id, pause = some id → Known g id) :
    g.routesViolations path (ActionRoutes.toRoutes ⟨some next, some failedId, pause⟩) = [] := by
  refine routesViolations_known (by simp [ActionRoutes.toRoutes]) ?_
  intro route inside
  simp only [ActionRoutes.toRoutes, List.cons_append, List.nil_append, List.mem_cons] at inside
  rcases inside with rfl | rfl | last
  · exact ⟨by simp, next, rfl, goes⟩
  · exact ⟨by simp, failedId, rfl, fails⟩
  · cases pause with
    | none => cases last
    | some id =>
        rw [List.mem_singleton.mp last]
        exact ⟨by simp, id, rfl, waits id rfl⟩

theorem Formed.emits {has : String → Prop} (formed : Formed has item) (id : String) :
    ∃ s rest, (lowerItem [] id item).states = (id, s) :: rest := by
  cases formed <;> exact ⟨_, _, rfl⟩

theorem Formed.whole (formed : Formed (Known g) item) (id : String) :
    (lowerItem [] id item).missing = [] := by
  cases formed with
  | step goes => rw [lowered_step goes.1]
  | ask goes => rw [lowered_ask goes.1]
  | decide some leads => rfl
  | loop again goes used count => rw [lowered_loop goes.1 used.1]
  | write goes => rw [lowered_write goes.1]
  | finish => rfl

theorem Formed.clean (formed : Formed (Known g) item) (fails : Known g failedId)
    (waits : ∀ entry ∈ (lowerItem [] id item).states, Known g entry.1)
    (notStart : feedbackId id ≠ g.start) :
    ∀ entry ∈ (lowerItem [] id item).states, Clean g entry.1 entry.2 := by
  intro entry inside
  cases formed with
  | @step run next goes =>
      rw [lowered_step goes.1] at inside
      rw [List.mem_singleton.mp inside]
      refine .of_action ?_
      simp only [Graph.stateViolations, Graph.handlerViolations, List.append_nil]
      exact actionRoutes_known fails goes nofun
  | @ask prompt reader next goes =>
      rw [lowered_ask goes.1] at inside waits
      simp only [List.mem_cons, List.not_mem_nil, or_false] at inside waits
      rcases inside with rfl | rfl
      · refine .of_action ?_
        simp only [Graph.stateViolations, Graph.handlerViolations, List.append_nil]
        refine actionRoutes_known fails goes ?_
        intro id' same
        cases same
        exact waits _ (.inr rfl)
      · refine .of_rule ?_ rfl
        simp only [Graph.stateViolations, Graph.feedbackViolations, if_true]
        rw [if_neg notStart]
  | decide some leads =>
      rw [List.mem_singleton.mp inside]
      refine .of_rule ?_ rfl
      simp [Graph.stateViolations, routesViolations_known some leads, Graph.orchestrateViolations,
        Graph.hasHandler, Graph.hasSelector, Graph.handlerViolations]
  | @loop body next exhausted n stop again goes used count =>
      rw [lowered_loop goes.1 used.1] at inside
      rw [List.mem_singleton.mp inside]
      refine .of_rule ?_ rfl
      have routed : g.routesViolations s!"states.{id}"
          (LoopRoutes.toRoutes ⟨some body, some next, some exhausted⟩) = [] := by
        refine routesViolations_known (by simp [LoopRoutes.toRoutes]) ?_
        intro route inside
        simp only [LoopRoutes.toRoutes, List.mem_cons, List.not_mem_nil, or_false] at inside
        rcases inside with rfl | rfl | rfl
        · exact ⟨by simp, body, rfl, again⟩
        · exact ⟨by simp, next, rfl, goes⟩
        · exact ⟨by simp, exhausted, rfl, used⟩
      have counts : ¬ n < 0 := by omega
      simp only [Graph.stateViolations, routed, Graph.loopViolations, Graph.boundViolations,
        Option.map_some, again.2, Option.getD_some, if_true, if_neg counts, List.append_nil]
  | @write render next goes =>
      rw [lowered_write goes.1] at inside
      rw [List.mem_singleton.mp inside]
      refine .of_action ?_
      simp only [Graph.stateViolations, Graph.handlerViolations, List.append_nil]
      exact actionRoutes_known fails goes nofun
  | finish =>
      rw [List.mem_singleton.mp inside]
      exact .of_rule rfl rfl

end

/-! ## Definition and lowering -/

theorem put_fresh {α : Type} {id : String} {a : α} {entries : List (String × α)}
    (fresh : id ∉ names entries) : Ordered.put id a entries = entries ++ [(id, a)] := by
  induction entries with
  | nil => rfl
  | cons head rest ih =>
      obtain ⟨k, v⟩ := head
      simp only [names, List.map_cons, List.mem_cons, not_or] at fresh
      have later := ih fresh.2
      unfold Ordered.put
      rw [if_neg (Ne.symm fresh.1), later]
      rfl

theorem putAll_fresh {new old : List (String × Item F)} (nodup : (names (old ++ new)).Nodup) :
    putAll new old = old ++ new := by
  induction new generalizing old with
  | nil => exact (List.append_nil old).symm
  | cons item rest ih =>
      obtain ⟨id, item⟩ := item
      have fresh : id ∉ names old := by
        intro inside
        rw [names_append] at nodup
        exact (List.nodup_append.mp nodup).2.2 id inside id List.mem_cons_self rfl
      have shifted : old ++ (id, item) :: rest = (old ++ [(id, item)]) ++ rest := by simp
      rw [shifted] at nodup ⊢
      rw [← ih nodup, ← put_fresh fresh]
      rfl

theorem addStates_fresh {id : String} {states added : List (String × State F)}
    (nodup : (names (states ++ added)).Nodup) : addStates id states added = .ok (states ++ added) := by
  induction added generalizing states with
  | nil => simp only [addStates, List.append_nil]
  | cons head rest ih =>
      obtain ⟨emitted, s⟩ := head
      have absent : ¬ (states.lookup emitted).isSome = true := by
        intro taken
        have inside := lookup_isSome_iff.mp taken
        rw [names_append] at nodup
        exact (List.nodup_append.mp nodup).2.2 emitted inside emitted List.mem_cons_self rfl
      have shifted : states ++ (emitted, s) :: rest = (states ++ [(emitted, s)]) ++ rest := by simp
      rw [shifted] at nodup ⊢
      unfold addStates
      rw [if_neg absent]
      exact ih nodup

/-- Items that miss nothing and whose states have ids of their own are lowered one after the other. -/
theorem lowerItems_fresh {items : List (String × Item F)} {states : List (String × State F)}
    (nodup : (names (states ++ statesOf items)).Nodup)
    (whole : ∀ item ∈ items, (lowerItem [] item.1 item.2).missing = []) :
    lowerItems [] ⟨[], states⟩ items = .ok ⟨[], states ++ statesOf items⟩ := by
  induction items generalizing states with
  | nil => simp only [lowerItems, statesOf, List.flatMap_nil, List.append_nil]
  | cons head rest ih =>
      obtain ⟨id, item⟩ := head
      have split : statesOf ((id, item) :: rest) = (lowerItem [] id item).states ++ statesOf rest :=
        List.flatMap_cons
      rw [split, ← List.append_assoc] at nodup ⊢
      have front : (names (states ++ (lowerItem [] id item).states)).Nodup := by
        rw [names_append] at nodup
        exact (List.nodup_append.mp nodup).1
      have none_missing : (lowerItem [] id item).missing = [] := whole (id, item) List.mem_cons_self
      have later := ih nodup fun item inside => whole item (List.mem_cons_of_mem _ inside)
      unfold lowerItems
      simp only [bind, Except.bind, addStates_fresh front, none_missing, List.append_nil]
      exact later

theorem names_sublist {items : List (String × Item F)}
    (lowers : ∀ item ∈ items, ∃ s rest, (lowerItem [] item.1 item.2).states = (item.1, s) :: rest) :
    (names items).Sublist (names (statesOf items)) := by
  induction items with
  | nil => exact List.Sublist.slnil
  | cons head rest ih =>
      obtain ⟨id, item⟩ := head
      obtain ⟨s, more, emitted⟩ := lowers (id, item) List.mem_cons_self
      have later := ih fun item inside => lowers item (List.mem_cons_of_mem _ inside)
      have split : statesOf ((id, item) :: rest) = (id, s) :: (more ++ statesOf rest) := by
        unfold statesOf
        rw [List.flatMap_cons, emitted]
        rfl
      rw [split]
      simp only [names, List.map_cons, List.map_append]
      exact (later.trans (List.sublist_append_right _ _)).cons_cons id

theorem mem_itemsFlow {nodes : List (Node F)} {family : Nat → Numbering} {next : String}
    {item : String × Item F} (inside : item ∈ itemsFlow family next nodes) :
    ∃ node ∈ nodes, ∃ nums next, item ∈ items nums next node := by
  induction nodes generalizing family with
  | nil => cases inside
  | cons node rest ih =>
      rcases List.mem_append.mp inside with later | here
      · obtain ⟨node', among, below⟩ := ih later
        exact ⟨node', List.mem_cons_of_mem _ among, below⟩
      · exact ⟨node, List.mem_cons_self, _, _, here⟩

theorem mem_itemsBranches {branches : List (String × Node F)} {family : Nat → Numbering} {next : String}
    {item : String × Item F} (inside : item ∈ itemsBranches family next branches) :
    ∃ branch ∈ branches, ∃ nums, item ∈ items nums next branch.2 := by
  induction branches generalizing family with
  | nil => cases inside
  | cons branch rest ih =>
      obtain ⟨key, node⟩ := branch
      rcases List.mem_append.mp inside with here | later
      · exact ⟨(key, node), List.mem_cons_self, _, here⟩
      · obtain ⟨branch, among, below⟩ := ih later
        exact ⟨branch, List.mem_cons_of_mem _ among, below⟩

/-- Whatever a node becomes, the first of its states has the id of the item. -/
theorem Recognized.emits {node : Node F} (recognized : Recognized node) :
    ∀ (nums : Numbering) (next : String), ∀ item ∈ items nums next node,
      ∃ s rest, (lowerItem [] item.1 item.2).states = (item.1, s) :: rest := by
  induction recognized with
  | flow all ih =>
      intro nums next item inside
      obtain ⟨node, among, nums', next', below⟩ := mem_itemsFlow inside
      exact ih node among nums' next' item below
  | @decide select branches otherwise name all other ihAll ihOther =>
      intro nums next item inside
      simp only [items, List.mem_append, List.mem_singleton] at inside
      rcases inside with (inside | inside) | rfl
      · obtain ⟨branch, among, nums', below⟩ := mem_itemsBranches inside
        exact ihAll branch among nums' next item below
      · cases otherwise with
        | none => cases inside
        | some node => exact ihOther node rfl _ next item inside
      · exact ⟨_, _, rfl⟩
  | @loop body stop bound onExhausted name inner other ihInner ihOther =>
      intro nums next item inside
      simp only [items, List.mem_append, List.mem_singleton] at inside
      rcases inside with (inside | inside) | rfl
      · exact ihInner _ _ item inside
      · cases onExhausted with
        | none =>
            rw [List.mem_singleton.mp inside]
            exact ⟨_, _, rfl⟩
        | some node => exact ihOther node rfl _ next item inside
      · exact ⟨_, _, rfl⟩
  | step | ask | write | finish =>
      intro nums next item inside
      rw [List.mem_singleton.mp inside]
      exact ⟨_, _, rfl⟩

/-! ## The compiled graph -/

/-- The two ends that every pipe has. -/
def ends : List (String × Item F) :=
  [(doneId, .primitive (.finish .done none)), (failedId, .primitive (.finish .failed none))]

/-- The graph that a tree compiles to. -/
def graphOf (id : String) (initial : Fields) (node : Node F) : Graph F where
  id := id
  start := entry node.numbering doneId node
  context := initial
  states := statesOf (ends ++ items node.numbering doneId node)
  guards := []
  handlers := []

section

variable {node : Node F} {id : String} {initial : Fields}

theorem states_graphOf : (graphOf id initial node).states =
    [(doneId, .terminal .done none), (failedId, .terminal .failed none)] ++
      statesOf (items node.numbering doneId node) :=
  statesOf_append ends (items node.numbering doneId node)

theorem Recognized.states_nodup (recognized : Recognized node) (id : String) (initial : Fields) :
    (names (graphOf id initial node).states).Nodup := by
  have owns := recognized.ownIds node.numbering doneId recognized.numbering_nodup
  have ends_apart : doneId ≠ failedId := by decide
  rw [states_graphOf, names_append]
  refine List.nodup_append.mpr ⟨by simp [names, ends_apart], owns.nodup, ?_⟩
  intro ending inEnds emitted inside same
  subst same
  obtain ⟨n, -, own⟩ := owns.belong ending inside
  simp only [names, List.map_cons, List.map_nil, List.mem_cons, List.not_mem_nil, or_false] at inEnds
  rcases inEnds with rfl | rfl
  · exact own.ne_done rfl
  · exact own.ne_failed rfl

theorem Built.states_nodup (built : Built node) (id : String) (initial : Fields) :
    (names (graphOf id initial node).states).Nodup :=
  built.recognized.states_nodup id initial

theorem Built.named (built : Built node) :
    ∀ emitted ∈ names (graphOf id initial node).states, emitted ≠ "" := by
  intro emitted inside
  rw [states_graphOf, names_append] at inside
  rcases List.mem_append.mp inside with inEnds | inItems
  · simp only [names, List.map_cons, List.map_nil, List.mem_cons, List.not_mem_nil, or_false] at inEnds
    rcases inEnds with rfl | rfl <;> decide
  · obtain ⟨n, -, own⟩ := (built.recognized.ownIds node.numbering doneId
      built.numbering_nodup).belong emitted inItems
    exact own.ne_empty

theorem Built.known (built : Built node) {emitted : String}
    (inside : emitted ∈ names (graphOf id initial node).states) :
    Known (graphOf id initial node) emitted :=
  ⟨built.named emitted inside, lookup_isSome_iff.mpr inside⟩

theorem Recognized.items_sublist (recognized : Recognized node) (nums : Numbering) (next : String) :
    (names (items nums next node)).Sublist (names (statesOf (items nums next node))) :=
  names_sublist (recognized.emits nums next)

theorem Built.formed (built : Built node) (id : String) (initial : Fields) :
    ∀ item ∈ ends ++ items node.numbering doneId node,
      Formed (Known (graphOf id initial node)) item.2 := by
  have known : ∀ emitted ∈ names (graphOf id initial node).states,
      Known (graphOf id initial node) emitted := fun _ inside => built.known inside
  have done : doneId ∈ names (graphOf id initial node).states := List.mem_cons_self
  have failed : failedId ∈ names (graphOf id initial node).states :=
    List.mem_cons_of_mem _ List.mem_cons_self
  intro item inside
  rcases List.mem_append.mp inside with inEnds | inItems
  · simp only [ends, List.mem_cons, List.not_mem_nil, or_false] at inEnds
    rcases inEnds with rfl | rfl <;> exact .finish
  · refine built.wellFormed (known _ failed) node.numbering doneId (known _ done) ?_ item inItems
    intro emitted own
    refine known emitted ?_
    rw [states_graphOf, names_append]
    exact List.mem_append_right _ ((built.recognized.items_sublist _ _).subset own)

/-- Without nodes of other kinds a pipe has a definition, whether or not it breaks a rule. -/
theorem Recognized.toDefinition (recognized : Recognized node) :
    node.toDefinition id initial = .ok
      { id, start := entry node.numbering doneId node,
        items := ends ++ items node.numbering doneId node, context := initial, guards := [],
        handlers := [] } := by
  have laid := recognized.laidOut.fresh ⟨ends, 0⟩ doneId
  have apart : (names (ends ++ items node.numbering doneId node)).Nodup := by
    have nodup := recognized.states_nodup id initial
    rw [states_graphOf, names_append] at nodup
    rw [names_append]
    exact nodup.sublist ((List.Sublist.refl _).append (recognized.items_sublist _ _))
  simp only [Nat.zero_add] at laid
  have numbered : node.numbers 1 node.takes = node.numbering := rfl
  rw [numbered, putAll_fresh apart] at laid
  have started : Draft.add (Draft.add ⟨[], 0⟩ doneId (.primitive (.finish .done none))) failedId
      (.primitive (.finish .failed none)) = (⟨ends, 0⟩ : Draft F) := rfl
  unfold Node.toDefinition
  simp only [started, bind, Except.bind, laid]

theorem Built.toDefinition (built : Built node) :
    node.toDefinition id initial = .ok
      { id, start := entry node.numbering doneId node,
        items := ends ++ items node.numbering doneId node, context := initial, guards := [],
        handlers := [] } :=
  built.recognized.toDefinition

theorem Built.start_no_pause (built : Built node) (id' : String) :
    feedbackId id' ≠ entry node.numbering doneId node := by
  intro same
  have ends := ending_feedbackId id'
  rw [same] at ends
  rcases built.entered node.numbering doneId with through | ⟨-, label, n, form⟩
  · rw [through] at ends
    cases ends
  · exact numbered_ending_ne label n ends rfl form.symm

theorem Built.clean (built : Built node) {emitted : String} {s : State F}
    (inside : (emitted, s) ∈ (graphOf id initial node).states) :
    Clean (graphOf id initial node) emitted s := by
  obtain ⟨⟨item, body⟩, inItems, lowered⟩ := List.mem_flatMap.mp inside
  have formed := built.formed id initial (item, body) inItems
  have failed : failedId ∈ names (graphOf id initial node).states :=
    List.mem_cons_of_mem _ List.mem_cons_self
  refine formed.clean (built.known failed) ?_ (built.start_no_pause item) (emitted, s) lowered
  intro entry own
  exact built.known (List.mem_map_of_mem (List.mem_flatMap.mpr ⟨(item, body), inItems, own⟩))

theorem Built.violations_nil (built : Built node) :
    (graphOf id initial node).violations = [] := by
  have start : (graphOf id initial node).hasState (graphOf id initial node).start = true := by
    refine lookup_isSome_iff.mpr ?_
    rcases built.entered node.numbering doneId with through | ⟨own, -⟩
    · have here : (graphOf id initial node).start = doneId := through
      rw [here]
      exact List.mem_cons_self
    · rw [states_graphOf, names_append]
      exact List.mem_append_right _ ((built.recognized.items_sublist _ _).subset own)
  have some_states : (graphOf id initial node).states.isEmpty = false := by
    rw [states_graphOf]
    rfl
  unfold Graph.violations
  rw [if_neg (by simp [some_states]), if_pos start, List.nil_append, List.nil_append,
    List.flatMap_eq_nil_iff]
  intro entry inside
  exact (built.clean inside).fine

theorem Built.sound (built : Built node) : (graphOf id initial node).Sound :=
  ⟨built.violations_nil, built.states_nodup id initial, built.named⟩

theorem Built.state? (built : Built node) {emitted : String} {s : State F}
    (inside : (emitted, s) ∈ (graphOf id initial node).states) :
    (graphOf id initial node).state? emitted = some s := by
  have found := Graph.lookup_of_mem (built.states_nodup id initial) inside
  have proper := (built.clean inside).proper
  unfold Graph.state?
  rw [found]
  split
  · rename_i absent
    cases absent
    exact absurd rfl (proper .null)
  · rfl

theorem Built.untried (built : Built node) {emitted : String} {handler : Handler F}
    {routes : ActionRoutes} {retry : Option RetryPolicy}
    (found : (graphOf id initial node).state? emitted = some (.action handler routes retry)) :
    retry = none :=
  (built.clean (Graph.mem_of_state? found)).untried handler routes retry rfl

theorem forM_ok {α : Type} {entries : List α} {check : α → Except Fault Unit}
    (fine : ∀ entry ∈ entries, check entry = .ok ()) : entries.forM check = .ok () := by
  induction entries with
  | nil => rfl
  | cons entry rest ih =>
      have first := fine entry List.mem_cons_self
      have later := ih fun entry inside => fine entry (List.mem_cons_of_mem _ inside)
      unfold List.forM
      rw [first]
      exact later

/-- Every tree of proper nodes compiles. -/
theorem Built.compile (built : Built node) :
    node.compile id initial = .ok (graphOf id initial node) := by
  have nodup : (names ([] ++ statesOf (ends ++ items node.numbering doneId node))).Nodup :=
    built.states_nodup id initial
  have lowered := lowerItems_fresh nodup
    fun item inside => (built.formed id initial item inside).whole item.1
  have ordered : (graphOf id initial node).ensureOrdered = .ok () := by
    refine forM_ok ?_
    intro entry inside
    obtain ⟨emitted, s⟩ := entry
    have clean := built.clean inside
    cases s with
    | action handler routes retry =>
        rw [clean.untried handler routes retry rfl]
    | _ => rfl
  have examined : (graphOf id initial node).examined = .ok [] := by
    unfold Graph.examined
    rw [ordered, built.violations_nil]
    rfl
  have same : Definition.graphOf
      { id, start := entry node.numbering doneId node,
        items := ends ++ items node.numbering doneId node, context := initial, guards := [],
        handlers := [] } (statesOf (ends ++ items node.numbering doneId node)) =
      graphOf id initial node := rfl
  simp only [List.nil_append] at lowered
  unfold Node.compile
  rw [built.toDefinition]
  unfold Definition.compile
  simp only [bind, Except.bind, lowered, same, examined]
  rfl

/-! ## Pipes with a meaning -/

variable {fn : Functions F}

theorem Supported.sound (supported : Supported fn node) : (graphOf id initial node).Sound :=
  supported.built.sound

theorem Supported.untried (supported : Supported fn node) {emitted : String} {handler : Handler F}
    {routes : ActionRoutes} {retry : Option RetryPolicy}
    (found : (graphOf id initial node).state? emitted = some (.action handler routes retry)) :
    retry = none :=
  supported.built.untried found

theorem Supported.compile (supported : Supported fn node) :
    node.compile id initial = .ok (graphOf id initial node) :=
  supported.built.compile

end

end Pipe

end Tickwork

import Tickwork.Arrangement.Entries
import Tickwork.Proofs.Pipe.Compiled
import Tickwork.Proofs.Pipe.Decisions

/-!
# The pipes that compile

A pipe compiles exactly when it is a tree of proper nodes. A node of another kind stops the compiler, and the
rules of the graph refuse a branch without a name and a bound that is no count. Main statement:
`compile_iff`.
-/

set_option autoImplicit false

namespace Tickwork

variable {F : Type}

namespace Pipe

open Arrangement (bind_eq_ok)

/-! ## The compiler meets known kinds only -/

mutual

/-- Where the compiler defines a node, the node and all below it are of a known kind. -/
theorem recognized_of_define : ∀ (node : Node F) {d : Draft F} {next : String} {given : Option String}
    {result : String × Draft F}, define d next given node = .ok result → Recognized node
  | .flow nodes, d, next, given, result, defined => by
      cases nodes with
      | nil => exact .flow nofun
      | cons node rest =>
          simp only [define, List.isEmpty_cons, Bool.false_eq_true, if_false] at defined
          obtain ⟨_, -, laid⟩ := bind_eq_ok.mp defined
          exact .flow (recognized_of_defineFlow (node :: rest) laid)
  | .step _ _, _, _, _, _, _ => .step
  | .ask _ _ _, _, _, _, _, _ => .ask
  | .decide select branches otherwise name, d, next, given, result, defined => by
      simp only [define] at defined
      obtain ⟨_, first, rest⟩ := bind_eq_ok.mp defined
      obtain ⟨_, second, -⟩ := bind_eq_ok.mp rest
      exact .decide (recognized_of_defineBranches branches first)
        (recognized_of_defineOtherwise otherwise second)
  | .loop body stop bound onExhausted name, d, next, given, result, defined => by
      simp only [define] at defined
      obtain ⟨_, first, rest⟩ := bind_eq_ok.mp defined
      obtain ⟨_, second, -⟩ := bind_eq_ok.mp rest
      exact .loop (recognized_of_define body first) (recognized_of_defineExhausted onExhausted second)
  | .write _ _, _, _, _, _, _ => .write
  | .finish _ _, _, _, _, _, _ => .finish
  | .unsupported v, d, next, given, result, defined => by
      simp only [define] at defined
      cases defined

theorem recognized_of_defineFlow : ∀ (nodes : List (Node F)) {d : Draft F} {next : String}
    {ids : List (Option String)} {result : String × Draft F}, defineFlow d next nodes ids = .ok result →
    ∀ node ∈ nodes, Recognized node
  | [], _, _, _, _, _ => nofun
  | node :: nodes, d, next, ids, result, defined => by
      simp only [defineFlow] at defined
      obtain ⟨_, later, first⟩ := bind_eq_ok.mp defined
      exact List.forall_mem_cons.mpr ⟨recognized_of_define node first, recognized_of_defineFlow nodes later⟩

theorem recognized_of_defineBranches : ∀ (branches : List (String × Node F)) {d : Draft F} {next : String}
    {result : Routes × Draft F}, defineBranches d next branches = .ok result →
    ∀ branch ∈ branches, Recognized branch.2
  | [], _, _, _, _ => nofun
  | (key, node) :: rest, d, next, result, defined => by
      simp only [defineBranches] at defined
      obtain ⟨_, first, after⟩ := bind_eq_ok.mp defined
      obtain ⟨_, later, -⟩ := bind_eq_ok.mp after
      exact List.forall_mem_cons.mpr ⟨recognized_of_define node first, recognized_of_defineBranches rest later⟩

theorem recognized_of_defineOtherwise : ∀ (otherwise : Option (Node F)) {d : Draft F} {next : String}
    {routes : Routes} {result : Routes × Draft F}, defineOtherwise d next routes otherwise = .ok result →
    ∀ node, otherwise = some node → Recognized node
  | none, _, _, _, _, _ => nofun
  | some node, d, next, routes, result, defined => by
      simp only [defineOtherwise] at defined
      obtain ⟨_, only, -⟩ := bind_eq_ok.mp defined
      rintro _ ⟨⟩
      exact recognized_of_define node only

theorem recognized_of_defineExhausted : ∀ (onExhausted : Option (Node F)) {d : Draft F} {id next : String}
    {result : String × Draft F}, defineExhausted d id next onExhausted = .ok result →
    ∀ node, onExhausted = some node → Recognized node
  | none, _, _, _, _, _ => nofun
  | some node, d, id, next, result, defined => by
      simp only [defineExhausted] at defined
      rintro _ ⟨⟩
      exact recognized_of_define node defined

end

/-! ## What the rules of the graph ask of a tree -/

/-- An item whose routes have names, if it is a state with routes, and whose bound is a count, if it is a
loop. -/
def Regular : Item F → Prop
  | .state (.orchestrate routes _ _) => ∀ route ∈ routes, route.1 ≠ ""
  | .primitive (.loop _ bound _ _) => ∃ n, bound = .int n ∧ 0 ≤ n
  | _ => True

theorem routesViolations_named {g : Graph F} {path : String} {routes : Routes}
    (fine : g.routesViolations path routes = []) : ∀ route ∈ routes, route.1 ≠ "" := by
  intro route inside empty
  unfold Graph.routesViolations at fine
  have some : routes.isEmpty = false := by
    simpa using List.ne_nil_of_mem inside
  rw [if_neg (by simp [some]), List.flatMap_eq_nil_iff] at fine
  have named := (List.append_eq_nil_iff.mp (fine route inside)).1
  rw [if_pos empty] at named
  cases named

/-- A definition that compiles has regular items. -/
theorem regular_of_compile {d : Definition F} {g : Graph F} (compiled : d.compile = .ok g)
    {item : String × Item F} (inside : item ∈ d.items) : Regular item.2 := by
  have valid := (d.compile_ok compiled).1
  obtain ⟨id, item⟩ := item
  cases item with
  | state s =>
      cases s with
      | orchestrate routes handler selector =>
          have found : g.state? id = some (.orchestrate routes handler selector) :=
            d.state?_of_compile compiled inside nofun List.mem_cons_self
          have fine := Graph.stateViolations_nil valid (Graph.mem_of_state? found)
          exact routesViolations_named (List.append_eq_nil_iff.mp fine).1
      | _ => trivial
  | primitive p =>
      cases p with
      | loop body bound on stop =>
          have found : g.state? id = some (.loop body bound
              ⟨body, (requiredRoute id on "done").2, (requiredRoute id on "exhausted").2⟩ stop) :=
            d.state?_of_compile compiled inside nofun List.mem_cons_self
          exact Graph.bound_sound valid found
      | _ => trivial

theorem itemsFlow_contains {nodes : List (Node F)} {node : Node F} (inside : node ∈ nodes)
    (family : Nat → Numbering) (next : String) :
    ∃ nums next', items nums next' node ⊆ itemsFlow family next nodes := by
  induction nodes generalizing family with
  | nil => cases inside
  | cons head rest ih =>
      rcases List.mem_cons.mp inside with rfl | later
      · exact ⟨_, _, List.subset_append_right _ _⟩
      · obtain ⟨nums, next', contained⟩ := ih later fun child => family (child + 1)
        exact ⟨nums, next', List.Subset.trans contained (List.subset_append_left _ _)⟩

theorem itemsBranches_contains {branches : List (String × Node F)} {branch : String × Node F}
    (inside : branch ∈ branches) (family : Nat → Numbering) (next : String) :
    ∃ nums, items nums next branch.2 ⊆ itemsBranches family next branches := by
  induction branches generalizing family with
  | nil => cases inside
  | cons head rest ih =>
      obtain ⟨key, node⟩ := head
      rcases List.mem_cons.mp inside with rfl | later
      · exact ⟨_, List.subset_append_left _ _⟩
      · obtain ⟨nums, contained⟩ := ih later fun child => family (child + 1)
        exact ⟨nums, List.Subset.trans contained (List.subset_append_right _ _)⟩

theorem names_branchRoutes (family : Nat → Numbering) (next : String) (branches : List (String × Node F)) :
    names (branchRoutes family next branches) = names branches := by
  induction branches generalizing family with
  | nil => rfl
  | cons branch rest ih => exact congrArg (branch.1 :: ·) (ih _)

theorem names_put_of_mem {routes : Routes} {name : String} (inside : name ∈ names routes) (event : String)
    (target : Target) : name ∈ names (Ordered.put event target routes) := by
  rw [← lookup_isSome_iff] at inside ⊢
  by_cases same : name = event
  · rw [same, lookup_put_same]
    rfl
  · rw [lookup_put_other same]
    exact inside

/-- The routes of a decision have the names of its branches, and more. -/
theorem names_decideRoutes (nums : Numbering) (next : String) {key : String}
    {branches : List (String × Node F)} (otherwise : Option (Node F)) (declared : key ∈ names branches) :
    key ∈ names (decideRoutes nums next branches otherwise) := by
  have routed : key ∈ names (branchRoutes (nums.under 0).under next branches) := by
    rwa [names_branchRoutes]
  refine names_put_of_mem ?_ _ _
  cases otherwise with
  | none => exact routed
  | some node => exact names_put_of_mem routed _ _

/-- A tree of nodes of known kinds is proper if what it becomes is regular. -/
theorem Recognized.built {node : Node F} (recognized : Recognized node) :
    ∀ (nums : Numbering) (next : String), (∀ item ∈ items nums next node, Regular item.2) → Built node := by
  induction recognized with
  | flow all ih =>
      intro nums next regular
      refine .flow fun node inside => ?_
      obtain ⟨nums', next', contained⟩ := itemsFlow_contains inside nums.under next
      exact ih node inside nums' next' fun item below => regular item (contained below)
  | @decide select branches otherwise name all other ihAll ihOther =>
      intro nums next regular
      simp only [items, List.forall_mem_append, List.forall_mem_singleton] at regular
      obtain ⟨⟨inBranches, inOther⟩, own⟩ := regular
      refine .decide ?_ ?_ ?_
      · intro branch inside
        obtain ⟨route, routed, same⟩ := List.mem_map.mp
          (names_decideRoutes nums next otherwise (List.mem_map_of_mem inside))
        exact same ▸ own route routed
      · intro branch inside
        obtain ⟨nums', contained⟩ := itemsBranches_contains inside (nums.under 0).under next
        exact ihAll branch inside nums' next fun item below => inBranches item (contained below)
      · rintro node rfl
        exact ihOther node rfl _ next inOther
  | @loop body stop bound onExhausted name inner other ihInner ihOther =>
      intro nums next regular
      simp only [items, List.forall_mem_append, List.forall_mem_singleton] at regular
      obtain ⟨⟨inBody, inOther⟩, ⟨n, rfl, count⟩⟩ := regular
      refine .loop count (ihInner _ _ inBody) ?_
      rintro node rfl
      exact ihOther node rfl _ next inOther
  | step => exact fun _ _ _ => .step
  | ask => exact fun _ _ _ => .ask
  | write => exact fun _ _ _ => .write
  | finish => exact fun _ _ _ => .finish

/-! ## Compiling -/

/-- A tree that compiles is made of proper nodes. -/
theorem built_of_compile {node : Node F} {id : String} {initial : Fields} {g : Graph F}
    (compiled : node.compile id initial = .ok g) : Built node := by
  unfold Node.compile at compiled
  obtain ⟨d, defined, compiles⟩ := bind_eq_ok.mp compiled
  have recognized : Recognized node := by
    unfold Node.toDefinition at defined
    obtain ⟨_, laid, -⟩ := bind_eq_ok.mp defined
    exact recognized_of_define node laid
  cases recognized.toDefinition.symm.trans defined
  refine recognized.built node.numbering doneId fun item inside => ?_
  exact regular_of_compile compiles (List.mem_append_right _ inside)

/-- A tree compiles, to the graph of its states, exactly if it is made of proper nodes. -/
theorem compile_iff {node : Node F} {id : String} {initial : Fields} {g : Graph F} :
    node.compile id initial = .ok g ↔ Built node ∧ g = graphOf id initial node := by
  constructor
  · intro compiled
    have built := built_of_compile compiled
    exact ⟨built, Except.ok.inj (compiled.symm.trans built.compile)⟩
  · rintro ⟨built, rfl⟩
    exact built.compile

end Pipe

end Tickwork

import Tickwork.Proofs.Pipe.Compiled

/-!
# No node of a pipe is lost

The compiler puts one item after the other under ids that it makes from names and numbers, and never looks
whether an id is taken. `Node.size` counts what a tree becomes, a question for as many as it is told to.
Main statement: a tree of proper nodes compiles whatever its names are, no id is given out twice, and so
the definition and the graph are as large as the tree says.
-/

set_option autoImplicit false

namespace Tickwork

variable {F : Type}

namespace Node

mutual

/-- How many entries a node becomes where a question becomes `asks` of them. -/
def size (asks : Nat) : Node F → Nat
  | .flow nodes => sizeFlow asks nodes
  | .ask _ _ _ => asks
  | .decide _ branches otherwise _ => sizeBranches asks branches + sizeOption asks otherwise + 1
  | .loop body _ _ onExhausted _ => size asks body + sizeExhausted asks onExhausted + 1
  | .step _ _ | .write _ _ | .finish _ _ => 1
  | .unsupported _ => 0

def sizeFlow (asks : Nat) : List (Node F) → Nat
  | [] => 0
  | node :: rest => sizeFlow asks rest + size asks node

def sizeBranches (asks : Nat) : List (String × Node F) → Nat
  | [] => 0
  | (_, node) :: rest => size asks node + sizeBranches asks rest

def sizeOption (asks : Nat) : Option (Node F) → Nat
  | none => 0
  | some node => size asks node

/-- A loop that leads nowhere when it runs out of iterations gets an end for that. -/
def sizeExhausted (asks : Nat) : Option (Node F) → Nat
  | none => 1
  | some node => size asks node

end

end Node

namespace Pipe

/-! ## What a tree weighs -/

def weight (asks : Nat) : Item F → Nat
  | .primitive (.ask _ _ _ _) => asks
  | _ => 1

/-- What items weigh together. -/
def weigh (asks : Nat) : List (String × Item F) → Nat
  | [] => 0
  | (_, item) :: rest => weight asks item + weigh asks rest

section

variable {asks : Nat}

theorem weigh_append (first second : List (String × Item F)) :
    weigh asks (first ++ second) = weigh asks first + weigh asks second := by
  induction first with
  | nil => exact (Nat.zero_add _).symm
  | cons item rest ih => simp only [List.cons_append, weigh, ih, Nat.add_assoc]

theorem weigh_one (items : List (String × Item F)) : weigh 1 items = items.length := by
  induction items with
  | nil => rfl
  | cons item rest ih =>
      have light : weight 1 item.2 = 1 := by
        unfold weight
        split <;> rfl
      simp only [weigh, light, ih, List.length_cons, Nat.add_comm]

/-- A node weighs what the tree says, whatever its number and whatever comes after it. -/
def Weighed (asks : Nat) (node : Node F) : Prop :=
  ∀ (nums : Numbering) (next : String), weigh asks (items nums next node) = node.size asks

theorem weighed_flow {nodes : List (Node F)} (all : ∀ node ∈ nodes, Weighed asks node)
    (family : Nat → Numbering) (next : String) :
    weigh asks (itemsFlow family next nodes) = Node.sizeFlow asks nodes := by
  induction nodes generalizing family with
  | nil => rfl
  | cons node rest ih =>
      have later := ih (fun node inside => all node (List.mem_cons_of_mem _ inside))
        (fun child => family (child + 1))
      have first := all node List.mem_cons_self (family 0)
        (entryFlow (fun child => family (child + 1)) next rest)
      simp only [itemsFlow, weigh_append, later, first, Node.sizeFlow]

theorem weighed_branches {branches : List (String × Node F)}
    (all : ∀ branch ∈ branches, Weighed asks branch.2) (family : Nat → Numbering) (next : String) :
    weigh asks (itemsBranches family next branches) = Node.sizeBranches asks branches := by
  induction branches generalizing family with
  | nil => rfl
  | cons branch rest ih =>
      obtain ⟨key, node⟩ := branch
      have heavy : Weighed asks node := all (key, node) List.mem_cons_self
      have later := ih (fun branch inside => all branch (List.mem_cons_of_mem _ inside))
        (fun child => family (child + 1))
      simp only [itemsBranches, weigh_append, later, heavy (family 0) next, Node.sizeBranches]

theorem weighed_option {other : Option (Node F)} (all : ∀ node, other = some node → Weighed asks node)
    (nums : Numbering) (next : String) :
    weigh asks (itemsOption nums next other) = Node.sizeOption asks other := by
  cases other with
  | none => rfl
  | some node => exact all node rfl nums next

theorem weighed_exhausted {other : Option (Node F)} (all : ∀ node, other = some node → Weighed asks node)
    (nums : Numbering) (id next : String) :
    weigh asks (itemsExhausted nums id next other) = Node.sizeExhausted asks other := by
  cases other with
  | none => rfl
  | some node => exact all node rfl nums next

theorem Built.weighed {node : Node F} (built : Built node) : Weighed asks node := by
  induction built with
  | flow all ih =>
      intro nums next
      exact weighed_flow ih nums.under next
  | decide named all other ihAll ihOther =>
      intro nums next
      have first := weighed_branches ihAll (nums.under 0).under next
      have second := weighed_option ihOther (nums.under 1) next
      simp only [items, weigh_append, first, second, Node.size]
      rfl
  | @loop body stop n onExhausted name count inner other ihInner ihOther =>
      intro nums next
      have first := ihInner (nums.under 0) (numbered (Node.nameOr "loop" name) (nums []))
      have second := weighed_exhausted ihOther (nums.under 1) (numbered (Node.nameOr "loop" name) (nums [])) next
      simp only [items, weigh_append, first, second, Node.size]
      rfl
  | _ =>
      intro nums next
      simp [items, weigh, weight, Node.size]

/-! ## What a tree becomes -/

/-- A question becomes two states, any other item one. -/
theorem length_statesOf {has : String → Prop} {items : List (String × Item F)}
    (formed : ∀ item ∈ items, Formed has item.2) : (statesOf items).length = weigh 2 items := by
  induction items with
  | nil => rfl
  | cons item rest ih =>
      have later := ih fun item inside => formed item (List.mem_cons_of_mem _ inside)
      have one : ∀ (id : String) {item : Item F}, Formed has item →
          (lowerItem [] id item).states.length = weight 2 item := by
        intro id item formed
        cases formed <;> rfl
      have first := one item.1 (formed item List.mem_cons_self)
      simp only [statesOf, weigh, List.flatMap_cons, List.length_append] at later ⊢
      rw [later, first]

/-- Everything that the compiler puts under an id for a tree, in order: the two ends of every pipe, and
what the nodes become. -/
def assignments (node : Node F) : List (String × Item F) :=
  ends ++ items node.numbering doneId node

variable {node : Node F}

/-- A pipe never loses a node and always compiles, whatever names its nodes have. Of the assignments that
the compiler makes no two go to the same id, so the definition holds them all; the graph holds their
states, none of which has the id of another; and the tree alone says how many there are. -/
theorem pipe_loses_no_node (built : Built node) (id : String) (initial : Fields) :
    ∃ d g, node.toDefinition id initial = .ok d ∧ node.compile id initial = .ok g ∧
      d.items = putAll (assignments node) [] ∧
      (names (assignments node)).Nodup ∧
      d.items = assignments node ∧ d.items.length = node.size 1 + 2 ∧
      g.states = statesOf d.items ∧ (names d.items).Sublist (names g.states) ∧
      (names g.states).Nodup ∧ g.states.length = node.size 2 + 2 := by
  have formed := built.formed id initial
  have nodup := built.states_nodup id initial
  have within : (names (assignments node)).Sublist (names (graphOf id initial node).states) :=
    names_sublist fun item inside => (formed item inside).emits item.1
  have own : (names (assignments node)).Nodup := nodup.sublist within
  have placed : putAll (assignments node) [] = assignments node := putAll_fresh own
  have count : (assignments node).length = node.size 1 + 2 := by
    have tree := (built.weighed : Weighed 1 node) node.numbering doneId
    rw [weigh_one] at tree
    simp only [assignments, List.length_append, tree]
    exact Nat.add_comm _ _
  have states : (graphOf id initial node).states.length = node.size 2 + 2 := by
    have tree := (built.weighed : Weighed 2 node) node.numbering doneId
    have all : (statesOf (assignments node)).length = weigh 2 (assignments node) := length_statesOf formed
    have both : weigh 2 (assignments node) = weigh 2 ends + weigh 2 (items node.numbering doneId node) :=
      weigh_append ends _
    rw [both, tree] at all
    exact all.trans (Nat.add_comm _ _)
  exact ⟨_, _, built.toDefinition, built.compile, placed.symm, own, rfl, count, rfl, within, nodup, states⟩

end

/-! ## Names that look like ids -/

/-- A pipe whose names and branches look like ids and events of the compiler. -/
def lookalikes : Node Unit :=
  .flow [.ask (.named "Name?") .absent (some "step_1"), .step () (some "step_1__feedback"),
    .loop (.flow []) () (.int 0) none (some "done"), .step () (some "done_3__exhausted"),
    .decide () [(" ", .flow []), ("__otherwise__", .step () (some "failed"))] (some (.flow [])) none]

theorem lookalikes_built : Built lookalikes := by
  refine .flow ?_
  intro node inside
  simp only [List.mem_cons, List.not_mem_nil, or_false] at inside
  rcases inside with rfl | rfl | rfl | rfl | rfl
  · exact .ask
  · exact .step
  · exact .loop (by decide) (.flow nofun) nofun
  · exact .step
  · refine .decide (by decide) ?_ ?_
    · intro branch inside
      simp only [List.mem_cons, List.not_mem_nil, or_false] at inside
      rcases inside with rfl | rfl
      · exact .flow nofun
      · exact .step
    · rintro _ ⟨⟩
      exact .flow nofun

theorem pipe_loses_no_node_lookalikes :
    ∃ d g, lookalikes.toDefinition "demo" [] = .ok d ∧ lookalikes.compile "demo" [] = .ok g ∧
      d.items.length = 9 ∧ g.states.length = 10 ∧ (names g.states).Nodup := by
  obtain ⟨d, g, defined, compiled, -, -, -, items, -, -, nodup, states⟩ :=
    pipe_loses_no_node lookalikes_built "demo" []
  exact ⟨d, g, defined, compiled, items, states, nodup⟩

end Pipe

end Tickwork

import Tickwork.Proofs.Pipe.States

/-!
# Items that lead somewhere

`Formed` lists the items that a pipe is made of, with targets that satisfy a predicate. If what comes
after a node satisfies it and the ids of the node do, all its items are formed.
-/

set_option autoImplicit false

namespace Tickwork

variable {F : Type}

namespace Pipe

/-- The items that a pipe is made of, with targets that are ids of the graph. -/
inductive Formed (has : String → Prop) : Item F → Prop
  | step {run : F} {next : String} (goes : has next) :
      Formed has (.primitive (.step (.merge run) (onward next) none))
  | ask {prompt : Slot F} {reader : Option (ReplyReader F)} {next : String} (goes : has next) :
      Formed has (.primitive (.ask prompt reader (onward next) none))
  | decide {routes : Routes} {select : F} {branches : List String} {hasOtherwise : Bool}
      (some : routes ≠ [])
      (leads : ∀ route ∈ routes, route.1 ≠ "" ∧ ∃ target, route.2 = .some target ∧ has target) :
      Formed has (.state (.orchestrate routes (.decide select branches hasOtherwise)
        (.slot .absent)))
  | loop {body next exhausted : String} {n : Int} {stop : F} (again : has body) (goes : has next)
      (used : has exhausted) (count : 0 ≤ n) :
      Formed has (.primitive (.loop (.some body) (.int n)
        [("done", .some next), ("exhausted", .some exhausted)] (.code stop .context)))
  | write {render : F} {next : String} (goes : has next) :
      Formed has (.primitive (.publish (.code render .context) (onward next)))
  | finish {status : EndStatus} {message : Option String} :
      Formed has (.primitive (.finish status message))

section

variable {has : String → Prop}

theorem mem_putRoute {routes : Routes} {event : String} {target : Target} {route : String × Target}
    (inside : route ∈ Ordered.put event target routes) : route = (event, target) ∨ route ∈ routes := by
  induction routes with
  | nil => exact .inl (List.mem_singleton.mp inside)
  | cons head rest ih =>
      obtain ⟨k, v⟩ := head
      unfold Ordered.put at inside
      by_cases same : k = event
      · rw [if_pos same] at inside
        exact (List.mem_cons.mp inside).imp_right (List.mem_cons_of_mem _)
      · rw [if_neg same] at inside
        rcases List.mem_cons.mp inside with first | later
        · exact .inr (first ▸ List.mem_cons_self)
        · exact (ih later).imp_right (List.mem_cons_of_mem _)

theorem put_ne_nil (routes : Routes) (event : String) (target : Target) :
    Ordered.put event target routes ≠ [] := by
  cases routes with
  | nil => simp [Ordered.put]
  | cons head rest =>
      obtain ⟨k, v⟩ := head
      unfold Ordered.put
      by_cases same : k = event <;> simp [same]

/-- The id that items are entered by: it is what comes after them, or a numbered id of their own. -/
def EnteredBy (entered next : String) (items : List (String × Item F)) : Prop :=
  entered = next ∨ entered ∈ names items ∧ ∃ label n, entered = numbered label n

/-- A node is entered by what comes after it or by an id of its own. -/
def Entered (node : Node F) : Prop :=
  ∀ (nums : Numbering) (next : String), EnteredBy (entry nums next node) next (items nums next node)

theorem entered_flow {nodes : List (Node F)} (all : ∀ node ∈ nodes, Entered node)
    (family : Nat → Numbering) (next : String) :
    EnteredBy (entryFlow family next nodes) next (itemsFlow family next nodes) := by
  induction nodes generalizing family with
  | nil => exact .inl rfl
  | cons node rest ih =>
      simp only [EnteredBy, entryFlow, itemsFlow, names_append, List.mem_append]
      rcases all node List.mem_cons_self (family 0)
        (entryFlow (fun child => family (child + 1)) next rest) with through | ⟨own, form⟩
      · rw [through]
        rcases ih (fun node inside => all node (List.mem_cons_of_mem _ inside))
          (fun child => family (child + 1)) with through | ⟨later, form⟩
        · exact .inl through
        · exact .inr ⟨.inl later, form⟩
      · exact .inr ⟨.inr own, form⟩

theorem Built.entered {node : Node F} (built : Built node) : Entered node := by
  induction built with
  | flow all ih =>
      intro nums next
      exact entered_flow ih nums.under next
  | step =>
      intro nums next
      exact .inr ⟨List.mem_cons_self, _, _, rfl⟩
  | ask =>
      intro nums next
      exact .inr ⟨List.mem_cons_self, _, _, rfl⟩
  | decide named all other ihAll ihOther =>
      intro nums next
      refine .inr ⟨?_, _, _, rfl⟩
      simp [items, entry, Node.idOf, Node.label, names]
  | loop bound inner other ihInner ihOther =>
      intro nums next
      refine .inr ⟨?_, _, _, rfl⟩
      simp [items, entry, Node.idOf, Node.label, names]
  | write =>
      intro nums next
      exact .inr ⟨List.mem_cons_self, _, _, rfl⟩
  | finish =>
      intro nums next
      exact .inr ⟨List.mem_cons_self, _, _, rfl⟩

/-- The items of a node lead to ids of the graph, if what comes after the node is one and the items
themselves are in it. -/
def WellFormed (has : String → Prop) (node : Node F) : Prop :=
  ∀ (nums : Numbering) (next : String), has next → (∀ id ∈ names (items nums next node), has id) →
    ∀ item ∈ items nums next node, Formed has item.2

theorem Entered.target {node : Node F} (entered : Entered node) {nums : Numbering} {next : String}
    (goes : has next) (all : ∀ id ∈ names (items nums next node), has id) :
    has (entry nums next node) := by
  rcases entered nums next with through | ⟨own, -⟩
  · rw [through]
    exact goes
  · exact all _ own

theorem formed_flow {nodes : List (Node F)}
    (all : ∀ node ∈ nodes, WellFormed has node ∧ Entered node) (family : Nat → Numbering)
    {next : String} (goes : has next) (ids : ∀ id ∈ names (itemsFlow family next nodes), has id) :
    has (entryFlow family next nodes) ∧
      ∀ item ∈ itemsFlow family next nodes, Formed has item.2 := by
  induction nodes generalizing family with
  | nil => exact ⟨goes, fun _ inside => absurd inside List.not_mem_nil⟩
  | cons node rest ih =>
      simp only [itemsFlow, names_append, List.mem_append] at ids
      obtain ⟨target, later⟩ := ih (fun node inside => all node (List.mem_cons_of_mem _ inside))
        (fun child => family (child + 1)) (fun id inside => ids id (.inl inside))
      obtain ⟨formed, entered⟩ := all node List.mem_cons_self
      refine ⟨entered.target target fun id inside => ids id (.inr inside), ?_⟩
      intro item inside
      rcases List.mem_append.mp inside with inRest | inNode
      · exact later item inRest
      · exact formed (family 0) _ target (fun id inside => ids id (.inr inside)) item inNode

theorem formed_branches {branches : List (String × Node F)}
    (all : ∀ branch ∈ branches, WellFormed has branch.2 ∧ Entered branch.2)
    (family : Nat → Numbering) {next : String} (goes : has next)
    (ids : ∀ id ∈ names (itemsBranches family next branches), has id) :
    (∀ route ∈ branchRoutes family next branches,
        (∃ branch ∈ branches, route.1 = branch.1) ∧ ∃ target, route.2 = some target ∧ has target) ∧
      ∀ item ∈ itemsBranches family next branches, Formed has item.2 := by
  induction branches generalizing family with
  | nil => exact ⟨fun _ inside => absurd inside List.not_mem_nil,
      fun _ inside => absurd inside List.not_mem_nil⟩
  | cons branch rest ih =>
      obtain ⟨key, node⟩ := branch
      simp only [itemsBranches, names_append, List.mem_append] at ids
      obtain ⟨routes, later⟩ := ih (fun node inside => all node (List.mem_cons_of_mem _ inside))
        (fun child => family (child + 1)) (fun id inside => ids id (.inr inside))
      have both : WellFormed has node ∧ Entered node := all (key, node) List.mem_cons_self
      constructor
      · intro route inside
        rcases List.mem_cons.mp inside with rfl | inRest
        · exact ⟨⟨(key, node), List.mem_cons_self, rfl⟩, _, rfl,
            both.2.target goes fun id inside => ids id (.inl inside)⟩
        · obtain ⟨⟨branch, inRest', same⟩, leads⟩ := routes route inRest
          exact ⟨⟨branch, List.mem_cons_of_mem _ inRest', same⟩, leads⟩
      · intro item inside
        rcases List.mem_append.mp inside with inNode | inRest
        · exact both.1 (family 0) next goes (fun id inside => ids id (.inl inside)) item inNode
        · exact later item inRest

theorem Built.wellFormed {node : Node F} (fails : has failedId) (built : Built node) :
    WellFormed has node := by
  induction built with
  | flow all ih =>
      intro nums next goes ids
      exact (formed_flow (fun node inside => ⟨ih node inside, (all node inside).entered⟩) _ goes ids).2
  | step =>
      intro nums next goes ids item inside
      rw [List.mem_singleton.mp inside]
      exact .step goes
  | ask =>
      intro nums next goes ids item inside
      rw [List.mem_singleton.mp inside]
      exact .ask goes
  | @decide select branches otherwise name named all other ihAll ihOther =>
      intro nums next goes ids item inside
      simp only [items, names_append, List.mem_append] at ids
      have both := fun branch inside => And.intro (ihAll branch inside) (all branch inside).entered
      obtain ⟨routes, inBranches⟩ := formed_branches both _ goes
        (fun id inside => ids id (.inl (.inl inside)))
      have leads : ∀ route ∈ branchRoutes (nums.under 0).under next branches,
          route.1 ≠ "" ∧ ∃ target, route.2 = some target ∧ has target := by
        intro route inside
        obtain ⟨⟨branch, inBranches, same⟩, leads⟩ := routes route inside
        refine ⟨?_, leads⟩
        rw [same]
        exact named branch inBranches
      simp only [items, List.mem_append, List.mem_singleton] at inside
      rcases inside with (inside | inside) | rfl
      · exact inBranches item inside
      · cases otherwise with
        | none => cases inside
        | some node =>
            exact ihOther node rfl (nums.under 1) next goes
              (fun id inside => ids id (.inl (.inr inside))) item inside
      · refine .decide (put_ne_nil _ _ _) ?_
        intro route inside
        rcases mem_putRoute inside with rfl | inside
        · exact ⟨by decide, _, rfl, fails⟩
        · cases otherwise with
          | none => exact leads route inside
          | some node =>
              rcases mem_putRoute inside with rfl | inside
              · have entered := (other node rfl).entered
                exact ⟨by simp [otherwiseEvent], _, rfl,
                  entered.target goes fun id inside => ids id (.inl (.inr inside))⟩
              · exact leads route inside
  | @loop body stop n onExhausted name bound inner other ihInner ihOther =>
      intro nums next goes ids item inside
      simp only [items, names_append, List.mem_append] at ids
      have own : has (numbered (Node.nameOr "loop" name) (nums [])) :=
        ids _ (.inr (by simp [names]))
      have inBody := fun id inside => ids id (.inl (.inl inside))
      have used : has (exhaustedEntry (nums.under 1)
          (numbered (Node.nameOr "loop" name) (nums [])) next onExhausted) := by
        cases onExhausted with
        | none => exact ids _ (.inl (.inr (by simp [itemsExhausted, exhaustedEntry, names])))
        | some node =>
            exact (other node rfl).entered.target goes fun id inside => ids id (.inl (.inr inside))
      simp only [items, List.mem_append, List.mem_singleton] at inside
      rcases inside with (inside | inside) | rfl
      · exact ihInner (nums.under 0) _ own inBody item inside
      · cases onExhausted with
        | none =>
            rw [List.mem_singleton.mp inside]
            exact .finish
        | some node =>
            exact ihOther node rfl (nums.under 1) next goes
              (fun id inside => ids id (.inl (.inr inside))) item inside
      · exact .loop (inner.entered.target own inBody) goes used bound
  | write =>
      intro nums next goes ids item inside
      rw [List.mem_singleton.mp inside]
      exact .write goes
  | finish =>
      intro nums next goes ids item inside
      rw [List.mem_singleton.mp inside]
      exact .finish

end

end Pipe

end Tickwork

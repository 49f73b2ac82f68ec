import Tickwork.Proofs.Pipe.Meaning

/-!
# Where the nodes of a pipe are laid out

`entry` is the id that a node is entered by and `items` are the primitives that it becomes, both for a
numbering and for the id that comes after the node. Main statement: with the numbers that
`Node.numbers` gives, this is what the compiler defines.
-/

set_option autoImplicit false

namespace Tickwork

variable {F : Type}

namespace Pipe

mutual

/-- The id that a node is entered by. -/
def entry (nums : Numbering) (next : String) : Node F → String
  | .flow nodes => entryFlow nums.under next nodes
  | node => node.idOf nums

def entryFlow (family : Nat → Numbering) (next : String) : List (Node F) → String
  | [] => next
  | node :: rest => entry (family 0) (entryFlow (fun child => family (child + 1)) next rest) node

end

def branchRoutes (family : Nat → Numbering) (next : String) : List (String × Node F) → Routes
  | [] => []
  | (key, node) :: rest =>
    (key, some (entry (family 0) next node)) ::
      branchRoutes (fun child => family (child + 1)) next rest

def otherRoutes (nums : Numbering) (next : String) (routes : Routes) : Option (Node F) → Routes
  | none => routes
  | some node => Ordered.put otherwiseEvent (some (entry nums next node)) routes

def decideRoutes (nums : Numbering) (next : String) (branches : List (String × Node F))
    (otherwise : Option (Node F)) : Routes :=
  Ordered.put unknownBranchEvent (some failedId)
    (otherRoutes (nums.under 1) next (branchRoutes (nums.under 0).under next branches) otherwise)

def exhaustedEntry (nums : Numbering) (id next : String) : Option (Node F) → String
  | none => exhaustedId id
  | some node => entry nums next node

def readerOf : Slot F → Option (ReplyReader F)
  | .absent => none
  | ref => some (.changes ref)

mutual

/-- What a node becomes, in the order of definition. -/
def items (nums : Numbering) (next : String) : Node F → List (String × Item F)
  | .flow nodes => itemsFlow nums.under next nodes
  | .step run name =>
    [(numbered (Node.nameOr "step" name) (nums []),
      .primitive (.step (.merge run) (onward next) none))]
  | .ask prompt parse name =>
    [(numbered (Node.nameOr "ask" name) (nums []),
      .primitive (.ask prompt (readerOf parse) (onward next) none))]
  | .decide select branches otherwise name =>
    itemsBranches (nums.under 0).under next branches ++ itemsOption (nums.under 1) next otherwise ++
      [(numbered (Node.nameOr "decide" name) (nums []),
        .state (.orchestrate (decideRoutes nums next branches otherwise)
          (.decide select (names branches) otherwise.isSome) (.slot .absent)))]
  | .loop body stop bound onExhausted name =>
    let id := numbered (Node.nameOr "loop" name) (nums [])
    items (nums.under 0) id body ++ itemsExhausted (nums.under 1) id next onExhausted ++
      [(id, .primitive (.loop (some (entry (nums.under 0) id body)) bound
        [("done", some next), ("exhausted", some (exhaustedEntry (nums.under 1) id next onExhausted))]
        (.code stop .context)))]
  | .write render name =>
    [(numbered (Node.nameOr "write" name) (nums []),
      .primitive (.publish (.code render .context) (onward next)))]
  | .finish status message =>
    [(numbered ("end_" ++ status.name) (nums []), .primitive (.finish status message))]
  | .unsupported _ => []

/-- What the nodes of a flow become, the last one first. -/
def itemsFlow (family : Nat → Numbering) (next : String) : List (Node F) → List (String × Item F)
  | [] => []
  | node :: rest =>
    itemsFlow (fun child => family (child + 1)) next rest ++
      items (family 0) (entryFlow (fun child => family (child + 1)) next rest) node

def itemsBranches (family : Nat → Numbering) (next : String) :
    List (String × Node F) → List (String × Item F)
  | [] => []
  | (_, node) :: rest =>
    items (family 0) next node ++ itemsBranches (fun child => family (child + 1)) next rest

def itemsOption (nums : Numbering) (next : String) : Option (Node F) → List (String × Item F)
  | none => []
  | some node => items nums next node

def itemsExhausted (nums : Numbering) (id next : String) :
    Option (Node F) → List (String × Item F)
  | none => [(exhaustedId id, .primitive (.finish .failed (some loopExhaustedMessage)))]
  | some node => items nums next node

end

/-- Puts items into a draft one after the other. -/
def putAll (new old : List (String × Item F)) : List (String × Item F) :=
  new.foldl (fun placed item => Ordered.put item.1 item.2 placed) old

theorem putAll_append (first second old : List (String × Item F)) :
    putAll (first ++ second) old = putAll second (putAll first old) :=
  List.foldl_append

/-! ## What the compiler defines -/

section

variable {d : Draft F} {next label : String} {own : Nat}

theorem idFor_given : d.idFor (some (numbered label own)) label = (numbered label own, d) := by
  unfold Draft.idFor firstNonempty
  rw [if_neg (numbered_ne_empty label own)]

theorem idFor_none :
    d.idFor none label = (numbered label (d.count + 1), { d with count := d.count + 1 }) := rfl

/-- The id that a flow gives to a node beforehand: a flow gets none. -/
def givenTo (own : Nat) (node : Node F) : Option String :=
  if node.isFlow then none else some (numbered node.label own)

/-- The ids that a flow gives to its nodes beforehand. -/
def givenAll (own : Nat) : List (Node F) → List (Option String)
  | [] => []
  | node :: rest => givenTo own node :: givenAll (own + node.takes) rest

/-- A node that needs a number takes the next one. -/
theorem define_fresh (node : Node F) :
    define d next none node =
      define { d with count := d.count + node.takes } next (givenTo (d.count + 1) node) node := by
  cases node with
  | flow nodes => rfl
  | unsupported v =>
      unfold define
      rfl
  | step run name =>
      simp only [define, givenTo, Node.isFlow, Bool.false_eq_true, if_false, Node.label,
        idFor_given, idFor_none, Node.takes]
  | ask prompt parse name =>
      simp only [define, givenTo, Node.isFlow, Bool.false_eq_true, if_false, Node.label,
        idFor_given, idFor_none, Node.takes]
  | decide select branches otherwise name =>
      simp only [define, givenTo, Node.isFlow, Bool.false_eq_true, if_false, Node.label,
        idFor_given, idFor_none, Node.takes]
  | loop body stop bound onExhausted name =>
      simp only [define, givenTo, Node.isFlow, Bool.false_eq_true, if_false, Node.label,
        idFor_given, idFor_none, Node.takes]
  | write render name =>
      simp only [define, givenTo, Node.isFlow, Bool.false_eq_true, if_false, Node.label,
        idFor_given, idFor_none, Node.takes]
  | finish status message =>
      simp only [define, givenTo, Node.isFlow, Bool.false_eq_true, if_false, Node.label,
        idFor_given, idFor_none, Node.takes]

end

/-- The compiler lays a node out by its numbers. -/
def LaidOut (node : Node F) : Prop :=
  ∀ (d : Draft F) (next : String) (own : Nat),
    define d next (givenTo own node) node =
      .ok (entry (node.numbers own d.count) next node,
        ⟨putAll (items (node.numbers own d.count) next node) d.items, d.count + node.inside⟩)

section

variable {d : Draft F} {next : String}

theorem LaidOut.fresh {node : Node F} (laid : LaidOut node) (d : Draft F) (next : String) :
    define d next none node =
      .ok (entry (node.numbers (d.count + 1) (d.count + node.takes)) next node,
        ⟨putAll (items (node.numbers (d.count + 1) (d.count + node.takes)) next node) d.items,
          d.count + (node.takes + node.inside)⟩) := by
  rw [define_fresh, laid]
  simp only [Nat.add_assoc]

theorem numbersFlow_tail (own count : Nat) (node : Node F) (rest : List (Node F)) :
    (fun child => Node.numbersFlow own count (node :: rest) (child + 1)) =
      Node.numbersFlow (own + node.takes) count rest := by
  funext child
  simp [Node.numbersFlow]

theorem numbersBranches_tail (count : Nat) (key : String) (node : Node F)
    (rest : List (String × Node F)) :
    (fun child => Node.numbersBranches count ((key, node) :: rest) (child + 1)) =
      Node.numbersBranches (count + (node.takes + node.inside)) rest := by
  funext child
  simp [Node.numbersBranches]

theorem defineFlow_laidOut {nodes : List (Node F)} (all : ∀ node ∈ nodes, LaidOut node) (own : Nat) :
    defineFlow d next nodes (givenAll own nodes) =
      .ok (entryFlow (Node.numbersFlow own d.count nodes) next nodes,
        ⟨putAll (itemsFlow (Node.numbersFlow own d.count nodes) next nodes) d.items,
          d.count + Node.insideFlow nodes⟩) := by
  induction nodes generalizing own with
  | nil => rfl
  | cons node rest ih =>
      have later := ih (fun node inside => all node (List.mem_cons_of_mem _ inside)) (own + node.takes)
      have first := all node List.mem_cons_self
      simp only [defineFlow, givenAll, List.tail_cons, List.head?_cons, Option.join_some, later]
      simp only [bind, Except.bind]
      rw [first]
      simp only [entryFlow, itemsFlow, numbersFlow_tail, putAll_append, Node.insideFlow,
        Nat.add_assoc]
      simp only [Node.numbersFlow, if_true]

theorem defineBranches_laidOut {branches : List (String × Node F)}
    (all : ∀ branch ∈ branches, LaidOut branch.2) :
    defineBranches d next branches =
      .ok (branchRoutes (Node.numbersBranches d.count branches) next branches,
        ⟨putAll (itemsBranches (Node.numbersBranches d.count branches) next branches) d.items,
          d.count + Node.insideBranches branches⟩) := by
  induction branches generalizing d with
  | nil => rfl
  | cons branch rest ih =>
      obtain ⟨key, node⟩ := branch
      have first := (all (key, node) List.mem_cons_self).fresh d next
      simp only at first
      have later := ih (d := ⟨putAll (items (node.numbers (d.count + 1) (d.count + node.takes)) next
        node) d.items, d.count + (node.takes + node.inside)⟩)
        (fun branch inside => all branch (List.mem_cons_of_mem _ inside))
      simp only [defineBranches, first, bind, Except.bind, later]
      simp only [branchRoutes, itemsBranches, numbersBranches_tail, putAll_append,
        Node.insideBranches, Nat.add_assoc]
      simp only [Node.numbersBranches, if_true]

theorem defineOtherwise_laidOut {otherwise : Option (Node F)}
    (all : ∀ node, otherwise = some node → LaidOut node) (routes : Routes) :
    defineOtherwise d next routes otherwise =
      .ok (otherRoutes (Node.numbersOption d.count otherwise) next routes otherwise,
        ⟨putAll (itemsOption (Node.numbersOption d.count otherwise) next otherwise) d.items,
          d.count + Node.insideOption otherwise⟩) := by
  cases otherwise with
  | none => rfl
  | some node =>
      have only := (all node rfl).fresh d next
      simp only [defineOtherwise, only, bind, Except.bind]
      rfl

theorem defineExhausted_laidOut {onExhausted : Option (Node F)}
    (all : ∀ node, onExhausted = some node → LaidOut node) (id : String) :
    defineExhausted d id next onExhausted =
      .ok (exhaustedEntry (Node.numbersOption d.count onExhausted) id next onExhausted,
        ⟨putAll (itemsExhausted (Node.numbersOption d.count onExhausted) id next onExhausted)
          d.items, d.count + Node.insideOption onExhausted⟩) := by
  cases onExhausted with
  | none => rfl
  | some node =>
      have only := (all node rfl).fresh d next
      simp only [defineExhausted, only]
      rfl

theorem allocateIds_laidOut {nodes : List (Node F)} (all : ∀ node ∈ nodes, Recognized node) :
    allocateIds d none nodes =
      .ok (givenAll (d.count + 1) nodes, { d with count := d.count + Node.taken nodes }) := by
  induction nodes generalizing d with
  | nil => rfl
  | cons node rest ih =>
      have later : ∀ d : Draft F, allocateIds d none rest = _ :=
        fun d => ih (d := d) fun node inside => all node (List.mem_cons_of_mem _ inside)
      have first := all node List.mem_cons_self
      unfold allocateIds
      cases first with
      | flow =>
          simp [Node.isFlow, later, bind, Except.bind, givenAll, givenTo, Node.taken, Node.takes]
      | _ =>
          simp [Node.isFlow, later, bind, Except.bind, givenAll, givenTo, Node.taken, Node.takes,
            Draft.allocate, Nat.add_assoc]

/-- A tree of nodes of known kinds is laid out by its numbers. -/
theorem Recognized.laidOut {node : Node F} (recognized : Recognized node) : LaidOut node := by
  induction recognized with
  | @flow nodes all ih =>
      intro d next own
      have given : givenTo own (.flow nodes) = none := rfl
      rw [given]
      cases nodes with
      | nil => rfl
      | cons node rest =>
          simp only [define, List.isEmpty_cons, Bool.false_eq_true, if_false,
            allocateIds_laidOut all, bind, Except.bind, defineFlow_laidOut ih]
          simp only [Node.numbers, entry, items, Node.inside, Nat.add_assoc]
          rfl
  | step =>
      intro d next own
      simp only [define, givenTo, Node.isFlow, Bool.false_eq_true, if_false, Node.label, idFor_given]
      rfl
  | @ask prompt parse name =>
      intro d next own
      simp only [define, givenTo, Node.isFlow, Bool.false_eq_true, if_false, Node.label, idFor_given]
      cases parse <;> rfl
  | @decide select branches otherwise name all other ihAll ihOther =>
      intro d next own
      simp only [define, givenTo, Node.isFlow, Bool.false_eq_true, if_false, Node.label, idFor_given,
        bind, Except.bind, defineBranches_laidOut ihAll, defineOtherwise_laidOut ihOther]
      simp only [Node.numbers, entry, items, putAll_append, Node.inside, Nat.add_assoc]
      rfl
  | @loop body stop bound onExhausted name inner other ihInner ihOther =>
      intro d next own
      simp only [define, givenTo, Node.isFlow, Bool.false_eq_true, if_false, Node.label, idFor_given,
        bind, Except.bind, ihInner.fresh, defineExhausted_laidOut ihOther]
      simp only [Node.numbers, entry, items, putAll_append, Node.inside, Nat.add_assoc]
      rfl
  | write =>
      intro d next own
      simp only [define, givenTo, Node.isFlow, Bool.false_eq_true, if_false, Node.label, idFor_given]
      rfl
  | finish =>
      intro d next own
      simp only [define, givenTo, Node.isFlow, Bool.false_eq_true, if_false, Node.label, idFor_given]
      rfl

end

end Pipe

end Tickwork

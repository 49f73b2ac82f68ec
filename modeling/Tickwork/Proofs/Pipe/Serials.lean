import Tickwork.Proofs.Pipe.Layout

/-!
# The numbers of a tree are its own

`serials` lists the numbers that the nodes of a tree have. With the numbers of the compiler none of them
comes twice, and so no two states of a pipe have one id.
-/

set_option autoImplicit false

namespace Tickwork

variable {F : Type}

namespace Pipe

mutual

/-- The numbers of the nodes of a tree. -/
def serials (nums : Numbering) : Node F → List Nat
  | .flow nodes => serialsFlow nums.under nodes
  | .decide _ branches otherwise _ =>
    serialsBranches (nums.under 0).under branches ++ serialsOption (nums.under 1) otherwise ++
      [nums []]
  | .loop body _ _ onExhausted _ =>
    serials (nums.under 0) body ++ serialsOption (nums.under 1) onExhausted ++ [nums []]
  | _ => [nums []]

/-- The numbers of the nodes of a flow, the last node first. -/
def serialsFlow (family : Nat → Numbering) : List (Node F) → List Nat
  | [] => []
  | node :: rest => serialsFlow (fun child => family (child + 1)) rest ++ serials (family 0) node

def serialsBranches (family : Nat → Numbering) : List (String × Node F) → List Nat
  | [] => []
  | (_, node) :: rest =>
    serials (family 0) node ++ serialsBranches (fun child => family (child + 1)) rest

def serialsOption (nums : Numbering) : Option (Node F) → List Nat
  | none => []
  | some node => serials nums node

end

/-! ## No number comes twice -/

/-- Numbers that come once each, all of them after `low` and up to `high`. -/
structure Spread (low high : Nat) (numbers : List Nat) : Prop where
  nodup : numbers.Nodup
  within : ∀ n ∈ numbers, low < n ∧ n ≤ high

theorem Spread.append {low middle high : Nat} {first second : List Nat} (front : Spread low middle first)
    (back : Spread middle high second) (up : low ≤ middle) (over' : middle ≤ high) :
    Spread low high (first ++ second) := by
  constructor
  · refine List.nodup_append.mpr ⟨front.nodup, back.nodup, ?_⟩
    intro n inFirst m inSecond
    have below := (front.within n inFirst).2
    have above := (back.within m inSecond).1
    omega
  · intro n inside
    rcases List.mem_append.mp inside with inFirst | inSecond
    · have bounds := front.within n inFirst
      omega
    · have bounds := back.within n inSecond
      omega

theorem Spread.nil (low high : Nat) : Spread low high [] :=
  ⟨List.nodup_nil, fun _ inside => absurd inside List.not_mem_nil⟩

/-- A node has its own number, if it takes one, and numbers that come after all that are given out. -/
structure Numbered (node : Node F) (own count : Nat) (numbers : List Nat) : Prop where
  nodup : numbers.Nodup
  within : ∀ n ∈ numbers, (node.takes = 1 ∧ n = own) ∨ (count < n ∧ n ≤ count + node.inside)

/-- The numbers that the compiler gives to a node are its own. -/
def OwnNumbers (node : Node F) : Prop :=
  ∀ own count : Nat, own + node.takes ≤ count + 1 →
    Numbered node own count (serials (node.numbers own count) node)

theorem OwnNumbers.fresh {node : Node F} (fine : OwnNumbers node) (count : Nat) :
    Spread count (count + (node.takes + node.inside))
      (serials (node.numbers (count + 1) (count + node.takes)) node) := by
  have numbered := fine (count + 1) (count + node.takes) (by omega)
  refine ⟨numbered.nodup, ?_⟩
  intro n inside
  have bounds := numbered.within n inside
  omega

/-- The numbers of the nodes of a flow: those given to them beforehand and those below them. -/
theorem serialsFlow_numbers {nodes : List (Node F)} (all : ∀ node ∈ nodes, OwnNumbers node)
    (own count : Nat) (room : own + Node.taken nodes ≤ count + 1) :
    (serialsFlow (Node.numbersFlow own count nodes) nodes).Nodup ∧
      ∀ n ∈ serialsFlow (Node.numbersFlow own count nodes) nodes,
        (own ≤ n ∧ n < own + Node.taken nodes) ∨ (count < n ∧ n ≤ count + Node.insideFlow nodes) := by
  induction nodes generalizing own with
  | nil => exact ⟨List.nodup_nil, fun _ inside => absurd inside List.not_mem_nil⟩
  | cons node rest ih =>
      simp only [Node.taken] at room
      obtain ⟨nodup, within⟩ := ih (fun node inside => all node (List.mem_cons_of_mem _ inside))
        (own + node.takes) (by omega)
      have first := all node List.mem_cons_self own (count + Node.insideFlow rest) (by omega)
      have head : Node.numbersFlow own count (node :: rest) 0 =
          node.numbers own (count + Node.insideFlow rest) := by
        simp [Node.numbersFlow]
      simp only [serialsFlow, numbersFlow_tail, head, Node.taken, Node.insideFlow]
      constructor
      · refine List.nodup_append.mpr ⟨nodup, first.nodup, ?_⟩
        intro n inRest m inNode
        have bounds := within n inRest
        have bounds' := first.within m inNode
        omega
      · intro n inside
        rcases List.mem_append.mp inside with inRest | inNode
        · have bounds := within n inRest
          omega
        · have bounds := first.within n inNode
          omega

theorem serialsBranches_spread {branches : List (String × Node F)}
    (all : ∀ branch ∈ branches, OwnNumbers branch.2) (count : Nat) :
    Spread count (count + Node.insideBranches branches)
      (serialsBranches (Node.numbersBranches count branches) branches) := by
  induction branches generalizing count with
  | nil => exact .nil _ _
  | cons branch rest ih =>
      obtain ⟨key, node⟩ := branch
      have fine : OwnNumbers node := all (key, node) List.mem_cons_self
      have first := fine.fresh count
      have later := ih (fun branch inside => all branch (List.mem_cons_of_mem _ inside))
        (count + (node.takes + node.inside))
      have head : Node.numbersBranches count ((key, node) :: rest) 0 =
          node.numbers (count + 1) (count + node.takes) := by
        simp [Node.numbersBranches]
      simp only [serialsBranches, numbersBranches_tail, head, Node.insideBranches]
      rw [← Nat.add_assoc]
      exact first.append later (by omega) (by omega)

theorem serialsOption_spread {other : Option (Node F)}
    (all : ∀ node, other = some node → OwnNumbers node) (count : Nat) :
    Spread count (count + Node.insideOption other)
      (serialsOption (Node.numbersOption count other) other) := by
  cases other with
  | none => exact .nil _ _
  | some node => exact (all node rfl).fresh count

/-- A node whose own number comes after those below it. -/
theorem Spread.with_own {count : Nat} {numbers : List Nat} (node : Node F)
    (spread : Spread count (count + node.inside) numbers) (takes : node.takes = 1) {own : Nat}
    (room : own ≤ count) : Numbered node own count (numbers ++ [own]) := by
  constructor
  · refine List.nodup_append.mpr ⟨spread.nodup, by simp, ?_⟩
    intro n inside m last
    have bounds := spread.within n inside
    have same := List.mem_singleton.mp last
    omega
  · intro n inside
    rcases List.mem_append.mp inside with before | last
    · exact .inr (spread.within n before)
    · exact .inl ⟨takes, List.mem_singleton.mp last⟩

theorem Recognized.ownNumbers {node : Node F} (recognized : Recognized node) : OwnNumbers node := by
  have alone : ∀ (node : Node F) (own count : Nat), node.takes = 1 → own + 1 ≤ count + 1 →
      Numbered node own count [own] := by
    intro node own count takes room
    have bare : Spread count (count + node.inside) [] := .nil _ _
    exact bare.with_own node takes (by omega)
  induction recognized with
  | @flow nodes all ih =>
      intro own count room
      obtain ⟨nodup, within⟩ := serialsFlow_numbers ih (count + 1)
        (count + Node.taken nodes) (by omega)
      refine ⟨nodup, ?_⟩
      intro n inside
      have bounds := within n inside
      simp only [Node.inside]
      omega
  | step =>
      intro own count room
      exact alone _ own count rfl room
  | ask =>
      intro own count room
      exact alone _ own count rfl room
  | @decide select branches otherwise name all other ihAll ihOther =>
      intro own count room
      have first := serialsBranches_spread ihAll count
      have second := serialsOption_spread ihOther (count + Node.insideBranches branches)
      have both := first.append second (by omega) (by omega)
      rw [Nat.add_assoc] at both
      have room' : own + 1 ≤ count + 1 := room
      exact Spread.with_own (.decide select branches otherwise name) both rfl (by omega)
  | @loop body stop bound onExhausted name inner other ihInner ihOther =>
      intro own count room
      have first := ihInner.fresh count
      have second := serialsOption_spread ihOther (count + (body.takes + body.inside))
      have both := first.append second (by omega) (by omega)
      rw [Nat.add_assoc] at both
      have room' : own + 1 ≤ count + 1 := room
      exact Spread.with_own (.loop body stop bound onExhausted name) both rfl (by omega)
  | write =>
      intro own count room
      exact alone _ own count rfl room
  | finish =>
      intro own count room
      exact alone _ own count rfl room

theorem Recognized.numbering_nodup {node : Node F} (recognized : Recognized node) :
    (serials node.numbering node).Nodup :=
  (recognized.ownNumbers 1 node.takes (by omega)).nodup

theorem Built.numbering_nodup {node : Node F} (built : Built node) : (serials node.numbering node).Nodup :=
  built.recognized.numbering_nodup

end Pipe

end Tickwork

import Tickwork.Pipe

/-!
# Numbers of nodes

The id of a node is made of its label and a running number. A flow takes no number, numbers its own nodes
first and then goes into them, the last one first; a decision and a loop number what is below them in
order. `Node.numbers` gives the numbers of a tree by paths into it, and ids with different numbers are
different ids.
-/

set_option autoImplicit false

namespace Tickwork

variable {F : Type}

namespace Pipe

/-- The numbers of the nodes of a tree, by the path that leads to a node. -/
abbrev Numbering := List Nat → Nat

namespace Numbering

/-- The numbers below a child. -/
def under (nums : Numbering) (child : Nat) : Numbering :=
  fun path => nums (child :: path)

/-- The numbering of a node from its own number and the numberings of its children. -/
def joined (own : Nat) (children : Nat → Numbering) : Numbering
  | [] => own
  | child :: path => children child path

/-- The numbering without numbers. -/
def blank : Numbering := fun _ => 0

end Numbering

end Pipe

namespace Node

open Pipe

/-- How many numbers a node takes itself. -/
def takes (node : Node F) : Nat := if node.isFlow then 0 else 1

/-- How many numbers the nodes of a flow take themselves. -/
def taken : List (Node F) → Nat
  | [] => 0
  | node :: rest => node.takes + taken rest

mutual

/-- How many numbers are given out below a node. -/
def inside : Node F → Nat
  | .flow nodes => taken nodes + insideFlow nodes
  | .decide _ branches otherwise _ => insideBranches branches + insideOption otherwise
  | .loop body _ _ onExhausted _ => body.takes + inside body + insideOption onExhausted
  | _ => 0

/-- How many numbers are given out below the nodes of a flow. -/
def insideFlow : List (Node F) → Nat
  | [] => 0
  | node :: rest => insideFlow rest + inside node

def insideBranches : List (String × Node F) → Nat
  | [] => 0
  | (_, node) :: rest => node.takes + inside node + insideBranches rest

def insideOption : Option (Node F) → Nat
  | none => 0
  | some node => node.takes + inside node

end

mutual

/-- The numbers of a node with the number `own`, where `count` numbers are given out. -/
def numbers (own count : Nat) : Node F → Numbering
  | .flow nodes => .joined 0 (numbersFlow (count + 1) (count + taken nodes) nodes)
  | .decide _ branches otherwise _ => .joined own fun child =>
      if child = 0 then .joined 0 (numbersBranches count branches)
      else numbersOption (count + insideBranches branches) otherwise
  | .loop body _ _ onExhausted _ => .joined own fun child =>
      if child = 0 then numbers (count + 1) (count + body.takes) body
      else numbersOption (count + (body.takes + inside body)) onExhausted
  | _ => .joined own fun _ => .blank

/-- The numbers of the nodes of a flow, the first of which may have the number `own`. -/
def numbersFlow (own count : Nat) : List (Node F) → Nat → Numbering
  | [], _ => .blank
  | node :: rest, child =>
    if child = 0 then numbers own (count + insideFlow rest) node
    else numbersFlow (own + node.takes) count rest (child - 1)

/-- The numbers of the branches of a decision. -/
def numbersBranches (count : Nat) : List (String × Node F) → Nat → Numbering
  | [], _ => .blank
  | (_, node) :: rest, child =>
    if child = 0 then numbers (count + 1) (count + node.takes) node
    else numbersBranches (count + (node.takes + inside node)) rest (child - 1)

/-- The numbers of a node that need not be there. -/
def numbersOption (count : Nat) : Option (Node F) → Numbering
  | none => .blank
  | some node => numbers (count + 1) (count + node.takes) node

end

/-- The numbers of a tree. -/
def numbering (node : Node F) : Numbering :=
  node.numbers 1 node.takes

/-- The id that messages name a node by. -/
def idOf (nums : Numbering) (node : Node F) : String :=
  numbered node.label (nums [])

end Node

/-! ## Ids can be told apart -/

namespace Pipe

def ending (s : String) : Option Char := s.toList.getLast?

theorem ending_append (s t : String) (more : t ≠ "") : ending (s ++ t) = ending t := by
  have some_chars : t.toList ≠ [] := by simpa using more
  unfold ending
  rw [String.toList_append, List.getLast?_append]
  cases last : t.toList.getLast? with
  | none => exact absurd (List.getLast?_eq_none_iff.mp last) some_chars
  | some c => rfl

theorem toList_numbered (label : String) (n : Nat) :
    (numbered label n).toList = label.toList ++ '_' :: Nat.toDigits 10 n := by
  have words : numbered label n = label ++ "_" ++ n.repr := rfl
  rw [words, String.toList_append, String.toList_append, Nat.toList_repr]
  simp

def serial (s : String) : Nat :=
  Nat.ofDigitChars 10 (s.toList.reverse.takeWhile Char.isDigit).reverse 0

theorem serial_numbered (label : String) (n : Nat) : serial (numbered label n) = n := by
  have digits : ∀ c ∈ (Nat.toDigits 10 n).reverse, c.isDigit = true := by
    intro c inside
    exact Nat.isDigit_of_mem_toDigits (by decide) (by decide) (List.mem_reverse.mp inside)
  have last : (numbered label n).toList.reverse.takeWhile Char.isDigit =
      (Nat.toDigits 10 n).reverse := by
    rw [toList_numbered, List.reverse_append, List.reverse_cons, List.append_assoc,
      List.takeWhile_append_of_pos digits]
    simp
  unfold serial
  rw [last, List.reverse_reverse, Nat.ofDigitChars_ten_toDigits]

theorem numbered_inj {label label' : String} {n m : Nat}
    (same : numbered label n = numbered label' m) : n = m := by
  have serials := congrArg serial same
  rwa [serial_numbered, serial_numbered] at serials

theorem numbered_ne_empty (label : String) (n : Nat) : numbered label n ≠ "" := by
  intro empty
  have chars := congrArg String.toList empty
  rw [toList_numbered] at chars
  simp at chars

theorem ending_numbered (label : String) (n : Nat) :
    ∃ c, ending (numbered label n) = some c ∧ c.isDigit = true := by
  have words : numbered label n = label ++ "_" ++ n.repr := rfl
  rw [words, ending_append _ _ Nat.repr_ne_empty]
  unfold ending
  rw [Nat.toList_repr]
  have some_digits : Nat.toDigits 10 n ≠ [] := Nat.toDigits_ne_nil
  refine ⟨_, List.getLast?_eq_some_getLast some_digits, ?_⟩
  exact Nat.isDigit_of_mem_toDigits (by decide) (by decide) (List.getLast_mem some_digits)

theorem ending_feedbackId (id : String) : ending (feedbackId id) = some 'k' :=
  ending_append id "__feedback" (by decide)

theorem ending_exhaustedId (id : String) : ending (exhaustedId id) = some 'd' :=
  ending_append id "__exhausted" (by decide)

/-- The ids that a node with a number may give to states. -/
inductive Belongs (n : Nat) : String → Prop
  | own (label : String) : Belongs n (numbered label n)
  | pause (label : String) : Belongs n (feedbackId (numbered label n))
  | exhausted (label : String) : Belongs n (exhaustedId (numbered label n))

theorem numbered_ending_ne (label : String) (n : Nat) {s : String} {c : Char} (ends : ending s = some c)
    (letter : c.isDigit = false) : numbered label n ≠ s := by
  rintro rfl
  obtain ⟨digit, ends', isDigit⟩ := ending_numbered label n
  rw [ends] at ends'
  cases ends'
  rw [letter] at isDigit
  cases isDigit

theorem feedbackId_ne_exhaustedId (id id' : String) : feedbackId id ≠ exhaustedId id' := by
  intro same
  have ends := congrArg ending same
  rw [ending_feedbackId, ending_exhaustedId] at ends
  cases ends

theorem append_right_cancel {s t suffix : String} (same : s ++ suffix = t ++ suffix) : s = t := by
  have chars := congrArg String.toList same
  rw [String.toList_append, String.toList_append] at chars
  exact String.toList_inj.mp (List.append_cancel_right chars)

/-- An id belongs to one number only. -/
theorem Belongs.unique {n m : Nat} {id : String} (first : Belongs n id) (second : Belongs m id) :
    n = m := by
  generalize same : id = id' at second
  cases first with
  | own label =>
      cases second with
      | own label' => exact numbered_inj same
      | pause label' => exact absurd same (numbered_ending_ne _ _ (ending_feedbackId _) rfl)
      | exhausted label' => exact absurd same (numbered_ending_ne _ _ (ending_exhaustedId _) rfl)
  | pause label =>
      cases second with
      | own label' => exact absurd same.symm (numbered_ending_ne _ _ (ending_feedbackId _) rfl)
      | pause label' => exact numbered_inj (append_right_cancel same)
      | exhausted label' => exact absurd same (feedbackId_ne_exhaustedId _ _)
  | exhausted label =>
      cases second with
      | own label' => exact absurd same.symm (numbered_ending_ne _ _ (ending_exhaustedId _) rfl)
      | pause label' => exact absurd same.symm (feedbackId_ne_exhaustedId _ _)
      | exhausted label' => exact numbered_inj (append_right_cancel same)

theorem Belongs.ne_done {n : Nat} {id : String} (own : Belongs n id) : id ≠ doneId := by
  have ends : ending doneId = some 'e' := by decide
  cases own with
  | own label => exact numbered_ending_ne _ _ ends rfl
  | pause label =>
      intro same
      rw [← same, ending_feedbackId] at ends
      cases ends
  | exhausted label =>
      intro same
      rw [← same, ending_exhaustedId] at ends
      cases ends

theorem Belongs.ne_failed {n : Nat} {id : String} (own : Belongs n id) : id ≠ failedId := by
  have ends : ending failedId = some 'd' := by decide
  cases own with
  | own label => exact numbered_ending_ne _ _ ends rfl
  | pause label =>
      intro same
      rw [← same, ending_feedbackId] at ends
      cases ends
  | exhausted label =>
      intro same
      have lengths := congrArg String.length same
      have short : failedId.length = 6 := by decide
      have long : (exhaustedId (numbered label n)).length = (numbered label n).length + 11 :=
        String.length_append _ _
      omega

theorem Belongs.ne_empty {n : Nat} {id : String} (own : Belongs n id) : id ≠ "" := by
  have longer : ∀ s suffix : String, suffix ≠ "" → s ++ suffix ≠ "" := by
    intro s suffix word empty
    exact word (by simpa using (String.append_eq_empty_iff.mp empty).2)
  cases own with
  | own label => exact numbered_ne_empty label n
  | pause label => exact longer _ _ (by decide)
  | exhausted label => exact longer _ _ (by decide)

end Pipe

end Tickwork

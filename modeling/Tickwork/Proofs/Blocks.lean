import Tickwork.Proofs.Careers

/-!
# Rows in blocks

The rows that leave one state, in order: rows that are numbered from one, closed by a row after which the
numbers begin again. `Ruled` says what it takes of a counter in the progress for the ledger to look like
that: it stands at the number of the last row that was counted. Main statement: `Ruled.blocks`, all career
long the rows of a state that is ruled are in blocks, of which only the last may be open.
-/

set_option autoImplicit false

namespace Tickwork

variable {F : Type}

/-- Rows in order that are numbered from one. -/
def Numbered (counts : Int → Transition → Prop) (rows : List Transition) : Prop :=
  ∀ (i : Nat) (inside : i < rows.length), counts (i + 1) (rows[i])

/-- A block: numbered rows, and the one that closes it, which follows the last number. -/
structure Block (counts closes : Int → Transition → Prop) (block : List Transition × Transition) :
    Prop where
  numbered : Numbered counts block.1
  closed : closes block.1.length block.2

/-- Closed blocks one after the other, and then the rows of an open one. -/
def Blocks (counts closes : Int → Transition → Prop) (rows opened : List Transition) : Prop :=
  ∃ blocks : List (List Transition × Transition),
    rows = blocks.flatMap (fun block => block.1 ++ [block.2]) ++ opened ∧
      (∀ block ∈ blocks, Block counts closes block) ∧ Numbered counts opened

variable {counts closes : Int → Transition → Prop} {rows opened : List Transition} {row : Transition}

theorem Numbered.nil : Numbered counts [] := nofun

theorem Numbered.snoc (numbered : Numbered counts opened) (next : counts (opened.length + 1) row) :
    Numbered counts (opened ++ [row]) := by
  intro i inside
  rw [List.length_append, List.length_singleton] at inside
  by_cases last : i = opened.length
  · subst last
    simpa using next
  · have old : i < opened.length := by omega
    rw [List.getElem_append_left old]
    exact numbered i old

theorem Numbered.length_le {n : Int} (numbered : Numbered counts rows) (nonneg : 0 ≤ n)
    (within : ∀ k row, counts k row → k ≤ n) : rows.length ≤ n := by
  cases rows with
  | nil => exact nonneg
  | cons first rest =>
      have last := within _ _ (numbered rest.length (by simp))
      simpa using last

namespace Blocks

theorem nil : Blocks counts closes [] [] :=
  ⟨[], rfl, nofun, .nil⟩

theorem count (blocks : Blocks counts closes rows opened) (next : counts (opened.length + 1) row) :
    Blocks counts closes (rows ++ [row]) (opened ++ [row]) := by
  obtain ⟨closed, rfl, each, numbered⟩ := blocks
  exact ⟨closed, List.append_assoc _ _ _, each, numbered.snoc next⟩

theorem close (blocks : Blocks counts closes rows opened) (last : closes opened.length row) :
    Blocks counts closes (rows ++ [row]) [] := by
  obtain ⟨closed, rfl, each, numbered⟩ := blocks
  refine ⟨closed ++ [(opened, row)], by simp, fun block inside => ?_, .nil⟩
  rcases List.mem_append.mp inside with old | new
  · exact each block old
  · rw [List.mem_singleton.mp new]
    exact ⟨numbered, last⟩

end Blocks

namespace Engine

/-! ## Counters of other states -/

theorem lookup_erase_ne {name other : String} (apart : other ≠ name) {α : Type}
    (entries : List (String × α)) : (Sorted.erase name entries).lookup other = entries.lookup other := by
  induction entries with
  | nil => rfl
  | cons head rest ih =>
      obtain ⟨k, v⟩ := head
      unfold Sorted.erase at ih ⊢
      by_cases same : k = name
      · have unnamed : (other == k) = false := by simpa [same] using apart
        rw [List.filter_cons_of_neg (by simpa using same), List.lookup_cons, unnamed]
        exact ih
      · rw [List.filter_cons_of_pos (by simpa using same), List.lookup_cons, List.lookup_cons, ih]

/-- A visit that is decided changes no counter of another state. -/
theorem Visit.counters_apart {answers : Question F → Except Raised Value → Prop} {fr : Frame F}
    {s : Stance} {id other : String} {node : State F} {j : Judgement Verdict} {verdict : Verdict}
    (visit : Visit answers fr s other node j) (decided : j.result = .ok verdict) (apart : id ≠ other) :
    j.after.progress.attempts.lookup id = s.progress.attempts.lookup id ∧
      j.after.progress.loopIterations.lookup id = s.progress.loopIterations.lookup id := by
  obtain ⟨q, answer, -, -, reaction⟩ := visit.answered
  have reacts := reacted_cases other s node answer
  rw [← reaction, decided] at reacts
  generalize j.after.progress = p at reacts ⊢
  cases reacts with
  | @settled _ _ _ o status =>
      unfold Progress.settled
      simp only
      split <;> exact ⟨lookup_erase_ne apart _, rfl⟩
  | exhausted failed spent =>
      obtain ⟨-, attempts, rounds⟩ := attempted_attempts failed
      exact ⟨(lookup_erase_ne apart _).trans (congrArg _ attempts), congrArg _ rounds⟩
  | again failed room =>
      obtain ⟨-, attempts, rounds⟩ := attempted_attempts failed
      exact ⟨(lookup_put_ne apart _ _).trans (congrArg _ attempts), congrArg _ rounds⟩
  | reported o => exact ⟨rfl, rfl⟩
  | selected event => exact ⟨rfl, rfl⟩
  | left named => exact ⟨rfl, lookup_erase_ne apart _⟩
  | continued more => exact ⟨rfl, lookup_put_ne apart _ _⟩

/-! ## Counters that number the rows -/

variable {g : Graph F} {id : String} {counter : Progress → Int}

/-- A counter that is at the number of the last counted row of a state. It depends on nothing but the
attempts and the rounds; a visit of the state counts one row more or closes the block, and a visit of
another state leaves the counter alone. What becomes of it at the end of the task does not matter. -/
structure Ruled (g : Graph F) (id : String) (counts closes : Int → Transition → Prop)
    (counter : Progress → Int) : Prop where
  new : ∀ taskId workflowId context, counter (.newTask taskId workflowId context) = 0
  same : ∀ p q : Progress, p.attempts = q.attempts → p.loopIterations = q.loopIterations →
    counter p = counter q
  apart : ∀ {answers : Question F → Except Raised Value → Prop} {fr : Frame F} {s : Stance}
    {other : String} {node : State F} {j : Judgement Verdict} {verdict : Verdict}, fr.graph = g →
    Visit answers fr s other node j → j.result = .ok verdict → id ≠ other →
    counter j.after.progress = counter s.progress
  visited : ∀ {answers : Question F → Except Raised Value → Prop} {fr : Frame F} {s : Stance}
    {node : State F} {j : Judgement Verdict} {verdict : Verdict} {now : Instant} {row : Transition}
    {q : Progress}, fr.graph = g → InShape g s.progress → Visit answers fr s id node j →
    j.result = .ok verdict → landed g id node now j.after.progress verdict = .ok (row.shape, q) →
    (counts (counter s.progress + 1) row ∧ counter j.after.progress = counter s.progress + 1) ∨
      (closes (counter s.progress) row ∧ counter j.after.progress = 0)

/-- The rows that leave a state are in blocks, and while the task goes on the open one is as long as the
counter says. -/
def Booked (id : String) (counts closes : Int → Transition → Prop) (counter : Progress → Int)
    (rows : List Transition) (p : Progress) : Prop :=
  ∃ opened, Blocks counts closes (rows.filter fun row => row.fromId == id) opened ∧
    (p.lifecycle.isTerminal = false → counter p = opened.length)

namespace Ruled

variable (ruled : Ruled g id counts closes counter)

include ruled

/-- The counter is left alone where a visit lands, unless the task ends there. -/
theorem landing {source : String} {node : State F} {now : Instant} {p q : Progress} {verdict : Verdict}
    {shape : Shape} (lands : Landing g source node now p verdict shape q)
    (alive : q.lifecycle.isTerminal = false) : counter q = counter p := by
  cases lands with
  | again reason attempt => rfl
  | left leads found arrives =>
      cases arrives with
      | ended status message => cases status <;> cases alive
      | paused resumes => exact ruled.same _ _ rfl rfl
      | onward work => exact ruled.same _ _ rfl rfl

theorem turn {answers : Question F → Except Raised Value → Prop} {capped : Prop} {fr : Frame F}
    {s after : Stance} {e : Entry} (same : fr.graph = g) (turn : Turn answers capped fr s e after)
    (alive : s.progress.lifecycle.isTerminal = false) (inShape : InShape g s.progress)
    (booked : Booked id counts closes counter rows s.progress) :
    Booked id counts closes counter (rows ++ e.row.toList) after.progress := by
  obtain ⟨opened, blocks, counted⟩ := booked
  have counted := counted alive
  subst same
  cases turn with
  | begin stands work idle =>
      refine ⟨opened, by simpa using blocks, fun _ => ?_⟩
      rw [← counted]
      exact ruled.same _ _ rfl rfl
  | @halt halted status message stands =>
      exact ⟨opened, by simpa using blocks, fun alive' => by cases status <;> cases alive'⟩
  | rest stands resumes =>
      refine ⟨opened, by simpa using blocks, fun _ => ?_⟩
      rw [← counted]
      exact ruled.same _ _ rfl rfl
  | fail doomed => exact ⟨opened, by simpa using blocks, nofun⟩
  | @visit source node j verdict now row q visit decided lands owner fits =>
      obtain ⟨shape, looks⟩ : ∃ shape, row.shape = shape := ⟨_, rfl⟩
      have landing := landing_of_landed lands
      have fromId : row.fromId = source := landing.source
      by_cases here : source = id
      · subst here
        have own : (rows ++ [row]).filter (fun row => row.fromId == source) =
            rows.filter (fun row => row.fromId == source) ++ [row] := by
          simp [List.filter_append, fromId]
        rcases ruled.visited rfl inShape visit decided lands with ⟨next, counter⟩ | ⟨last, counter⟩
        · refine ⟨opened ++ [row], ?_, fun alive' => ?_⟩
          · rw [Option.toList_some, own]
            exact blocks.count (counted ▸ next)
          · rw [ruled.landing landing alive', counter, counted]
            simp
        · refine ⟨[], ?_, fun alive' => ?_⟩
          · rw [Option.toList_some, own]
            exact blocks.close (counted ▸ last)
          · rw [ruled.landing landing alive', counter]
            rfl
      · have other : (rows ++ [row]).filter (fun row => row.fromId == id) =
            rows.filter (fun row => row.fromId == id) := by
          simp [List.filter_append, fromId, here]
        refine ⟨opened, ?_, fun alive' => ?_⟩
        · rw [Option.toList_some, other]
          exact blocks
        · rw [ruled.landing landing alive', ruled.apart rfl visit decided (Ne.symm here), counted]

/-- All career long the rows of a state with a name are in blocks. -/
theorem enduring (valid : g.violations = []) (own : id ≠ "") :
    Enduring g fun rows p => InShape g p ∧ Booked id counts closes counter rows p where
  new taskId workflowId context :=
    ⟨(InShape.lasts valid).new taskId workflowId context, [], .nil, fun _ => ruled.new _ _ _⟩
  prepared active holds := by
    obtain ⟨inShape, opened, blocks, counted⟩ := holds
    refine ⟨(InShape.lasts valid).prepared active inShape, opened, blocks, fun _ => ?_⟩
    rw [← counted active]
    exact ruled.same _ _ rfl rfl
  turn same turn alive holds :=
    ⟨(InShape.lasts valid).turn same turn alive holds.1, ruled.turn same turn alive holds.1 holds.2⟩
  refused := by
    intro answers fr s source node j verdict now row fault q rows same visit decided lands unfit holds
    obtain ⟨inShape, opened, blocks, counted⟩ := holds
    have counted := counted (alive_of_running visit.running)
    have shaped := (InShape.lasts valid).landing same visit decided lands inShape
    subst same
    -- a state with a name would have had its row accepted
    have nameless : source = "" := Decidable.byContradiction fun named => by
      obtain ⟨question, answer, -, -, rfl⟩ := visit.answered
      have fits := check_of_named valid named visit.stands.2
        (reacted_sane inShape.tallied.counted decided) lands
      rw [fits] at unfit
      cases unfit
    refine ⟨shaped, opened, blocks, fun alive => ?_⟩
    rw [ruled.landing (landing_of_landed lands) alive,
      ruled.apart rfl visit decided (nameless ▸ own), counted]
  replied text paused holds := by
    obtain ⟨inShape, opened, blocks, counted⟩ := holds
    refine ⟨(InShape.lasts valid).replied text paused inShape, opened, blocks, fun _ => ?_⟩
    rw [← counted (by rw [paused]; rfl)]
    exact ruled.same _ _ rfl rfl

end Ruled

/-- Rows that pass their check leave states with names. -/
theorem checked_enduring : Enduring g fun rows _ => ∀ row ∈ rows, row.check = .ok () where
  new taskId workflowId context := nofun
  prepared _ holds := holds
  turn same turn _ holds := by
    intro row inside
    rcases List.mem_append.mp inside with old | new
    · exact holds row old
    · cases turn with
      | visit visit decided lands owner fits =>
          rw [List.mem_singleton.mp new]
          exact fits
      | _ => cases new
  refused _ _ _ _ _ holds := holds
  replied _ _ holds := holds

end Engine

open Engine

/-- All career long the rows that leave a ruled state are in blocks, in the ledger of the task. None of
them counts further than the numbers go. -/
theorem Engine.Ruled.blocks {g : Graph F} {id : String} {counter : Progress → Int} {n : Int}
    (ruled : Ruled g id counts closes counter) (valid : g.violations = []) (nonneg : 0 ≤ n)
    (within : ∀ k row, counts k row → k ≤ n) {m : MemoryStore} {p : Progress} (career : Career g m p) :
    ∃ (blocks : List (List Transition × Transition)) (opened : List Transition),
      (m.rowsFor p.taskId).filter (fun row => row.fromId == id) =
        blocks.flatMap (fun block => block.1 ++ [block.2]) ++ opened ∧
      (∀ block ∈ blocks, Numbered counts block.1 ∧ closes block.1.length block.2 ∧ block.1.length ≤ n) ∧
      Numbered counts opened ∧ opened.length ≤ n := by
  have whole : ∃ opened,
      Blocks counts closes ((m.rowsFor p.taskId).filter fun row => row.fromId == id) opened := by
    by_cases own : id = ""
    · have checked := (career.enduring checked_enduring valid).here
      have none_left : (m.rowsFor p.taskId).filter (fun row => row.fromId == id) = [] := by
        refine List.filter_eq_nil_iff.mpr fun row inside => ?_
        have fits := checked row inside
        intro leaves
        simp only [beq_iff_eq, own] at leaves
        rw [Transition.check, if_pos (.inl leaves)] at fits
        cases fits
      rw [none_left]
      exact ⟨[], .nil⟩
    · obtain ⟨-, opened, blocks, -⟩ := (career.enduring (ruled.enduring valid own) valid).here
      exact ⟨opened, blocks⟩
  obtain ⟨opened, blocks, rows, each, numbered⟩ := whole
  exact ⟨blocks, opened, rows, fun block inside =>
    ⟨(each block inside).numbered, (each block inside).closed,
      (each block inside).numbered.length_le nonneg within⟩,
    numbered, numbered.length_le nonneg within⟩

end Tickwork

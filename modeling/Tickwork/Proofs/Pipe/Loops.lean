import Tickwork.Proofs.Pipe.Decisions

/-!
# Loops

A loop keeps one counter while it repeats its body and drops it when it is left, so that the counters of
the loops around it are as they were. By induction on the rounds that are left, a loop preserves the
meaning of its body.
-/

set_option autoImplicit false

namespace Tickwork

variable {F : Type}

/-! ## Counters -/

section

variable {α : Type} {name : String} {entries : List (String × α)}

theorem erase_absent (absent : name ∉ names entries) : Sorted.erase name entries = entries := by
  unfold Sorted.erase
  rw [List.filter_eq_self]
  intro entry inside
  have apart : entry.1 ≠ name := by
    rintro rfl
    exact absent (List.mem_map_of_mem inside)
  simpa using apart

theorem erase_put (value : α) (absent : name ∉ names entries) :
    Sorted.erase name (Sorted.put name value entries) = entries := by
  induction entries with
  | nil => simp [Sorted.put, Sorted.erase]
  | cons head rest ih =>
      obtain ⟨k, v⟩ := head
      simp only [names, List.map_cons, List.mem_cons, not_or] at absent
      obtain ⟨apart, later⟩ := absent
      have gone : Sorted.erase name rest = rest := erase_absent later
      have differs : (k != name) = true := by simpa using Ne.symm apart
      unfold Sorted.put
      rw [if_neg (Ne.symm apart)]
      by_cases before : name < k
      · rw [if_pos before]
        simp only [Sorted.erase, List.filter_cons, bne_self_eq_false, Bool.false_eq_true, if_false,
          differs, if_true]
        exact congrArg _ gone
      · rw [if_neg before]
        simp only [Sorted.erase, List.filter_cons, differs, if_true]
        exact congrArg _ (ih later)

theorem put_put (first second : α) :
    Sorted.put name second (Sorted.put name first entries) = Sorted.put name second entries := by
  induction entries with
  | nil => simp [Sorted.put]
  | cons head rest ih =>
      obtain ⟨k, v⟩ := head
      by_cases same : k = name
      · simp [Sorted.put, same]
      · by_cases before : name < k
        · simp [Sorted.put, same, before]
        · simp [Sorted.put, same, before, ih]

theorem mem_names_put {value : α} {other : String}
    (inside : other ∈ names (Sorted.put name value entries)) :
    other = name ∨ other ∈ names entries := by
  induction entries with
  | nil => exact .inl (by simpa [Sorted.put, names] using inside)
  | cons head rest ih =>
      obtain ⟨k, v⟩ := head
      unfold Sorted.put at inside
      by_cases same : k = name
      · rw [if_pos same] at inside
        exact (List.mem_cons.mp inside).imp_right (List.mem_cons_of_mem _)
      · rw [if_neg same] at inside
        by_cases before : name < k
        · rw [if_pos before] at inside
          exact List.mem_cons.mp inside
        · rw [if_neg before] at inside
          rcases List.mem_cons.mp inside with first | later
          · exact .inr (first ▸ List.mem_cons_self)
          · exact (ih later).imp_right (List.mem_cons_of_mem _)

end

theorem lookup_absent {α : Type} {name : String} {entries : List (String × α)}
    (absent : name ∉ names entries) : entries.lookup name = none := by
  cases found : entries.lookup name with
  | none => rfl
  | some a => exact absurd (lookup_isSome_iff.mp (by rw [found]; rfl)) absent

namespace Pipe

open Engine

section

variable {fn : Functions F} {fr : Frame F} {close : Close} {scene : Scene} {rounds : Counters}
variable {id next body exhausted : String} {p : Progress} {stop : F}

/-- The counters while a loop has begun a number of rounds. -/
def counting (rounds : Counters) (id : String) (count : Nat) : Counters :=
  if count = 0 then rounds else Sorted.put id count rounds

theorem roundsBegun_counting {count : Nat} (absent : id ∉ names rounds)
    (counted : p.loopIterations = counting rounds id count) : p.roundsBegun id = count := by
  unfold Progress.roundsBegun counting at *
  rw [counted]
  by_cases fresh : count = 0
  · rw [if_pos fresh, lookup_absent absent, fresh]
    rfl
  · rw [if_neg fresh, lookup_put]
    rfl

theorem erase_counting {count : Nat} (absent : id ∉ names rounds) :
    Sorted.erase id (counting rounds id count) = rounds := by
  unfold counting
  by_cases fresh : count = 0
  · rw [if_pos fresh]
    exact erase_absent absent
  · rw [if_neg fresh]
    exact erase_put _ absent

theorem put_counting (rounds : Counters) (id : String) (count : Nat) :
    Sorted.put id ((count : Int) + 1) (counting rounds id count) = counting rounds id (count + 1) := by
  unfold counting
  rw [if_neg (Nat.succ_ne_zero count)]
  by_cases fresh : count = 0
  · rw [if_pos fresh, fresh]
    rfl
  · rw [if_neg fresh, put_put]
    rfl

/-! ## A visit of a loop -/

def withRound (p : Progress) (id : String) (count : Int) : Progress :=
  { p with loopIterations := Sorted.put id count p.loopIterations }

theorem Holds.left {count : Nat} {step : Step} (absent : id ∉ names rounds)
    (holds : Holds scene (counting rounds id count) id p) (silent : step.data.getD [] = [])
    (target : String) :
    Holds scene rounds target
      (Progress.moved (Progress.clearIterations p id) step target).unwaited := by
  have cleared : Holds scene rounds id (Progress.clearIterations p id) := by
    refine ⟨holds.running, holds.here, holds.context, holds.kept, holds.attempts, ?_,
      holds.lastError, holds.worded⟩
    simp only [Progress.clearIterations, holds.rounds]
    exact erase_counting absent
  exact cleared.goes silent target

theorem Holds.repeated {count : Nat} {step : Step}
    (holds : Holds scene (counting rounds id count) id p) (silent : step.data.getD [] = [])
    (target : String) :
    Holds scene (counting rounds id (count + 1)) target
      (Progress.moved (withRound p id ((count : Int) + 1)) step target).unwaited := by
  have counted : Holds scene (counting rounds id (count + 1)) id
      (withRound p id ((count : Int) + 1)) := by
    refine ⟨holds.running, holds.here, holds.context, holds.kept, holds.attempts, ?_,
      holds.lastError, holds.worded⟩
    simp only [withRound, holds.rounds]
    exact put_counting rounds id count
  exact counted.goes silent target

theorem Follows.first {result : Result} {rest : Scene → Result} {rounds' : Counters}
    {middle : String} (follows : Follows fn fr close rounds next (result.andThen rest))
    (onward : ∀ scene p, Holds scene rounds' middle p →
      Follows fn fr close rounds next (rest scene) →
      Arrives fn fr close none ⟨p, none⟩ middle scene.pages scene.replies) :
    Follows fn fr close rounds' middle result := by
  cases result with
  | onward scene =>
      intro p holds
      exact onward scene p holds follows
  | rested close' => exact follows

theorem loopReacted_done (id : String) (s : Stance) (bound : Value) {v : Value} (passes : v.truthy = true) :
    loopReacted id bound s (.ok v) =
      ⟨⟨Progress.clearIterations s.progress id, s.feedback⟩, [],
        .ok (.leave (loopStep "done" .loopDone (s.progress.roundsBegun id)))⟩ := by
  simp only [loopReacted, passes, if_true]

theorem loopReacted_exhausted {s : Stance} {n : Int} {v : Value} (stops : v.truthy = false)
    (reached : n ≤ s.progress.roundsBegun id) :
    loopReacted id (.int n) s (.ok v) =
      ⟨⟨Progress.clearIterations s.progress id, s.feedback⟩, [],
        .ok (.leave (loopStep "exhausted" .loopExhausted (s.progress.roundsBegun id)))⟩ := by
  simp only [loopReacted, stops, Bool.false_eq_true, if_false, Value.isReached?_int, reached,
    decide_true]

theorem loopReacted_again {s : Stance} {n : Int} {v : Value} (stops : v.truthy = false)
    (more : ¬ n ≤ s.progress.roundsBegun id) :
    loopReacted id (.int n) s (.ok v) =
      ⟨⟨withRound s.progress id (s.progress.roundsBegun id + 1), s.feedback⟩, [],
        .ok (.leave (loopStep "continue" .loopContinue (s.progress.roundsBegun id + 1)))⟩ := by
  simp only [loopReacted, stops, Bool.false_eq_true, if_false, Value.isReached?_int, more,
    decide_false]
  rfl

/-- One visit of a loop leads on if every later one does. -/
theorem loop_visited {evalBody evalExhausted : Scene → Result} {left count : Nat} {n : Int}
    (named : id ≠ "") (absent : id ∉ names rounds) (blind : Blind fn stop)
    (found : fr.graph.state? id = some (.loop (some body) (.int n)
      ⟨some body, some next, some exhausted⟩ (.code stop .context)))
    (inBody : ∀ scene p, Holds scene (counting rounds id (count + 1)) body p →
      Follows fn fr close (counting rounds id (count + 1)) id (evalBody scene) →
      Arrives fn fr close none ⟨p, none⟩ body scene.pages scene.replies)
    (inExhausted : ∀ scene p, Holds scene rounds exhausted p →
      Follows fn fr close rounds next (evalExhausted scene) →
      Arrives fn fr close none ⟨p, none⟩ exhausted scene.pages scene.replies)
    (later : ∀ left', left = left' + 1 → ∀ scene p,
      Holds scene (counting rounds id (count + 1)) id p →
      Follows fn fr close rounds next
        (repeated (fun context => fn stop context none) id evalBody evalExhausted left' scene) →
      Arrives fn fr close none ⟨p, none⟩ id scene.pages scene.replies)
    (bound : n = count + left) (holds : Holds scene (counting rounds id count) id p)
    (follows : Follows fn fr close rounds next
      (repeated (fun context => fn stop context none) id evalBody evalExhausted left scene)) :
    Arrives fn fr close none ⟨p, none⟩ id scene.pages scene.replies := by
  have begun : p.roundsBegun id = count := roundsBegun_counting absent holds.rounds
  have comes := foreseen_of_question (computed fn) ⟨p, none⟩
    (standsAt_here holds.here named found) rfl holds.running rfl
  have answered : recite (computed fn) (.guard (.code stop .context)
      (Stance.guardInput ⟨p, none⟩ fr id)) = fn stop p.context none := rfl
  rw [answered, blind, holds.context] at comes
  refine .onward found rfl rfl ?_
  unfold repeated at follows
  cases asked : fn stop scene.context none with
  | error e =>
      rw [asked] at comes follows
      exact .of_givenUp scene comes holds.context (congrArg Result.rested follows)
  | ok v =>
      rw [asked] at comes follows
      cases passes : v.truthy with
      | true =>
          have reacts := loopReacted_done id ⟨p, none⟩ (.int n) passes
          simp only [passes, if_true] at follows
          refine .of_leave (comes.trans (congrArg _ reacts)) rfl rfl holds.running ?_
          simp only [List.append_nil]
          exact follows _ (holds.left absent rfl next)
      | false =>
          simp only [passes, Bool.false_eq_true, if_false] at follows
          cases left with
          | zero =>
              have reached : n ≤ p.roundsBegun id := by omega
              have reacts := loopReacted_exhausted (s := ⟨p, none⟩) passes reached
              refine .of_leave (comes.trans (congrArg _ reacts)) rfl rfl holds.running ?_
              simp only [List.append_nil]
              exact inExhausted scene _ (holds.left absent rfl exhausted) follows
          | succ left =>
              have more : ¬ n ≤ p.roundsBegun id := by omega
              have reacts := loopReacted_again (s := ⟨p, none⟩) passes more
              rw [begun] at reacts
              refine .of_leave (comes.trans (congrArg _ reacts)) rfl rfl holds.running ?_
              simp only [List.append_nil]
              refine inBody scene _ (holds.repeated rfl body) ?_
              exact follows.first (later left rfl)

theorem loop_arrives {evalBody evalExhausted : Scene → Result} {left count : Nat} {n : Int}
    (named : id ≠ "") (absent : id ∉ names rounds) (blind : Blind fn stop)
    (found : fr.graph.state? id = some (.loop (some body) (.int n)
      ⟨some body, some next, some exhausted⟩ (.code stop .context)))
    (inBody : ∀ count scene p, Holds scene (counting rounds id (count + 1)) body p →
      Follows fn fr close (counting rounds id (count + 1)) id (evalBody scene) →
      Arrives fn fr close none ⟨p, none⟩ body scene.pages scene.replies)
    (inExhausted : ∀ scene p, Holds scene rounds exhausted p →
      Follows fn fr close rounds next (evalExhausted scene) →
      Arrives fn fr close none ⟨p, none⟩ exhausted scene.pages scene.replies)
    (bound : n = count + left) (holds : Holds scene (counting rounds id count) id p)
    (follows : Follows fn fr close rounds next
      (repeated (fun context => fn stop context none) id evalBody evalExhausted left scene)) :
    Arrives fn fr close none ⟨p, none⟩ id scene.pages scene.replies := by
  -- The rounds that are left go down while the ones that were begun go up to the bound.
  induction left generalizing count scene p with
  | zero =>
      refine loop_visited named absent blind found (inBody count) inExhausted ?_ bound holds follows
      intro left' none_left
      cases none_left
  | succ left ih =>
      refine loop_visited named absent blind found (inBody count) inExhausted ?_ bound holds follows
      intro left' same scene' p' holds' follows'
      cases same
      exact ih (by omega) holds' follows'

theorem unexhausted_arrives {nums : Numbering}
    (found : fr.graph.state? exhausted = some (.terminal .failed (some loopExhaustedMessage)))
    (holds : Holds scene rounds exhausted p)
    (follows : Follows fn fr close rounds next (Node.evalExhausted fn nums none scene)) :
    Arrives fn fr close none ⟨p, none⟩ exhausted scene.pages scene.replies := by
  cases follows
  exact .ended found ⟨rfl, rfl, holds.context, fun _ => rfl, .inl rfl, fun _ => .inr rfl⟩

end

theorem Placed.weaken {g : Graph F} {rounds : Counters} {items : List (String × Item F)}
    {numbers : List Nat} {label : String} {own count : Nat} (placed : Placed g rounds items numbers)
    (apart : own ∉ numbers) :
    Placed g (counting rounds (numbered label own) count) items numbers := by
  refine ⟨placed.laid, placed.nodup, ?_⟩
  intro n inside label' counted
  unfold counting at counted
  by_cases fresh : count = 0
  · rw [if_pos fresh] at counted
    exact placed.apart n inside label' counted
  · rw [if_neg fresh] at counted
    rcases mem_names_put counted with same | other
    · exact apart (numbered_inj same ▸ inside)
    · exact placed.apart n inside label' other

theorem loop_preserves {fn : Functions F} {fr : Frame F} {close : Close} {body : Node F} {stop : F}
    {n : Int} {onExhausted : Option (Node F)} {name : Option String} (blind : Blind fn stop)
    (count : 0 ≤ n) (ihInner : Preserves fn fr close body)
    (other : ∀ node, onExhausted = some node → Entered node)
    (ihOther : ∀ node, onExhausted = some node → Preserves fn fr close node) :
    Preserves fn fr close (.loop body stop (.int n) onExhausted name) := by
  intro nums next rounds scene p named placed holds follows
  have entered : entry nums next (.loop body stop (.int n) onExhausted name) =
      numbered (Node.nameOr "loop" name) (nums []) := rfl
  rw [entered] at holds ⊢
  obtain ⟨before, -⟩ := placed.append
  obtain ⟨placedBody, placedOther⟩ := before.append
  have namedId := numbered_ne_empty (Node.nameOr "loop" name) (nums [])
  have namedExhausted : exhaustedEntry (nums.under 1) (numbered (Node.nameOr "loop" name) (nums []))
      next onExhausted ≠ "" := by
    cases onExhausted with
    | none => exact (Belongs.exhausted (n := nums []) (Node.nameOr "loop" name)).ne_empty
    | some node => exact (other node rfl (nums.under 1) next).named named
  have found : fr.graph.state? (numbered (Node.nameOr "loop" name) (nums [])) = some _ :=
    placed.last (by rw [lowered_loop named namedExhausted]; exact List.mem_singleton.mpr rfl)
  have absent : numbered (Node.nameOr "loop" name) (nums []) ∉ names rounds :=
    placed.apart (nums []) (List.mem_append_right _ (List.mem_singleton.mpr rfl)) _
  have alone : nums [] ∉ serials (nums.under 0) body := by
    intro inside
    have split := (List.nodup_append.mp placed.nodup).2.2
    exact split _ (List.mem_append_left _ inside) _ (List.mem_singleton.mpr rfl) rfl
  have bound : n = ((0 : Nat) : Int) + (n.toNat : Nat) := by omega
  refine loop_arrives namedId absent blind found ?_ ?_ bound holds follows
  · intro count scene p holds follows
    exact ihInner (nums.under 0) _ _ scene p namedId (placedBody.weaken alone) holds follows
  · intro scene p holds follows
    cases onExhausted with
    | none =>
        refine unexhausted_arrives (placedOther.laid _ _ ?_) holds follows
        exact List.mem_singleton.mpr rfl
    | some node =>
        exact ihOther node rfl (nums.under 1) next rounds scene p named placedOther holds follows

end Pipe

end Tickwork

import Tickwork.Proofs.LeasedWrites
import Tickwork.Proofs.Requests

/-!
# Invariants of a host

A property of worlds that each operation of a host preserves is preserved by an advance: the host can be
seen as one over the worlds that have the property, and an advance of that host is an advance of the
host itself. Where the worlds of a host only move forward, every write that was noted was made between
the beginning and the end.
-/

set_option autoImplicit false

namespace Tickwork

variable {F W α : Type} {P : W → Prop}

/-- An operation on the worlds with a property. -/
def Preserves.within {act : StateM W α} (preserves : Preserves P act) : StateM { w // P w } α :=
  fun w => ((act w.1).1, ⟨(act w.1).2, preserves w.1 w.2⟩)

theorem Preserves.sees {act : StateM W α} (preserves : Preserves P act) :
    Sees Subtype.val preserves.within act := fun _ => rfl

/-- Each operation of a host preserves a property of its worlds. -/
structure Host.Preserves (h : Host F W) (P : W → Prop) : Prop where
  behaviour : ∀ f call, Tickwork.Preserves P (h.behaviour f call)
  now : Tickwork.Preserves P h.now
  freshEventId : Tickwork.Preserves P h.freshEventId
  freshTickId : Tickwork.Preserves P h.freshTickId
  sleep : ∀ delay, Tickwork.Preserves P (h.sleep delay)
  checkpoint : ∀ p, Tickwork.Preserves P (h.checkpoint p).run
  record : ∀ t p, Tickwork.Preserves P (h.record t p).run

/-- A host over the worlds with a property that it preserves. -/
def Host.Preserves.within {h : Host F W} (preserves : h.Preserves P) : Host F { w // P w } where
  behaviour f call := (preserves.behaviour f call).within
  now := preserves.now.within
  freshEventId := preserves.freshEventId.within
  freshTickId := preserves.freshTickId.within
  sleep delay := (preserves.sleep delay).within
  checkpoint p := ExceptT.mk (preserves.checkpoint p).within
  record t p := ExceptT.mk (preserves.record t p).within

theorem Host.Preserves.projects {h : Host F W} (preserves : h.Preserves P) :
    preserves.within.Projects h Subtype.val where
  behaviour f call := (preserves.behaviour f call).sees
  now := preserves.now.sees
  freshEventId := preserves.freshEventId.sees
  freshTickId := preserves.freshTickId.sees
  sleep delay := (preserves.sleep delay).sees
  checkpoint p := (preserves.checkpoint p).sees
  record t p := (preserves.record t p).sees

/-- What each operation of a host preserves, an advance preserves. -/
theorem Engine.advance_preserves {h : Host F W} (preserves : h.Preserves P) (budget : Budget)
    (g : Graph F) (task : TaskInfo) (runId : String) (tickId feedback : Option String) (p : Progress) :
    Tickwork.Preserves P (advance h budget g task runId tickId feedback p) := by
  intro w here
  have seen := advance_sees preserves.projects budget g task runId tickId feedback p ⟨w, here⟩
  simp only at seen
  rw [seen]
  exact Subtype.property _

/-! ## Worlds that only move forward -/

/-- A way in which worlds may lie ahead of each other. -/
structure Forward (ahead : W → W → Prop) : Prop where
  refl : ∀ w, ahead w w
  trans : ∀ {a b c : W}, ahead a b → ahead b c → ahead a c

/-- An operation that may fail only moves its world forward. -/
def Work.Moves (ahead : W → W → Prop) (act : ExceptT Fault (StateM W) α) : Prop :=
  ∀ w, ahead w (act.run w).2

namespace Work.Moves

variable {β : Type} {ahead : W → W → Prop}

theorem throw (forward : Forward ahead) (fault : Fault) :
    Moves ahead (throw fault : ExceptT Fault (StateM W) α) := fun w => forward.refl w

theorem get (forward : Forward ahead) : Moves ahead (get : ExceptT Fault (StateM W) W) :=
  fun w => forward.refl w

theorem pure (forward : Forward ahead) (a : α) :
    Moves ahead (Pure.pure a : ExceptT Fault (StateM W) α) := fun w => forward.refl w

theorem bind (forward : Forward ahead) {act : ExceptT Fault (StateM W) α}
    {next : α → ExceptT Fault (StateM W) β} (first : Moves ahead act)
    (later : ∀ a, Moves ahead (next a)) : Moves ahead (act >>= next) := by
  intro w
  have moved := first w
  rw [Work.run_bind]
  cases ran : act.run w with
  | mk result after =>
      rw [ran] at moved
      cases result with
      | ok a => exact forward.trans moved (later a after)
      | error fault => exact moved

theorem ite {condition : Prop} [Decidable condition] {yes no : ExceptT Fault (StateM W) α}
    (first : Moves ahead yes) (second : Moves ahead no) :
    Moves ahead (if condition then yes else no) := by
  split
  · exact first
  · exact second

theorem forM (forward : Forward ahead) {act : β → ExceptT Fault (StateM W) Unit}
    (each : ∀ item, Moves ahead (act item)) (items : List β) : Moves ahead (items.forM act) := by
  induction items with
  | nil => exact .pure forward _
  | cons item rest ih => exact .bind forward (each item) fun _ => ih

end Work.Moves

/-- What holds once work is over holds if it does where the first part fails, and where the rest is over. -/
theorem Work.after_bind {β : Type} {Q : W → Prop} {act : ExceptT Fault (StateM W) α}
    {next : α → ExceptT Fault (StateM W) β} {w : W}
    (broke : ∀ fault after, act.run w = (.error fault, after) → Q after)
    (goesOn : ∀ a after, act.run w = (.ok a, after) → Q ((next a).run after).2) :
    Q ((act >>= next).run w).2 := by
  rw [Work.run_bind]
  cases ran : act.run w with
  | mk result after =>
      cases result with
      | ok a => exact goesOn a after ran
      | error fault => exact broke fault after ran

/-- Rounds that come to an end only move their shop forward if every poll does. -/
theorem Shop.runRounds_moves {ahead : Shop → Shop → Prop} (forward : Forward ahead)
    {perform : Request → StateM Shop Unit} {name : String} {runner : Runner}
    (once : Work.Moves ahead (runOnce perform name runner)) {maxTicks : Option Int} {maxIdlePolls : Int}
    {idle : Nat} {total : Summary} {s : Shop} {r : Except Fault Summary × Shop}
    (ended : runRounds perform name runner maxTicks maxIdlePolls idle total s = some r) : ahead s r.2 := by
  refine runRounds.partial_correctness perform name runner maxTicks maxIdlePolls
    (fun _ _ s r => ahead s r.2) (fun rounds ih idle total s r ended => ?_) idle total s r ended
  have polled := once s
  generalize (runOnce perform name runner).run s = came at polled ended
  obtain ⟨result, after⟩ := came
  split at ended
  · cases ended
    exact forward.refl s
  · split at ended
    · cases ended
      exact forward.refl s
    · cases result with
      | error fault =>
          cases ended
          exact polled
      | ok summary =>
          simp only at ended
          repeat' split at ended
          · cases ended
            exact polled
          · exact forward.trans polled (ih _ _ _ _ ended)
          · exact forward.trans polled (ih _ _ _ _ ended)

/-- So does a loop, if it makes no difference which loops are running. -/
theorem Shop.runLoop_moves {ahead : Shop → Shop → Prop} (forward : Forward ahead)
    (aside : ∀ (s : Shop) (loops : List String), ahead s { s with loops })
    {perform : Request → StateM Shop Unit} {name : String} {runner : Runner}
    (once : Work.Moves ahead (runOnce perform name runner)) (maxTicks : Option Int) (maxIdlePolls : Int) :
    Work.Moves ahead (runLoop perform name runner maxTicks maxIdlePolls) := by
  intro s
  unfold runLoop
  simp only [ExceptT.run, ExceptT.mk]
  cases ended : runRounds perform name runner maxTicks maxIdlePolls 0 .zero
      { s with loops := name :: s.loops } with
  | none => exact forward.refl s
  | some r =>
      have gone := runRounds_moves forward once ended
      exact forward.trans (forward.trans (aside s _) gone) (aside r.2 _)

/-- A host whose operations only move its world forward. -/
def Host.Moves (h : Host F W) (ahead : W → W → Prop) : Prop := ∀ start, h.Preserves (ahead start)

/-- A world that is ahead of a start, with a log whose writes were made in between. -/
structure Between (ahead : W → W → Prop) (start : W) (world : Noted W) : Prop where
  here : ahead start world.1
  wrote : ∀ row p before result after, .wrote row p before result after ∈ world.2 →
    ahead start before ∧ ahead before after ∧ ahead after world.1

section Between

variable {ahead : W → W → Prop} {start : W} {h : Host F W} (forward : Forward ahead)

include forward

theorem Between.on {world : Noted W} {w : W} (between : Between ahead start world)
    (moved : ahead world.1 w) : Between ahead start (w, world.2) where
  here := forward.trans between.here moved
  wrote row p before result after inside :=
    let ⟨first, made, last⟩ := between.wrote row p before result after inside
    ⟨first, made, forward.trans last moved⟩

theorem Between.besideLog {act : StateM W α} (moves : ∀ start, Preserves (ahead start) act) :
    Preserves (Between ahead start) (besideLog act) := fun world between =>
  between.on forward (moves world.1 world.1 (forward.refl world.1))

theorem Between.notedWrite {write : ExceptT Fault (StateM W) Unit} (row : Option Transition)
    (p : Progress) (moves : ∀ start, Preserves (ahead start) write.run) :
    Preserves (Between ahead start) (notedWrite row p write).run := by
  intro world between
  have moved : ahead world.1 (write.run world.1).2 := moves world.1 world.1 (forward.refl world.1)
  have later := between.on forward moved
  refine ⟨later.here, fun row' p' before result after inside => ?_⟩
  rcases List.mem_append.mp inside with earlier | now
  · exact later.wrote row' p' before result after earlier
  · cases List.mem_singleton.mp now
    exact ⟨between.here, moved, forward.refl _⟩

/-- Where the worlds of a host only move forward, every write that is noted is made between the start
and the world that is reached. -/
theorem Host.Moves.noting (moves : h.Moves ahead) (start : W) :
    h.noting.Preserves (Between ahead start) where
  behaviour f call world between := by
    have moved : ahead world.1 (h.behaviour f call world.1).2 :=
      (moves world.1).behaviour f call world.1 (forward.refl world.1)
    have later := between.on forward moved
    refine ⟨later.here, fun row p before result after inside => ?_⟩
    exact later.wrote row p before result after (by simpa [Host.noting] using inside)
  now := .besideLog forward fun w => (moves w).now
  freshEventId := .besideLog forward fun w => (moves w).freshEventId
  freshTickId := .besideLog forward fun w => (moves w).freshTickId
  sleep delay := .besideLog forward fun w => (moves w).sleep delay
  checkpoint p := .notedWrite forward none p fun w => (moves w).checkpoint p
  record t p := .notedWrite forward (some t) p fun w => (moves w).record t p

end Between

end Tickwork

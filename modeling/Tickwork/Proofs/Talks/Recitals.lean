import Tickwork.Proofs.Talks.Exits

/-!
# What bundled callables recite

The callables of the bundled factories answer by what they are called with, and a paused task reads the
reply that it goes on with. With this the questions of a bundled graph are answered by computation.
-/

set_option autoImplicit false

namespace Tickwork

variable {S W : Type}

open Engine Pipe

/-- What the bundled callables answer. No bundled graph asks a script. -/
def Routine.recital : Routine S → Call → Answer
  | .script _ _, call => ⟨.ok .null, call.context⟩
  | .reviewDraft part, call => ⟨ReviewDraft.run part call, call.context⟩
  | .magicEight part, call => ⟨MagicEight.run part call, call.context⟩

/-- The answers of the bundled callables, given without a look at the world. -/
def Routine.soberly : Behaviour (Routine S) W :=
  fun f call => pure (Routine.recital f call)

theorem Routine.soberly_follows : (Routine.soberly (S := S) (W := W)).Follows Routine.recital := by
  intro f call w
  cases f with
  | script site body => cases call <;> rfl
  | reviewDraft part => cases part <;> cases call <;> rfl
  | magicEight part => cases part <;> cases call <;> rfl

/-- Callables of this library recite what a graph asks that names no script. -/
theorem Routine.Plays.recites {h : Host (Routine S) W} {g : Graph (Routine S)} (plays : Routine.Plays h)
    (bundled : ∀ (around : Surroundings S W) (fr : Frame (Routine S)) (id : String)
      (node : State (Routine S)) (s : Stance) (q : Question (Routine S)), (id, node) ∈ g.states →
        question fr id s node = .ok q →
          q.ask (fun f call => besideMemory (Routine.behaviour around f call)) =
            q.ask Routine.soberly) :
    h.overMemory.behaviour.Recites Routine.recital g := by
  obtain ⟨around, plays⟩ := plays
  intro fr id node s q w same found asked
  have behaves : h.overMemory.behaviour =
      fun f call => besideMemory (Routine.behaviour around f call) := by
    simp only [Host.overMemory, plays]
  rw [behaves, bundled around fr id node s q (Graph.mem_of_state? found) asked]
  exact Routine.soberly_follows.ask q w

theorem countIn_of_int {context : Fields} {name : String} {n : Int}
    (there : field name context = .int n) : countIn context name = .ok n := by
  unfold countIn
  rw [there]
  by_cases zero : n = 0
  · subst zero
    rfl
  · have truthy : (Value.int n).truthy = true := by simp [Value.truthy, zero]
    simp only [truthy, if_true]
    rfl

theorem wordsIn_of_str {context : Fields} {name text : String} (there : field name context = .str text)
    (named : text ≠ "") (fallback : String) : wordsIn context name fallback = .ok text := by
  unfold wordsIn
  rw [there]
  simp [Value.truthy, named, Value.sentence, Value.isSpellable, Value.shown]

theorem numeral_of_below {n : Int} (below : n.natAbs < Numeral.digitBound) :
    Value.numeral n = .ok (toString n) := by
  unfold Value.numeral
  rw [Numeral.isSpellable, if_pos (decide_eq_true below)]

theorem le_tenTo {n : Nat} (some_digits : n ≠ 0) : 10 ≤ tenTo n :=
  Nat.le_self_pow some_digits 10

/-- Numbers of one digit can be spelled. -/
theorem one_digit {n : Nat} (few : n < 10) : n < Numeral.digitBound := by
  unfold Numeral.digitBound
  exact Nat.lt_of_lt_of_le few (le_tenTo (by decide))

/-- What a paused task reads that goes on with a reply. -/
theorem Offered.read {p : Progress} {said id : String} {s : Stance} {context : Fields}
    (offered : Offered p said s) (waits : p.Waits id context)
    (unread : Fields.put replyKey .null context = context) :
    ∃ kept, s.progress.On id (Fields.put replyKey kept context) [] [] ∧
      readReply s.feedback (Fields.put replyKey kept context) = replyIn? said := by
  cases offered with
  | handed =>
      refine ⟨.null, unread.symm ▸ waits.begun, ?_⟩
      simp only [readReply, field, Fields.get?_put_self, Option.bind_some]
      cases replyIn? said <;> rfl
  | kept =>
      refine ⟨.str said, waits.replied said, ?_⟩
      simp only [readReply, field, Fields.get?_put_self, Option.bind_none]
      rfl

/-- A host that runs the bundled callables and changes nothing else. -/
def stillHost : Host (Routine Unit) Unit where
  behaviour := Routine.behaviour ⟨fun _ => pure 0, fun _ => pure ()⟩
  now := pure ⟨0⟩
  freshEventId := pure "row"
  freshTickId := pure "tick"
  sleep _ := pure ()
  checkpoint _ := pure ()
  record _ _ := pure ()

theorem stillHost_plays : Routine.Plays stillHost := ⟨_, rfl⟩

/-- The pace of ticks that are not cut. -/
def unhurried : Pace := ⟨⟨200, 1000⟩, "run", none⟩

/-- The pace of ticks of one transition. -/
def hurried : Pace := ⟨⟨1, 1⟩, "run", none⟩

theorem unhurried_paced : unhurried.budget.Paced := ⟨by decide, by decide⟩

theorem hurried_paced : hurried.budget.Paced := ⟨by decide, by decide⟩

end Tickwork

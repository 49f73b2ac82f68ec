import Tickwork.Graph.Basic
import Tickwork.Ledger.Transition

/-!
# Checks that do not end a task

A task ends for good only by a fatal fault. The checks on rows, on delays and on the order of values
fail with other faults, which leave the task as it was written last.
-/

set_option autoImplicit false

namespace Tickwork

def Fault.isFatal : Fault → Bool
  | .fatal _ _ => true
  | _ => false

/-- A check that, if it fails, does not end its task. -/
def Calm {α : Type} (check : Except Fault α) : Prop :=
  ∀ fault, check = .error fault → fault.isFatal = false

theorem Calm.ok {α : Type} (a : α) : Calm (.ok a) := nofun

theorem Calm.bind {α β : Type} {check : Except Fault α} {next : α → Except Fault β}
    (first : Calm check) (rest : ∀ a, Calm (next a)) : Calm (check >>= next) := by
  intro fault broken
  cases found : check with
  | error fault' =>
      rw [found] at broken
      cases broken
      exact first fault found
  | ok a =>
      rw [found] at broken
      exact rest a fault broken

theorem Transition.calm_check (t : Transition) : Calm t.check := by
  intro fault refused
  unfold Transition.check Transition.checkReason at refused
  repeat' split at refused
  all_goals cases refused
  all_goals rfl

namespace Value

mutual

theorem calm_isLess : ∀ a b : Value, Calm (isLess a b)
  | .list xs, .list ys => by
      rw [isLess]
      exact calm_areLess xs ys
  | .str s, b => by cases b <;> simp [isLess, Calm, Fault.isFatal, quantity?]
  | .list xs, .null | .list xs, .bool _ | .list xs, .int _ | .list xs, .float _
  | .list xs, .str _ | .list xs, .dict _ | .list xs, .record _ _ => by
      simp [isLess, Calm, Fault.isFatal, quantity?]
  | .null, b => by cases b <;> simp [isLess, Calm, Fault.isFatal, quantity?]
  | .bool _, b => by cases b <;> simp [isLess, Calm, Fault.isFatal, quantity?]
  | .int _, b => by cases b <;> simp [isLess, Calm, Fault.isFatal, quantity?]
  | .float _, b => by cases b <;> simp [isLess, Calm, Fault.isFatal, quantity?]
  | .dict _, b => by cases b <;> simp [isLess, Calm, Fault.isFatal, quantity?]
  | .record _ _, b => by cases b <;> simp [isLess, Calm, Fault.isFatal, quantity?]

theorem calm_areLess : ∀ xs ys : List Value, Calm (areLess xs ys)
  | _, [] => by simp [areLess, Calm]
  | [], _ :: _ => by simp [areLess, Calm]
  | x :: xs, y :: ys => by
      unfold areLess
      by_cases apart : differs x y = true
      · rw [if_pos apart]
        exact calm_isLess x y
      · rw [if_neg apart]
        exact calm_areLess xs ys

end

end Value

namespace Backoff

theorem calm_ensureRepeatable (isText : Bool) (length n : Nat) :
    Calm (ensureRepeatable isText length n) := by
  intro fault refused
  unfold ensureRepeatable at refused
  repeat' split at refused
  all_goals cases refused
  all_goals rfl

theorem calm_doubled (base : Value) (n : Nat) : Calm (doubled base n) := by
  have repeated : ∀ isText length (v : Value),
      Calm ((fun _ => v) <$> ensureRepeatable isText length n) := by
    intro isText length v
    exact (calm_ensureRepeatable isText length n).bind fun _ => .ok v
  unfold doubled
  split
  · exact repeated true _ _
  · exact repeated false _ _
  · intro fault refused
    repeat' split at refused
    all_goals cases refused
    all_goals rfl

theorem calm_growth (b : Backoff) (attempt : Int) : Calm (b.growth attempt) := by
  unfold growth
  cases b.strategy with
  | fixed => exact .ok _
  | exponential => exact calm_doubled _ _

theorem calm_delayMs (b : Backoff) (attempt : Int) : Calm (b.delayMs attempt) := by
  refine (calm_growth b attempt).bind fun delay => ?_
  by_cases free : b.capMs = .null
  · simp only [free, if_true]
    refine (Calm.ok false).bind fun lower => ?_
    intro fault refused
    split at refused <;> cases refused
    rfl
  · simp only [free, if_false]
    refine (Value.calm_isLess _ _).bind fun lower => ?_
    intro fault refused
    split at refused <;> cases refused
    rfl

end Backoff

theorem RetryPolicy.calm_delaySeconds (policy : RetryPolicy) (attempt : Int) :
    Calm (policy.delaySeconds attempt) := by
  unfold RetryPolicy.delaySeconds
  cases policy.backoff with
  | none => exact .ok _
  | some b =>
      refine (b.calm_delayMs attempt).bind fun delay => ?_
      intro fault refused
      split at refused <;> cases refused
      rfl

end Tickwork

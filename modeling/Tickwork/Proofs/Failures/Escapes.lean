import Tickwork.Proofs.CutRuns
import Tickwork.Proofs.Failures.Blame
import Tickwork.Proofs.Failures.Lives

/-!
# What escapes from an advance

Over a store in memory, in an accepted graph with named states, an advance returns or gives its task up,
and then the task is stored as failed. One fault escapes: the delay before another attempt is doubled,
or given, beyond all doubles. It is met after the failed attempt was recorded, and the task is left as it
was recorded.
-/

set_option autoImplicit false

namespace Tickwork

variable {F W : Type}

/-! ## Delays of policies that can be examined -/

namespace Value

theorem cases_of_quantity {v : Value} {q : Quantity} (number : v.quantity? = some q) :
    (∃ x, v = .bool x) ∨ (∃ n, v = .int n) ∨ ∃ x, v = .float x := by
  cases v with
  | bool x => exact .inl ⟨x, rfl⟩
  | int n => exact .inr (.inl ⟨n, rfl⟩)
  | float x => exact .inr (.inr ⟨x, rfl⟩)
  | _ => cases number

theorem isLess_of_quantity {a b : Value} {p q : Quantity} (left : a.quantity? = some p)
    (right : b.quantity? = some q) : a.isLess b = .ok (p.below q) := by
  rcases cases_of_quantity left with ⟨x, rfl⟩ | ⟨n, rfl⟩ | ⟨x, rfl⟩ <;> simp [isLess, left, right]

/-- What is compared with a number is a number itself. -/
theorem quantity_of_isLess {a b : Value} {q : Quantity} {lower : Bool}
    (right : b.quantity? = some q) (compared : a.isLess b = .ok lower) :
    ∃ p, a.quantity? = some p := by
  cases left : a.quantity? with
  | some p => exact ⟨p, rfl⟩
  | none =>
      rcases cases_of_quantity right with ⟨x, rfl⟩ | ⟨n, rfl⟩ | ⟨x, rfl⟩ <;>
        simp [isLess, left] at compared

theorem quantity_ofQuantity (q : Quantity) : (ofQuantity q).quantity? = some q := by
  cases q <;> rfl

end Value

namespace Backoff

variable {b : Backoff}

/-- The base of a backoff that can be examined is a number, and so is the cap if there is one. -/
theorem numbers_of_ordered (ordered : b.ensureOrdered = .ok ()) :
    (∃ q, b.baseMs.quantity? = some q) ∧
      (b.capMs = .null ∨ ∃ q, b.capMs.quantity? = some q) := by
  unfold ensureOrdered at ordered
  cases based : b.baseMs.isLess (.int 0) with
  | error fault =>
      rw [based] at ordered
      cases ordered
  | ok lower =>
      have base := Value.quantity_of_isLess rfl based
      refine ⟨base, ?_⟩
      obtain ⟨q, base⟩ := base
      by_cases free : b.capMs = .null
      · exact .inl free
      · right
        rw [based] at ordered
        simp only [bind, Except.bind, ne_eq, free, not_false_eq_true, if_true] at ordered
        cases capped : b.capMs.isLess b.baseMs with
        | error fault =>
            rw [capped] at ordered
            cases ordered
        | ok lower' => exact Value.quantity_of_isLess base capped

theorem doubled_of_quantity {base : Value} {q : Quantity} (number : base.quantity? = some q) (n : Nat) :
    doubled base n = (q.doubled? n).elim (.error .tooLarge) fun q => .ok (.ofQuantity q) := by
  rcases Value.cases_of_quantity number with ⟨x, rfl⟩ | ⟨k, rfl⟩ | ⟨x, rfl⟩
  all_goals
    simp only [doubled, number]
    cases q.doubled? n <;> rfl

theorem doubled_of_number {base : Value} {q : Quantity} (number : base.quantity? = some q) (n : Nat) :
    (∃ delay q', doubled base n = .ok delay ∧ delay.quantity? = some q') ∨
      doubled base n = .error .tooLarge := by
  rw [doubled_of_quantity number]
  cases q.doubled? n with
  | some q' => exact .inl ⟨.ofQuantity q', q', rfl, Value.quantity_ofQuantity q'⟩
  | none => exact .inr rfl

theorem growth_of_ordered (ordered : b.ensureOrdered = .ok ()) (attempt : Int) :
    (∃ delay q, b.growth attempt = .ok delay ∧ delay.quantity? = some q) ∨
      b.growth attempt = .error .tooLarge := by
  obtain ⟨⟨q, base⟩, -⟩ := numbers_of_ordered ordered
  unfold growth
  cases b.strategy with
  | fixed => exact .inl ⟨b.baseMs, q, rfl, base⟩
  | exponential => exact doubled_of_number base _

theorem delayMs_of_ordered (ordered : b.ensureOrdered = .ok ()) (attempt : Int) :
    (∃ delay q, b.delayMs attempt = .ok delay ∧ delay.quantity? = some q) ∨
      b.delayMs attempt = .error .tooLarge := by
  obtain ⟨-, cap⟩ := numbers_of_ordered ordered
  have positive : ∀ {v : Value} {q : Quantity}, v.quantity? = some q →
      ∃ r, (if (Quantity.whole 0).below q then v else .int 0).quantity? = some r := by
    intro v q number
    split
    · exact ⟨q, number⟩
    · exact ⟨.whole 0, rfl⟩
  unfold delayMs
  rcases growth_of_ordered ordered attempt with ⟨delay, q, grown, number⟩ | tooLarge
  · left
    rw [grown]
    rcases cap with free | ⟨c, limit⟩
    · simp only [bind, Except.bind, free, if_true, Bool.false_eq_true, if_false, number]
      obtain ⟨r, known⟩ := positive number
      exact ⟨_, r, rfl, known⟩
    · have capped : b.capMs ≠ .null := by
        intro free
        rw [free] at limit
        cases limit
      simp only [bind, Except.bind, capped, if_false, Value.isLess_of_quantity limit number]
      cases c.below q with
      | true =>
          simp only [if_true, limit]
          obtain ⟨r, known⟩ := positive limit
          exact ⟨_, r, rfl, known⟩
      | false =>
          simp only [Bool.false_eq_true, if_false, number]
          obtain ⟨r, known⟩ := positive number
          exact ⟨_, r, rfl, known⟩
  · right
    rw [tooLarge]
    rfl

end Backoff

/-- All that can be wrong with a delay of a policy that can be examined is that it is too large. -/
theorem RetryPolicy.delaySeconds_error {policy : RetryPolicy} {attempt : Int} {fault : Fault}
    (ordered : ∀ b, policy.backoff = some b → b.ensureOrdered = .ok ())
    (refused : policy.delaySeconds attempt = .error fault) : fault = .tooLarge := by
  unfold RetryPolicy.delaySeconds at refused
  cases backoff : policy.backoff with
  | none =>
      rw [backoff] at refused
      cases refused
  | some b =>
      rw [backoff] at refused
      rcases Backoff.delayMs_of_ordered (ordered b backoff) attempt with
        ⟨delay, q, delayed, number⟩ | tooLarge
      · simp only [delayed, bind, Except.bind, number, Option.bind_some] at refused
        split at refused <;> cases refused
        rfl
      · simp only [tooLarge, bind, Except.bind] at refused
        cases refused
        rfl

/-! ## Graphs that can be examined -/

namespace Graph

variable {g : Graph F}

theorem ordered_of_accepted (accepted : g.ensureValid = .ok g) : g.ensureOrdered = .ok () := by
  unfold ensureValid examined at accepted
  cases ordered : g.ensureOrdered with
  | error fault =>
      rw [ordered] at accepted
      cases accepted
  | ok _ => rfl

theorem forM_ok {α ε : Type} {check : α → Except ε Unit} {items : List α} {item : α}
    (all : items.forM check = .ok ()) (inside : item ∈ items) : check item = .ok () := by
  induction items with
  | nil => cases inside
  | cons head rest ih =>
      change (do check head; rest.forM check) = .ok () at all
      cases first : check head with
      | error e =>
          rw [first] at all
          cases all
      | ok _ =>
          rw [first] at all
          rcases List.mem_cons.mp inside with rfl | later
          · exact first
          · exact ih all later

/-- The backoffs of an accepted graph can be examined. -/
theorem backoff_ordered (accepted : g.ensureValid = .ok g) {id : String} {handler : Handler F}
    {routes : ActionRoutes} {policy : RetryPolicy} {b : Backoff}
    (found : g.state? id = some (.action handler routes (some policy)))
    (backoff : policy.backoff = some b) : b.ensureOrdered = .ok () := by
  have here := forM_ok (ordered_of_accepted accepted) (mem_of_state? found)
  obtain ⟨max, maxRetries, backoff'⟩ := policy
  cases backoff
  exact here

end Graph

open Engine

/-- The delay before the attempt that is next at some state is beyond all doubles. -/
def Overlong (g : Graph F) (p : Progress) : Prop :=
  ∃ (id : String) (handler : Handler F) (routes : ActionRoutes) (policy : RetryPolicy) (attempt : Int),
    g.state? id = some (.action handler routes (some policy)) ∧
      p.attempts.lookup id = some attempt ∧ 1 ≤ attempt ∧
      (attemptLimit (some policy)).roomFrom attempt ≠ 0 ∧
      policy.delaySeconds attempt = .error .tooLarge

/-- Attempts and rounds are counted all life long. -/
theorem counted_lasts {g : Graph F} : Lasting g Progress.Counted where
  new taskId workflowId context := ⟨nofun, nofun⟩
  prepared active counted := counted
  turn same turn alive counted := turn.counted counted
  landing same visit decided lands counted := by
    obtain ⟨q, answer, -, -, rfl⟩ := visit.answered
    exact (landing_of_landed lands).counted (reacted_counted _ _ _ _ counted)
  replied text paused counted := counted

/-- A whole number beyond all doubles. -/
def beyondDoubles : Int := .ofNat (twoTo 1100)

/-- A graph with one action, which is tried twice with such a delay in between. -/
def patient : Graph Unit where
  id := "demo"
  start := "work"
  context := []
  states :=
    [("work", .action (.slot (.code () .whole)) ⟨some "finish", some "finish", none⟩
        (some ⟨.int 1, .null, some ⟨.int beyondDoubles, .fixed, .null⟩⟩)),
      ("finish", .terminal .done none)]
  guards := []
  handlers := []

def patientAdvance : (Except Fault Finish × Progress) × (Unit × MemoryStore) :=
  advance failingHost.overMemory (.clamped 25 200) patient ⟨"t1", none, none, none⟩ "run" none none
    (.newTask "t1" "demo" []) ((), .empty)

theorem patient_accepted : patient.ensureValid = .ok patient := by
  have ordered : patient.ensureOrdered = .ok () := by
    simp [patient, Graph.ensureOrdered, Backoff.ensureOrdered, Value.isLess, bind, Except.bind]
    rfl
  have unbroken : patient.violations = [] := by decide +kernel
  simp only [Graph.ensureValid, Graph.examined, ordered, unbroken, bind, Except.bind]

end Tickwork

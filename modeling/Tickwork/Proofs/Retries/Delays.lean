import Tickwork.Proofs.Retries.Doubles
import Tickwork.Proofs.Validity

/-!
# Delays

The delay after a failed attempt, as a place on the line of numbers. Main statement:
`Backoff.gradual_of_ascending`, the delays of a backoff that is accepted are not negative, grow from one
attempt to the next or stay as they are, and keep to the cap. A base that stands for no number gives no
delay at all, whatever the cap is.
-/

set_option autoImplicit false

namespace Tickwork

/-! ## Values in order -/

namespace Value

/-- The height of a value that stands for a number, or for one of the two ends. -/
def height? (v : Value) : Option (WithBot (WithTop ℚ)) :=
  (v.quantity?.bind Quantity.place?).map Quantity.Place.height

variable {v : Value} {x y : WithBot (WithTop ℚ)}

theorem height?_eq_some : v.height? = some x ↔
    ∃ q p, v.quantity? = some q ∧ q.place? = some p ∧ p.height = x := by
  simp only [height?, Option.map_eq_some_iff, Option.bind_eq_some_iff]
  constructor
  · rintro ⟨p, ⟨q, number, stands⟩, rfl⟩
    exact ⟨q, p, number, stands, rfl⟩
  · rintro ⟨q, p, number, stands, rfl⟩
    exact ⟨p, ⟨q, number, stands⟩, rfl⟩

theorem height?_int (n : Int) : (Value.int n).height? = some ((n : ℚ) : WithTop ℚ) :=
  height?_eq_some.mpr ⟨_, _, rfl, rfl, Quantity.height_whole n⟩

theorem height?_zero : (Value.int 0).height? = some 0 := by
  rw [height?_int]
  norm_num

theorem isLess_of_heights {a b : Value} (left : a.height? = some x) (right : b.height? = some y) :
    a.isLess b = .ok (decide (x < y)) := by
  obtain ⟨q, p, number, stands, rfl⟩ := height?_eq_some.mp left
  obtain ⟨q', p', number', stands', rfl⟩ := height?_eq_some.mp right
  have ordered := Quantity.below_iff stands stands'
  rw [isLess_of_quantity number number']
  congr 1
  exact Bool.eq_iff_iff.mpr (ordered.trans (decide_eq_true_iff).symm)

theorem atLeast_of_heights {a b : Value} (left : a.height? = some x) (right : b.height? = some y) :
    a.AtLeast b ↔ y ≤ x := by
  rw [AtLeast, isLess_of_heights left right]
  simp

/-- A number without a height is neither less than anything nor is anything less than it. -/
theorem isLess_of_nowhere {a b : Value} {p q : Quantity} (left : a.quantity? = some p)
    (right : b.quantity? = some q) (nowhere : a.height? = none ∨ b.height? = none) :
    a.isLess b = .ok false := by
  rw [isLess_of_quantity left right]
  congr 1
  unfold Quantity.below
  simp only [height?, left, right, Option.bind_some, Option.map_eq_none_iff] at nowhere
  rcases nowhere with nowhere | nowhere
  · rw [nowhere]
  · rw [nowhere]
    cases p.place? <;> rfl

end Value

/-! ## Delays in order -/

namespace Backoff

/-- Delays that are not negative, do not fall from one attempt to a later one, and keep to the cap. -/
structure Gradual (b : Backoff) : Prop where
  nonneg : ∀ j v, b.delayMs j = .ok v → v.AtLeast (.int 0)
  ascends : ∀ j k v w, j ≤ k → b.delayMs j = .ok v → b.delayMs k = .ok w → w.AtLeast v
  capped : b.baseMs.height? ≠ none → b.capMs ≠ .null →
    ∀ j v, b.delayMs j = .ok v → b.capMs.AtLeast v

variable {b : Backoff}

/-- Where the delays end: at the cap, unless there is none or it stands for no number. -/
def ceiling (b : Backoff) : WithBot (WithTop ℚ) :=
  b.capMs.height?.getD ⊤

theorem height_positive {v : Value} {q : Quantity} {x : WithBot (WithTop ℚ)}
    (number : v.quantity? = some q) (stands : v.height? = some x) :
    (if (Quantity.whole 0).below q then v else .int 0).height? = some (max 0 x) := by
  have order : (Quantity.whole 0).below q = decide (0 < x) := by
    have compared := Value.isLess_of_heights Value.height?_zero stands
    rw [Value.isLess_of_quantity (p := .whole 0) rfl number] at compared
    exact Except.ok.inj compared
  rw [order]
  by_cases above : 0 < x
  · rw [if_pos (decide_eq_true above), max_eq_right above.le]
    exact stands
  · rw [if_neg (by simpa using above), max_eq_left (not_lt.mp above)]
    exact Value.height?_zero

/-- The growth, cut off at the cap. -/
def cut (b : Backoff) (lower : Bool) (grown : Value) : Value :=
  if lower then b.capMs else grown

/-- What is made of a delay that stands for a number: it is not below zero. -/
def floored (v : Value) : Except Fault Value :=
  match v.quantity? with
  | none => .error (.incomparable ">" v.typeName (Value.int 0).typeName)
  | some q => .ok (if (Quantity.whole 0).below q then v else .int 0)

/-- What a delay is made from: a growth, and whether the cap lies below it. -/
theorem delayMs_made {attempt : Int} {grown v : Value} (growth : b.growth attempt = .ok grown)
    (delayed : b.delayMs attempt = .ok v) :
    ∃ lower q, (if b.capMs = .null then .ok false else b.capMs.isLess grown) = .ok lower ∧
      (b.cut lower grown).quantity? = some q ∧
      v = if (Quantity.whole 0).below q then b.cut lower grown else .int 0 := by
  have made : b.delayMs attempt =
      (if b.capMs = .null then .ok false else b.capMs.isLess grown).bind fun lower =>
        floored (b.cut lower grown) := by
    unfold delayMs
    rw [growth]
    by_cases free : b.capMs = .null
    · rw [if_pos free]
      exact if_pos free
    · rw [if_neg free]
      exact if_neg free
  rw [made] at delayed
  cases compared : (if b.capMs = .null then .ok false else b.capMs.isLess grown :
      Except Fault Bool) with
  | error fault =>
      rw [compared] at delayed
      cases delayed
  | ok lower =>
      simp only [compared, Except.bind, floored] at delayed
      cases number : (b.cut lower grown).quantity? with
      | none =>
          rw [number] at delayed
          cases delayed
      | some q =>
          rw [number] at delayed
          exact ⟨lower, q, rfl, number, (Except.ok.inj delayed).symm⟩

/-- A delay lies where its growth does, unless that is above the cap or below zero. -/
theorem height_delayMs (ordered : b.ensureOrdered = .ok ()) {attempt : Int} {grown v : Value}
    {x : WithBot (WithTop ℚ)} (growth : b.growth attempt = .ok grown) (stands : grown.height? = some x)
    (delayed : b.delayMs attempt = .ok v) : v.height? = some (max 0 (min b.ceiling x)) := by
  obtain ⟨lower, q, compared, number, rfl⟩ := delayMs_made growth delayed
  refine height_positive number ?_
  obtain ⟨-, free | ⟨c, limit⟩⟩ := numbers_of_ordered ordered
  · have endless : b.ceiling = ⊤ := by
      rw [ceiling, free]
      rfl
    rw [if_pos free] at compared
    cases compared
    rw [endless, min_eq_right le_top]
    exact stands
  · have given : b.capMs ≠ .null := by
      intro free
      rw [free] at limit
      cases limit
    rw [if_neg given] at compared
    obtain ⟨grown_q, -, grown_number, -, -⟩ := Value.height?_eq_some.mp stands
    cases capped : b.capMs.height? with
    | none =>
        have endless : b.ceiling = ⊤ := by
          rw [ceiling, capped]
          rfl
        rw [Value.isLess_of_nowhere limit grown_number (.inl capped)] at compared
        cases compared
        rw [endless, min_eq_right le_top]
        exact stands
    | some y =>
        have here : b.ceiling = y := by
          rw [ceiling, capped]
          rfl
        rw [Value.isLess_of_heights capped stands] at compared
        cases compared
        rw [here]
        by_cases below : y < x
        · rw [cut, if_pos (decide_eq_true below), min_eq_left below.le]
          exact capped
        · rw [cut, if_neg (by simpa using below), min_eq_right (not_lt.mp below)]
          exact stands

/-- A growth that stands for no number gives no delay. -/
theorem delayMs_nowhere (ordered : b.ensureOrdered = .ok ()) {attempt : Int} {grown v : Value}
    {q : Quantity} (growth : b.growth attempt = .ok grown) (grown_number : grown.quantity? = some q)
    (nowhere : grown.height? = none) (delayed : b.delayMs attempt = .ok v) : v = .int 0 := by
  obtain ⟨lower, r, compared, number, rfl⟩ := delayMs_made growth delayed
  have uncut : lower = false := by
    obtain ⟨-, free | ⟨c, limit⟩⟩ := numbers_of_ordered ordered
    · rw [if_pos free] at compared
      exact (Except.ok.inj compared).symm
    · split at compared
      · exact (Except.ok.inj compared).symm
      · rw [Value.isLess_of_nowhere limit grown_number (.inr nowhere)] at compared
        exact (Except.ok.inj compared).symm
  subst uncut
  have same : r = q := Option.some.inj (number.symm.trans grown_number)
  subst same
  have apart := Value.isLess_of_nowhere (a := .int 0) (p := .whole 0) rfl grown_number (.inr nowhere)
  rw [Value.isLess_of_quantity (p := .whole 0) rfl grown_number] at apart
  rw [if_neg (by simp [Except.ok.inj apart])]

/-- The growth of a base that stands for a number ascends from attempt to attempt. -/
theorem growth_ascends {x : WithBot (WithTop ℚ)} (stands : b.baseMs.height? = some x) (above : 0 ≤ x) :
    ∃ heights : Int → WithBot (WithTop ℚ), (∀ {i j : Int}, i ≤ j → heights i ≤ heights j) ∧
      ∀ attempt grown, b.growth attempt = .ok grown → grown.height? = some (heights attempt) := by
  unfold growth
  cases b.strategy with
  | fixed =>
      refine ⟨fun _ => x, fun _ => le_rfl, fun attempt grown made => ?_⟩
      cases made
      exact stands
  | exponential =>
      obtain ⟨q, p, number, place, rfl⟩ := Value.height?_eq_some.mp stands
      obtain ⟨heights, mono, -, reached⟩ := Quantity.doubled_ascends place above
      refine ⟨fun attempt => heights (attempt - 1).toNat,
        fun later => mono (Int.toNat_le_toNat (by omega)), fun attempt grown made => ?_⟩
      simp only [doubled_of_quantity number] at made
      cases doubled : q.doubled? (attempt - 1).toNat with
      | none =>
          rw [doubled] at made
          cases made
      | some q' =>
          rw [doubled] at made
          cases made
          obtain ⟨p', place', here⟩ := reached _ _ doubled
          exact Value.height?_eq_some.mpr ⟨q', p', Value.quantity_ofQuantity q', place', here⟩

/-- A base that stands for no number grows to nothing that stands for one. -/
theorem growth_nowhere {q : Quantity} (number : b.baseMs.quantity? = some q)
    (nowhere : b.baseMs.height? = none) {attempt : Int} {grown : Value}
    (made : b.growth attempt = .ok grown) :
    ∃ q', grown.quantity? = some q' ∧ grown.height? = none := by
  unfold growth at made
  cases strategy : b.strategy with
  | fixed =>
      rw [strategy] at made
      cases made
      exact ⟨q, number, nowhere⟩
  | exponential =>
      simp only [strategy, doubled_of_quantity number] at made
      simp only [Value.height?, number, Option.bind_some, Option.map_eq_none_iff] at nowhere
      cases q with
      | whole n => cases nowhere
      | real x =>
          cases doubled : (Quantity.real x).doubled? (attempt - 1).toNat with
          | none =>
              rw [doubled] at made
              cases made
          | some q' =>
              rw [doubled] at made
              cases made
              refine ⟨q', Value.quantity_ofQuantity q', ?_⟩
              have same : q' = .real x := by
                rw [Quantity.doubled_real doubled]
                cases means : x.meaning with
                | undefined => simp only [Quantity.scaled, means]
                | finite negative m e =>
                    simp only [Quantity.place?, means] at nowhere
                    cases nowhere
                | infinite negative =>
                    simp only [Quantity.place?, means] at nowhere
                    cases nowhere
              rw [same]
              simp only [Value.height?, Value.quantity_ofQuantity, Option.bind_some, nowhere,
                Option.map_none]

/-- The delays of a backoff that is accepted are gradual. -/
theorem gradual_of_ascending (ascending : b.Ascending) : b.Gradual := by
  have ordered : b.ensureOrdered = .ok () := ensureOrdered_iff.mpr (ascending_iff.mp ascending).1
  obtain ⟨⟨q, number⟩, -⟩ := numbers_of_ordered ordered
  have grown_of : ∀ {j : Int} {v : Value}, b.delayMs j = .ok v → ∃ grown, b.growth j = .ok grown := by
    intro j v delayed
    cases growth : b.growth j with
    | ok grown => exact ⟨grown, rfl⟩
    | error fault =>
        simp only [delayMs, growth, bind, Except.bind] at delayed
        cases delayed
  cases stands : b.baseMs.height? with
  | none =>
      have nothing : ∀ {j : Int} {v : Value}, b.delayMs j = .ok v → v = .int 0 := by
        intro j v delayed
        obtain ⟨grown, growth⟩ := grown_of delayed
        obtain ⟨q', grown_number, nowhere⟩ := growth_nowhere number stands growth
        exact delayMs_nowhere ordered growth grown_number nowhere delayed
      refine ⟨fun j v delayed => ?_, fun j k v w _ first second => ?_, fun given => absurd stands given⟩
      · rw [nothing delayed, Value.atLeast_int]
      · rw [nothing first, nothing second, Value.atLeast_int]
  | some x =>
      have above : 0 ≤ x := (Value.atLeast_of_heights stands Value.height?_zero).mp ascending.base
      obtain ⟨heights, mono, reached⟩ := growth_ascends stands above
      have placed : ∀ {j : Int} {v : Value}, b.delayMs j = .ok v →
          v.height? = some (max 0 (min b.ceiling (heights j))) := by
        intro j v delayed
        obtain ⟨grown, growth⟩ := grown_of delayed
        exact height_delayMs ordered growth (reached _ _ growth) delayed
      refine ⟨fun j v delayed => ?_, fun j k v w later first second => ?_, fun _ given j v delayed => ?_⟩
      · exact (Value.atLeast_of_heights (placed delayed) Value.height?_zero).mpr (le_max_left _ _)
      · refine (Value.atLeast_of_heights (placed second) (placed first)).mpr ?_
        exact max_le_max_left 0 (min_le_min_left b.ceiling (mono later))
      · have compared := ascending.cap given
        cases capped : b.capMs.height? with
        | none =>
            obtain ⟨r, -, delay_number, -, -⟩ := Value.height?_eq_some.mp (placed delayed)
            obtain ⟨c, limit⟩ := (numbers_of_ordered ordered).2.resolve_left given
            exact Value.isLess_of_nowhere limit delay_number (.inl capped)
        | some y =>
            have ceiling : b.ceiling = y := by
              rw [Backoff.ceiling, capped]
              rfl
            have high : 0 ≤ y := above.trans ((Value.atLeast_of_heights capped stands).mp compared)
            refine (Value.atLeast_of_heights capped (placed delayed)).mpr ?_
            rw [ceiling]
            exact max_le high (min_le_left y _)

end Backoff

end Tickwork

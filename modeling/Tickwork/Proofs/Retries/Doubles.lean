import Mathlib.Algebra.Order.Field.Rat
import Mathlib.Order.WithBot
import Mathlib.Tactic.Positivity
import Mathlib.Tactic.Ring
import Tickwork.Number.Quantity

/-!
# Doubling doubles

Places on the line of numbers are ordered as what they stand for: the fractions between two ends. Main
statement: `doubled_ascends`, a number that is not negative grows with each doubling or stays where it
is. A whole number is doubled as it is; a double is doubled without rounding until it is beyond all
doubles, and then it is infinite.
-/

set_option autoImplicit false

namespace Tickwork

theorem twoTo_eq (n : Nat) : twoTo n = 2 ^ n := rfl

theorem twoTo_pos (n : Nat) : 0 < twoTo n := Nat.two_pow_pos n

namespace Binary64

/-! ## The bits of a double -/

theorem toNat_ofParts (negative : Bool) (magnitude : Nat) (small : magnitude < 2 ^ 63) :
    (ofParts negative magnitude).bits.toNat = (if negative then 2 ^ 63 else 0) + magnitude := by
  unfold ofParts
  rw [UInt64.toNat_ofNat']
  cases negative <;> simp [twoTo_eq] <;> omega

/-- What a double stands for, read off an exponent and a fraction that were put together. -/
theorem meaning_ofParts (negative : Bool) (exponent fraction : Nat) (finite : exponent < 2047)
    (short : fraction < 2 ^ 52) :
    (ofParts negative (exponent * 2 ^ 52 + fraction)).meaning =
      if exponent = 0 then .finite negative fraction (-1074)
      else .finite negative (2 ^ 52 + fraction) ((exponent : Int) - 1075) := by
  have bits := toNat_ofParts negative (exponent * 2 ^ 52 + fraction) (by omega)
  have sign : decide (2 ^ 63 ≤ (if negative then 2 ^ 63 else 0) + (exponent * 2 ^ 52 + fraction)) =
      negative := by
    cases negative <;> simp
    omega
  have high : ((if negative then 2 ^ 63 else 0) + (exponent * 2 ^ 52 + fraction)) / 2 ^ 52 % 2048 =
      exponent := by
    cases negative <;> simp <;> omega
  have low : ((if negative then 2 ^ 63 else 0) + (exponent * 2 ^ 52 + fraction)) % 2 ^ 52 =
      fraction := by
    cases negative <;> simp <;> omega
  unfold meaning
  simp only [bits, twoTo_eq, sign, high, low, if_neg (Nat.ne_of_lt finite)]

theorem meaning_infinity (negative : Bool) : (infinity negative).meaning = .infinite negative := by
  cases negative <;> decide

theorem meaning_zero (negative : Bool) : (zero negative).meaning = .finite negative 0 (-1074) := by
  cases negative <;> decide

/-! ## Ratios that are doubles -/

theorem log2_scaled {m : Nat} (some : m ≠ 0) (k : Nat) : (m * 2 ^ k).log2 = m.log2 + k := by
  have positive : 0 < 2 ^ k := Nat.two_pow_pos k
  rw [Nat.log2_eq_iff (Nat.mul_ne_zero some positive.ne')]
  constructor
  · rw [Nat.pow_add]
    exact Nat.mul_le_mul_right _ (Nat.log2_self_le some)
  · rw [Nat.add_right_comm, Nat.pow_add]
    exact Nat.mul_lt_mul_of_pos_right Nat.lt_log2_self positive

theorem roundDiv_exact {d : Nat} (positive : 0 < d) (q : Nat) : roundDiv (d * q) d = q := by
  simp [roundDiv, Nat.mul_div_cancel_left q positive, positive]

/-- A multiple of a power of two is scaled down by a smaller power without a remainder. -/
theorem scaleDown_exact (m : Nat) {e g : Int} (below : g ≤ e) :
    ∃ d, 0 < d ∧ scaleDown (m * twoTo e.toNat) (twoTo (-e).toNat) g =
      (d * (m * 2 ^ (e - g).toNat), d) := by
  unfold scaleDown
  by_cases negative : g < 0
  · refine ⟨twoTo (-e).toNat, twoTo_pos _, ?_⟩
    have powers : e.toNat + (-g).toNat = (-e).toNat + (e - g).toNat := by omega
    rw [if_pos negative, twoTo_eq, twoTo_eq, twoTo_eq, Nat.mul_assoc, ← Nat.pow_add, powers,
      Nat.pow_add]
    congr 1
    ring
  · refine ⟨twoTo (-e).toNat * twoTo g.toNat, Nat.mul_pos (twoTo_pos _) (twoTo_pos _), ?_⟩
    have powers : e.toNat = (-e).toNat + g.toNat + (e - g).toNat := by omega
    rw [if_neg negative, twoTo_eq, twoTo_eq, twoTo_eq, powers, Nat.pow_add, Nat.pow_add]
    congr 1
    have whole : (-(((-e).toNat + g.toNat + (e - g).toNat : Nat) : Int)).toNat = 0 := by omega
    have none_left : (-e).toNat = 0 := by omega
    simp only [none_left]
    ring

/-- The number that `m · 2 ^ e` stands for. -/
def size (m : Nat) (e : Int) : ℚ := m * 2 ^ e

theorem size_shift (m : Nat) {e g : Int} (below : g ≤ e) : size (m * 2 ^ (e - g).toNat) g = size m e := by
  have exponent : ((e - g).toNat : Int) + g = e := by omega
  unfold size
  push_cast
  rw [mul_assoc, ← zpow_natCast (2 : ℚ), ← zpow_add₀ two_ne_zero, exponent]

theorem size_lt {m : Nat} {e : Int} (short : m < 2 ^ 53) (low : e ≤ 971) : size m e < 2 ^ 1024 := by
  have digits : (m : ℚ) < 2 ^ 53 := by exact_mod_cast short
  have exponent : (2 : ℚ) ^ e ≤ 2 ^ 971 := by
    rw [← zpow_natCast (2 : ℚ)]
    exact zpow_le_zpow_right₀ one_le_two low
  have positive : (0 : ℚ) < 2 ^ e := zpow_pos two_pos e
  calc size m e < (2 : ℚ) ^ 53 * 2 ^ e := mul_lt_mul_of_pos_right digits positive
    _ ≤ (2 : ℚ) ^ 53 * 2 ^ 971 := mul_le_mul_of_nonneg_left exponent (by positivity)
    _ = 2 ^ 1024 := (pow_add 2 53 971).symm

theorem le_size {m : Nat} {e : Int} (long : 2 ^ 52 ≤ m) (high : 972 ≤ e) : 2 ^ 1024 ≤ size m e := by
  have digits : (2 : ℚ) ^ 52 ≤ m := by exact_mod_cast long
  have exponent : (2 : ℚ) ^ 972 ≤ 2 ^ e := by
    rw [← zpow_natCast (2 : ℚ)]
    exact zpow_le_zpow_right₀ one_le_two high
  calc (2 : ℚ) ^ 1024 = 2 ^ 52 * 2 ^ 972 := pow_add 2 52 972
    _ ≤ m * 2 ^ e := mul_le_mul digits exponent (by positivity) (by positivity)

/-- A multiple of a power of two that is short enough is rounded to itself: `q` digits at the exponent
`g`, of which there are fifty-three or as many as the least exponent leaves. -/
theorem ofRatio_scaled (negative : Bool) {m : Nat} {e : Int} (some : m ≠ 0) (short : m < 2 ^ 53)
    (normal : -1074 ≤ e) :
    ∃ (q : Nat) (g : Int), size q g = size m e ∧ q < 2 ^ 53 ∧ (q < 2 ^ 52 → g = -1074) ∧ -1074 ≤ g ∧
      ofRatio negative (m * twoTo e.toNat) (twoTo (-e).toNat) =
        if q < twoTo 52 then ofParts negative q
        else if 971 < g then infinity negative
        else ofParts negative ((g + 1075).toNat * twoTo 52 + (q - twoTo 52)) := by
  have length : m.log2 < 53 := (Nat.log2_lt some).mpr short
  have least : 2 ^ 52 ≤ m * 2 ^ (52 - m.log2) := by
    have split : (2 : Nat) ^ 52 = 2 ^ m.log2 * 2 ^ (52 - m.log2) := by
      rw [← Nat.pow_add]
      congr 1
      omega
    rw [split]
    exact Nat.mul_le_mul_right _ (Nat.log2_self_le some)
  have nonzero : ¬ (m * twoTo e.toNat = 0 ∨ twoTo (-e).toNat = 0) := by
    have first := twoTo_pos e.toNat
    have second := twoTo_pos (-e).toNat
    simp only [Nat.mul_eq_zero]
    omega
  -- the exponent for fifty-three digits, and the one that a double may have
  obtain ⟨guess, guessed⟩ : ∃ guess : Int, guess = m.log2 + e - 52 := ⟨_, rfl⟩
  obtain ⟨g, chosen⟩ : ∃ g : Int, g = max guess (-1074) := ⟨_, rfl⟩
  obtain ⟨d, positive, down⟩ := scaleDown_exact m (e := e) (g := guess) (by omega)
  obtain ⟨d', positive', down'⟩ := scaleDown_exact m (e := e) (g := g) (by omega)
  obtain ⟨q, quotient⟩ : ∃ q, q = m * 2 ^ (e - g).toNat := ⟨_, rfl⟩
  have logs : ((m * twoTo e.toNat).log2 : Int) - (twoTo (-e).toNat).log2 - 52 = guess := by
    rw [twoTo_eq, twoTo_eq, log2_scaled some, Nat.log2_two_pow]
    omega
  -- the two powers are named, or else checking the proof would count up to them
  obtain ⟨c, fifty_two⟩ : ∃ c, c = twoTo 52 := ⟨_, rfl⟩
  obtain ⟨c', fifty_three⟩ : ∃ c', c' = twoTo 53 := ⟨_, rfl⟩
  have full : ¬ d * (m * 2 ^ (e - guess).toNat) < d * c := by
    have exponent : (e - guess).toNat = 52 - m.log2 := by omega
    rw [exponent, fifty_two, twoTo_eq]
    exact Nat.not_lt.mpr (Nat.mul_le_mul_left d least)
  have rounded : roundDiv (d' * q) d' = q := roundDiv_exact positive' q
  have room : (e - g).toNat ≤ 52 - m.log2 := by omega
  have bounded : q < 2 ^ 53 := by
    have split : (2 : Nat) ^ 53 = 2 ^ (m.log2 + 1) * 2 ^ (52 - m.log2) := by
      rw [← Nat.pow_add]
      congr 1
      omega
    rw [quotient, split]
    exact Nat.mul_lt_mul_of_lt_of_le Nat.lt_log2_self (Nat.pow_le_pow_right Nat.two_pos room)
      (Nat.two_pow_pos _)
  have tight : q < 2 ^ 52 → g = -1074 := by
    intro small
    by_contra apart
    have exponent : (e - g).toNat = 52 - m.log2 := by omega
    rw [quotient, exponent] at small
    omega
  have same : size q g = size m e := by
    rw [quotient]
    exact size_shift m (by omega)
  have carried : q ≠ c' := by
    rw [fifty_three, twoTo_eq]
    exact Nat.ne_of_lt bounded
  refine ⟨q, g, same, bounded, tight, by omega, ?_⟩
  unfold ofRatio
  rw [if_neg nonzero, ← fifty_two, ← fifty_three]
  simp only [logs, down, if_neg full, ← chosen, down', ← quotient, rounded, if_neg carried]

/-- A multiple of a power of two that is short enough is the double of its own size, or it is beyond all
doubles. -/
theorem meaning_ofRatio (negative : Bool) {m : Nat} {e : Int} (some : m ≠ 0) (short : m < 2 ^ 53)
    (normal : -1074 ≤ e) :
    ((ofRatio negative (m * twoTo e.toNat) (twoTo (-e).toNat)).meaning = .infinite negative ∧
      2 ^ 1024 ≤ size m e) ∨
    ∃ m' e', (ofRatio negative (m * twoTo e.toNat) (twoTo (-e).toNat)).meaning = .finite negative m' e' ∧
      size m' e' = size m e ∧ size m e < 2 ^ 1024 := by
  obtain ⟨q, g, same, bounded, tight, least, made⟩ := ofRatio_scaled negative some short normal
  rw [made, ← same]
  rw [twoTo_eq]
  by_cases small : q < 2 ^ 52
  · have means := meaning_ofParts negative 0 q (by omega) small
    rw [Nat.zero_mul, Nat.zero_add, if_pos rfl] at means
    rw [if_pos small]
    refine .inr ⟨q, -1074, means, ?_, size_lt bounded (by have := tight small; omega)⟩
    rw [tight small]
  · rw [if_neg small]
    have enough : 2 ^ 52 ≤ q := Nat.not_lt.mp small
    by_cases beyond : 971 < g
    · rw [if_pos beyond]
      exact .inl ⟨meaning_infinity negative, le_size enough (by omega)⟩
    · rw [if_neg beyond]
      have means := meaning_ofParts negative (g + 1075).toNat (q - 2 ^ 52) (by omega) (by omega)
      have digits : 2 ^ 52 + (q - 2 ^ 52) = q := Nat.add_sub_cancel' enough
      have exponent : (((g + 1075).toNat : Nat) : Int) - 1075 = g := by omega
      rw [if_neg (by omega), digits, exponent] at means
      exact .inr ⟨q, g, means, rfl, size_lt bounded (by omega)⟩

/-- What a double may stand for: fifty-three digits at most, at the least exponent or above it. -/
theorem meaning_bounds {x : Binary64} {negative : Bool} {m : Nat} {e : Int}
    (means : x.meaning = .finite negative m e) : m < 2 ^ 53 ∧ -1074 ≤ e := by
  have short : x.bits.toNat % twoTo 52 < 2 ^ 52 := by
    rw [twoTo_eq]
    exact Nat.mod_lt _ (Nat.two_pow_pos 52)
  unfold meaning at means
  simp only at means
  generalize x.bits.toNat % twoTo 52 = fraction at short means
  split at means
  · split at means <;> cases means
  · split at means <;> cases means
    · omega
    · refine ⟨?_, by omega⟩
      rw [twoTo_eq]
      omega

end Binary64

/-! ## Places in order -/

namespace Quantity

namespace Place

/-- The number that a place stands for, or the end that it is. -/
def height : Place → WithBot (WithTop ℚ)
  | .bottom => ⊥
  | .fraction num den => ((num / den : ℚ) : WithTop ℚ)
  | .top => (⊤ : WithTop ℚ)

/-- A fraction of something that is not zero. -/
def Proper : Place → Prop
  | .fraction _ den => 0 < den
  | .bottom | .top => True

theorem below_iff {p q : Place} (proper : p.Proper) (proper' : q.Proper) :
    p.below q = true ↔ p.height < q.height := by
  match p, q with
  | .fraction a b, .fraction c d =>
      have left : (0 : ℚ) < b := Nat.cast_pos.mpr proper
      have right : (0 : ℚ) < d := Nat.cast_pos.mpr proper'
      simp only [below, height, decide_eq_true_eq, WithBot.coe_lt_coe, WithTop.coe_lt_coe,
        div_lt_div_iff₀ left right]
      exact_mod_cast Iff.rfl
  | .fraction _ _, .top =>
      simp only [below, height, WithBot.coe_lt_coe, WithTop.coe_lt_top]
  | .bottom, .fraction _ _ | .bottom, .top => simp [below, height]
  | .bottom, .bottom | .fraction _ _, .bottom => simp [below, height]
  | .top, .bottom | .top, .fraction _ _ | .top, .top => simp [below, height]

end Place

theorem proper_of_place? {q : Quantity} {p : Place} (stands : q.place? = some p) : p.Proper := by
  cases q with
  | whole n =>
      cases stands
      exact Nat.one_pos
  | real x =>
      cases means : x.meaning with
      | finite negative m e =>
          simp only [place?, means] at stands
          cases stands
          exact twoTo_pos _
      | infinite negative =>
          simp only [place?, means] at stands
          cases negative <;> cases stands <;> trivial
      | undefined =>
          simp only [place?, means] at stands
          cases stands

theorem below_iff {a b : Quantity} {p q : Place} (stands : a.place? = some p)
    (stands' : b.place? = some q) : a.below b = true ↔ p.height < q.height := by
  unfold below
  simp only [stands, stands']
  exact Place.below_iff (proper_of_place? stands) (proper_of_place? stands')

theorem height_finite (m : Nat) (e : Int) :
    (Place.fraction (m * twoTo e.toNat) (twoTo (-e).toNat)).height =
      ((Binary64.size m e : ℚ) : WithTop ℚ) := by
  have split : (2 : ℚ) ^ e.toNat = 2 ^ e * 2 ^ (-e).toNat := by
    rw [← zpow_natCast (2 : ℚ), ← zpow_natCast (2 : ℚ), ← zpow_add₀ two_ne_zero]
    congr 1
    omega
  have nonzero : ((2 : ℚ) ^ (-e).toNat) ≠ 0 := by positivity
  have value : ((m * twoTo e.toNat : Int) : ℚ) / (twoTo (-e).toNat : ℚ) = Binary64.size m e := by
    unfold Binary64.size
    rw [twoTo_eq, twoTo_eq]
    push_cast
    rw [split, ← mul_assoc, mul_div_cancel_right₀ _ nonzero]
  exact congrArg (fun r : ℚ => ((r : WithTop ℚ) : WithBot (WithTop ℚ))) value

theorem height_zero (den : Nat) : (Place.fraction 0 den).height = 0 := by
  have value : ((0 : Int) : ℚ) / (den : ℚ) = 0 := by rw [Int.cast_zero, zero_div]
  exact congrArg (fun r : ℚ => ((r : WithTop ℚ) : WithBot (WithTop ℚ))) value

theorem height_negative {m : Nat} (some : m ≠ 0) (e : Int) :
    (Place.fraction (-(m * twoTo e.toNat)) (twoTo (-e).toNat)).height < 0 := by
  have digits : (0 : ℚ) < m := Nat.cast_pos.mpr (Nat.pos_of_ne_zero some)
  have power : (0 : ℚ) < twoTo e.toNat := Nat.cast_pos.mpr (twoTo_pos _)
  have bottom : (0 : ℚ) < twoTo (-e).toNat := Nat.cast_pos.mpr (twoTo_pos _)
  have value : ((-(m * twoTo e.toNat) : Int) : ℚ) / (twoTo (-e).toNat : ℚ) < 0 := by
    push_cast
    exact div_neg_of_neg_of_pos (neg_lt_zero.mpr (mul_pos digits power)) bottom
  exact WithBot.coe_lt_coe.mpr (WithTop.coe_lt_coe.mpr value)

/-- Where `m · 2 ^ (e + n)` lies among the doubles: beyond all of them at the upper end. -/
def scaledHeight (m : Nat) (e : Int) (n : Nat) : WithTop ℚ :=
  if Binary64.size m (e + n) < 2 ^ 1024 then (Binary64.size m (e + n) : ℚ) else ⊤

theorem scaledHeight_mono (m : Nat) (e : Int) : Monotone (scaledHeight m e) := by
  intro i j later
  have grown : Binary64.size m (e + i) ≤ Binary64.size m (e + j) := by
    unfold Binary64.size
    gcongr
    exact one_le_two
  unfold scaledHeight
  by_cases small : Binary64.size m (e + j) < 2 ^ 1024
  · rw [if_pos (grown.trans_lt small), if_pos small]
    exact_mod_cast grown
  · rw [if_neg small]
    exact le_top

theorem scaledHeight_nonneg (m : Nat) (e : Int) (n : Nat) : 0 ≤ scaledHeight m e n := by
  have positive : 0 ≤ Binary64.size m (e + n) :=
    mul_nonneg (Nat.cast_nonneg m) (zpow_nonneg zero_le_two _)
  unfold scaledHeight
  split
  · exact_mod_cast positive
  · exact le_top

/-- A positive double that is scaled lies at its size times the power of two. -/
theorem height_scaled {x : Binary64} {m : Nat} {e : Int} (means : x.meaning = .finite false m e)
    (some_digits : m ≠ 0) (n : Nat) :
    ∃ p, (real (scaled x n)).place? = some p ∧ p.height = scaledHeight m e n := by
  unfold scaledHeight
  obtain ⟨short, normal⟩ := Binary64.meaning_bounds means
  obtain ⟨y, scaled_to⟩ : ∃ y, scaled x n = y := ⟨_, rfl⟩
  have made := scaled_to
  unfold scaled at made
  simp only [means] at made
  rcases Binary64.meaning_ofRatio false some_digits short (e := e + n) (by omega) with
    ⟨endless, large⟩ | ⟨m', e', finite, same, small⟩
  · rw [made] at endless
    refine ⟨.top, ?_, ?_⟩
    · rw [scaled_to]
      simp only [place?, endless]
      rfl
    · rw [if_neg (not_lt.mpr large)]
      rfl
  · rw [made] at finite
    refine ⟨.fraction (m' * twoTo e'.toNat) (twoTo (-e').toNat), ?_, ?_⟩
    · rw [scaled_to]
      simp only [place?, finite]
      rfl
    · rw [if_pos small, height_finite, same]

theorem doubled_real {x : Binary64} {n : Nat} {a : Quantity} (made : (real x).doubled? n = some a) :
    a = real (scaled x n) := by
  simp only [doubled?] at made
  split at made
  · exact (Option.some.inj made).symm
  · exact nomatch made

theorem height_whole (n : Int) : (Place.fraction n 1).height = ((n : ℚ) : WithTop ℚ) := by
  simp [Place.height]

/-- What is not negative ascends as it is doubled: one ascending sequence has all its doublings, as far
as they are made. -/
theorem doubled_ascends {q : Quantity} {p : Place} (stands : q.place? = some p) (above : 0 ≤ p.height) :
    ∃ heights : Nat → WithBot (WithTop ℚ), Monotone heights ∧ 0 ≤ heights 0 ∧
      ∀ n a, q.doubled? n = some a → ∃ p, a.place? = some p ∧ p.height = heights n := by
  cases q with
  | whole k =>
      cases stands
      rw [height_whole] at above
      have positive : (0 : ℚ) ≤ k := by exact_mod_cast above
      refine ⟨fun n => ((k * 2 ^ n : ℚ) : WithTop ℚ), ?_, ?_, ?_⟩
      · intro i j later
        have grown : (k : ℚ) * 2 ^ i ≤ k * 2 ^ j :=
          mul_le_mul_of_nonneg_left (pow_le_pow_right₀ one_le_two later) positive
        exact WithBot.coe_le_coe.mpr (WithTop.coe_le_coe.mpr grown)
      · simpa using above
      · intro n a made
        cases made
        refine ⟨_, rfl, ?_⟩
        rw [height_whole, twoTo_eq]
        push_cast
        rfl
  | real x =>
      cases means : x.meaning with
      | undefined =>
          simp only [place?, means] at stands
          cases stands
      | infinite negative =>
          refine ⟨fun _ => p.height, monotone_const, above, fun n a made => ⟨p, ?_, rfl⟩⟩
          rw [doubled_real made]
          have same : scaled x n = x := by simp only [scaled, means]
          rw [same]
          exact stands
      | finite negative m e =>
          by_cases zero : m = 0
          · refine ⟨fun _ => 0, monotone_const, le_rfl, fun n a made => ?_⟩
            have same : scaled x n = Binary64.zero negative := by
              simp [scaled, means, Binary64.ofRatio, zero]
            rw [doubled_real made, same]
            refine ⟨.fraction 0 (twoTo 1074), ?_, height_zero _⟩
            simp only [place?, Binary64.meaning_zero]
            cases negative <;> rfl
          · cases negative with
            | true =>
                simp only [place?, means, if_true] at stands
                cases stands
                exact absurd (height_negative zero e) (not_lt.mpr above)
            | false =>
                refine ⟨fun n => scaledHeight m e n,
                  fun i j later => WithBot.coe_le_coe.mpr (scaledHeight_mono m e later),
                  WithBot.coe_le_coe.mpr (scaledHeight_nonneg m e 0), fun n a made => ?_⟩
                rw [doubled_real made]
                exact height_scaled means zero n

end Quantity

end Tickwork

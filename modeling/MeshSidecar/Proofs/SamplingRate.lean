import Mathlib.Algebra.Order.Field.Power
import Mathlib.Data.Int.Log
import Mathlib.Data.Rat.Floor
import Mathlib.Tactic.Linarith
import Mathlib.Tactic.NormNum
import Mathlib.Tactic.Positivity
import MeshSidecar.Proofs.Text.Decimal
import MeshSidecar.SamplingRate

namespace MeshSidecar

/-!
# Which texts are sampling rates

A sampling rate is a number that rounds into the interval from zero to one.  The check does
not round.  It compares the number as it is written with the last numbers on either side that
round into the interval, and does not even multiply out a number that is far from both.
Rounding to the even neighbour brings the interval to these bounds, since zero and one are
even where a number is halfway to the next.
-/

namespace Text

/-- The number that a literal stands for, if it stands for one. -/
def Literal.value? : Literal → Option ℚ
  | .finite negative mantissa exponent =>
      let size : ℚ := mantissa * 10 ^ exponent
      some (if negative then -size else size)
  | .infinite | .undefined => none

/-- A number has too few digits to reach the power of ten with as many zeros. -/
theorem lt_pow_length_digits (n : Nat) : n < 10 ^ (digits n).length := by
  induction n using Nat.strongRecOn with
  | _ n ih =>
      by_cases small : n < 10
      · simpa [digits_of_lt_ten small] using small
      · have quotient := ih (n / 10) (by omega)
        rw [digits_of_ten_le (Nat.le_of_not_lt small), List.length_append, List.length_singleton,
          Nat.pow_succ]
        omega

theorem pow_length_digits_le {n : Nat} (some : n ≠ 0) : 10 ^ (digits n).length ≤ 10 * n := by
  induction n using Nat.strongRecOn with
  | _ n ih =>
      by_cases small : n < 10
      · rw [digits_of_lt_ten small, List.length_singleton]
        omega
      · have quotient := ih (n / 10) (by omega) (by omega)
        rw [digits_of_ten_le (Nat.le_of_not_lt small), List.length_append, List.length_singleton,
          Nat.pow_succ]
        omega

end Text

namespace SamplingRate

/-- The whole number next to a number.  Half way between two it is the even one. -/
def nearest (value : ℚ) : ℤ :=
  let below := ⌊value⌋
  if value - below < 1 / 2 then below
  else if 1 / 2 < value - below then below + 1
  else if below % 2 = 0 then below
  else below + 1

/-- The power of two that the last binary place of a number counts.  There are 53 places from
the first that is not empty, but none beyond 1074 places behind the point. -/
def lastPlace (value : ℚ) : ℤ :=
  max (Int.log 2 |value| - 52) (-1074)

/-- The binary floating-point number of 64 bits next to a number.  The numbers go on here
where those of 64 bits end with infinity. -/
def rounded (value : ℚ) : ℚ :=
  nearest (value / 2 ^ lastPlace value) * 2 ^ lastPlace value

/-- The text without the blanks around it reads as a number that rounds into the interval
from zero to one. -/
def IsRate (rate : String) : Prop :=
  ∃ number value, Text.Literal.read? (Text.trim rate.toList) = some number ∧
    number.value? = some value ∧ 0 ≤ rounded value ∧ rounded value ≤ 1

/-! ## Rounding -/

section Rounding

/-- No whole number is nearer, and of two that are as near the even one is taken. -/
theorem nearest_spec (value : ℚ) : value ≤ nearest value + 1 / 2 ∧ nearest value - 1 / 2 ≤ value ∧
    (value = nearest value + 1 / 2 ∨ value = nearest value - 1 / 2 → nearest value % 2 = 0) := by
  have low := Int.floor_le value
  have high := Int.lt_floor_add_one value
  simp only [nearest]
  generalize ⌊value⌋ = below at low high
  split_ifs with down up even
  · refine ⟨by linarith, by linarith, ?_⟩
    rintro (tie | tie) <;> linarith
  · push_cast
    refine ⟨by linarith, by linarith, ?_⟩
    rintro (tie | tie) <;> linarith
  · exact ⟨by linarith, by linarith, fun _ => even⟩
  · push_cast
    exact ⟨by linarith, by linarith, fun _ => by omega⟩

/-- Half way above an even number, rounding goes down to it. -/
theorem nearest_le_iff {value : ℚ} {whole : ℤ} (even : whole % 2 = 0) :
    nearest value ≤ whole ↔ value ≤ whole + 1 / 2 := by
  rcases nearest_spec value with ⟨above, below, ties⟩
  constructor
  · intro most
    have cast : (nearest value : ℚ) ≤ whole := by exact_mod_cast most
    linarith
  · intro most
    by_contra more
    have next : whole + 1 ≤ nearest value := by omega
    have cast : (whole : ℚ) + 1 ≤ nearest value := by exact_mod_cast next
    have same : (nearest value : ℚ) = whole + 1 := by linarith
    have isNext : nearest value = whole + 1 := by exact_mod_cast same
    have tie := ties (Or.inr (by linarith))
    omega

/-- Half way below an even number, rounding goes up to it. -/
theorem le_nearest_iff {value : ℚ} {whole : ℤ} (even : whole % 2 = 0) :
    whole ≤ nearest value ↔ whole - 1 / 2 ≤ value := by
  rcases nearest_spec value with ⟨above, below, ties⟩
  constructor
  · intro least
    have cast : (whole : ℚ) ≤ nearest value := by exact_mod_cast least
    linarith
  · intro least
    by_contra less
    have next : nearest value + 1 ≤ whole := by omega
    have cast : (nearest value : ℚ) + 1 ≤ whole := by exact_mod_cast next
    have same : (nearest value : ℚ) + 1 = whole := by linarith
    have isNext : nearest value + 1 = whole := by exact_mod_cast same
    have tie := ties (Or.inl (by linarith))
    omega

variable {value : ℚ}

theorem rounded_le_iff (value : ℚ) {whole : ℤ} (even : whole % 2 = 0) :
    rounded value ≤ whole * 2 ^ lastPlace value ↔
      value ≤ (whole + 1 / 2) * 2 ^ lastPlace value := by
  have unit : (0 : ℚ) < 2 ^ lastPlace value := by positivity
  rw [rounded, mul_le_mul_iff_left₀ unit, Int.cast_le, nearest_le_iff even, div_le_iff₀ unit]

theorem le_rounded_iff (value : ℚ) {whole : ℤ} (even : whole % 2 = 0) :
    whole * 2 ^ lastPlace value ≤ rounded value ↔
      (whole - 1 / 2) * 2 ^ lastPlace value ≤ value := by
  have unit : (0 : ℚ) < 2 ^ lastPlace value := by positivity
  rw [rounded, mul_le_mul_iff_left₀ unit, Int.cast_le, le_nearest_iff even, le_div_iff₀ unit]

theorem log_lt_iff (some : value ≠ 0) (place : ℤ) :
    Int.log 2 |value| < place ↔ |value| < 2 ^ place := by
  simpa using (Int.lt_zpow_iff_log_lt (b := 2) one_lt_two (abs_pos.mpr some)).symm

/-- Where the places are not cut off, the first of the 53 is not empty. -/
theorem le_abs_of_lastPlace (some : value ≠ 0) (whole : -1074 < lastPlace value) :
    2 ^ (lastPlace value + 52) ≤ |value| := by
  rw [← not_lt, ← log_lt_iff some]
  rw [lastPlace] at whole ⊢
  omega

/-- Half the way from zero down to the next number. -/
def least : ℚ :=
  -(1 / 2) * 2 ^ (-1074 : ℤ)

/-- Half the way from one up to the next number. -/
def greatest : ℚ :=
  1 + 1 / 2 * 2 ^ (-52 : ℤ)

theorem least_lt_zero : least < 0 :=
  mul_neg_of_neg_of_pos (by norm_num) (by positivity)

theorem one_lt_greatest : 1 < greatest :=
  lt_add_of_pos_right 1 (by positivity)

theorem zero_le_rounded_iff : 0 ≤ rounded value ↔ least ≤ value := by
  have unit : (0 : ℚ) < 2 ^ lastPlace value := by positivity
  have bound := le_rounded_iff value (rfl : (0 : ℤ) % 2 = 0)
  rw [Int.cast_zero, zero_mul, zero_sub] at bound
  rw [bound]
  by_cases cut : lastPlace value = -1074
  · rw [least, ← cut]
  · have whole : -1074 < lastPlace value := lt_of_le_of_ne (le_max_right _ _) (Ne.symm cut)
    have edge : -(1 / 2) * 2 ^ lastPlace value ≤ least :=
      mul_le_mul_of_nonpos_left (zpow_le_zpow_right₀ one_le_two whole.le) (by norm_num)
    by_cases sign : 0 ≤ value
    · have below := least_lt_zero
      exact iff_of_true (by linarith) (by linarith)
    · have first := le_abs_of_lastPlace (fun zero => sign zero.ge) whole
      have more : (2 : ℚ) ^ lastPlace value ≤ 2 ^ (lastPlace value + 52) :=
        zpow_le_zpow_right₀ one_le_two (by omega)
      rw [abs_of_neg (not_le.mp sign)] at first
      exact iff_of_false (by linarith) (by linarith)

/-- Below two, the places reach from one on to the last, and one is an even number of the
units there. -/
theorem rounded_le_one_iff_of_lt_two (some : value ≠ 0) (small : |value| < 2) :
    rounded value ≤ 1 ↔ value ≤ 1 + 1 / 2 * 2 ^ lastPlace value := by
  have log : Int.log 2 |value| < 1 := (log_lt_iff some 1).mpr (by rwa [zpow_one])
  obtain ⟨places, isPlaces⟩ : ∃ places : ℕ, lastPlace value = -(places : ℤ) - 1 :=
    ⟨(-lastPlace value - 1).toNat, by rw [lastPlace]; omega⟩
  have one : ((2 * 2 ^ places : ℤ) : ℚ) * 2 ^ lastPlace value = 1 := by
    rw [isPlaces, ← neg_add', zpow_neg, ← Nat.cast_succ, zpow_natCast, pow_succ']
    push_cast
    exact mul_inv_cancel₀ (by positivity)
  have bound := rounded_le_iff value (Int.mul_emod_right 2 (2 ^ places))
  rwa [add_mul, one] at bound

/-- From two on, there are 53 places from the first to the last. -/
theorem one_lt_rounded (large : 2 ≤ value) : 1 < rounded value := by
  have some : value ≠ 0 := by linarith
  have size : |value| = value := abs_of_nonneg (by linarith)
  have log := (log_lt_iff some 1).not.mpr (by rwa [size, zpow_one, not_lt])
  have place : -52 < lastPlace value := by
    rw [lastPlace]
    omega
  have first := le_abs_of_lastPlace some (by omega)
  have two : (2 : ℚ) ^ (1 : ℤ) ≤ 2 ^ (lastPlace value + 52) :=
    zpow_le_zpow_right₀ one_le_two (by omega)
  have whole : ((2 ^ 52 : ℤ) : ℚ) * 2 ^ lastPlace value = 2 ^ (lastPlace value + 52) := by
    rw [zpow_add₀ two_ne_zero, mul_comm]
    norm_num
  have unit : (0 : ℚ) < 2 ^ lastPlace value := by positivity
  have bound := le_rounded_iff value (rfl : (2 ^ 52 : ℤ) % 2 = 0)
  rw [sub_mul, whole] at bound
  have more := bound.mpr (by linarith)
  rw [zpow_one] at two
  linarith

theorem rounded_le_one_iff : rounded value ≤ 1 ↔ value ≤ greatest := by
  have unit : (0 : ℚ) < 2 ^ lastPlace value := by positivity
  have above := one_lt_greatest
  by_cases sign : value ≤ 0
  · have bound := rounded_le_iff value (rfl : (0 : ℤ) % 2 = 0)
    rw [Int.cast_zero, zero_mul, zero_add] at bound
    have most := bound.mpr (by linarith)
    exact iff_of_true (by linarith) (by linarith)
  have some : value ≠ 0 := fun zero => sign zero.le
  have size : |value| = value := abs_of_pos (not_le.mp sign)
  by_cases small : value < 2
  · rw [rounded_le_one_iff_of_lt_two some (by rwa [size])]
    by_cases part : value < 1
    · exact iff_of_true (by linarith) (by linarith)
    · have most := (log_lt_iff some 1).mpr (by rwa [size, zpow_one])
      have least := (log_lt_iff some 0).not.mpr (by rwa [size, zpow_zero])
      have place : lastPlace value = -52 := by
        rw [lastPlace]
        omega
      rw [greatest, place]
  · have large : 2 ≤ value := not_lt.mp small
    have close : greatest < 2 := by
      rw [greatest]
      norm_num
    exact iff_of_false (one_lt_rounded large).not_ge (by linarith)

end Rounding

/-! ## Comparing without multiplying out -/

section Comparison

variable {mantissa num den : Nat}

/-- A number with more than three digits before the point is a thousand or more. -/
theorem thousand_le (some : mantissa ≠ 0) {exponent : ℤ}
    (long : 3 < exponent + (Text.digits mantissa).length) :
    (1000 : ℚ) ≤ mantissa * 10 ^ exponent := by
  have digits : (10 : ℚ) ^ (Text.digits mantissa).length ≤ 10 * mantissa := by
    exact_mod_cast Text.pow_length_digits_le some
  have positive : (0 : ℚ) < 10 ^ exponent := by positivity
  have size : (10 : ℚ) * 1000 ≤ 10 * (mantissa * 10 ^ exponent) := by
    calc (10 : ℚ) * 1000 = 10 ^ (4 : ℤ) := by norm_num
      _ ≤ 10 ^ (exponent + (Text.digits mantissa).length) :=
          zpow_le_zpow_right₀ (by norm_num) (by omega)
      _ = 10 ^ (Text.digits mantissa).length * 10 ^ exponent := by
          rw [zpow_add₀ (by norm_num), zpow_natCast, mul_comm]
      _ ≤ 10 * mantissa * 10 ^ exponent := mul_le_mul_of_nonneg_right digits positive.le
      _ = 10 * (mantissa * 10 ^ exponent) := mul_assoc _ _ _
  exact le_of_mul_le_mul_left size (by norm_num)

/-- A number whose first digit stands behind the four hundredth place is next to nothing. -/
theorem le_of_short {exponent : ℤ} (short : exponent + (Text.digits mantissa).length < -400) :
    (mantissa : ℚ) * 10 ^ exponent ≤ 10 ^ (-401 : ℤ) := by
  have digits : (mantissa : ℚ) ≤ 10 ^ (Text.digits mantissa).length := by
    exact_mod_cast (Text.lt_pow_length_digits mantissa).le
  have positive : (0 : ℚ) < 10 ^ exponent := by positivity
  calc (mantissa : ℚ) * 10 ^ exponent
      ≤ 10 ^ (Text.digits mantissa).length * 10 ^ exponent :=
        mul_le_mul_of_nonneg_right digits positive.le
    _ = 10 ^ (exponent + (Text.digits mantissa).length) := by
        rw [zpow_add₀ (by norm_num), zpow_natCast, mul_comm]
    _ ≤ 10 ^ (-401 : ℤ) := zpow_le_zpow_right₀ (by norm_num) (by omega)

/-- Between these bounds, the comparison is the one of rational numbers. -/
theorem atMost_iff (exponent : ℤ) (some : 0 < den) (small : num < 1000 * den)
    (large : den ≤ num * 10 ^ 401) :
    atMost mantissa exponent num den ↔ (mantissa : ℚ) * 10 ^ exponent ≤ num / den := by
  have positive : (0 : ℚ) < den := by exact_mod_cast some
  simp only [atMost]
  by_cases zero : mantissa = 0
  · rw [if_pos zero, zero, Nat.cast_zero, zero_mul]
    simp only [true_iff]
    positivity
  by_cases long : exponent + (Text.digits mantissa).length > 3
  · have below : (num : ℚ) / den < 1000 := by
      rw [div_lt_iff₀ positive]
      exact_mod_cast small
    rw [if_neg zero, if_pos long]
    simpa using below.trans_le (thousand_le zero long)
  by_cases short : exponent + (Text.digits mantissa).length < -400
  · have above : (10 : ℚ) ^ (-401 : ℤ) ≤ num / den := by
      rw [le_div_iff₀ positive, zpow_neg, inv_mul_le_iff₀ (by positivity), mul_comm]
      exact_mod_cast large
    rw [if_neg zero, if_neg long, if_pos short]
    simpa using (le_of_short short).trans above
  rw [if_neg zero, if_neg long, if_neg short]
  cases exponent with
  | ofNat e =>
      rw [decide_eq_true_eq, le_div_iff₀ positive, Int.ofNat_eq_natCast, zpow_natCast]
      exact_mod_cast Iff.rfl
  | negSucc e =>
      rw [decide_eq_true_eq, zpow_negSucc, ← div_eq_mul_inv,
        div_le_div_iff₀ (by positivity) positive]
      exact_mod_cast Iff.rfl

end Comparison

/-! ## The check -/

theorem greatest_eq : greatest = ((1 <<< 53) + 1 : Nat) / (1 <<< 53 : Nat) := by
  rw [greatest, Nat.one_shiftLeft]
  norm_num

theorem half_eq (bits : Nat) :
    (-(1 / 2) * 2 ^ (-bits : ℤ) : ℚ) = -((1 : Nat) / (1 <<< (bits + 1) : Nat)) := by
  rw [Nat.one_shiftLeft, Nat.cast_one, Nat.cast_pow, Nat.cast_ofNat, pow_succ', neg_mul,
    zpow_neg, zpow_natCast, one_div_mul_eq_div, inv_div_left, mul_comm, one_div]

theorem least_eq : least = -((1 : Nat) / (1 <<< 1075 : Nat)) :=
  half_eq 1074

/-- A place of a decimal number takes three bits and more. -/
theorem one_shiftLeft_le {bits places : Nat} (few : bits ≤ 3 * places) :
    1 <<< bits ≤ 10 ^ places := by
  rw [Nat.one_shiftLeft]
  calc 2 ^ bits ≤ 2 ^ (3 * places) := Nat.pow_le_pow_right (by decide) few
    _ = (2 ^ 3) ^ places := Nat.pow_mul 2 3 places
    _ ≤ 10 ^ places := Nat.pow_le_pow_left (by decide) places

/-- A number is in the range exactly when it rounds into the interval. -/
theorem inRange_iff (number : Text.Literal) : inRange number ↔
    ∃ value, number.value? = some value ∧ 0 ≤ rounded value ∧ rounded value ≤ 1 := by
  simp only [zero_le_rounded_iff, rounded_le_one_iff]
  cases number with
  | infinite => simp [inRange, Text.Literal.value?]
  | undefined => simp [inRange, Text.Literal.value?]
  | finite negative mantissa exponent =>
      have size : (0 : ℚ) ≤ mantissa * 10 ^ exponent := by positivity
      cases negative with
      | false =>
          have large : 1 <<< 53 ≤ ((1 <<< 53) + 1) * 10 ^ 401 :=
            (one_shiftLeft_le (by decide)).trans (Nat.le_mul_of_pos_left _ (Nat.succ_pos _))
          rw [inRange, atMost_iff exponent (by decide) (by decide) large, ← greatest_eq]
          simp [Text.Literal.value?, least_lt_zero.le.trans size]
      | true =>
          have some : 0 < 1 <<< 1075 := by
            rw [Nat.one_shiftLeft]
            exact Nat.two_pow_pos 1075
          have large : 1 <<< 1075 ≤ 1 * 10 ^ 401 :=
            (one_shiftLeft_le (by decide)).trans (Nat.one_mul _).ge
          have above : (0 : ℚ) ≤ greatest := zero_le_one.trans one_lt_greatest.le
          rw [inRange, atMost_iff exponent some (by omega) large, ← neg_le_neg_iff, ← least_eq]
          simp [Text.Literal.value?, (neg_nonpos.mpr size).trans above]

/-- The check accepts the sampling rates, and nothing else. -/
theorem fault?_eq_none_iff (rate : String) : fault? rate = none ↔ IsRate rate := by
  unfold fault? IsRate
  cases empty : Text.trim rate.toList with
  | nil => simp [Text.Literal.read?, Text.Literal.unsigned?]
  | cons c cs =>
      cases read : Text.Literal.read? (c :: cs) with
      | none => simp [read]
      | some number => simp [read, ← inRange_iff]

example : IsRate " 0.05 " :=
  (fault?_eq_none_iff _).mp (by decide)

end SamplingRate

end MeshSidecar

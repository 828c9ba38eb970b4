import Mathlib
import ScriptLang.Proofs.Numbers.Exact

/-!
# Rounding

A mantissa and an exponent are rounded to a number: bits that do not fit into the mantissa are cut
off, and what has been cut off decides between the two numbers next to it.  The mantissa may itself
be inexact, as that of a quotient is; two bits then say how the rest compares with a half.

## Main definitions

* `Stands` — the rational numbers that a mantissa stands for with the two bits behind it
* `CutsOff` — how many bits are cut off

## Main results

* `Stands.shiftRight` — cutting off bits loses nothing that rounding asks for
* `Stands.near` — the rounded mantissa is the nearest whole number
* `exists_roundWithAccuracy` — a mantissa and an exponent are rounded to the nearest number
-/

namespace ScriptLang.Number

open Float.Model (Format UnpackedFloat)
open Float.Model.UnpackedFloat

variable {s : Sign} {m n : ℕ} {e f : ℤ} {k : ℕ} {x : ℚ} {a : Accuracy}

/-! ### Cutting off bits -/

/-- The rational numbers that a mantissa stands for with the bits behind it.  The first bit says
whether the rest is a half or more, and the second one whether anything is left besides. -/
inductive Stands : ExtendedMantissa → ℚ → Prop where
  | whole (m : ℕ) : Stands ⟨m, false, false⟩ m
  | below {m : ℕ} {x : ℚ} (above : (m : ℚ) < x) (below : x < m + 1 / 2) :
      Stands ⟨m, false, true⟩ x
  | half (m : ℕ) : Stands ⟨m, true, false⟩ (m + 1 / 2)
  | above {m : ℕ} {x : ℚ} (above : (m : ℚ) + 1 / 2 < x) (below : x < m + 1) :
      Stands ⟨m, true, true⟩ x

namespace Stands

variable {em : ExtendedMantissa}

theorem mantissa_le (h : Stands em x) : (em.mantissa : ℚ) ≤ x := by
  cases h <;> dsimp only <;> linarith

theorem lt_mantissa_add_one (h : Stands em x) : x < em.mantissa + 1 := by
  cases h <;> dsimp only <;> linarith

theorem shiftRightOne_even (i : ℕ) (half rest : Bool) :
    (ExtendedMantissa.mk (2 * i) half rest).shiftRightOne = ⟨i, false, half || rest⟩ := by
  simp [ExtendedMantissa.shiftRightOne]

theorem shiftRightOne_odd (i : ℕ) (half rest : Bool) :
    (ExtendedMantissa.mk (2 * i + 1) half rest).shiftRightOne = ⟨i, true, half || rest⟩ := by
  simp [ExtendedMantissa.shiftRightOne]
  omega

/-- The bit that is cut off becomes the first one behind the mantissa. -/
theorem shiftRightOne (h : Stands em x) : Stands em.shiftRightOne (x / 2) := by
  cases h with
  | whole m =>
    obtain ⟨i, rfl | rfl⟩ := m.even_or_odd'
    · have value : ((2 * i : ℕ) : ℚ) / 2 = i := by
        push_cast
        ring
      rw [shiftRightOne_even, value]
      exact .whole i
    · have value : ((2 * i + 1 : ℕ) : ℚ) / 2 = i + 1 / 2 := by
        push_cast
        ring
      rw [shiftRightOne_odd, value]
      exact .half i
  | @below m x above below =>
    obtain ⟨i, rfl | rfl⟩ := m.even_or_odd'
    all_goals push_cast at above below
    · rw [shiftRightOne_even]
      exact .below (by linarith) (by linarith)
    · rw [shiftRightOne_odd]
      exact .above (by linarith) (by linarith)
  | half m =>
    obtain ⟨i, rfl | rfl⟩ := m.even_or_odd'
    · rw [shiftRightOne_even]
      exact .below (by push_cast; linarith) (by push_cast; linarith)
    · rw [shiftRightOne_odd]
      exact .above (by push_cast; linarith) (by push_cast; linarith)
  | @above m x above below =>
    obtain ⟨i, rfl | rfl⟩ := m.even_or_odd'
    all_goals push_cast at above below
    · rw [shiftRightOne_even]
      exact .below (by linarith) (by linarith)
    · rw [shiftRightOne_odd]
      exact .above (by linarith) (by linarith)

/-- Cutting off bits loses nothing that rounding asks for. -/
theorem shiftRight (h : Stands em x) (k : ℕ) : Stands (em >>> k) (x / 2 ^ k) := by
  induction k with
  | zero =>
    rw [pow_zero, div_one]
    exact h
  | succ k ih =>
    rw [pow_succ, ← div_div]
    exact ih.shiftRightOne

/-- Rounding goes to a whole number that is at most a half away, and to an even one if it is that
far. -/
theorem dist_le (h : Stands em x) :
    |x - em.roundedMantissa| ≤ 1 / 2 ∧
      (|x - em.roundedMantissa| = 1 / 2 → em.roundedMantissa % 2 = 0) := by
  cases h with
  | whole m => norm_num [ExtendedMantissa.roundedMantissa, ExtendedMantissa.accuracy,
      Accuracy.roundToNearestEven]
  | @below m x above below =>
    change |x - m| ≤ 1 / 2 ∧ (|x - m| = 1 / 2 → m % 2 = 0)
    rw [abs_of_pos (by linarith)]
    exact ⟨by linarith, fun tie => by linarith⟩
  | half m =>
    have even : (m + m % 2) % 2 = 0 := by omega
    refine ⟨?_, fun _ => even⟩
    change |(m + 1 / 2 : ℚ) - (m + m % 2 : ℕ)| ≤ 1 / 2
    obtain clear | set := Nat.mod_two_eq_zero_or_one m
    · rw [clear]
      norm_num
    · rw [set]
      norm_num [abs_le]
  | @above m x above below =>
    change |x - (m + 1 : ℕ)| ≤ 1 / 2 ∧ (|x - (m + 1 : ℕ)| = 1 / 2 → (m + 1) % 2 = 0)
    push_cast
    rw [abs_of_neg (by linarith)]
    exact ⟨by linarith, fun tie => by linarith⟩

theorem le_rounded (h : Stands em x) (below : (n : ℚ) ≤ x) : n ≤ em.roundedMantissa := by
  by_contra! less
  have less : (em.roundedMantissa : ℚ) + 1 ≤ n := by exact_mod_cast less
  have dist := (abs_le.1 h.dist_le.1).2
  linarith

theorem rounded_le (h : Stands em x) (above : x ≤ n) : em.roundedMantissa ≤ n := by
  by_contra! greater
  have greater : (n : ℚ) + 1 ≤ em.roundedMantissa := by exact_mod_cast greater
  have dist := (abs_le.1 h.dist_le.1).1
  linarith

/-- The rounded mantissa is the nearest whole number. -/
theorem near (h : Stands em x) (ne : n ≠ em.roundedMantissa) :
    |x - em.roundedMantissa| < |x - n| ∨
      |x - em.roundedMantissa| = |x - n| ∧ em.roundedMantissa % 2 = 0 := by
  obtain ⟨near, even⟩ := h.dist_le
  have apart : (1 : ℚ) ≤ |(n : ℚ) - em.roundedMantissa| := by
    have apart : 1 ≤ |(n : ℤ) - em.roundedMantissa| :=
      Int.one_le_abs (sub_ne_zero.2 (Nat.cast_injective.ne ne))
    exact_mod_cast apart
  have triangle := abs_sub_le (n : ℚ) x em.roundedMantissa
  rw [abs_sub_comm (n : ℚ) x] at triangle
  obtain less | tie := near.lt_or_eq
  · exact .inl (by linarith)
  · obtain further | same := (show |x - em.roundedMantissa| ≤ |x - n| by linarith).lt_or_eq
    · exact .inl further
    · exact .inr ⟨same, even tie⟩

end Stands

/-! ### How many bits are cut off -/

/-- The exponent that a mantissa and an exponent are brought to. -/
theorem targetExponent_eq (m : ℕ) (e : ℤ) :
    Format.binary64.targetExponent (Float.Model.totalExponent m e) =
      max (m.log2 + e - 52) (-1074) := by
  simp only [Format.targetExponent, Float.Model.totalExponent, Format.mantissaBits,
    Format.minExponent]
  norm_num
  omega

theorem IsCanonical.targetExponent (h : IsCanonical m e) :
    Format.binary64.targetExponent (Float.Model.totalExponent m e) = e := by
  rw [targetExponent_eq]
  have few := (Nat.log2_lt h.pos.ne').2 h.small
  have least := h.least
  obtain subnormal | full := h.full
  · omega
  · have many := (Nat.le_log2 h.pos.ne').2 full
    omega

/-- As many bits are cut off as there are too many, but none of a subnormal number. -/
structure CutsOff (m : ℕ) (e : ℤ) (k : ℕ) : Prop where
  least : -1074 ≤ e
  target : Format.binary64.targetExponent (Float.Model.totalExponent m e) = e + k
  few : m.log2 ≤ k + 52
  many : m.log2 = k + 52 ∨ k = 0 ∧ e = -1074

theorem exists_cutsOff (least : -1074 ≤ e)
    (fine : e ≤ Format.binary64.targetExponent (Float.Model.totalExponent m e)) :
    ∃ k, CutsOff m e k := by
  have target := targetExponent_eq m e
  rw [target] at fine
  exact ⟨(max (m.log2 + e - 52) (-1074) - e).toNat, least, by omega, by omega, by omega⟩

/-- The mantissa that is left when bits have been cut off. -/
def cutOff (m : ℕ) (a : Accuracy) (k : ℕ) : ℕ :=
  (ExtendedMantissa.ofMantissaAndAccuracy m a >>> k).roundedMantissa

theorem mantissa_ofMantissaAndAccuracy (m : ℕ) (a : Accuracy) :
    (ExtendedMantissa.ofMantissaAndAccuracy m a).mantissa = m := by
  rcases a with _ | _ | _ | _ <;> rfl

theorem shiftToTargetExponent_eq
    (target : Format.binary64.targetExponent (Float.Model.totalExponent m e) = e + k) :
    shiftToTargetExponent .binary64 m e a =
      (ExtendedMantissa.ofMantissaAndAccuracy m a >>> k, e + k) := by
  simp only [shiftToTargetExponent, target, shiftToExponent, add_sub_cancel_left,
    Int.toNat_natCast]

/-- Nothing is cut off where the exponent is large enough. -/
theorem shiftToTargetExponent_of_le
    (coarse : Format.binary64.targetExponent (Float.Model.totalExponent m e) ≤ e) :
    shiftToTargetExponent .binary64 m e a =
      (ExtendedMantissa.ofMantissaAndAccuracy m a, e) := by
  have none : (Format.binary64.targetExponent (Float.Model.totalExponent m e) - e).toNat = 0 := by
    omega
  simp only [shiftToTargetExponent, shiftToExponent, none, Int.natCast_zero, Int.add_zero]
  rfl

/-- What is left is a mantissa, unless there is nothing or one bit too many. -/
def IsLeft (n : ℕ) (f : ℤ) : Prop :=
  n = 0 ∨ n = 2 ^ 53 ∨ IsCanonical n f

/-- One bit too many makes no other number: the last bit is clear. -/
theorem carried (f : ℤ) : ((2 ^ 53 : ℕ) : ℚ) * 2 ^ f = (2 ^ 52 : ℕ) * 2 ^ (f + 1) := by
  rw [← Int.natCast_one, scaled_add]
  norm_num

namespace IsLeft

theorem exact (h : IsLeft n f) (least : -1074 ≤ f) : Exact (n * 2 ^ f) := by
  obtain rfl | rfl | canonical := h
  · rw [Nat.cast_zero, zero_mul]
    exact .zero
  · rw [carried]
    exact .magnitude (isCanonical_power (by omega))
  · exact .magnitude canonical

theorem hasEven (h : IsLeft n f) (least : -1074 ≤ f) (even : n % 2 = 0) :
    HasEven (n * 2 ^ f) := by
  obtain rfl | rfl | canonical := h
  · rw [Nat.cast_zero, zero_mul]
    exact .zero
  · rw [carried]
    exact .scaled .positive (isCanonical_power (by omega)) (by norm_num)
  · exact .scaled .positive canonical even

end IsLeft

theorem scaled_cut (x : ℚ) (e : ℤ) (k : ℕ) : x * 2 ^ e = x / 2 ^ k * 2 ^ (e + k) := by
  rw [zpow_add₀ two_ne_zero, zpow_natCast]
  field_simp

namespace CutsOff

/-- A mantissa with all its bits keeps as many as a canonical one has. -/
theorem large (h : CutsOff m e k) (many : m.log2 = k + 52) : 2 ^ 52 * 2 ^ k ≤ m := by
  have some : m ≠ 0 := by
    rintro rfl
    rw [Nat.log2_zero] at many
    omega
  rw [← Nat.pow_add, Nat.add_comm, ← many]
  exact Nat.log2_self_le some

variable (h : CutsOff m e k) (stands : Stands (.ofMantissaAndAccuracy m a) x)
include h stands

theorem le_cut (many : m.log2 = k + 52) : ((2 ^ 52 : ℕ) : ℚ) ≤ x / 2 ^ k := by
  have mantissa := stands.mantissa_le
  rw [mantissa_ofMantissaAndAccuracy] at mantissa
  have large : ((2 ^ 52 : ℕ) : ℚ) * 2 ^ k ≤ m := by exact_mod_cast h.large many
  rw [le_div_iff₀ (by positivity)]
  exact large.trans mantissa

/-- At most one bit too many is left. -/
theorem cutOff_le : cutOff m a k ≤ 2 ^ 53 := by
  refine (stands.shiftRight k).rounded_le ?_
  have mantissa := stands.lt_mantissa_add_one
  rw [mantissa_ofMantissaAndAccuracy] at mantissa
  have few : m + 1 ≤ 2 ^ 53 * 2 ^ k := by
    have few := h.few
    calc m + 1 ≤ 2 ^ (m.log2 + 1) := Nat.lt_log2_self
      _ ≤ 2 ^ (53 + k) := Nat.pow_le_pow_right (by decide) (by omega)
      _ = 2 ^ 53 * 2 ^ k := Nat.pow_add ..
  have few : (m : ℚ) + 1 ≤ (2 ^ 53 : ℕ) * 2 ^ k := by exact_mod_cast few
  rw [div_le_iff₀ (by positivity)]
  linarith

theorem isLeft : IsLeft (cutOff m a k) (e + k) := by
  have small := h.cutOff_le stands
  have least := h.least
  obtain none | some := Nat.eq_zero_or_pos (cutOff m a k)
  · exact .inl none
  obtain full | fits := small.eq_or_lt
  · exact .inr (.inl full)
  refine .inr (.inr ⟨some, fits, by omega, ?_⟩)
  obtain many | ⟨rfl, rfl⟩ := h.many
  · exact .inr ((stands.shiftRight k).le_rounded (h.le_cut stands many))
  · exact .inl rfl

/-- Multiples of the unit are compared as whole numbers are. -/
theorem near_multiple (ne : n ≠ cutOff m a k) :
    |x * 2 ^ e - cutOff m a k * 2 ^ (e + k)| < |x * 2 ^ e - n * 2 ^ (e + k)| ∨
      |x * 2 ^ e - cutOff m a k * 2 ^ (e + k)| = |x * 2 ^ e - n * 2 ^ (e + k)| ∧
        HasEven (cutOff m a k * 2 ^ (e + k)) := by
  have least : -1074 ≤ e + k := by
    have least := h.least
    omega
  have unit : (0 : ℚ) < 2 ^ (e + k) := by positivity
  have scaled (j : ℚ) : |x * 2 ^ e - j * 2 ^ (e + k)| = |x / 2 ^ k - j| * 2 ^ (e + k) := by
    rw [scaled_cut x e k, ← sub_mul, abs_mul, abs_of_pos unit]
  rw [scaled, scaled, mul_lt_mul_iff_left₀ unit, mul_left_inj' unit.ne']
  exact ((stands.shiftRight k).near ne).imp_right fun tie =>
    ⟨tie.1, (h.isLeft stands).hasEven least tie.2⟩

/-- Numbers with a smaller unit lie below all mantissas that have all their bits. -/
theorem near_finer (other : IsCanonical n f) (finer : f < e + k) :
    |x * 2 ^ e - cutOff m a k * 2 ^ (e + k)| < |x * 2 ^ e - n * 2 ^ f| := by
  have least := other.least
  have many : m.log2 = k + 52 := by
    have many := h.many
    omega
  have less := other.lt_of_lt (isCanonical_power (by omega)) finer
  have below : ((2 ^ 52 : ℕ) : ℚ) * 2 ^ (e + k) ≤ x * 2 ^ e := by
    rw [scaled_cut x e k]
    exact mul_le_mul_of_nonneg_right (h.le_cut stands many) (by positivity)
  have near : |x * 2 ^ e - cutOff m a k * 2 ^ (e + k)| ≤
      |x * 2 ^ e - (2 ^ 52 : ℕ) * 2 ^ (e + k)| := by
    by_cases same : 2 ^ 52 = cutOff m a k
    · rw [same]
    · exact (h.near_multiple stands same).elim le_of_lt fun tie => tie.1.le
  refine near.trans_lt ?_
  rw [abs_of_nonneg (sub_nonneg.2 below), abs_of_pos (by linarith)]
  linarith

/-- What is left is the nearest number. -/
theorem nearest : Nearest (x * 2 ^ e) (cutOff m a k * 2 ^ (e + k)) := by
  have least : -1074 ≤ e + k := by
    have least := h.least
    omega
  have nonneg : 0 ≤ x :=
    m.cast_nonneg.trans (mantissa_ofMantissaAndAccuracy m a ▸ stands.mantissa_le)
  -- A number with the unit of the mantissa, or with a larger one, is a multiple of the unit.
  have multiple {n : ℕ} (ne : (n : ℚ) * 2 ^ (e + k) ≠ cutOff m a k * 2 ^ (e + k)) :=
    h.near_multiple stands fun same : n = cutOff m a k => ne (by rw [same])
  refine .of_magnitudes ((h.isLeft stands).exact least) (mul_nonneg nonneg (by positivity)) ?_ ?_
  · intro ne
    rw [← zero_mul ((2 : ℚ) ^ (e + k)), ← Nat.cast_zero] at ne ⊢
    exact multiple ne
  · intro n f other ne
    obtain coarse | finer := le_or_gt (e + k) f
    · obtain ⟨j, rfl⟩ := Int.le.dest coarse
      rw [scaled_add n j] at ne ⊢
      exact multiple ne
    · exact .inl (h.near_finer stands other finer)

end CutsOff

/-- Rounding a mantissa may leave one bit too many, which is then cut off. -/
theorem roundWithAccuracy_eq (s : Sign) (h : CutsOff m e k) :
    roundWithAccuracy .binary64 s m e a =
      let (em, e') := shiftToTargetExponent .binary64 (cutOff m a k) (e + k) .exact
      if h : em.mantissa = 0 then .zero s else .finite s em.mantissa e' (Nat.pos_of_ne_zero h) := by
  rw [roundWithAccuracy, shiftToTargetExponent_eq h.target]
  rfl

/-- What is left is the number that is made. -/
theorem CutsOff.unpacks (s : Sign) (h : CutsOff m e k)
    (stands : Stands (.ofMantissaAndAccuracy m a) x) :
    Unpacks (roundWithAccuracy .binary64 s m e a) (s.apply (cutOff m a k) * 2 ^ (e + k)) := by
  have least : -1074 ≤ e + k := by
    have least := h.least
    omega
  have isLeft := h.isLeft stands
  rw [roundWithAccuracy_eq s h]
  generalize cutOff m a k = n at isLeft
  generalize e + k = f at least isLeft
  obtain rfl | rfl | canonical := isLeft
  · have coarse : Format.binary64.targetExponent (Float.Model.totalExponent 0 f) ≤ f := by
      rw [targetExponent_eq, Nat.log2_zero]
      omega
    have zero : (s.apply (0 : ℕ) * 2 ^ f : ℚ) = 0 := by
      cases s <;> simp [Sign.apply]
    rw [shiftToTargetExponent_of_le coarse, zero]
    exact .zero s
  · have further : Format.binary64.targetExponent (Float.Model.totalExponent (2 ^ 53) f) =
        f + (1 : ℕ) := by
      rw [targetExponent_eq, Nat.log2_two_pow]
      omega
    have value : (s.apply (2 ^ 53 : ℕ) * 2 ^ f : ℚ) = s.apply (2 ^ 52 : ℕ) * 2 ^ (f + 1) := by
      cases s
      · rw [negative_value, negative_value, carried]
      · exact carried f
    rw [shiftToTargetExponent_eq further, value]
    exact .finite s (isCanonical_power (by omega))
  · rw [shiftToTargetExponent_of_le canonical.targetExponent.le]
    have some := canonical.pos.ne'
    simp only [mantissa_ofMantissaAndAccuracy, some, dite_false]
    exact .finite s canonical

/-- A mantissa and an exponent are rounded to the nearest number. -/
theorem exists_roundWithAccuracy (s : Sign) (least : -1074 ≤ e)
    (fine : e ≤ Format.binary64.targetExponent (Float.Model.totalExponent m e))
    (stands : Stands (.ofMantissaAndAccuracy m a) x) :
    ∃ (n : ℕ) (f : ℤ), Unpacks (roundWithAccuracy .binary64 s m e a) (s.apply n * 2 ^ f) ∧
      Nearest (x * 2 ^ e) (n * 2 ^ f) := by
  obtain ⟨k, cuts⟩ := exists_cutsOff least fine
  exact ⟨_, _, cuts.unpacks s stands, cuts.nearest stands⟩

end ScriptLang.Number

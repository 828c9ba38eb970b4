import Mathlib
import ScriptLang.Proofs.Numbers.Conversions

/-!
# Products and quotients

A product of numbers has twice the bits of its factors, and a quotient is computed with a few bits
more than are left.  Both are rounded once.  What is half a unit beyond the greatest number, or
further, becomes infinite.

## Main definitions

* `overflow` — the number from which on results are infinite
* `IsNearest` — the number that a rational number is rounded to

## Main results

* `Nearest.lt_overflow_iff` — which numbers are rounded to finite ones
* `isNearest_mul`, `isNearest_div` — the product and the quotient of two natural numbers
-/

namespace ScriptLang.Number

open Float.Model (Format UnpackedFloat)
open Float.Model.UnpackedFloat

variable {m n : ℕ} {e f : ℤ} {q r : ℚ}

/-! ### More bits than are left -/

/-- A quotient stands for itself, if it is said how the remainder compares with a half. -/
theorem stands_quotient (m : ℕ) (pos : 0 < n) :
    Stands (.ofMantissaAndAccuracy (m / n) (accuracyOfFraction (m % n) n)) (m / n) := by
  have positive : (0 : ℚ) < n := by exact_mod_cast pos
  have value : (m : ℚ) / n = (m / n : ℕ) + (m % n : ℕ) / n := by
    have parts : (m : ℚ) = n * (m / n : ℕ) + (m % n : ℕ) := by
      exact_mod_cast (Nat.div_add_mod m n).symm
    field_simp
    linarith
  have less : ((m % n : ℕ) : ℚ) < n := by exact_mod_cast Nat.mod_lt m pos
  rw [value]
  generalize m / n = i
  generalize m % n = j at less
  unfold accuracyOfFraction
  split
  · next none =>
    rw [none, Nat.cast_zero, zero_div, add_zero]
    exact .whole i
  · next some =>
    have some : (0 : ℚ) < j / n := by
      have some := Nat.pos_of_ne_zero some
      positivity
    have whole : (j : ℚ) / n < 1 := (div_lt_one positive).2 less
    cases order : compare (2 * j) n with
    | lt =>
      have half : (j : ℚ) / n < 1 / 2 := by
        have half : (2 : ℚ) * j < n := by exact_mod_cast compare_lt_iff_lt.1 order
        rw [div_lt_div_iff₀ positive two_pos]
        linarith
      exact .below (by linarith) (by linarith)
    | eq =>
      have half : (j : ℚ) / n = 1 / 2 := by
        have half : (2 : ℚ) * j = n := by exact_mod_cast compare_eq_iff_eq.1 order
        rw [div_eq_div_iff positive.ne' two_ne_zero]
        linarith
      rw [half]
      exact .half i
    | gt =>
      have half : 1 / 2 < (j : ℚ) / n := by
        have half : (n : ℚ) < 2 * j := by exact_mod_cast compare_gt_iff_gt.1 order
        rw [div_lt_div_iff₀ two_pos positive]
        linarith
      exact .above (by linarith) (by linarith)

/-- A product is rounded to the nearest number. -/
theorem exists_mul (pos : 0 < m) (pos' : 0 < n) (full : 2 ^ 52 ≤ m) (least : -1074 ≤ e + f) :
    ∃ r, Unpacks (mul .binary64 (.finite .positive m e pos) (.finite .positive n f pos')) r ∧
      Nearest (m * 2 ^ e * (n * 2 ^ f)) r := by
  have many : 52 ≤ (m * n).log2 :=
    (Nat.le_log2 (Nat.mul_pos pos pos').ne').2 (full.trans (Nat.le_mul_of_pos_right m pos'))
  have fine : e + f ≤
      Format.binary64.targetExponent (Float.Model.totalExponent (m * n) (e + f)) := by
    rw [targetExponent_eq]
    omega
  obtain ⟨i, g, unpacks, nearest⟩ :=
    exists_roundWithAccuracy .positive least fine (stands_exact (m * n))
  have value : ((m * n : ℕ) : ℚ) * 2 ^ (e + f) = m * 2 ^ e * (n * 2 ^ f) := by
    rw [zpow_add₀ two_ne_zero]
    push_cast
    ring
  rw [value] at nearest
  exact ⟨_, unpacks, nearest⟩

/-- A quotient has all its bits if the dividend has many more than the divisor. -/
theorem two_pow_le_div {k : ℕ} (pos : 0 < m) (pos' : 0 < n) (few : 53 + n.log2 ≤ m.log2 + k) :
    2 ^ 52 ≤ m * 2 ^ k / n := by
  refine (Nat.le_div_iff_mul_le pos').2 ?_
  calc 2 ^ 52 * n ≤ 2 ^ 52 * 2 ^ (n.log2 + 1) := Nat.mul_le_mul_left _ Nat.lt_log2_self.le
    _ = 2 ^ (53 + n.log2) := by
      rw [← Nat.pow_add]
      congr 1
      omega
    _ ≤ 2 ^ (m.log2 + k) := Nat.pow_le_pow_right (by decide) few
    _ = 2 ^ m.log2 * 2 ^ k := Nat.pow_add ..
    _ ≤ m * 2 ^ k := Nat.mul_le_mul_right _ (Nat.log2_self_le pos.ne')

/-- A quotient is computed with more bits than are left, and rounded to the nearest number. -/
theorem exists_div (pos : 0 < m) (pos' : 0 < n) (least : -1074 ≤ e - f) :
    ∃ r, Unpacks (div .binary64 (.finite .positive m e pos) (.finite .positive n f pos')) r ∧
      Nearest (m * 2 ^ e / (n * 2 ^ f)) r := by
  have target : Format.binary64.targetExponent
      (Float.Model.totalExponent m e - Float.Model.totalExponent n f) =
        max (m.log2 - n.log2 + e - f - 53) (-1074) := by
    simp only [Format.targetExponent, Float.Model.totalExponent, Format.mantissaBits,
      Format.minExponent]
    norm_num
    omega
  change ∃ r, Unpacks (roundWithAccuracy .binary64 _ _ _ _) r ∧ _
  rw [target, Nat.shiftLeft_eq]
  generalize unit : min (e - f) (max (m.log2 - n.log2 + e - f - 53) (-1074)) = g
  obtain ⟨k, shift⟩ := Int.le.dest (show g ≤ e - f by omega)
  have amount : (e - f - g).toNat = k := by omega
  rw [amount]
  have fine : g ≤
      Format.binary64.targetExponent (Float.Model.totalExponent (m * 2 ^ k / n) g) := by
    rw [targetExponent_eq]
    obtain tiny | normal := le_or_gt g (-1074)
    · omega
    have few : 53 + n.log2 ≤ m.log2 + k := by omega
    have large := two_pow_le_div pos pos' few
    have many : 52 ≤ (m * 2 ^ k / n).log2 :=
      (Nat.le_log2 ((Nat.two_pow_pos 52).trans_le large).ne').2 large
    omega
  obtain ⟨i, j, unpacks, nearest⟩ :=
    exists_roundWithAccuracy .positive (by omega) fine (stands_quotient (m * 2 ^ k) pos')
  have value : ((m * 2 ^ k : ℕ) : ℚ) / n * 2 ^ g = m * 2 ^ e / (n * 2 ^ f) := by
    have exponent : e = g + k + f := by omega
    rw [exponent, zpow_add₀ two_ne_zero, zpow_add₀ two_ne_zero, zpow_natCast]
    push_cast
    field_simp
  rw [value] at nearest
  exact ⟨_, unpacks, nearest⟩

/-! ### Too large numbers -/

/-- The greatest finite number. -/
def greatest : ℚ :=
  (2 ^ 53 - 1 : ℕ) * 2 ^ (971 : ℤ)

/-- The number half a unit beyond the greatest finite one. -/
def overflow : ℚ :=
  (2 ^ 54 - 1 : ℕ) * 2 ^ (970 : ℤ)

theorem isCanonical_greatest : IsCanonical (2 ^ 53 - 1) 971 :=
  isCanonical_ones (by norm_num)

theorem exact_greatest : Exact greatest :=
  .magnitude isCanonical_greatest

theorem exact_limit : Exact limit := by
  rw [limit_eq]
  exact .magnitude (isCanonical_power (by norm_num))

/-- Half a unit lies between the greatest number and where numbers become infinite, and another half
up to the next power of two. -/
theorem exists_half : ∃ u : ℚ, 0 < u ∧ overflow = greatest + u ∧ limit = overflow + u := by
  have half (e : ℤ) : ((2 ^ 54 - 1 : ℕ) : ℚ) * 2 ^ e = (2 ^ 53 - 1 : ℕ) * 2 ^ (e + 1) + 2 ^ e := by
    rw [zpow_add_one₀ two_ne_zero]
    push_cast
    ring
  have power (e : ℤ) : (2 : ℚ) ^ (54 + e) = (2 ^ 54 - 1 : ℕ) * 2 ^ e + 2 ^ e := by
    rw [zpow_add₀ two_ne_zero]
    norm_num
    ring
  exact ⟨2 ^ (970 : ℤ), by positivity, half 970, power 970⟩

theorem greatest_lt_limit : greatest < limit := by
  obtain ⟨u, pos, half, rest⟩ := exists_half
  linarith

theorem IsCanonical.le_greatest (h : IsCanonical m e) (top : e ≤ 971) :
    (m : ℚ) * 2 ^ e ≤ greatest := by
  have unit : (2 : ℚ) ^ e ≤ 2 ^ (971 : ℤ) := zpow_le_zpow_right₀ one_le_two top
  have small : m ≤ 2 ^ 53 - 1 := Nat.le_sub_one_of_lt h.small
  exact mul_le_mul (Nat.cast_le.2 small) unit (by positivity) (Nat.cast_nonneg _)

/-- Numbers are finite up to the greatest one. -/
theorem Exact.le_greatest (h : Exact r) (bounded : r < limit) : r ≤ greatest := by
  have nonneg : 0 ≤ greatest := scaled_nonneg _ _
  cases h with
  | zero => exact nonneg
  | @scaled s m e canonical =>
    cases s with
    | positive => exact canonical.le_greatest (canonical.top bounded)
    | negative =>
      rw [negative_value]
      exact (neg_nonpos.2 (scaled_nonneg m e)).trans nonneg

/-- Numbers are rounded to finite ones up to half a unit beyond the greatest one. -/
theorem Nearest.lt_overflow_iff (h : Nearest q r) : q < overflow ↔ r < limit := by
  obtain ⟨u, pos, half, rest⟩ := exists_half
  constructor
  · intro inside
    by_contra! large
    -- The greatest number is nearer.
    have dist := h.dist_le exact_greatest
    rw [abs_of_neg (by linarith), le_abs'] at dist
    obtain dist | dist := dist <;> linarith
  · intro small
    by_contra! beyond
    have below := h.isExact.le_greatest small
    have dist : |q - r| = q - r := abs_of_pos (by linarith)
    -- The next power of two is nearer, or as near and even.
    obtain less | ⟨same, even⟩ := h.other limit exact_limit small.ne'
    · rw [dist, lt_abs] at less
      obtain less | less := less <;> linarith
    · have tie : r = greatest := by
        rw [dist, eq_comm, abs_eq (by linarith)] at same
        obtain same | same := same <;> linarith
      rw [tie] at even
      exact absurd (even.even isCanonical_greatest) (by norm_num)

/-- What is too large is infinite when it is packed. -/
theorem unpack_pack_of_large (h : IsCanonical m e) (large : limit ≤ m * 2 ^ e) :
    (Float.Model.pack (.finite .positive m e h.pos)).unpack = .infinity .positive := by
  obtain ⟨u, pos, half, rest⟩ := exists_half
  have beyond : 971 < e := by
    by_contra! top
    linarith [h.le_greatest top]
  have biased : e + Format.binary64.exponentBias + Format.binary64.mantissaBitsWithoutImplicit =
      e + 1075 := by
    change e + 1023 + 52 = e + 1075
    omega
  have outside : 2 ^ Format.binary64.exponentBits ≤ (e + 1075).toNat + 1 := by
    change 2048 ≤ _
    omega
  change unpack .binary64 (pack .binary64 _) = _
  unfold pack
  dsimp only
  rw [biased, if_pos outside]
  rfl

/-- The number nearest to a rational number that is not negative: a finite number, or the infinity
if there is none within half a unit. -/
inductive IsNearest (q : ℚ) (x : Float) : Prop where
  | finite {r : ℚ} (value : value? x = some r) (nearest : Nearest q r) (inside : q < overflow)
  | infinite (unpacked : x.toModel.unpack = .infinity .positive) (beyond : overflow ≤ q)

/-- What has been rounded is packed, and is infinite if it is too large. -/
theorem isNearest_of_unpacks {u : UnpackedFloat} {x : Float} (unpacks : Unpacks u r)
    (nearest : Nearest q r) (nonneg : 0 ≤ q) (packed : x.toModel = Float.Model.pack u) :
    IsNearest q x := by
  have sign : 0 ≤ r := nearest.ge_of_ge .zero nonneg
  obtain small | large := lt_or_ge r limit
  · refine .finite ?_ nearest (nearest.lt_overflow_iff.2 small)
    rw [value?, packed]
    exact unpacks.value_pack (by rwa [abs_of_nonneg sign])
  · refine .infinite ?_ (not_lt.1 fun inside => not_lt.2 large (nearest.lt_overflow_iff.1 inside))
    obtain ⟨m, e, canonical, unpacked, rfl⟩ := unpacks.of_pos (limit_pos.trans_le large)
    rw [packed, unpacked]
    exact unpack_pack_of_large canonical large

/-! ### Small operands -/

/-- A natural number that is exact has all its bits. -/
theorem Unpacks.of_natCast {u : UnpackedFloat} (h : Unpacks u n) (pos : 0 < n) :
    ∃ (m : ℕ) (e : ℤ) (canonical : IsCanonical m e), u = .finite .positive m e canonical.pos ∧
      (n : ℚ) = m * 2 ^ e ∧ -52 ≤ e ∧ 2 ^ 52 ≤ m := by
  obtain ⟨m, e, canonical, unpacked, value⟩ := h.of_pos (Nat.cast_pos.2 pos)
  have least : -52 ≤ e := by
    by_contra! fraction
    have unit : (2 : ℚ) ^ e ≤ 2 ^ (-53 : ℤ) := zpow_le_zpow_right₀ one_le_two (by omega)
    have few : (m : ℚ) < 2 ^ 53 := by exact_mod_cast canonical.small
    have less : (m : ℚ) * 2 ^ e < 2 ^ 53 * 2 ^ (-53 : ℤ) :=
      mul_lt_mul few unit (by positivity) (by positivity)
    have some : (1 : ℚ) ≤ n := by exact_mod_cast pos
    norm_num at less
    linarith
  exact ⟨m, e, canonical, unpacked, value, least, canonical.full.resolve_left (by omega)⟩

/-- A product of natural numbers is rounded once. -/
theorem isNearest_mul {x y : Float} (left : value? x = some (m : ℚ))
    (right : value? y = some (n : ℚ)) (pos : 0 < n) : IsNearest (m * n) (x * y) := by
  have packed : (x * y).toModel =
      Float.Model.pack (mul .binary64 x.toModel.unpack y.toModel.unpack) := rfl
  have left := unpacks_of_value? left
  have right := unpacks_of_value? right
  obtain ⟨j, f, canonical', unpacked', value', least', full'⟩ := right.of_natCast pos
  rw [unpacked'] at packed
  obtain rfl | some := Nat.eq_zero_or_pos m
  · rw [Nat.cast_zero] at left ⊢
    obtain ⟨s, unpacked⟩ := left.of_zero
    have zero : mul .binary64 (.zero s) (.finite .positive j f canonical'.pos) =
        .zero (s * .positive) := rfl
    rw [unpacked, zero] at packed
    rw [zero_mul]
    exact isNearest_of_unpacks (.zero _) (.refl .zero) le_rfl packed
  · obtain ⟨i, e, canonical, unpacked, value, least, full⟩ := left.of_natCast some
    obtain ⟨r, unpacks, nearest⟩ :=
      exists_mul canonical.pos canonical'.pos full (by omega : -1074 ≤ e + f)
    rw [unpacked] at packed
    rw [← value, ← value'] at nearest
    exact isNearest_of_unpacks unpacks nearest (by positivity) packed

/-- And so is a quotient. -/
theorem isNearest_div {x y : Float} (left : value? x = some (m : ℚ))
    (right : value? y = some (n : ℚ)) (pos : 0 < n) (small : (n : ℚ) < limit) :
    IsNearest (m / n) (x / y) := by
  have packed : (x / y).toModel =
      Float.Model.pack (div .binary64 x.toModel.unpack y.toModel.unpack) := rfl
  have left := unpacks_of_value? left
  have right := unpacks_of_value? right
  obtain ⟨j, f, canonical', unpacked', value', least', full'⟩ := right.of_natCast pos
  rw [unpacked'] at packed
  obtain rfl | some := Nat.eq_zero_or_pos m
  · rw [Nat.cast_zero] at left ⊢
    obtain ⟨s, unpacked⟩ := left.of_zero
    have zero : div .binary64 (.zero s) (.finite .positive j f canonical'.pos) =
        .zero (s / .positive) := rfl
    rw [unpacked, zero] at packed
    rw [zero_div]
    exact isNearest_of_unpacks (.zero _) (.refl .zero) le_rfl packed
  · obtain ⟨i, e, canonical, unpacked, value, least, full⟩ := left.of_natCast some
    rw [value'] at small
    have top := canonical'.top small
    obtain ⟨r, unpacks, nearest⟩ :=
      exists_div canonical.pos canonical'.pos (by omega : -1074 ≤ e - f)
    rw [unpacked] at packed
    rw [← value, ← value'] at nearest
    exact isNearest_of_unpacks unpacks nearest (by positivity) packed

/-- A rational number has no other nearest number. -/
theorem IsNearest.value_eq {x : Float} (h : IsNearest q x) (nearest : Nearest q r)
    (bounded : r < limit) : value? x = some r := by
  cases h with
  | finite value nearest' =>
    rw [nearest.unique nearest']
    exact value
  | infinite _ beyond => exact absurd (nearest.lt_overflow_iff.2 bounded) (not_lt.2 beyond)

end ScriptLang.Number

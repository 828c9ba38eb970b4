import Mathlib
import ScriptLang.Number.Text
import ScriptLang.Proofs.Numbers.Products

/-!
# Decimals as numbers

Digits and an exponent become the number that is nearest to the decimal.  If the digits fit into a
mantissa and the power of ten is in a table, one product or quotient of numbers does it; otherwise
the decimal is rounded as a whole.

## Main results

* `value?_powerOfTen` — the table of powers of ten is right
* `isNearest_ofDecimal` — the number of digits and an exponent is the nearest one
* `value?_ofCount` — counts are exact as long as they fit into a mantissa
-/

namespace ScriptLang.Number

open Float.Model (Format UnpackedFloat)
open Float.Model.UnpackedFloat

variable {m n k : ℕ} {e : ℤ} {q : ℚ}

/-! ### The table -/

/-- Whether the fields are those of a power of ten. -/
def isPowerOfTen (k : ℕ) : UnpackedFloat → Bool
  | .finite .positive m e _ => m * 2 ^ e.toNat == 10 ^ k * 2 ^ (-e).toNat
  | _ => false

theorem value_of_isPowerOfTen {u : UnpackedFloat} (h : isPowerOfTen k u = true) :
    unpackedValue? u = some ((10 ^ k : ℕ) : ℚ) := by
  unfold isPowerOfTen at h
  split at h
  · next m e pos =>
    have power : (m * 2 ^ e.toNat : ℤ) = (10 ^ k : ℕ) * 2 ^ (-e).toNat := by
      exact_mod_cast beq_iff_eq.1 h
    exact congrArg some ((value_eq_intCast_iff (s := .positive)).2 power)
  · cases h

/-- The powers of ten in the table are what they should be. -/
theorem value?_powerOfTen (few : k < Float.exactlyRepresentablePowersOfTen.size) :
    value? Float.exactlyRepresentablePowersOfTen[k] = some ((10 ^ k : ℕ) : ℚ) := by
  have table : ∀ k : Fin 23,
      isPowerOfTen k Float.exactlyRepresentablePowersOfTen[k].toModel.unpack = true := by
    decide +kernel
  exact value_of_isPowerOfTen (table ⟨k, few⟩)

/-- Small natural numbers are exact. -/
theorem value?_toFloat (small : n < 2 ^ 53) : value? n.toUInt64.toFloat = some (n : ℚ) := by
  have kept : n.toUInt64.toNat = n := Nat.mod_eq_of_lt (small.trans (by decide))
  have least : -1074 ≤ (0 : ℤ) := by decide
  have bounded : |((n : ℤ) : ℚ) * 2 ^ (0 : ℤ)| ≤ (2 ^ 64 : ℕ) := by
    rw [zpow_zero, mul_one, Int.cast_natCast, Nat.abs_cast]
    exact_mod_cast (small.trans (by norm_num)).le
  obtain ⟨r, value, nearest⟩ := exists_normalize .positive least bounded
  rw [zpow_zero, mul_one, Int.cast_natCast] at nearest
  rw [nearest.eq (.natCast small)] at value
  change unpackedValue? (Float.Model.pack (normalize .binary64 n.toUInt64.toNat 0 _)).unpack = _
  rw [kept]
  exact value

/-! ### Decimals of any size -/

/-- The least number other than zero. -/
theorem IsCanonical.least_le (h : IsCanonical m e) : (2 : ℚ) ^ (-1074 : ℤ) ≤ m * 2 ^ e := by
  have unit : (2 : ℚ) ^ (-1074 : ℤ) ≤ 2 ^ e := zpow_le_zpow_right₀ one_le_two h.least
  have some : (1 : ℚ) ≤ m := by exact_mod_cast h.pos
  exact unit.trans (le_mul_of_one_le_left (by positivity) some)

/-- What is less than half the least number is rounded to zero. -/
theorem nearest_zero (nonneg : 0 ≤ q) (tiny : q < 2 ^ (-1075 : ℤ)) : Nearest q 0 := by
  refine .of_magnitudes .zero nonneg (fun ne => absurd rfl ne) fun {n f} canonical _ => .inl ?_
  have least := canonical.least_le
  have half : (2 : ℚ) ^ (-1074 : ℤ) = 2 * 2 ^ (-1075 : ℤ) := by
    rw [← zpow_one_add₀ two_ne_zero]
    rfl
  rw [half] at least
  generalize (2 : ℚ) ^ (-1075 : ℤ) = u at tiny least
  rw [sub_zero, abs_of_nonneg nonneg, abs_of_neg (by linarith)]
  linarith

/-- A large exponent makes any digits but zero too large. -/
theorem limit_le (large : 1024 ≤ e) (pos : 0 < m) : limit ≤ m * 10 ^ e := by
  obtain ⟨k, rfl⟩ := Int.eq_ofNat_of_zero_le (show 0 ≤ e by omega)
  have some : (1 : ℚ) ≤ m := by exact_mod_cast pos
  calc limit ≤ 2 ^ (k : ℤ) := zpow_le_zpow_right₀ one_le_two large
    _ ≤ 10 ^ (k : ℤ) := by
      rw [zpow_natCast, zpow_natCast]
      exact pow_le_pow_left₀ (by norm_num) (by norm_num) k
    _ ≤ m * 10 ^ (k : ℤ) := le_mul_of_one_le_left (by positivity) some

/-- And a small exponent makes them so small that they are rounded to zero. -/
theorem lt_half_least (small : e < -(1075 + m.log2)) : (m : ℚ) * 10 ^ e < 2 ^ (-1075 : ℤ) := by
  obtain ⟨k, rfl⟩ : ∃ k : ℕ, e = -k := ⟨e.natAbs, by omega⟩
  have few : (m : ℚ) < 2 ^ (m.log2 + 1 : ℤ) := by
    rw [← Int.natCast_one, ← Int.natCast_add, zpow_natCast]
    exact_mod_cast Nat.lt_log2_self
  have power : (10 : ℚ) ^ (-k : ℤ) ≤ 2 ^ (-k : ℤ) := by
    rw [zpow_neg, zpow_neg, zpow_natCast, zpow_natCast]
    exact inv_anti₀ (by positivity) (pow_le_pow_left₀ (by norm_num) (by norm_num) k)
  calc (m : ℚ) * 10 ^ (-k : ℤ) < 2 ^ (m.log2 + 1 : ℤ) * 2 ^ (-k : ℤ) :=
        mul_lt_mul few power (by positivity) (by positivity)
    _ = 2 ^ (m.log2 + 1 - k : ℤ) := by rw [← zpow_add₀ two_ne_zero, sub_eq_add_neg]
    _ ≤ 2 ^ (-1075 : ℤ) := zpow_le_zpow_right₀ one_le_two (by omega)

/-- A decimal without places as the product that is computed. -/
theorem product_value (whole : 0 ≤ e) :
    ((m <<< Format.binary64.mantissaBits : ℕ) : ℚ) * 2 ^ (-53 : ℤ) *
      ((10 ^ e.toNat : ℕ) * 2 ^ (0 : ℤ)) = m * 10 ^ e := by
  obtain ⟨k, rfl⟩ := Int.eq_ofNat_of_zero_le whole
  change ((m <<< 53 : ℕ) : ℚ) * _ * _ = _
  rw [Nat.shiftLeft_eq, ← scaled_add, Int.toNat_natCast, zpow_natCast]
  norm_num

/-- A decimal with places as the quotient that is computed. -/
theorem quotient_value (fraction : e < 0) :
    (m : ℚ) * 2 ^ (0 : ℤ) / ((10 ^ (-e).toNat : ℕ) * 2 ^ (0 : ℤ)) = m * 10 ^ e := by
  obtain ⟨k, rfl⟩ : ∃ k : ℕ, e = -k := ⟨e.natAbs, by omega⟩
  rw [zpow_zero, mul_one, mul_one, zpow_neg, zpow_natCast, Int.neg_neg, Int.toNat_natCast,
    Nat.cast_pow, Nat.cast_ofNat, div_eq_mul_inv]

/-- The number `m × 10 ^ e` is rounded once. -/
theorem isNearest_of_ofScientific {x : Float}
    (packed : x.toModel = Float.Model.pack (ofScientific .binary64 m e)) :
    IsNearest (m * 10 ^ e) x := by
  have nonneg : (0 : ℚ) ≤ m * 10 ^ e := by positivity
  have ten : 0 < 10 := by decide
  have bits : ((2 : ℤ) ^ Format.binary64.exponentBits) = 2048 := rfl
  unfold ofScientific at packed
  split at packed
  · next none =>
    rw [none, Nat.cast_zero, zero_mul]
    exact isNearest_of_unpacks (.zero .positive) (.refl .zero) le_rfl packed
  next some =>
  have pos := Nat.pos_of_ne_zero some
  rw [bits] at packed
  split at packed
  · next large =>
    obtain ⟨u, positive, half, rest⟩ := exists_half
    have beyond := limit_le (show 1024 ≤ e by omega) pos
    refine .infinite ?_ (by linarith)
    rw [packed]
    rfl
  split at packed
  · next small =>
    have tiny := lt_half_least (show e < -(1075 + m.log2) by omega)
    exact isNearest_of_unpacks (.zero .positive) (nearest_zero nonneg tiny) nonneg packed
  split at packed
  · next whole =>
    have full : 2 ^ 52 ≤ m <<< Format.binary64.mantissaBits := by
      rw [Nat.shiftLeft_eq]
      exact (Nat.pow_le_pow_right (by decide) (by decide)).trans (Nat.le_mul_of_pos_left _ pos)
    have least : -1074 ≤ (-53 : ℤ) + 0 := by decide
    obtain ⟨r, unpacks, nearest⟩ := exists_mul _ (Nat.pow_pos ten) full least
    rw [product_value whole] at nearest
    exact isNearest_of_unpacks unpacks nearest nonneg packed
  · next fraction =>
    have least : -1074 ≤ (0 : ℤ) - 0 := by decide
    obtain ⟨r, unpacks, nearest⟩ := exists_div pos (Nat.pow_pos ten) least
    rw [quotient_value (Int.not_le.1 fraction)] at nearest
    exact isNearest_of_unpacks unpacks nearest nonneg packed

/-- Powers of ten in the table are not too large. -/
theorem powerOfTen_lt (few : k ≤ 22) : ((10 ^ k : ℕ) : ℚ) < limit := by
  have le : 10 ^ k ≤ 2 ^ 74 :=
    (Nat.pow_le_pow_right (by decide) few).trans (by norm_num)
  calc ((10 ^ k : ℕ) : ℚ) ≤ (2 ^ 74 : ℕ) := Nat.cast_le.2 le
    _ = 2 ^ (74 : ℤ) := by rw [Nat.cast_pow, Nat.cast_ofNat, ← zpow_natCast, Nat.cast_ofNat]
    _ < limit := zpow_lt_zpow_right₀ one_lt_two (by norm_num)

/-- Digits in front of zeros are rounded once, whether or not the table is used. -/
theorem isNearest_ofScientific_false (n k : ℕ) :
    IsNearest (n * 10 ^ (k : ℤ)) (Float.ofScientific n false k) := by
  unfold Float.ofScientific
  split
  · next short =>
    have value : (n : ℚ) * (10 ^ k : ℕ) = n * 10 ^ (k : ℤ) := by
      rw [zpow_natCast, Nat.cast_pow, Nat.cast_ofNat]
    rw [← value]
    exact isNearest_mul (value?_toFloat short.1) (value?_powerOfTen (Nat.lt_succ_of_le short.2))
      (Nat.pow_pos (by decide))
  · exact isNearest_of_ofScientific rfl

/-- And so are digits behind the point. -/
theorem isNearest_ofScientific_true (n k : ℕ) :
    IsNearest (n * 10 ^ (-k : ℤ)) (Float.ofScientific n true k) := by
  unfold Float.ofScientific
  split
  · next short =>
    have value : (n : ℚ) / (10 ^ k : ℕ) = n * 10 ^ (-k : ℤ) := by
      rw [zpow_neg, zpow_natCast, Nat.cast_pow, Nat.cast_ofNat, div_eq_mul_inv]
    rw [← value]
    exact isNearest_div (value?_toFloat short.1) (value?_powerOfTen (Nat.lt_succ_of_le short.2))
      (Nat.pow_pos (by decide)) (powerOfTen_lt short.2)
  · have exponent : (-k : ℤ) = Int.negOfNat k := Int.negOfNat_eq.symm
    rw [exponent]
    exact isNearest_of_ofScientific rfl

/-- The number of digits and an exponent is the nearest one. -/
theorem isNearest_ofDecimal (digits : ℕ) (exponent : ℤ) :
    IsNearest (digits * 10 ^ exponent) (ofDecimal digits exponent) := by
  unfold ofDecimal
  obtain negative | nonneg := lt_or_ge exponent 0
  · have magnitude : exponent = -exponent.natAbs := by omega
    rw [decide_eq_true negative]
    nth_rewrite 1 [magnitude]
    exact isNearest_ofScientific_true _ _
  · have magnitude : exponent = exponent.natAbs := by omega
    rw [decide_eq_false (not_lt.2 nonneg)]
    nth_rewrite 1 [magnitude]
    exact isNearest_ofScientific_false _ _

/-- A count that fits into a mantissa is the number of that value. -/
theorem value?_ofCount (small : n < 2 ^ 53) : value? (ofCount n) = some (n : ℚ) := by
  have nearest := isNearest_ofScientific_false n 0
  rw [Nat.cast_zero, zpow_zero, mul_one] at nearest
  have bounded : (n : ℚ) < (2 ^ 64 : ℕ) := by exact_mod_cast small.trans (by norm_num)
  exact nearest.value_eq (.refl (.natCast small)) (bounded.trans two_pow_64_lt)

end ScriptLang.Number

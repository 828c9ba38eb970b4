import Mathlib
import ScriptLang.Proofs.Numbers.Rounding

/-!
# Integers as numbers

An integer becomes a number by rounding, and so does the difference of two numbers.  Rounding passes
no number on its way, so it keeps within bounds that are numbers, and small integers stay what they
are.

## Main results

* `unpack_pack` — a finite number is not changed by packing it
* `Unpacks.value_pack` — nor is its value
* `exists_ofInt` — an integer is rounded to a whole number
* `value?_sub` — the difference of two small whole numbers
-/

namespace ScriptLang.Number

open Float.Model (Format UnpackedFloat)
open Float.Model.UnpackedFloat

variable {s : Sign} {m n : ℕ} {e f : ℤ}

/-! ### Packing -/

/-- The fields tell the number. -/
theorem Fields.eq {b : BitVec Format.binary64.numBits} {u u' : UnpackedFloat} (h : Fields b u)
    (h' : Fields b u') : u = u' := by
  have none (exponent : unpackExponent b = 0#11) : (unpackExponent b).toNat = 0 := by
    rw [exponent]
    rfl
  cases h <;> cases h'
  all_goals grind

theorem isFinite_unpack_iff {b : BitVec Format.binary64.numBits} :
    (unpack .binary64 b).isFinite = true ↔ unpackExponent b ≠ -1#11 := by
  unfold unpack
  dsimp only
  by_cases ones : unpackExponent b = -1#11
  · rw [if_pos ones]
    refine ⟨fun finite => ?_, fun other => absurd ones other⟩
    split at finite <;> cases finite
  · rw [if_neg ones]
    refine ⟨fun _ => ones, fun _ => ?_⟩
    split
    · split <;> rfl
    · rfl

/-- The exponent of a finite number is not too large. -/
theorem Fields.top {b : BitVec Format.binary64.numBits} {pos : 0 < m}
    (h : Fields b (.finite s m e pos)) (finite : unpackExponent b ≠ -1#11) : e ≤ 971 := by
  cases h with
  | subnormal _ _ _ least => omega
  | normal _ _ _ scaled =>
    by_contra! beyond
    refine finite (BitVec.eq_of_toNat_eq ?_)
    change _ = 2047
    have few : (unpackExponent b).toNat < 2048 := (unpackExponent b).isLt
    omega

theorem top_of_unpack {x : Float} {pos : 0 < m} (unpacked : x.toModel.unpack = .finite s m e pos) :
    e ≤ 971 := by
  have finite : (unpack .binary64 x.toModel.toBits.toBitVec).isFinite = true := by
    rw [← Float.Model.unpack, unpacked]
    rfl
  have fields := fields_unpack finite
  rw [← Float.Model.unpack, unpacked] at fields
  exact fields.top (isFinite_unpack_iff.1 finite)

/-- A canonical number is packed with the exponent of the subnormal numbers, or with its own one,
which all exponents but the greatest can be. -/
theorem exists_pack (s : Sign) (h : IsCanonical m e) (top : e ≤ 971) :
    ∃ exponent : BitVec 11, exponent ≠ -1#11 ∧
      pack .binary64 (.finite s m e h.pos) =
        packComponents .binary64 s exponent (BitVec.ofNat 52 m) ∧
      (exponent = 0#11 ∧ m < 2 ^ 52 ∧ e = -1074 ∨
        0 < exponent.toNat ∧ 2 ^ 52 ≤ m ∧ e = exponent.toNat - 1075) := by
  have least := h.least
  have biased : e + Format.binary64.exponentBias + Format.binary64.mantissaBitsWithoutImplicit =
      e + 1075 := by
    change e + 1023 + 52 = e + 1075
    omega
  have inside : ¬2 ^ Format.binary64.exponentBits ≤ (e + 1075).toNat + 1 := by
    change ¬2048 ≤ _
    omega
  unfold pack
  dsimp only
  rw [biased, if_neg inside]
  by_cases full : 2 ^ 52 ≤ m
  · have bits : m.log2 + 1 = Format.binary64.mantissaBits :=
      congrArg (· + 1) ((Nat.log2_eq_iff h.pos.ne').2 ⟨full, h.small⟩)
    have exponent : (BitVec.ofNat 11 (e + 1075).toNat).toNat = (e + 1075).toNat := by
      rw [BitVec.toNat_ofNat, Nat.mod_eq_of_lt (by omega)]
    refine ⟨_, ?_, if_pos bits, .inr ⟨by omega, full, by omega⟩⟩
    intro ones
    have ones := congrArg BitVec.toNat ones
    rw [exponent] at ones
    change _ = 2047 at ones
    omega
  · have bits : ¬m.log2 + 1 = Format.binary64.mantissaBits := by
      have few := (Nat.log2_lt h.pos.ne').2 (Nat.not_le.1 full)
      change ¬m.log2 + 1 = 53
      omega
    exact ⟨0#11, by decide, if_neg bits, .inl ⟨rfl, Nat.not_le.1 full, h.full.resolve_right full⟩⟩

/-- A finite number is not changed by packing it. -/
theorem unpack_pack (s : Sign) (h : IsCanonical m e) (top : e ≤ 971) :
    (Float.Model.pack (.finite s m e h.pos)).unpack = .finite s m e h.pos := by
  obtain ⟨exponent, finite, packed, bits⟩ := exists_pack s h top
  have sign := unpackSign_packComponents s exponent (BitVec.ofNat 52 m)
  have mantissa : unpackMantissa (packComponents .binary64 s exponent (BitVec.ofNat 52 m)) =
      BitVec.ofNat 52 m := unpackMantissa_packComponents
  have kept : unpackExponent (packComponents .binary64 s exponent (BitVec.ofNat 52 m)) =
      exponent := unpackExponent_packComponents
  change unpack .binary64 (pack .binary64 _) = _
  rw [packed]
  generalize packComponents .binary64 s exponent (BitVec.ofNat 52 m) = b at sign mantissa kept
  subst kept
  have mantissa : (unpackMantissa b).toNat = m % 2 ^ 52 :=
    (congrArg BitVec.toNat mantissa).trans (BitVec.toNat_ofNat ..)
  have sign : s = .ofBitVec (unpackSign b) := by rw [sign, Sign.ofBitVec_toBitVec]
  refine (fields_unpack (isFinite_unpack_iff.2 finite)).eq ?_
  obtain ⟨zero, few, subnormal⟩ | ⟨some, full, scaled⟩ := bits
  · refine .subnormal sign zero ?_ subnormal
    rw [mantissa, Nat.mod_eq_of_lt few]
  · refine .normal sign some ?_ scaled
    have small := h.small
    omega

/-! ### Rounding -/

theorem log2_mul_two_pow (pos : 0 < m) (k : ℕ) : (m * 2 ^ k).log2 = m.log2 + k := by
  rw [Nat.log2_eq_iff (Nat.mul_pos pos (Nat.two_pow_pos k)).ne', Nat.pow_add, Nat.add_right_comm,
    Nat.pow_add]
  exact ⟨Nat.mul_le_mul_right _ (Nat.log2_self_le pos.ne'),
    Nat.mul_lt_mul_of_pos_right Nat.lt_log2_self (Nat.two_pow_pos k)⟩

/-- A whole mantissa stands for itself. -/
theorem stands_exact (m : ℕ) : Stands (.ofMantissaAndAccuracy m .exact) m :=
  .whole m

/-- A mantissa that has few bits is filled up before it is rounded. -/
theorem exists_round (s : Sign) (pos : 0 < m) (least : -1074 ≤ e) :
    ∃ (n : ℕ) (f : ℤ), Unpacks (UnpackedFloat.round .binary64 s m e) (s.apply n * 2 ^ f) ∧
      Nearest (m * 2 ^ e) (n * 2 ^ f) := by
  have target := targetExponent_eq m e
  simp only [UnpackedFloat.round, decreaseExponent, Nat.shiftLeft_eq]
  generalize Format.binary64.targetExponent (Float.Model.totalExponent m e) = t at target ⊢
  generalize shift : (e - t).toNat = k
  have fine : e - k ≤
      Format.binary64.targetExponent (Float.Model.totalExponent (m * 2 ^ k) (e - k)) := by
    rw [targetExponent_eq, log2_mul_two_pow pos]
    omega
  have value : (m : ℚ) * 2 ^ e = ((m * 2 ^ k : ℕ) : ℚ) * 2 ^ (e - k) := by
    rw [← scaled_add, sub_add_cancel]
  rw [value]
  exact exists_roundWithAccuracy s (by omega) fine (stands_exact _)

/-! ### Values of results -/

/-- The least power of two that is too large to be packed. -/
def limit : ℚ :=
  2 ^ (1024 : ℤ)

/-- It has one exponent more than the greatest number. -/
theorem limit_eq : limit = (2 ^ 52 : ℕ) * 2 ^ (972 : ℤ) := by
  rw [limit, Nat.cast_pow, Nat.cast_ofNat, ← zpow_natCast, ← zpow_add₀ two_ne_zero]
  rfl

theorem limit_pos : 0 < limit := by
  unfold limit
  positivity

theorem IsCanonical.top (h : IsCanonical m e) (bounded : (m : ℚ) * 2 ^ e < limit) : e ≤ 971 := by
  by_contra! beyond
  have full : 2 ^ 52 ≤ m := h.full.resolve_left (by omega)
  have large : limit ≤ m * 2 ^ e := by
    have power : (2 : ℚ) ^ (972 : ℤ) ≤ 2 ^ e := zpow_le_zpow_right₀ one_le_two beyond
    rw [limit_eq]
    exact mul_le_mul (Nat.cast_le.2 full) power (by positivity) m.cast_nonneg
  exact absurd bounded (not_lt.2 large)

/-- Whatever fits into 64 bits is not too large. -/
theorem two_pow_64_lt : ((2 ^ 64 : ℕ) : ℚ) < limit := by
  rw [limit, Nat.cast_pow, Nat.cast_ofNat, ← zpow_natCast]
  exact zpow_lt_zpow_right₀ one_lt_two (by norm_num)

theorem value_pack_zero (s : Sign) :
    unpackedValue? (Float.Model.pack (.zero s)).unpack = some 0 := by
  cases s <;> rfl

/-- A number that is not too large keeps its value. -/
theorem Unpacks.value_pack {u : UnpackedFloat} {q : ℚ} (h : Unpacks u q)
    (bounded : |q| < limit) :
    unpackedValue? (Float.Model.pack u).unpack = some q := by
  cases h with
  | zero s => exact value_pack_zero s
  | finite s canonical =>
    rw [abs_value] at bounded
    rw [unpack_pack s canonical (canonical.top bounded)]
    rfl

/-- The value of a signed mantissa with an exponent is rounded. -/
theorem exists_normalize {z : ℤ} (s : Sign) (least : -1074 ≤ e)
    (bounded : |(z : ℚ) * 2 ^ e| ≤ (2 ^ 64 : ℕ)) :
    ∃ r, unpackedValue? (Float.Model.pack (normalize .binary64 z e s)).unpack = some r ∧
      Nearest (z * 2 ^ e) r := by
  -- A mantissa other than zero has a sign and a magnitude.
  have signed (s : Sign) {n : ℕ} (pos : 0 < n) (value : z = s.apply n) :
      ∃ r, unpackedValue? (Float.Model.pack (UnpackedFloat.round .binary64 s n e)).unpack =
        some r ∧ Nearest (z * 2 ^ e) r := by
    obtain ⟨n', e', unpacks, nearest⟩ := exists_round s pos least
    rw [value, abs_value] at bounded
    have inside := nearest.le_of_le (.two_pow 64) bounded
    rw [← abs_value s] at inside
    rw [value]
    exact ⟨_, unpacks.value_pack (inside.trans_lt two_pow_64_lt), nearest.sign s⟩
  unfold UnpackedFloat.normalize
  cases sign : compare z 0 with
  | lt =>
    have negative := compare_lt_iff_lt.1 sign
    exact signed .negative (by omega) (by simp only [Sign.apply]; omega)
  | eq =>
    obtain rfl := compare_eq_iff_eq.1 sign
    rw [Int.cast_zero, zero_mul]
    exact ⟨0, value_pack_zero s, .refl .zero⟩
  | gt =>
    have positive := compare_gt_iff_gt.1 sign
    exact signed .positive (by omega) (by simp only [Sign.apply]; omega)

/-- An integer is rounded to a whole number. -/
theorem exists_ofInt {i : ℤ} (bounded : |i| ≤ 2 ^ 64) :
    ∃ j : ℤ, value? (ofInt i) = some (j : ℚ) ∧ Nearest i j := by
  have inside : |(i : ℚ) * 2 ^ (0 : ℤ)| ≤ (2 ^ 64 : ℕ) := by
    rw [zpow_zero, mul_one]
    exact_mod_cast bounded
  obtain ⟨r, value, nearest⟩ := exists_normalize .positive (by decide) inside
  rw [zpow_zero, mul_one] at nearest
  obtain small | large := lt_or_ge |i| (2 ^ 53)
  · have kept := nearest.eq (.intCast small)
    subst kept
    exact ⟨i, value, nearest⟩
  · -- Nothing is rounded past the numbers from which on all numbers are whole.
    have kept : ((2 ^ 53 : ℕ) : ℚ) ≤ |r| := by
      have limit : Exact (2 ^ 53 : ℕ) := .two_pow 53
      obtain positive | negative := le_abs.1 large
      · exact (nearest.ge_of_ge limit (by exact_mod_cast positive)).trans (le_abs_self r)
      · have below : (i : ℚ) ≤ -(2 ^ 53 : ℕ) := by exact_mod_cast Int.le_neg_of_le_neg negative
        exact (le_neg.1 (nearest.le_of_le limit.neg below)).trans (neg_le_abs r)
    obtain ⟨j, rfl⟩ := nearest.isExact.exists_even kept
    exact ⟨2 * j, value, nearest⟩

/-- A mantissa in smaller units. -/
theorem decreaseExponent_value (s : Sign) (m : ℕ) {e e' : ℤ} (finer : e' ≤ e) :
    (s.apply (decreaseExponent m e e').1 * 2 ^ e' : ℚ) = s.apply m * 2 ^ e := by
  obtain ⟨k, rfl⟩ := Int.le.dest finer
  simp only [decreaseExponent, add_sub_cancel_left, Int.toNat_natCast, Nat.shiftLeft_eq]
  rw [Nat.cast_mul, sign_apply_mul, zpow_add₀ two_ne_zero, zpow_natCast]
  push_cast
  ring

/-- A difference that is a small integer is not rounded. -/
theorem value_sub {u v : UnpackedFloat} {q r : ℚ} {i : ℤ} (left : Unpacks u q)
    (right : Unpacks v r) (difference : q - r = i) (small : |i| < 2 ^ 53) :
    unpackedValue? (Float.Model.pack (sub .binary64 u v)).unpack = some (i : ℚ) := by
  have bounded : |(i : ℚ)| ≤ (2 ^ 64 : ℕ) := by
    exact_mod_cast small.le.trans (by norm_num : (2 : ℤ) ^ 53 ≤ 2 ^ 64)
  have inside := bounded.trans_lt two_pow_64_lt
  cases left with
  | zero s =>
    cases right with
    | zero s' =>
      rw [← difference, sub_zero]
      change unpackedValue? (Float.Model.pack (if s == -s' then .zero s else .zero _)).unpack = _
      split <;> exact value_pack_zero _
    | @finite s' n f canonical =>
      rw [zero_sub, neg_value] at difference
      rw [← difference] at inside ⊢
      exact (Unpacks.finite (-s') canonical).value_pack inside
  | @finite s m e canonical =>
    cases right with
    | zero s' =>
      rw [sub_zero] at difference
      rw [← difference] at inside ⊢
      exact (Unpacks.finite s canonical).value_pack inside
    | @finite s' n f canonical' =>
      -- Both mantissas are brought to the smaller exponent.
      have least : -1074 ≤ min e f := le_min canonical.least canonical'.least
      rw [← decreaseExponent_value s m (min_le_left e f),
        ← decreaseExponent_value s' n (min_le_right e f), ← sub_mul, ← Int.cast_sub] at difference
      rw [← difference] at bounded
      obtain ⟨rounded, value, nearest⟩ := exists_normalize .positive least bounded
      rw [difference] at nearest
      rw [nearest.eq (.intCast small)] at value
      exact value

/-- The difference of two whole numbers, unless it is too large to be exact. -/
theorem value?_sub {x y : Float} {i j : ℤ} (left : value? x = some (i : ℚ))
    (right : value? y = some (j : ℚ)) (small : |i - j| < 2 ^ 53) :
    value? (x - y) = some ((i - j : ℤ) : ℚ) :=
  value_sub (unpacks_of_value? left) (unpacks_of_value? right) (Int.cast_sub i j).symm small

end ScriptLang.Number

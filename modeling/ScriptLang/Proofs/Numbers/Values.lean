import Mathlib
import ScriptLang.Builtin.Arguments
import ScriptLang.Proofs.Numbers.Shortest

/-!
# The values of numbers

A finite number stands for a rational number, and whole numbers are those that stand for an integer.
The 64-bit integer of a whole number is that integer, or the end of the range next to it.

## Main definitions

* `value?` — the rational number that a number stands for
* `clamp` — the 64-bit integer nearest to an integer

## Main results

* `isWhole_iff` — whole numbers stand for integers
* `toInt_of_value?` — the 64-bit integer of a whole number
* `integer_of_value?`, `integer_of_not_isWhole` — whole numbers and other values as arguments
-/

namespace ScriptLang

namespace Number

open Float.Model (Format UnpackedFloat)
open Float.Model.UnpackedFloat

variable {x : Float} {s : Sign} {m : ℕ} {e : ℤ} {q : ℚ}

/-! ### Values -/

/-- The rational number that a sign, a mantissa and an exponent stand for. -/
def unpackedValue? : UnpackedFloat → Option ℚ
  | .notANumber | .infinity _ => none
  | .zero _ => some 0
  | .finite s m e _ => some (s.apply m * 2 ^ e)

/-- The rational number that a number stands for; none for the infinities and for what is no
number. -/
def value? (x : Float) : Option ℚ :=
  unpackedValue? x.toModel.unpack

theorem sign_apply_mul (s : Sign) (i j : ℤ) : s.apply (i * j) = s.apply i * j := by
  cases s
  · exact (neg_mul i j).symm
  · rfl

theorem abs_sign_apply (s : Sign) (i : ℤ) : |s.apply i| = |i| := by
  cases s
  · exact abs_neg i
  · rfl

theorem sign_apply_apply (s : Sign) (i : ℤ) : s.apply (s.apply i) = i := by
  cases s
  · exact neg_neg i
  · rfl

theorem abs_value (s : Sign) (m : ℕ) (e : ℤ) : |(s.apply m * 2 ^ e : ℚ)| = m * 2 ^ e := by
  have pos : (0 : ℚ) < 2 ^ e := by positivity
  rw [abs_mul, ← Int.cast_abs, abs_sign_apply, Nat.abs_cast, Int.cast_natCast, abs_of_pos pos]

theorem negative_value (m : ℕ) (e : ℤ) :
    ((Sign.negative.apply m : ℤ) * 2 ^ e : ℚ) = -(m * 2 ^ e) := by
  rw [Sign.apply, Int.cast_neg, Int.cast_natCast, neg_mul]

theorem neg_value (s : Sign) (m : ℕ) (e : ℤ) :
    -(s.apply m * 2 ^ e : ℚ) = (-s).apply m * 2 ^ e := by
  cases s
  · change -((-(m : ℤ) : ℤ) * 2 ^ e : ℚ) = (m : ℤ) * 2 ^ e
    rw [Int.cast_neg, neg_mul, neg_neg]
  · change -((m : ℤ) * 2 ^ e : ℚ) = (-(m : ℤ) : ℤ) * 2 ^ e
    rw [Int.cast_neg, neg_mul]

/-! ### Whole numbers -/

/-- A mantissa and an exponent stand for an integer if the bits behind the point are clear. -/
theorem value_eq_intCast_iff {i : ℤ} :
    (s.apply m * 2 ^ e : ℚ) = i ↔ s.apply (m * 2 ^ e.toNat) = i * 2 ^ (-e).toNat := by
  have pos : (2 : ℚ) ^ (-e).toNat ≠ 0 := by positivity
  have power : (2 : ℚ) ^ e * 2 ^ (-e).toNat = 2 ^ e.toNat := zpow_mul_pow (by norm_num) e
  rw [← mul_left_inj' pos, mul_assoc, power, sign_apply_mul]
  norm_cast

theorem isWhole_iff : isWhole x = true ↔ ∃ i : ℤ, value? x = some (i : ℚ) := by
  unfold isWhole value?
  cases x.toModel.unpack with
  | notANumber | infinity => simp [unpackedValue?]
  | zero s => exact iff_of_true rfl ⟨0, rfl⟩
  | finite s m e pos =>
    simp only [unpackedValue?, Option.some.injEq, value_eq_intCast_iff, Nat.pow_eq,
      decide_eq_true_eq]
    constructor
    · intro clear
      -- Either nothing stands behind the point, or the mantissa is not shifted to the left.
      refine ⟨s.apply (m * 2 ^ e.toNat / 2 ^ (-e).toNat : ℕ), ?_⟩
      rw [← sign_apply_mul]
      norm_cast
      rw [Nat.div_mul_cancel ((Nat.dvd_of_mod_eq_zero clear).mul_right _)]
    · rintro ⟨i, equal⟩
      obtain nonneg | negative := le_or_gt 0 e
      · rw [Int.toNat_of_nonpos (by omega), pow_zero, Nat.mod_one]
      · rw [Int.toNat_of_nonpos negative.le, pow_zero, mul_one] at equal
        have divides : (2 : ℤ) ^ (-e).toNat ∣ m := by
          rw [← sign_apply_apply s m, equal, sign_apply_mul]
          exact Dvd.intro_left _ rfl
        exact Nat.mod_eq_zero_of_dvd (by exact_mod_cast divides)

/-- The 64-bit integer nearest to an integer. -/
def clamp (i : ℤ) : ℤ :=
  max (-2 ^ 63) (min i (2 ^ 63 - 1))

theorem clamp_of_ge {i : ℤ} (above : 2 ^ 63 - 1 ≤ i) : clamp i = 2 ^ 63 - 1 := by
  unfold clamp
  omega

theorem clamp_of_le {i : ℤ} (below : i ≤ -2 ^ 63) : clamp i = -2 ^ 63 := by
  unfold clamp
  omega

/-- The 64-bit integers are left as they are. -/
theorem clamp_eq_self {i : ℤ} (least : -2 ^ 63 ≤ i) (greatest : i ≤ 2 ^ 63 - 1) : clamp i = i := by
  unfold clamp
  omega

theorem toInt_ofIntClamp (i : ℤ) : (Int64.ofIntClamp i).toInt = clamp i := by
  have least : Int64.minValue.toInt = -2 ^ 63 := rfl
  have greatest : Int64.maxValue.toInt = 2 ^ 63 - 1 := rfl
  unfold clamp Int64.ofIntClamp
  split
  · split
    · rw [Int64.toInt_ofIntLE]
      omega
    · rw [greatest]
      omega
  · rw [least]
    omega

theorem mantissa_shiftRight (em : ExtendedMantissa) (k : ℕ) :
    (em >>> k).mantissa = em.mantissa / 2 ^ k := by
  induction k with
  | zero => exact (Nat.div_one _).symm
  | succ k ih =>
    change (em >>> k).mantissa / 2 = _
    rw [ih, Nat.div_div_eq_div_mul, Nat.pow_succ]

/-- The bits behind the point are cut off. -/
theorem roundToInt_eq (s : Sign) (m : ℕ) (e : ℤ) :
    roundToInt s m e = s.apply (m * 2 ^ e.toNat / 2 ^ (-e).toNat : ℕ) := by
  have shift : (0 - (e - (e.toNat : ℤ))).toNat = (-e).toNat := by omega
  simp only [roundToInt, decreaseExponent, shiftToExponent, mantissa_shiftRight, Int.sub_zero,
    Nat.shiftLeft_eq, shift]
  rfl

/-- The 64-bit integer of a whole number. -/
theorem toInt_of_value? {i : ℤ} (whole : value? x = some (i : ℚ)) : toInt x = clamp i := by
  unfold toInt Float.Model.toInt64 UnpackedFloat.toInt64
  rw [toInt_ofIntClamp]
  congr 1
  unfold value? at whole
  cases unpacked : x.toModel.unpack with
  | notANumber | infinity =>
    rw [unpacked] at whole
    cases whole
  | zero s =>
    rw [unpacked] at whole
    exact (Int.cast_eq_zero.1 (Option.some.inj whole).symm).symm
  | finite s m e pos =>
    rw [unpacked] at whole
    have equal := value_eq_intCast_iff.1 (Option.some.inj whole)
    have unsigned : ((m * 2 ^ e.toNat : ℕ) : ℤ) = s.apply i * 2 ^ (-e).toNat := by
      push_cast
      rw [← sign_apply_mul, ← equal, sign_apply_apply]
    change roundToInt s m e = i
    rw [roundToInt_eq, Int.natCast_ediv, unsigned]
    push_cast
    rw [Int.mul_ediv_cancel _ (by positivity), sign_apply_apply]

end Number

/-! ### Arguments of built-in functions -/

/-- The values that a function takes where it expects an integer. -/
def Value.IsWhole (v : Value) : Prop :=
  ∃ (x : Float) (i : ℤ), v = .number x ∧ Number.value? x = some (i : ℚ)

namespace Arguments

variable {args : List Value} {k : ℕ} {fault : RuntimeFault}

theorem integer_of_value? {x : Float} {i : ℤ} (arg : args[k]? = some (.number x))
    (whole : Number.value? x = some (i : ℚ)) : integer args k fault = .ok (Number.clamp i) := by
  simp only [integer, arg, Number.isWhole_iff.2 ⟨i, whole⟩, if_true, Number.toInt_of_value? whole]

theorem integer_of_not_isWhole {v : Value} (arg : args[k]? = some v) (wrong : ¬v.IsWhole) :
    integer args k fault = .error fault := by
  simp only [integer, arg]
  cases v with
  | number x =>
    have fraction : ¬Number.isWhole x = true := fun whole =>
      wrong ((Number.isWhole_iff.1 whole).elim fun i value => ⟨x, i, rfl, value⟩)
    exact if_neg fraction
  | nil | bool | string | callable => rfl

end Arguments

end ScriptLang

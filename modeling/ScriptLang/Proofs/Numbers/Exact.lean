import Mathlib
import ScriptLang.Proofs.Numbers.Values

/-!
# Exact numbers

Finite numbers stand for certain rational numbers, and all others are rounded to the nearest one of
these.  Of two that are equally near it is the one whose mantissa is even.

## Main definitions

* `Exact` — the rational numbers that numbers stand for, were there no greatest exponent
* `HasEven` — those of them that have an even mantissa
* `Unpacks` — what the fields of a number are, and which rational number it stands for
* `Nearest` — the exact number that a rational number is rounded to

## Main results

* `Exact.exists_even` — what is too large for a mantissa is an even integer
* `Nearest.ge_of_ge`, `Nearest.le_of_le` — rounding passes no exact number
* `Nearest.of_magnitudes` — positive numbers only have to be compared with positive ones
-/

namespace ScriptLang.Number

open Float.Model (UnpackedFloat)
open Float.Model.UnpackedFloat

variable {s : Sign} {m n : ℕ} {e f : ℤ} {p q r : ℚ}

/-! ### Units -/

/-- A number in units of a power of two, and in smaller units. -/
theorem scaled_add (n k : ℕ) (e : ℤ) : (n : ℚ) * 2 ^ (e + k) = ((n * 2 ^ k : ℕ) : ℚ) * 2 ^ e := by
  rw [zpow_add₀ (by norm_num), zpow_natCast]
  push_cast
  ring

theorem scaled_nonneg (m : ℕ) (e : ℤ) : (0 : ℚ) ≤ m * 2 ^ e := by
  positivity

theorem scaled_le_iff : (m : ℚ) * 2 ^ e ≤ n * 2 ^ e ↔ m ≤ n := by
  have pos : (0 : ℚ) < 2 ^ e := by positivity
  rw [mul_le_mul_iff_of_pos_right pos, Nat.cast_le]

theorem scaled_lt_iff : (m : ℚ) * 2 ^ e < n * 2 ^ e ↔ m < n := by
  rw [← not_le, scaled_le_iff, not_le]

theorem IsCanonical.value_pos (h : IsCanonical m e) : (0 : ℚ) < m * 2 ^ e := by
  have some := h.pos
  positivity

/-- The least mantissa that has all its bits. -/
theorem isCanonical_power (least : -1074 ≤ e) : IsCanonical (2 ^ 52) e :=
  ⟨by norm_num, by norm_num, least, .inr le_rfl⟩

/-- The greatest mantissa. -/
theorem isCanonical_ones (least : -1074 ≤ e) : IsCanonical (2 ^ 53 - 1) e :=
  ⟨by norm_num, by norm_num, least, .inr (by norm_num)⟩

/-- Of two numbers the one with the larger exponent has all its bits and is larger. -/
theorem IsCanonical.succ_le (h : IsCanonical m e) (h' : IsCanonical n f) (lower : e < f) :
    ((m + 1 : ℕ) : ℚ) * 2 ^ e ≤ n * 2 ^ f := by
  obtain ⟨k, rfl⟩ := Int.le.dest (Int.add_one_le_of_lt lower)
  have full : 2 ^ 52 ≤ n := h'.full.resolve_left (by have least := h.least; omega)
  have double : m + 1 ≤ n * 2 ^ (1 + k) := by
    calc m + 1 ≤ 2 ^ 52 * 2 := h.small
      _ ≤ n * 2 ^ (1 + k) :=
        Nat.mul_le_mul full (Nat.pow_le_pow_right two_pos (Nat.le_add_right 1 k))
  rw [Int.add_assoc, ← Int.natCast_one, ← Int.natCast_add, scaled_add]
  exact scaled_le_iff.2 double

theorem IsCanonical.lt_of_lt (h : IsCanonical m e) (h' : IsCanonical n f) (lower : e < f) :
    (m : ℚ) * 2 ^ e < n * 2 ^ f :=
  (scaled_lt_iff.2 m.lt_succ_self).trans_le (h.succ_le h' lower)

/-- A number tells its mantissa and its exponent. -/
theorem IsCanonical.eq_of_value (h : IsCanonical m e) (h' : IsCanonical n f)
    (same : (m : ℚ) * 2 ^ e = n * 2 ^ f) : m = n ∧ e = f := by
  obtain lower | rfl | higher := lt_trichotomy e f
  · exact absurd same (h.lt_of_lt h' lower).ne
  · exact ⟨le_antisymm (scaled_le_iff.1 same.le) (scaled_le_iff.1 same.ge), rfl⟩
  · exact absurd same (h'.lt_of_lt h higher).ne'

/-! ### Exact numbers -/

/-- The rational numbers that numbers stand for, were there no greatest exponent. -/
inductive Exact : ℚ → Prop where
  | zero : Exact 0
  | scaled (s : Sign) {m : ℕ} {e : ℤ} (canonical : IsCanonical m e) : Exact (s.apply m * 2 ^ e)

namespace Exact

theorem magnitude (h : IsCanonical m e) : Exact (m * 2 ^ e) :=
  .scaled .positive h

theorem neg (h : Exact q) : Exact (-q) := by
  cases h with
  | zero =>
    rw [neg_zero]
    exact zero
  | @scaled s m e canonical =>
    rw [neg_value]
    exact scaled _ canonical

theorem two_pow (k : ℕ) : Exact (2 ^ k : ℕ) := by
  have canonical : IsCanonical (2 ^ 52) (k - 52 : ℤ) := isCanonical_power (by omega)
  have value : ((2 ^ 52 : ℕ) : ℚ) * 2 ^ (k - 52 : ℤ) = (2 ^ k : ℕ) := by
    rw [Nat.cast_pow, Nat.cast_pow, Nat.cast_ofNat, ← zpow_natCast, ← zpow_natCast,
      ← zpow_add₀ (by norm_num)]
    congr 1
    push_cast
    omega
  exact value ▸ magnitude canonical

/-- Natural numbers that fit into a mantissa are exact. -/
theorem natCast (small : n < 2 ^ 53) : Exact (n : ℚ) := by
  obtain rfl | pos := Nat.eq_zero_or_pos n
  · rw [Nat.cast_zero]
    exact zero
  -- The mantissa is filled up with zeros behind the last bit.
  have few : n.log2 ≤ 52 := Nat.lt_succ_iff.1 ((Nat.log2_lt pos.ne').2 small)
  have full : 2 ^ 52 ≤ n * 2 ^ (52 - n.log2) := by
    calc 2 ^ 52 = 2 ^ n.log2 * 2 ^ (52 - n.log2) := by rw [← Nat.pow_add, Nat.add_sub_cancel' few]
      _ ≤ n * 2 ^ (52 - n.log2) := Nat.mul_le_mul_right _ (Nat.log2_self_le pos.ne')
  have fits : n * 2 ^ (52 - n.log2) < 2 ^ 53 := by
    calc n * 2 ^ (52 - n.log2) < 2 ^ (n.log2 + 1) * 2 ^ (52 - n.log2) :=
          Nat.mul_lt_mul_of_pos_right Nat.lt_log2_self (Nat.two_pow_pos _)
      _ = 2 ^ 53 := by
        rw [← Nat.pow_add]
        congr 1
        omega
  have canonical : IsCanonical (n * 2 ^ (52 - n.log2)) (-(52 - n.log2 : ℕ)) :=
    ⟨by omega, fits, by omega, .inr full⟩
  have value : ((n * 2 ^ (52 - n.log2) : ℕ) : ℚ) * 2 ^ (-(52 - n.log2 : ℕ) : ℤ) = n := by
    rw [← scaled_add, neg_add_cancel, zpow_zero, mul_one]
  exact value ▸ magnitude canonical

/-- Small integers are exact. -/
theorem intCast {i : ℤ} (small : |i| < 2 ^ 53) : Exact (i : ℚ) := by
  obtain ⟨n, rfl | rfl⟩ := i.eq_nat_or_neg
  · exact natCast (by simpa using small)
  · have magnitude : Exact (n : ℚ) := natCast (by simpa using small)
    exact_mod_cast magnitude.neg

/-- What is too large for a mantissa is an even integer. -/
theorem exists_even (h : Exact q) (large : (2 ^ 53 : ℕ) ≤ |q|) : ∃ i : ℤ, q = (2 * i : ℤ) := by
  cases h with
  | zero => exact ⟨0, Int.cast_zero.symm⟩
  | @scaled s m e canonical =>
    have positive : 0 < e := by
      by_contra! fraction
      have unit : (2 : ℚ) ^ e ≤ 1 := zpow_le_one_of_nonpos₀ (by norm_num) fraction
      have few : (m : ℚ) < (2 ^ 53 : ℕ) := by exact_mod_cast canonical.small
      have less : (m : ℚ) * 2 ^ e ≤ m * 1 := mul_le_mul_of_nonneg_left unit m.cast_nonneg
      rw [abs_value] at large
      linarith
    obtain ⟨k, rfl⟩ := Int.le.dest (Int.add_one_le_of_lt positive)
    refine ⟨s.apply m * 2 ^ k, ?_⟩
    rw [zpow_add₀ two_ne_zero, zpow_natCast]
    push_cast
    ring

end Exact

/-- The exact numbers with an even mantissa; zero is one of them. -/
inductive HasEven : ℚ → Prop where
  | zero : HasEven 0
  | scaled (s : Sign) {m : ℕ} {e : ℤ} (canonical : IsCanonical m e) (even : m % 2 = 0) :
      HasEven (s.apply m * 2 ^ e)

theorem HasEven.neg (h : HasEven q) : HasEven (-q) := by
  cases h with
  | zero =>
    rw [neg_zero]
    exact zero
  | @scaled s m e canonical even =>
    rw [neg_value]
    exact scaled _ canonical even

/-- Two even mantissas have another number between them. -/
theorem IsCanonical.exists_between (h : IsCanonical m e) (h' : IsCanonical n f)
    (even : m % 2 = 0) (even' : n % 2 = 0) (less : (m : ℚ) * 2 ^ e < n * 2 ^ f) :
    ∃ p, Exact p ∧ m * 2 ^ e < p ∧ p < n * 2 ^ f := by
  have small := h.small
  have between : IsCanonical (m + 1) e :=
    ⟨by omega, by omega, h.least, h.full.imp_right fun full => by omega⟩
  refine ⟨_, .magnitude between, scaled_lt_iff.2 m.lt_succ_self, ?_⟩
  obtain lower | rfl | higher := lt_trichotomy e f
  · exact between.lt_of_lt h' lower
  · have less := scaled_lt_iff.1 less
    exact scaled_lt_iff.2 (by omega)
  · exact absurd less (h'.lt_of_lt h higher).not_gt

/-- And so has zero, when it comes to other numbers with an even mantissa. -/
theorem IsCanonical.exists_between_zero (h : IsCanonical m e) (even : m % 2 = 0) :
    ∃ p, Exact p ∧ 0 < p ∧ p < m * 2 ^ e := by
  have least : IsCanonical 1 (-1074) := ⟨one_pos, by norm_num, le_rfl, .inl rfl⟩
  have pos : (0 : ℚ) < (1 : ℕ) * 2 ^ (-1074 : ℤ) := by positivity
  refine ⟨_, .magnitude least, pos, ?_⟩
  obtain lower | rfl := h.least.lt_or_eq
  · exact least.lt_of_lt h lower
  · have some := h.pos
    exact scaled_lt_iff.2 (by omega)

/-- Numbers that are not negative are zero or have a positive sign. -/
theorem HasEven.zero_or_magnitude (h : HasEven r) (nonneg : 0 ≤ r) :
    r = 0 ∨ ∃ m e, IsCanonical m e ∧ m % 2 = 0 ∧ r = m * 2 ^ e := by
  cases h with
  | zero => exact .inl rfl
  | @scaled s m e canonical even =>
    cases s with
    | positive => exact .inr ⟨m, e, canonical, even, rfl⟩
    | negative =>
      rw [negative_value] at nonneg
      linarith [canonical.value_pos]

theorem HasEven.even (h : HasEven (n * 2 ^ f)) (canonical : IsCanonical n f) : n % 2 = 0 := by
  obtain zero | ⟨m, e, other, even, value⟩ := h.zero_or_magnitude (scaled_nonneg n f)
  · exact absurd zero canonical.value_pos.ne'
  · obtain ⟨rfl, -⟩ := canonical.eq_of_value other value
    exact even

theorem HasEven.exists_between_of_nonneg (h : HasEven r) (h' : HasEven q) (nonneg : 0 ≤ r)
    (less : r < q) : ∃ p, Exact p ∧ r < p ∧ p < q := by
  obtain rfl | ⟨n, f, canonical', even', rfl⟩ := h'.zero_or_magnitude (nonneg.trans less.le)
  · exact absurd less nonneg.not_gt
  · obtain rfl | ⟨m, e, canonical, even, rfl⟩ := h.zero_or_magnitude nonneg
    · exact canonical'.exists_between_zero even'
    · exact canonical.exists_between canonical' even even' less

/-- Between two numbers with an even mantissa there is another number. -/
theorem HasEven.exists_between (h : HasEven r) (h' : HasEven q) (less : r < q) :
    ∃ p, Exact p ∧ r < p ∧ p < q := by
  obtain nonneg | negative := le_or_gt 0 r
  · exact h.exists_between_of_nonneg h' nonneg less
  · obtain nonpos | positive := le_or_gt q 0
    · obtain ⟨p, isExact, above, below⟩ :=
        h'.neg.exists_between_of_nonneg h.neg (neg_nonneg.2 nonpos) (neg_lt_neg less)
      exact ⟨-p, isExact.neg, lt_neg.1 below, neg_lt.1 above⟩
    · exact ⟨0, .zero, negative, positive⟩

/-- What the fields of a number are, and which rational number the number stands for. -/
inductive Unpacks : UnpackedFloat → ℚ → Prop where
  | zero (s : Sign) : Unpacks (.zero s) 0
  | finite (s : Sign) {m : ℕ} {e : ℤ} (canonical : IsCanonical m e) :
      Unpacks (.finite s m e canonical.pos) (s.apply m * 2 ^ e)

theorem unpacks_of_value? {x : Float} {q : ℚ} (h : value? x = some q) :
    Unpacks x.toModel.unpack q := by
  unfold value? at h
  cases unpacked : x.toModel.unpack with
  | notANumber | infinity =>
    rw [unpacked] at h
    cases h
  | zero s =>
    rw [unpacked] at h
    obtain rfl := Option.some.inj h
    exact .zero s
  | finite s m e pos =>
    rw [unpacked] at h
    obtain rfl := Option.some.inj h
    exact .finite s (isCanonical_of_unpack unpacked)

theorem Unpacks.exact {u : UnpackedFloat} {q : ℚ} (h : Unpacks u q) : Exact q := by
  cases h with
  | zero => exact .zero
  | finite s canonical => exact .scaled s canonical

/-- What stands for a positive rational number has a sign to match, and all fields. -/
theorem Unpacks.of_pos {u : UnpackedFloat} {q : ℚ} (h : Unpacks u q) (pos : 0 < q) :
    ∃ (m : ℕ) (e : ℤ) (canonical : IsCanonical m e),
      u = .finite .positive m e canonical.pos ∧ q = m * 2 ^ e := by
  cases h with
  | zero => exact absurd pos (lt_irrefl 0)
  | @finite s m e canonical =>
    cases s with
    | positive => exact ⟨m, e, canonical, rfl, rfl⟩
    | negative =>
      rw [negative_value] at pos
      linarith [canonical.value_pos]

/-- Only zero stands for zero. -/
theorem Unpacks.of_zero {u : UnpackedFloat} (h : Unpacks u 0) : ∃ s, u = .zero s := by
  generalize value : (0 : ℚ) = q at h
  cases h with
  | zero s => exact ⟨s, rfl⟩
  | @finite s m e canonical =>
    have magnitude : |(0 : ℚ)| = m * 2 ^ e := by rw [value, abs_value]
    rw [abs_zero] at magnitude
    exact absurd magnitude canonical.value_pos.ne

/-! ### Rounding to exact numbers -/

/-- A rational number is rounded to an exact number: every other one is further away, or as far away
and then the mantissa is even. -/
structure Nearest (q r : ℚ) : Prop where
  isExact : Exact r
  other : ∀ p, Exact p → p ≠ r → |q - r| < |q - p| ∨ |q - r| = |q - p| ∧ HasEven r

namespace Nearest

/-- An exact number is not changed. -/
theorem refl (isExact : Exact q) : Nearest q q := by
  refine ⟨isExact, fun p _ ne => .inl ?_⟩
  rw [sub_self, abs_zero, abs_pos]
  exact sub_ne_zero.2 ne.symm

theorem dist_le (h : Nearest q r) (isExact : Exact p) : |q - r| ≤ |q - p| := by
  by_cases same : p = r
  · rw [same]
  · obtain less | ⟨equal, -⟩ := h.other p isExact same
    · exact less.le
    · exact equal.le

theorem ge_of_ge (h : Nearest q r) (isExact : Exact p) (below : p ≤ q) : p ≤ r := by
  by_contra! less
  have dist := h.dist_le isExact
  rw [abs_of_nonneg (sub_nonneg.2 below), abs_of_nonneg (by linarith)] at dist
  linarith

theorem le_of_le (h : Nearest q r) (isExact : Exact p) (above : q ≤ p) : r ≤ p := by
  by_contra! greater
  have dist := h.dist_le isExact
  rw [abs_of_nonpos (sub_nonpos.2 above), abs_of_nonpos (by linarith)] at dist
  linarith

theorem eq (h : Nearest q r) (isExact : Exact q) : r = q :=
  le_antisymm (h.le_of_le isExact le_rfl) (h.ge_of_ge isExact le_rfl)

theorem neg (h : Nearest q r) : Nearest (-q) (-r) := by
  refine ⟨h.isExact.neg, fun p isExact ne => ?_⟩
  have turned (p : ℚ) : |-q - p| = |q - -p| := by
    rw [← abs_neg]
    congr 1
    ring
  rw [turned, turned, neg_neg]
  exact (h.other (-p) isExact.neg fun same => ne (neg_eq_iff_eq_neg.1 same)).imp_right
    fun tie => ⟨tie.1, tie.2.neg⟩

/-- The sign is kept. -/
theorem sign (h : Nearest (m * 2 ^ e) (n * 2 ^ f)) (s : Sign) :
    Nearest (s.apply m * 2 ^ e) (s.apply n * 2 ^ f) := by
  cases s with
  | positive => exact h
  | negative =>
    rw [negative_value, negative_value]
    exact h.neg

/-- Positive numbers only have to be compared with positive ones, and with zero. -/
theorem of_magnitudes (isExact : Exact r) (nonneg : 0 ≤ q)
    (zero : 0 ≠ r → |q - r| < |q - 0| ∨ |q - r| = |q - 0| ∧ HasEven r)
    (other : ∀ {n : ℕ} {f : ℤ}, IsCanonical n f → (n : ℚ) * 2 ^ f ≠ r →
      |q - r| < |q - n * 2 ^ f| ∨ |q - r| = |q - n * 2 ^ f| ∧ HasEven r) : Nearest q r := by
  refine ⟨isExact, fun p hp ne => ?_⟩
  cases hp with
  | zero => exact zero ne
  | @scaled s n f canonical =>
    cases s with
    | positive => exact other canonical ne
    | negative =>
      -- Negative numbers are further away than zero, and zero is not nearer.
      have pos := canonical.value_pos
      have further : |q - 0| < |q - (Sign.negative.apply n : ℤ) * 2 ^ f| := by
        rw [negative_value, sub_zero, abs_of_nonneg nonneg, abs_of_nonneg (by linarith)]
        linarith
      refine .inl (lt_of_le_of_lt ?_ further)
      by_cases same : 0 = r
      · rw [← same]
      · exact (zero same).elim le_of_lt fun tie => tie.1.le

/-- A rational number is rounded to one number only. -/
theorem unique (h : Nearest q r) (h' : Nearest q p) : r = p := by
  -- Two numbers that are equally near both have an even mantissa, and what is between is nearer.
  have notLess {r p : ℚ} (h : Nearest q r) (h' : Nearest q p) : ¬r < p := by
    intro less
    have apart : |q - r| = |q - p| ∧ HasEven r ∧ HasEven p := by
      obtain nearer | ⟨same, even⟩ := h.other p h'.isExact less.ne'
      · exact absurd (h'.dist_le h.isExact) nearer.not_ge
      · obtain nearer | ⟨-, even'⟩ := h'.other r h.isExact less.ne
        · exact absurd same nearer.ne'
        · exact ⟨same, even, even'⟩
    obtain ⟨same, even, even'⟩ := apart
    obtain ⟨i, isExact, above, below⟩ := even.exists_between even' less
    have nearer := h.dist_le isExact
    have nearer' := h'.dist_le isExact
    obtain left | right := le_total q i
    · rw [abs_of_nonpos (sub_nonpos.2 left), abs_of_neg (by linarith)] at nearer'
      linarith
    · rw [abs_of_nonneg (sub_nonneg.2 right), abs_of_pos (by linarith)] at nearer
      linarith
  exact le_antisymm (not_lt.1 (notLess h' h)) (not_lt.1 (notLess h h'))

end Nearest

end ScriptLang.Number

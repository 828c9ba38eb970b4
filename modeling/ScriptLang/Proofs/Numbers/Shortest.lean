import ScriptLang.Number.Shortest
import ScriptLang.Proofs.Numbers.Binary

/-!
# Shortest decimals

The decimal that is written for a number rounds back to it.  The interval of the reals that round to
a number is so wide that the finest of the grids that are tried has a point in it, so the search for
the coarsest grid ends with a point of the interval.  The intervals of two numbers have nothing in
common: at an end that two neighbours share, one of them is odd and leaves it to the other.

## Main definitions

* `Decimal.value` — the rational number that a decimal stands for
* `Interval.Holds` — whether a rational number lies in an interval
* `Interval.Encloses` — intervals that have their value between their ends

## Main results

* `Interval.shortest_holds` — the shortest decimal lies in the interval
* `Interval.unique_of_holds` — a rational number rounds to one number only
-/

namespace ScriptLang.Number

/-! ### Powers -/

/-- A power with any exponent as a quotient of two whole numbers. -/
theorem zpow_mul_pow {b : ℚ} (nonzero : b ≠ 0) (e : Int) :
    b ^ e * b ^ (-e).toNat = b ^ e.toNat := by
  rw [← zpow_natCast b (-e).toNat, ← zpow_natCast b e.toNat, ← zpow_add₀ nonzero]
  congr 1
  omega

/-! ### Intervals -/

/-- The rational number that a decimal stands for. -/
def Decimal.value (d : Decimal) : ℚ :=
  d.digits * 10 ^ d.exponent

namespace Interval

/-- Whether a rational number lies in an interval. -/
def Holds (v : Interval) (q : ℚ) : Prop :=
  if v.closed = true then v.lower ≤ q * v.denominator ∧ q * v.denominator ≤ v.upper
  else v.lower < q * v.denominator ∧ q * v.denominator < v.upper

/-- A number strictly between the ends lies in the interval, whether or not the ends do. -/
theorem Holds.of_between {v : Interval} {q : ℚ} (above : v.lower < q * v.denominator)
    (below : q * v.denominator < v.upper) : v.Holds q := by
  unfold Holds
  split
  · exact ⟨above.le, below.le⟩
  · exact ⟨above, below⟩

theorem admits_iff (v : Interval) (n : Nat) :
    v.admits n = true ↔ v.Holds (n : ℚ) := by
  unfold admits Holds
  split <;> simp only [Bool.and_eq_true, decide_eq_true_eq] <;> norm_cast

theorem holds_onGrid (v : Interval) (e : Int) (q : ℚ) :
    (v.onGrid e).Holds q ↔ v.Holds (q * 10 ^ e) := by
  have power : (10 : ℚ) ^ e * 10 ^ (-e).toNat = 10 ^ e.toNat := zpow_mul_pow (by norm_num) e
  have pos : (0 : ℚ) < 10 ^ (-e).toNat := by positivity
  have scaled : q * ((v.denominator : ℚ) * 10 ^ e.toNat) =
      q * 10 ^ e * v.denominator * 10 ^ (-e).toNat := by
    rw [← power]
    ring
  unfold Holds onGrid
  dsimp only
  split <;> simp only [Nat.pow_eq, Nat.cast_mul, Nat.cast_pow, Nat.cast_ofNat, scaled,
    mul_le_mul_iff_of_pos_right pos, mul_lt_mul_iff_of_pos_right pos]

/-- What is admitted on a grid lies in the interval. -/
theorem admits_onGrid (v : Interval) (e : Int) (n : Nat) :
    (v.onGrid e).admits n = true ↔ v.Holds (n * 10 ^ e) := by
  rw [admits_iff, holds_onGrid]

/-- The value lies between the ends. -/
structure Encloses (v : Interval) : Prop where
  denominator : 0 < v.denominator
  lower : v.lower < v.value
  upper : v.value < v.upper

theorem Encloses.onGrid {v : Interval} (h : v.Encloses) (e : Int) : (v.onGrid e).Encloses where
  denominator := Nat.mul_pos h.denominator (Nat.pow_pos (by decide))
  lower := Nat.mul_lt_mul_of_pos_right h.lower (Nat.pow_pos (by decide))
  upper := Nat.mul_lt_mul_of_pos_right h.upper (Nat.pow_pos (by decide))

theorem admits_of_neighbour? {v : Interval} {n : Nat} (h : v.neighbour? = some n) :
    v.admits n = true := by
  unfold neighbour? at h
  dsimp only at h
  split at h
  · split at h
    · next first both =>
      cases h
      exact (Bool.and_eq_true_iff.1 both).1
    · next first _ =>
      cases h
      exact first
  · split at h
    · next second =>
      cases h
      exact second
    · cases h

/-- What lies between a multiple of the unit in the interval and the value lies in the interval. -/
theorem admits_of_between {v : Interval} (h : v.Encloses) {n k : Nat} (inside : v.admits n = true)
    (between : n * v.denominator ≤ k * v.denominator ∧ k * v.denominator ≤ v.value ∨
      v.value ≤ k * v.denominator ∧ k * v.denominator ≤ n * v.denominator) :
    v.admits k = true := by
  have lower := h.lower
  have upper := h.upper
  unfold admits at inside ⊢
  by_cases closed : v.closed = true
  · simp only [if_pos closed, Bool.and_eq_true, decide_eq_true_eq] at inside ⊢
    omega
  · simp only [if_neg closed, Bool.and_eq_true, decide_eq_true_eq] at inside ⊢
    omega

/-- If any multiple of the unit lies in the interval, then so does a neighbour of the value. -/
theorem exists_neighbour? {v : Interval} (h : v.Encloses) {n : Nat} (inside : v.admits n = true) :
    ∃ k, v.neighbour? = some k := by
  have neighbour : v.admits (v.value / v.denominator) = true ∨
      v.admits (v.value / v.denominator + 1) = true := by
    by_cases le : n ≤ v.value / v.denominator
    · refine .inl (admits_of_between h inside (.inl ⟨Nat.mul_le_mul_right _ le, ?_⟩))
      exact Nat.div_mul_le_self ..
    · refine .inr (admits_of_between h inside (.inr ⟨?_, Nat.mul_le_mul_right _ (by omega)⟩))
      exact ((Nat.div_lt_iff_lt_mul h.denominator).1 (Nat.lt_succ_self _)).le
  unfold neighbour?
  dsimp only
  split
  · split <;> exact ⟨_, rfl⟩
  · next first =>
    rw [if_pos (neighbour.resolve_left first)]
    exact ⟨_, rfl⟩

/-- If one of the grids has a point in the interval, then a point in the interval is hit. -/
theorem firstHit_holds {v : Interval} (h : v.Encloses) {grids : Nat} {e : Int} {j n : Nat}
    (inRange : j < grids) (inside : v.Holds (n * 10 ^ (e - j))) :
    v.Holds (v.firstHit grids e).value := by
  induction grids generalizing e j with
  | zero => exact absurd inRange (Nat.not_lt_zero j)
  | succ grids ih =>
    rw [firstHit]
    cases hit : (v.onGrid e).neighbour? with
    | some k => exact (admits_onGrid v e k).1 (admits_of_neighbour? hit)
    | none =>
      cases j with
      | zero =>
        rw [Nat.cast_zero, sub_zero] at inside
        obtain ⟨k, found⟩ := exists_neighbour? (h.onGrid e) ((admits_onGrid v e n).2 inside)
        cases hit.symm.trans found
      | succ j =>
        refine ih (Nat.lt_of_succ_lt_succ inRange) ?_
        rw [show e - 1 - (j : Int) = e - ((j + 1 : Nat) : Int) by omega]
        exact inside

/-! ### The finest grid -/

theorem pow_le_of_digitCount {n : Nat} (pos : 0 < n) : 10 ^ (digitCount n - 1) ≤ n := by
  by_cases single : digitCount n ≤ 1
  · rw [Nat.sub_eq_zero_of_le single]
    exact pos
  · by_contra lt
    have shorter : digitCount n ≤ digitCount n - 1 :=
      (Nat.length_toDigits_le_iff (by decide) (by omega)).2 (by omega)
    omega

theorem lt_pow_digitCount (n : Nat) : n < 10 ^ digitCount n :=
  (Nat.length_toDigits_le_iff (by decide) Nat.length_toDigits_pos).1 (Nat.le_refl _)

/-- The power of ten that goes with the first digit is not larger than the value. -/
theorem pow_magnitude_le {v : Interval} (h : v.Encloses) :
    (10 : ℚ) ^ (v.magnitude - 1) * v.denominator ≤ v.value := by
  have pos : 0 < v.value := Nat.zero_lt_of_lt h.lower
  unfold magnitude
  split
  · next large =>
    have first := pow_le_of_digitCount (Nat.div_pos large h.denominator)
    have count : 0 < digitCount (v.value / v.denominator) := Nat.length_toDigits_pos
    have whole : 10 ^ (digitCount (v.value / v.denominator) - 1) * v.denominator ≤ v.value :=
      (Nat.mul_le_mul_right _ first).trans (Nat.div_mul_le_self ..)
    rw [show (digitCount (v.value / v.denominator) : Int) - 1 =
      ((digitCount (v.value / v.denominator) - 1 : Nat) : Int) by omega, zpow_natCast]
    exact_mod_cast whole
  · -- The value is less than one: its inverse, rounded up, has as many digits as there are places.
    generalize hk : (v.denominator + v.value - 1) / v.value - 1 = k
    have few := lt_pow_digitCount k
    have whole : v.denominator ≤ v.value * 10 ^ digitCount k := by
      have up : v.denominator ≤ v.value * ((v.denominator + v.value - 1) / v.value) := by
        have := Nat.lt_mul_div_succ (v.denominator + v.value - 1) pos
        rw [Nat.mul_add] at this
        omega
      exact up.trans (Nat.mul_le_mul_left _ (by omega))
    rw [show 1 - (digitCount k : Int) - 1 = -(digitCount k : Int) by omega, zpow_neg, zpow_natCast,
      inv_mul_le_iff₀ (by positivity), mul_comm]
    exact_mod_cast whole

/-- The finest grid that is looked at has a point in every interval that is wide enough for a number
of 53 bits. -/
theorem exists_on_finest {v : Interval} (h : v.Encloses)
    (wide : v.value < 2 ^ 53 * (v.upper - v.lower)) :
    ∃ n : Nat, v.Holds (n * 10 ^ (v.magnitude - 1 - (16 : Nat))) := by
  have first := pow_magnitude_le h
  set step : ℚ := 10 ^ (v.magnitude - 1 - (16 : Nat)) * v.denominator with hstep
  have denominator : (0 : ℚ) < v.denominator := by exact_mod_cast h.denominator
  have pos : 0 < step := by positivity
  have scaled : (10 : ℚ) ^ (v.magnitude - 1) * v.denominator = 10 ^ 16 * step := by
    rw [hstep, zpow_sub₀ (by norm_num) (v.magnitude - 1), zpow_natCast]
    field_simp
  have width : ((v.upper - v.lower : Nat) : ℚ) = v.upper - v.lower :=
    Nat.cast_sub (h.lower.trans h.upper).le
  have wide' : (v.value : ℚ) < 2 ^ 53 * (v.upper - v.lower) := by
    rw [← width]
    exact_mod_cast wide
  have fine : step < v.upper - v.lower := by
    rw [scaled] at first
    linarith
  have below := Nat.floor_le (div_nonneg (Nat.cast_nonneg v.lower) pos.le)
  have above := Nat.lt_floor_add_one ((v.lower : ℚ) / step)
  rw [le_div_iff₀ pos] at below
  rw [div_lt_iff₀ pos] at above
  refine ⟨⌊(v.lower : ℚ) / step⌋₊ + 1, .of_between ?_ ?_⟩
  · rw [mul_assoc, ← hstep, Nat.cast_add_one]
    exact above
  · rw [mul_assoc, ← hstep, Nat.cast_add_one]
    linarith

/-- The shortest decimal lies in the interval. -/
theorem shortest_holds {v : Interval} (h : v.Encloses)
    (wide : v.value < 2 ^ 53 * (v.upper - v.lower)) : v.Holds v.shortest.value := by
  obtain ⟨n, inside⟩ := exists_on_finest h wide
  exact firstHit_holds h (by decide) inside

/-! ### Binary fractions -/

/-- How far the reals that round to a number reach below it, in quarters of the last place. -/
def reach (m : Nat) (e : Int) : Nat :=
  if m = 2 ^ 52 ∧ e ≠ -1074 then 1 else 2

theorem lower_ofBinary (m : Nat) (e : Int) :
    (ofBinary m e (e == -1074)).lower = (4 * m - reach m e) * 2 ^ e.toNat := by
  have same : (m = Nat.pow 2 52 ∧ (!(e == -1074)) = true) ↔ (m = 2 ^ 52 ∧ e ≠ -1074) := by simp
  simp only [ofBinary, reach, same, Nat.pow_eq]

variable {m : Nat} {e : Int}

theorem reach_pos : 0 < reach m e := by
  unfold reach
  split <;> decide

theorem reach_le : reach m e ≤ 2 := by
  unfold reach
  split <;> decide

theorem encloses_ofBinary (h : IsCanonical m e) : (ofBinary m e (e == -1074)).Encloses where
  denominator := Nat.mul_pos (by decide) (Nat.pow_pos (by decide))
  lower := by
    rw [lower_ofBinary]
    refine Nat.mul_lt_mul_of_pos_right ?_ (Nat.pow_pos (by decide))
    have pos := h.pos
    have reach_pos : 0 < reach m e := reach_pos
    omega
  upper := Nat.mul_lt_mul_of_pos_right (by omega) (Nat.pow_pos (by decide))

theorem wide_ofBinary (h : IsCanonical m e) :
    (ofBinary m e (e == -1074)).value < 2 ^ 53 *
      ((ofBinary m e (e == -1074)).upper - (ofBinary m e (e == -1074)).lower) := by
  have small := h.small
  have reaches : reach m e = 1 ∧ m = 2 ^ 52 ∨ reach m e = 2 := by
    unfold reach
    split
    · next power => exact .inl ⟨rfl, power.1⟩
    · exact .inr rfl
  rw [lower_ofBinary]
  simp only [ofBinary, Nat.pow_eq]
  rw [← Nat.sub_mul, ← Nat.mul_assoc]
  refine Nat.mul_lt_mul_of_pos_right ?_ (Nat.pow_pos (by decide))
  omega

/-- The interval of a number as a part of the rational numbers. -/
theorem holds_ofBinary (m : Nat) (e : Int) (q : ℚ) :
    (ofBinary m e (e == -1074)).Holds q ↔
      if m % 2 = 0 then ((4 * m - reach m e : Nat) : ℚ) * 2 ^ e ≤ 4 * q ∧
        4 * q ≤ ((4 * m + 2 : Nat) : ℚ) * 2 ^ e
      else ((4 * m - reach m e : Nat) : ℚ) * 2 ^ e < 4 * q ∧
        4 * q < ((4 * m + 2 : Nat) : ℚ) * 2 ^ e := by
  have power : (2 : ℚ) ^ e * 2 ^ (-e).toNat = 2 ^ e.toNat := zpow_mul_pow (by norm_num) e
  have pos : (0 : ℚ) < 2 ^ (-e).toNat := by positivity
  have scaled (n : Nat) : ((n * 2 ^ e.toNat : Nat) : ℚ) = n * 2 ^ e * 2 ^ (-e).toNat := by
    rw [Nat.cast_mul, Nat.cast_pow, Nat.cast_ofNat, mul_assoc, power]
  have unit : q * ((4 * 2 ^ (-e).toNat : Nat) : ℚ) = 4 * q * 2 ^ (-e).toNat := by
    push_cast
    ring
  unfold Holds
  rw [lower_ofBinary]
  simp only [ofBinary, Nat.pow_eq, decide_eq_true_eq, scaled, unit,
    mul_le_mul_iff_of_pos_right pos, mul_lt_mul_iff_of_pos_right pos]

/-- The upper end of the interval of a number is at most the lower end of the interval of any larger
one.  If the two ends are the same, then the numbers are neighbours, and one of them is odd. -/
theorem ends_apart {m' : Nat} {e' : Int} (h : IsCanonical m e) (h' : IsCanonical m' e')
    (lt : e < e' ∨ e = e' ∧ m < m') :
    4 * m + 2 ≤ (4 * m' - reach m' e') * 2 ^ (e' - e).toNat ∧
      (4 * m + 2 = (4 * m' - reach m' e') * 2 ^ (e' - e).toNat → m % 2 = 1 ∨ m' % 2 = 1) := by
  have small := h.small
  have least := h.least
  have reaches : reach m' e' ≤ 2 := reach_le
  obtain higher | ⟨rfl, less⟩ := lt
  · have full : 2 ^ 52 ≤ m' := h'.full.resolve_left (by omega)
    have double : 2 ≤ 2 ^ (e' - e).toNat :=
      (Nat.pow_le_pow_right (by decide) (by omega) : 2 ^ 1 ≤ 2 ^ (e' - e).toNat)
    have further := Nat.mul_le_mul_left (4 * m' - reach m' e') double
    by_cases power : m' = 2 ^ 52
    · -- The nearer neighbour below a power of two has all its bits, and is odd.
      have near : reach m' e' = 1 := if_pos ⟨power, by omega⟩
      rw [near] at further ⊢
      omega
    · omega
  · rw [Int.sub_self, Int.toNat_zero, Nat.pow_zero, Nat.mul_one]
    omega

/-- No number rounds to two numbers. -/
theorem not_holds_both {m' : Nat} {e' : Int} (h : IsCanonical m e) (h' : IsCanonical m' e')
    (lt : e < e' ∨ e = e' ∧ m < m') {q : ℚ} (inside : (ofBinary m e (e == -1074)).Holds q) :
    ¬(ofBinary m' e' (e' == -1074)).Holds q := by
  intro inside'
  rw [holds_ofBinary] at inside inside'
  obtain ⟨apart, odd⟩ := ends_apart h h' lt
  have pos : (0 : ℚ) < 2 ^ e := by positivity
  have power : (2 : ℚ) ^ e' = 2 ^ (e' - e).toNat * 2 ^ e := by
    rw [← zpow_natCast, ← zpow_add₀ (by norm_num)]
    congr 1
    omega
  have scaled : ((4 * m' - reach m' e' : Nat) : ℚ) * 2 ^ e' =
      ((4 * m' - reach m' e') * 2 ^ (e' - e).toNat : Nat) * 2 ^ e := by
    rw [power, Nat.cast_mul, Nat.cast_pow, Nat.cast_ofNat, mul_assoc]
  rw [scaled] at inside'
  generalize (4 * m' - reach m' e') * 2 ^ (e' - e).toNat = lower at apart odd inside'
  have ends : ((4 * m + 2 : Nat) : ℚ) * 2 ^ e ≤ lower * 2 ^ e :=
    mul_le_mul_of_nonneg_right (by exact_mod_cast apart) pos.le
  have weak : lower * 2 ^ e ≤ 4 * q ∧ 4 * q ≤ ((4 * m + 2 : Nat) : ℚ) * 2 ^ e := by
    constructor
    · split at inside'
      · exact inside'.1
      · exact inside'.1.le
    · split at inside
      · exact inside.2
      · exact inside.2.le
  have same : 4 * m + 2 = lower := by
    have equal := mul_right_cancel₀ pos.ne' (ends.antisymm (weak.1.trans weak.2))
    exact_mod_cast equal
  obtain first | second := odd same
  · rw [if_neg (by omega)] at inside
    linarith [inside.2]
  · rw [if_neg (by omega)] at inside'
    linarith [inside'.1]

/-- A rational number rounds to one number only. -/
theorem unique_of_holds {m' : Nat} {e' : Int} (h : IsCanonical m e) (h' : IsCanonical m' e') {q : ℚ}
    (inside : (ofBinary m e (e == -1074)).Holds q)
    (inside' : (ofBinary m' e' (e' == -1074)).Holds q) : m = m' ∧ e = e' := by
  obtain lower | rfl | higher := lt_trichotomy e e'
  · exact absurd inside' (not_holds_both h h' (.inl lower) inside)
  · obtain less | rfl | greater := lt_trichotomy m m'
    · exact absurd inside' (not_holds_both h h' (.inr ⟨rfl, less⟩) inside)
    · exact ⟨rfl, rfl⟩
    · exact absurd inside (not_holds_both h' h (.inr ⟨rfl, greater⟩) inside')
  · exact absurd inside (not_holds_both h' h (.inl higher) inside')

end Interval

end ScriptLang.Number

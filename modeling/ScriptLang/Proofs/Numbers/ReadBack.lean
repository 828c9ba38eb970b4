import ScriptLang.Proofs.Numbers.Literals

/-!
# Numbers that are written and read back

A number is written with as few digits as its interval admits.  Whatever lies in the interval is
rounded to the number, so reading the text gives the number back, with its sign.

## Main results

* `nearest_of_holds` — what lies in the interval of a number is rounded to the number
* `read?_render` — a finite number is read back from its text
-/

namespace ScriptLang.Number

open Float.Model (UnpackedFloat)
open Float.Model.UnpackedFloat (Sign)

variable {m n : ℕ} {e f : ℤ} {q : ℚ}

/-! ### Neighbours -/

theorem scaled_succ (m : ℕ) (e : ℤ) : ((m + 1 : ℕ) : ℚ) * 2 ^ e = m * 2 ^ e + 2 ^ e := by
  push_cast
  ring

/-- What is greater than a number is greater by a unit of it. -/
theorem IsCanonical.add_unit_le (h : IsCanonical m e) (h' : IsCanonical n f)
    (less : (m : ℚ) * 2 ^ e < n * 2 ^ f) : (m : ℚ) * 2 ^ e + 2 ^ e ≤ n * 2 ^ f := by
  rw [← scaled_succ]
  obtain lower | rfl | higher := lt_trichotomy e f
  · exact h.succ_le h' lower
  · exact scaled_le_iff.2 (scaled_lt_iff.1 less)
  · exact absurd less (h'.lt_of_lt h higher).not_gt

/-- Below a power of two the units are half as large. -/
theorem IsCanonical.le_pred_of_power (h : IsCanonical n f) (least : -1074 ≤ e)
    (less : (n : ℚ) * 2 ^ f < (2 ^ 52 : ℕ) * 2 ^ (e + 1)) :
    (n : ℚ) * 2 ^ f ≤ (2 ^ 53 - 1 : ℕ) * 2 ^ e := by
  obtain lower | rfl | higher := lt_trichotomy f e
  · exact (h.lt_of_lt (isCanonical_ones least) lower).le
  · exact scaled_le_iff.2 (Nat.le_sub_one_of_lt h.small)
  · have full : 2 ^ 52 ≤ n := h.full.resolve_left (by omega)
    have unit : (2 : ℚ) ^ (e + 1) ≤ 2 ^ f := zpow_le_zpow_right₀ one_le_two higher
    exact absurd less
      (mul_le_mul (Nat.cast_le.2 full) unit (by positivity) (Nat.cast_nonneg n)).not_gt

/-- Below any other number they are as large as above it, or smaller. -/
theorem IsCanonical.le_pred (h : IsCanonical (m + 1) e) (h' : IsCanonical n f)
    (other : ¬(m + 1 = 2 ^ 52 ∧ e ≠ -1074)) (less : (n : ℚ) * 2 ^ f < (m + 1 : ℕ) * 2 ^ e) :
    (n : ℚ) * 2 ^ f ≤ m * 2 ^ e := by
  obtain lower | coarse := lt_or_ge f e
  · have least := h'.least
    have small := h.small
    have full : 2 ^ 52 ≤ m + 1 := h.full.resolve_left (by omega)
    have before : IsCanonical m e := ⟨by omega, by omega, h.least, .inr (by omega)⟩
    exact (h'.lt_of_lt before lower).le
  · obtain ⟨k, rfl⟩ := Int.le.dest coarse
    rw [scaled_add] at less ⊢
    exact scaled_le_iff.2 (Nat.lt_succ_iff.1 (scaled_lt_iff.1 less))

/-- What is less than a number is less by twice as much as the interval reaches below it. -/
theorem IsCanonical.add_reach_le (h : IsCanonical m e) (h' : IsCanonical n f)
    (less : (n : ℚ) * 2 ^ f < m * 2 ^ e) :
    2 * (n * 2 ^ f) + Interval.reach m e * 2 ^ e ≤ 2 * (m * 2 ^ e : ℚ) := by
  unfold Interval.reach
  split
  · next power =>
    obtain ⟨rfl, some⟩ := power
    have least := h.least
    obtain ⟨e, rfl⟩ : ∃ g, e = g + 1 := ⟨e - 1, by omega⟩
    have le := h'.le_pred_of_power (by omega) less
    rw [zpow_add_one₀ two_ne_zero]
    norm_num at le ⊢
    linarith
  · next other =>
    obtain ⟨i, rfl⟩ : ∃ i, m = i + 1 := Nat.exists_eq_add_one.2 h.pos
    have le := h.le_pred h' other less
    rw [Nat.cast_ofNat, scaled_succ]
    linarith

/-- The interval of a number reaches to the middle between the number and the next one, and has its
ends if the mantissa is even. -/
theorem IsCanonical.ends_of_holds (h : IsCanonical m e)
    (inside : (Interval.ofBinary m e (e == -1074)).Holds q) :
    4 * (m * 2 ^ e) ≤ 4 * q + Interval.reach m e * 2 ^ e ∧
      4 * q ≤ 4 * (m * 2 ^ e) + 2 * 2 ^ e ∧
      (4 * (m * 2 ^ e) = 4 * q + Interval.reach m e * 2 ^ e ∨
        4 * q = 4 * (m * 2 ^ e) + 2 * 2 ^ e → m % 2 = 0) := by
  have reach : Interval.reach m e ≤ 4 * m := by
    have reach : Interval.reach m e ≤ 2 := Interval.reach_le
    have pos := h.pos
    omega
  have lower : ((4 * m - Interval.reach m e : ℕ) : ℚ) * 2 ^ e =
      4 * (m * 2 ^ e) - Interval.reach m e * 2 ^ e := by
    rw [Nat.cast_sub reach]
    push_cast
    ring
  have upper : ((4 * m + 2 : ℕ) : ℚ) * 2 ^ e = 4 * (m * 2 ^ e) + 2 * 2 ^ e := by
    push_cast
    ring
  rw [Interval.holds_ofBinary, lower, upper] at inside
  split at inside
  · next even => exact ⟨by linarith, inside.2, fun _ => even⟩
  · obtain ⟨above, below⟩ := inside
    refine ⟨by linarith, below.le, ?_⟩
    rintro (low | high) <;> linarith

/-- Of two numbers that one is nearer on whose side of the middle a number lies. -/
theorem nearer_of_middle {p q r : ℚ} (ne : p ≠ r) (side : 0 ≤ (r - p) * (2 * q - (p + r)))
    (tie : 2 * q = p + r → HasEven r) :
    |q - r| < |q - p| ∨ |q - r| = |q - p| ∧ HasEven r := by
  have squares : (q - p) ^ 2 - (q - r) ^ 2 = (r - p) * (2 * q - (p + r)) := by ring
  obtain strict | middle := side.lt_or_eq
  · exact .inl (sq_lt_sq.1 (by linarith))
  · refine .inr ⟨(sq_eq_sq_iff_abs_eq_abs _ _).1 (by linarith), tie ?_⟩
    obtain same | same := mul_eq_zero.1 middle.symm
    · exact absurd (sub_eq_zero.1 same).symm ne
    · exact sub_eq_zero.1 same

/-- What lies in the interval of a number is rounded to the number. -/
theorem nearest_of_holds (h : IsCanonical m e)
    (inside : (Interval.ofBinary m e (e == -1074)).Holds q) : Nearest q (m * 2 ^ e) := by
  have unit : (2 : ℚ) ^ e ≤ m * 2 ^ e :=
    le_mul_of_one_le_left (by positivity) (by exact_mod_cast h.pos)
  have reach : (Interval.reach m e : ℚ) * 2 ^ e ≤ 2 * 2 ^ e := by
    have reach : Interval.reach m e ≤ 2 := Interval.reach_le
    exact mul_le_mul_of_nonneg_right (by exact_mod_cast reach) (by positivity)
  obtain ⟨low, high, tie⟩ := h.ends_of_holds inside
  have even (ends) : HasEven (m * 2 ^ e) := .scaled .positive h (tie ends)
  refine .of_magnitudes (.magnitude h) (by linarith) (fun ne => ?_) fun {n f} h' ne => ?_
  · exact nearer_of_middle ne (mul_nonneg (by linarith) (by linarith)) fun middle =>
      even (.inl (by linarith))
  · obtain less | greater := lt_or_gt_of_ne ne
    · have le := h.add_reach_le h' less
      exact nearer_of_middle ne (mul_nonneg (by linarith) (by linarith)) fun middle =>
        even (.inl (by linarith))
    · have le := h.add_unit_le h' greater
      exact nearer_of_middle ne (mul_nonneg_of_nonpos_of_nonpos (by linarith) (by linarith))
        fun middle => even (.inr (by linarith))

/-! ### Signs -/

/-- A number with a sign in front of it. -/
def withSign : Sign → Float → Float
  | .positive, x => x
  | .negative, x => -x

/-- A sign in front of a numeral is that of the number. -/
theorem Denotes.read?_signText {body : List Char} (h : Denotes body q) (s : Sign) :
    read? (signText s ++ body) = (read? body).map (withSign s) := by
  obtain ⟨c, rest, rfl, first⟩ := h.starts
  have unsigned : read? (c :: rest) = readUnsigned? (c :: rest) := by
    unfold read?
    rw [takeSign_cons_of_isDigit first]
    exact Option.map_id'
  cases s with
  | positive => exact Option.map_id'.symm
  | negative =>
    rw [unsigned]
    rfl

theorem toModel_neg (y : Float) :
    (-y).toModel = Float.Model.pack (UnpackedFloat.neg y.toModel.unpack) := rfl

theorem unpack_withSign_zero {y : Float} (s : Sign)
    (unpacked : y.toModel.unpack = .zero .positive) :
    (withSign s y).toModel.unpack = .zero s := by
  cases s with
  | positive => exact unpacked
  | negative =>
    rw [withSign, toModel_neg, unpacked]
    rfl

theorem unpack_withSign {y : Float} (s : Sign) (h : IsCanonical m e) (top : e ≤ 971)
    (unpacked : y.toModel.unpack = .finite .positive m e h.pos) :
    (withSign s y).toModel.unpack = .finite s m e h.pos := by
  cases s with
  | positive => exact unpacked
  | negative =>
    rw [withSign, toModel_neg, unpacked]
    exact unpack_pack .negative h top

/-! ### Texts -/

/-- Reading gives back the number that was written. -/
theorem Rounds.unpack_eq {x y : Float} {s : Sign} (rounds : Rounds x.toModel.unpack s q)
    (nearest : IsNearest q y) (unsigned : Unsigned y.toModel.unpack) :
    (withSign s y).toModel.unpack = x.toModel.unpack := by
  generalize unpacked : x.toModel.unpack = u at rounds
  cases rounds with
  | zero s =>
    have value := unpacks_of_value? (nearest.value_eq (.refl .zero) limit_pos)
    obtain ⟨s', zero⟩ := value.of_zero
    rw [zero] at unsigned
    cases unsigned
    exact unpack_withSign_zero s zero
  | @finite s m e pos q canonical inside =>
    have top := top_of_unpack unpacked
    have bounded : (m : ℚ) * 2 ^ e < limit := (canonical.le_greatest top).trans_lt greatest_lt_limit
    have value := nearest.value_eq (nearest_of_holds canonical inside) bounded
    obtain ⟨n, f, canonical', unpacked', same⟩ := (unpacks_of_value? value).of_pos canonical.value_pos
    obtain ⟨rfl, rfl⟩ := canonical.eq_of_value canonical' same
    exact unpack_withSign s canonical top unpacked'

/-- A finite number is read back from its text. -/
theorem read?_render {x : Float} (finite : x.isFinite = true) :
    read? (render x).toList = some x := by
  obtain ⟨s, body, q, text, denotes, rounds⟩ := exists_render finite
  obtain ⟨y, read, nearest, unsigned⟩ := denotes.read?_eq
  rw [text, denotes.read?_signText s, read]
  exact congrArg some (eq_of_unpack finite (rounds.unpack_eq nearest unsigned).symm).symm

end ScriptLang.Number

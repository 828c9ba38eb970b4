import ScriptLang.Builtin.Run
import ScriptLang.Proofs.Dialogue
import ScriptLang.Proofs.Numbers.Conversions

/-!
# Random numbers

The function `random` chooses between two whole numbers.  They become 64-bit integers first, and
what is chosen becomes a number again.  Neither step leaves the range that was asked for, unless
the range lies beyond the 64-bit integers: then both numbers become the same integer.

## Main definitions

* `Builtin.HonoursRange` — ranges without numbers are refused, and nothing else is chosen from a
  range than its integers
* `Builtin.Beyond` — ranges that lie beyond the 64-bit integers

## Main results

* `Builtin.exists_chosen` — what is chosen keeps to the range
* `Builtin.honoursRange_iff` — only ranges beyond the 64-bit integers are not honoured
-/

namespace ScriptLang

namespace Number

theorem value?_ofInt_greatest : value? (ofInt (2 ^ 63 - 1)) = some ((2 ^ 63 : ℤ) : ℚ) := by
  change some (((2 ^ 52 : ℕ) : ℤ) * 2 ^ (11 : ℤ) : ℚ) = _
  norm_num

theorem value?_ofInt_least : value? (ofInt (-2 ^ 63)) = some ((-2 ^ 63 : ℤ) : ℚ) := by
  change some ((-((2 ^ 52 : ℕ) : ℤ) : ℤ) * 2 ^ (11 : ℤ) : ℚ) = _
  norm_num

end Number

namespace Builtin

open Number (value? clamp ofInt)

variable {a b : Float} {i j n : ℤ} {result : Except RuntimeFault Value}

/-! ### Calls -/

theorem rangeOf_eq (least : value? a = some (i : ℚ)) (greatest : value? b = some (j : ℚ)) :
    rangeOf [.number a, .number b] =
      if h : clamp i ≤ clamp j then .ok ⟨(clamp i, clamp j), h⟩ else .error .randomEmpty := by
  have least : Arguments.integer [.number a, .number b] 0 .randomLeast = .ok (clamp i) :=
    Arguments.integer_of_value? rfl least
  have greatest : Arguments.integer [.number a, .number b] 1 .randomGreatest = .ok (clamp j) :=
    Arguments.integer_of_value? rfl greatest
  simp only [rangeOf, least, greatest]
  rfl

theorem run_random_of_lt (least : value? a = some (i : ℚ)) (greatest : value? b = some (j : ℚ))
    (empty : clamp j < clamp i) :
    run .random [.number a, .number b] = .done (.error .randomEmpty) := by
  simp only [run, rangeOf_eq least greatest, dif_neg (not_le.2 empty), checked]

/-- Any integer between the two may be chosen. -/
theorem mayEnd_random (least : value? a = some (i : ℚ)) (greatest : value? b = some (j : ℚ))
    (ordered : clamp i ≤ clamp j) :
    (run .random [.number a, .number b]).MayEnd result ↔
      ∃ n, clamp i ≤ n ∧ n ≤ clamp j ∧ result = .ok (.number (ofInt n)) := by
  simp only [run, rangeOf_eq least greatest, dif_pos ordered, checked]
  constructor
  · intro ends
    cases ends with
    | ask answer ends => exact ⟨answer.1, answer.2.1, answer.2.2, Dialogue.mayEnd_done.1 ends⟩
  · rintro ⟨n, above, below, rfl⟩
    exact .ask (⟨n, above, below⟩ : { n // clamp i ≤ n ∧ n ≤ clamp j }) (.done _)

/-! ### Ranges -/

/-- The range between two whole numbers is refused if nothing lies in it, and nothing else is chosen
from it than an integer that lies in it. -/
structure HonoursRange (a b : Float) (i j : ℤ) : Prop where
  refused (empty : j < i) :
    ∃ fault, fault.kind = .range ∧ run .random [.number a, .number b] = .done (.error fault)
  chosen (ordered : i ≤ j) {result : Except RuntimeFault Value}
    (ends : (run .random [.number a, .number b]).MayEnd result) :
    ∃ (x : Float) (n : ℤ), result = .ok (.number x) ∧ value? x = some (n : ℚ) ∧ i ≤ n ∧ n ≤ j

/-- Both ends of a range become the same integer, and one of them is not the number that this
integer becomes again. -/
def Beyond (i j : ℤ) : Prop :=
  2 ^ 63 < i ∧ 2 ^ 63 ≤ j ∨ i ≤ -2 ^ 63 ∧ j < -2 ^ 63

/-- The greatest integer is not the value of a number. -/
theorem ne_greatest (value : value? a = some (i : ℚ)) : i ≠ 2 ^ 63 - 1 := by
  rintro rfl
  have large : ((2 ^ 53 : ℕ) : ℚ) ≤ |((2 ^ 63 - 1 : ℤ) : ℚ)| := by
    rw [← Int.cast_abs]
    norm_num
  obtain ⟨half, even⟩ := (Number.unpacks_of_value? value).exact.exists_even large
  have even : (2 ^ 63 - 1 : ℤ) = 2 * half := Int.cast_inj.1 even
  omega

/-- What is chosen keeps to the range. -/
theorem exists_chosen (least : value? a = some (i : ℚ)) (greatest : value? b = some (j : ℚ))
    (inside : ¬Beyond i j) (ordered : i ≤ j) (above : clamp i ≤ n) (below : n ≤ clamp j) :
    ∃ r : ℤ, value? (ofInt n) = some (r : ℚ) ∧ i ≤ r ∧ r ≤ j := by
  have exactI := (Number.unpacks_of_value? least).exact
  have exactJ := (Number.unpacks_of_value? greatest).exact
  have oddI := ne_greatest least
  have oddJ := ne_greatest greatest
  unfold Beyond at inside
  unfold clamp at above below
  by_cases last : i = 2 ^ 63
  · -- Here the least number lies beyond the integers by one, and rounding makes up for it.
    obtain rfl : n = 2 ^ 63 - 1 := by omega
    exact ⟨2 ^ 63, Number.value?_ofInt_greatest, last.le, by omega⟩
  · have lower : i ≤ n := by omega
    have upper : n ≤ j := by omega
    have bounded : |n| ≤ 2 ^ 64 := abs_le.2 ⟨by omega, by omega⟩
    obtain ⟨r, value, nearest⟩ := Number.exists_ofInt bounded
    refine ⟨r, value, ?_, ?_⟩
    · exact_mod_cast nearest.ge_of_ge exactI (by exact_mod_cast lower)
    · exact_mod_cast nearest.le_of_le exactJ (by exact_mod_cast upper)

/-- If both ends become the same integer, then that one is chosen. -/
theorem HonoursRange.of_clamp_eq {r : ℤ} (honours : HonoursRange a b i j)
    (least : value? a = some (i : ℚ)) (greatest : value? b = some (j : ℚ)) (start : clamp i = n)
    (stop : clamp j = n) (value : value? (ofInt n) = some (r : ℚ)) : i ≤ r ∧ r ≤ j := by
  have ends : (run .random [.number a, .number b]).MayEnd (.ok (.number (ofInt n))) :=
    (mayEnd_random least greatest (start.trans stop.symm).le).2 ⟨n, start.le, stop.ge, rfl⟩
  obtain ordered | empty := le_or_gt i j
  · obtain ⟨x, r', result, value', inside⟩ := honours.chosen ordered ends
    cases result
    obtain rfl := Int.cast_inj.1 (Option.some.inj (value.symm.trans value'))
    exact inside
  · obtain ⟨fault, -, refused⟩ := honours.refused empty
    rw [refused, Dialogue.mayEnd_done] at ends
    cases ends

/-- Ranges are honoured unless they lie beyond the 64-bit integers. -/
theorem honoursRange_iff (least : value? a = some (i : ℚ)) (greatest : value? b = some (j : ℚ)) :
    HonoursRange a b i j ↔ ¬Beyond i j := by
  constructor
  · rintro honours (⟨above, above'⟩ | ⟨below, below'⟩)
    · have start : clamp i = 2 ^ 63 - 1 := Number.clamp_of_ge (by omega)
      have stop : clamp j = 2 ^ 63 - 1 := Number.clamp_of_ge (by omega)
      have kept := honours.of_clamp_eq least greatest start stop Number.value?_ofInt_greatest
      omega
    · have start : clamp i = -2 ^ 63 := Number.clamp_of_le (by omega)
      have stop : clamp j = -2 ^ 63 := Number.clamp_of_le (by omega)
      have kept := honours.of_clamp_eq least greatest start stop Number.value?_ofInt_least
      omega
  · intro inside
    have oddI := ne_greatest least
    have oddJ := ne_greatest greatest
    constructor
    · intro empty
      have empty : clamp j < clamp i := by
        unfold Beyond at inside
        unfold clamp
        omega
      exact ⟨_, rfl, run_random_of_lt least greatest empty⟩
    · intro ordered result ends
      have ordered' : clamp i ≤ clamp j := by
        unfold clamp
        omega
      obtain ⟨n, above, below, rfl⟩ := (mayEnd_random least greatest ordered').1 ends
      obtain ⟨r, value, bounds⟩ := exists_chosen least greatest inside ordered above below
      exact ⟨_, r, rfl, value, bounds⟩

theorem honoursRange_same : value? 9223372036854775808 = some ((2 ^ 63 : ℤ) : ℚ) ∧
    HonoursRange 9223372036854775808 9223372036854775808 (2 ^ 63) (2 ^ 63) := by
  have value : value? 9223372036854775808 = some ((2 ^ 63 : ℤ) : ℚ) := by
    change some (((2 ^ 52 : ℕ) : ℤ) * 2 ^ (11 : ℤ) : ℚ) = _
    norm_num
  exact ⟨value, (honoursRange_iff value value).2 (by unfold Beyond; omega)⟩

/-- The only number between ten quintillions and itself is not what is chosen. -/
theorem not_honoursRange : value? 10000000000000000000 = some ((10 ^ 19 : ℤ) : ℚ) ∧
    ¬HonoursRange 10000000000000000000 10000000000000000000 (10 ^ 19) (10 ^ 19) := by
  have value : value? 10000000000000000000 = some ((10 ^ 19 : ℤ) : ℚ) := by
    change some (((10 ^ 19 / 2 ^ 11 : ℕ) : ℤ) * 2 ^ (11 : ℤ) : ℚ) = _
    norm_num
  have clamped : clamp (10 ^ 19) = 2 ^ 63 - 1 := Number.clamp_of_ge (by norm_num)
  refine ⟨value, fun honours => ?_⟩
  have kept := honours.of_clamp_eq value value clamped clamped Number.value?_ofInt_greatest
  omega

end Builtin

end ScriptLang

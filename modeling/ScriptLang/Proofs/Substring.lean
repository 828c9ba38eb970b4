import ScriptLang.Eval
import ScriptLang.Proofs.Numbers.Decimals

/-!
# Parts of strings

The function `substring` takes whole numbers of any size.  They become 64-bit integers before they
are compared with the number of clusters, and no number that lies beyond these integers can be
mistaken for one within a string.

## Main definitions

* `Builtin.Inside` — places and lengths within a string
* `Builtin.part` — the clusters of a string from a place on
* `Builtin.CutsExactly` — what `substring` does with a string, whatever it is asked for

## Main results

* `Builtin.inside_clamp` — numbers beyond the range of integers stay outside a string
* `Builtin.cutsExactly` — `substring` finds the parts of a string and refuses all else
-/

namespace ScriptLang.Builtin

open Number (value? clamp)

variable {s : String} {i j : ℤ}

/-! ### Places and lengths -/

/-- A place and a length lie within a string. -/
def Inside (s : String) (i j : ℤ) : Prop :=
  0 ≤ i ∧ 0 ≤ j ∧ i + j ≤ (Text.clusters s.toList).length

/-- The clusters of a string from a place on, as many as a length says. -/
def part (s : String) (i j : ℤ) : String :=
  String.ofList ((Text.clusters s.toList).extract i.toNat (i + j).toNat).flatten

theorem substringOf_of_inside (inside : Inside s i j) : substringOf s i j = .ok (part s i j) := by
  obtain ⟨start, length, bound⟩ := inside
  have taken : (i + j).toNat - i.toNat = j.toNat := by omega
  unfold substringOf part
  dsimp only
  rw [if_neg (by omega), if_neg (by omega), List.extract_eq_take_drop, taken]

theorem substringOf_of_not_inside (outside : ¬Inside s i j) :
    ∃ fault, fault.kind = .range ∧ substringOf s i j = .error fault := by
  unfold Inside at outside
  unfold substringOf
  dsimp only
  split
  · exact ⟨_, rfl, rfl⟩
  · rw [if_pos (by omega)]
    exact ⟨_, rfl, rfl⟩

/-- The end of the range of integers lies outside of a string just as what lies beyond it, so that
it does no harm to take the one for the other. -/
theorem inside_clamp (short : (Text.clusters s.toList).length < 2 ^ 63 - 1) :
    Inside s (clamp i) (clamp j) ↔ Inside s i j := by
  unfold Inside clamp
  omega

/-- A part inside a string is made of numbers that are not changed. -/
theorem part_clamp (short : (Text.clusters s.toList).length < 2 ^ 63 - 1)
    (inside : Inside s i j) : part s (clamp i) (clamp j) = part s i j := by
  obtain ⟨start, length, bound⟩ := inside
  have start' : clamp i = i := Number.clamp_eq_self (by omega) (by omega)
  have length' : clamp j = j := Number.clamp_eq_self (by omega) (by omega)
  rw [start', length']

/-- Two parts that follow each other are the string. -/
theorem part_append_part (s : String) (i : ℤ) :
    part s 0 i ++ part s i ((Text.clusters s.toList).length - i) = s := by
  have whole : (i + ((Text.clusters s.toList).length - i)).toNat =
      (Text.clusters s.toList).length := by omega
  unfold part
  rw [whole, ← String.ofList_append, ← List.flatten_append, Int.zero_add,
    List.extract_eq_take_drop, List.extract_eq_take_drop, Int.toNat_zero, Nat.sub_zero,
    List.drop_zero, List.take_of_length_le (l := List.drop _ _) (by simp), List.take_append_drop,
    Text.flatten_clusters, String.ofList_toList]

/-! ### Calls -/

section Calls

variable {a b : Float} {v w : Value}

theorem run_substring (start : value? a = some (i : ℚ)) (length : value? b = some (j : ℚ)) :
    run .substring [.string s, .number a, .number b] =
      .done ((substringOf s (clamp i) (clamp j)).map .string) := by
  have start : Arguments.integer [.string s, .number a, .number b] 1 .substringStart =
      .ok (clamp i) := Arguments.integer_of_value? rfl start
  have length : Arguments.integer [.string s, .number a, .number b] 2 .substringLength =
      .ok (clamp j) := Arguments.integer_of_value? rfl length
  simp only [run, plain, runSubstring, start, length]
  change Dialogue.done (substringOf s (clamp i) (clamp j) >>= fun t => .ok (Value.string t)) = _
  cases substringOf s (clamp i) (clamp j) <;> rfl

theorem run_substring_of_inside (short : (Text.clusters s.toList).length < 2 ^ 63 - 1)
    (start : value? a = some (i : ℚ)) (length : value? b = some (j : ℚ)) (inside : Inside s i j) :
    run .substring [.string s, .number a, .number b] = .done (.ok (.string (part s i j))) := by
  rw [run_substring start length, substringOf_of_inside ((inside_clamp short).2 inside),
    part_clamp short inside]
  rfl

theorem run_substring_of_not_inside (short : (Text.clusters s.toList).length < 2 ^ 63 - 1)
    (start : value? a = some (i : ℚ)) (length : value? b = some (j : ℚ))
    (outside : ¬Inside s i j) :
    ∃ fault, fault.kind = .range ∧
      run .substring [.string s, .number a, .number b] = .done (.error fault) := by
  obtain ⟨fault, kind, error⟩ := substringOf_of_not_inside (mt (inside_clamp short).1 outside)
  refine ⟨fault, kind, ?_⟩
  rw [run_substring start length, error]
  rfl

/-- Values that are no integers are refused, wherever they stand. -/
theorem run_substring_of_not_isWhole (wrong : ¬v.IsWhole ∨ ¬w.IsWhole) :
    ∃ fault, fault.kind = .type ∧ run .substring [.string s, v, w] = .done (.error fault) := by
  by_cases whole : v.IsWhole
  · obtain ⟨x, i, rfl, start⟩ := whole
    have wrong : ¬w.IsWhole := wrong.resolve_left (not_not.2 ⟨x, i, rfl, start⟩)
    have start : Arguments.integer [.string s, .number x, w] 1 .substringStart =
        .ok (clamp i) := Arguments.integer_of_value? rfl start
    have length : Arguments.integer [.string s, .number x, w] 2 .substringLength =
        .error .substringLength := Arguments.integer_of_not_isWhole rfl wrong
    refine ⟨.substringLength, rfl, ?_⟩
    simp only [run, plain, runSubstring, start, length]
    rfl
  · have start : Arguments.integer [.string s, v, w] 1 .substringStart =
        .error .substringStart := Arguments.integer_of_not_isWhole rfl whole
    refine ⟨.substringStart, rfl, ?_⟩
    simp only [run, plain, runSubstring, start]
    rfl

/-- What a script computes to take a string apart and to put it together again. -/
theorem exists_rejoined (few : (Text.clusters s.toList).length < 2 ^ 53) {zero : Float}
    {minus ampersand : Token} (origin : value? zero = some 0) (place : value? a = some (i : ℚ))
    (start : 0 ≤ i) (bound : i ≤ (Text.clusters s.toList).length) (difference : minus.kind = .minus)
    (join : ampersand.kind = .ampersand) :
    ∃ count rest front back, run .len [.string s] = .done (.ok count) ∧
      applyBinary minus count (.number a) = .ok rest ∧
      run .substring [.string s, .number zero, .number a] = .done (.ok front) ∧
      run .substring [.string s, .number a, rest] = .done (.ok back) ∧
      applyBinary ampersand front back = .ok (.string s) := by
  have short : (Text.clusters s.toList).length < 2 ^ 63 - 1 := few.trans (by norm_num)
  generalize clusters : (Text.clusters s.toList).length = n at few bound
  have origin : value? zero = some ((0 : ℤ) : ℚ) := origin
  have count : value? (Number.ofCount n) = some ((n : ℤ) : ℚ) := Number.value?_ofCount few
  have rest : value? (Number.ofCount n - a) = some ((n - i : ℤ) : ℚ) :=
    Number.value?_sub count place (by rw [abs_lt]; omega)
  have front : Inside s 0 i := ⟨le_rfl, start, by omega⟩
  have back : Inside s i (n - i) := ⟨start, by omega, by omega⟩
  refine ⟨.number (Number.ofCount n), .number (Number.ofCount n - a), .string (part s 0 i),
    .string (part s i (n - i)), ?_, ?_, run_substring_of_inside short origin place front,
    run_substring_of_inside short place rest back, ?_⟩
  · rw [← clusters]
    rfl
  · rw [applyBinary, difference]
  · rw [applyBinary, join, ← clusters]
    exact congrArg (fun t => Except.ok (Value.string t)) (part_append_part s i)

end Calls

/-- What `substring` does with a string, whatever it is asked for. -/
structure CutsExactly (s : String) : Prop where
  /-- Parts of the string are found. -/
  cut {a b : Float} {i j : ℤ} (start : value? a = some (i : ℚ)) (length : value? b = some (j : ℚ))
    (inside : Inside s i j) :
    run .substring [.string s, .number a, .number b] = .done (.ok (.string (part s i j)))
  /-- Whole numbers that do not lie within the string are out of range. -/
  refused {a b : Float} {i j : ℤ} (start : value? a = some (i : ℚ))
    (length : value? b = some (j : ℚ)) (outside : ¬Inside s i j) :
    ∃ fault, fault.kind = .range ∧
      run .substring [.string s, .number a, .number b] = .done (.error fault)
  /-- All other values have the wrong type, whatever the other argument is. -/
  mistyped {v w : Value} (wrong : ¬v.IsWhole ∨ ¬w.IsWhole) :
    ∃ fault, fault.kind = .type ∧ run .substring [.string s, v, w] = .done (.error fault)
  /-- A string is its front and its rest, as the length of the rest is computed in a script. -/
  rejoined (few : (Text.clusters s.toList).length < 2 ^ 53) {zero a : Float} {i : ℤ}
    {minus ampersand : Token} (origin : value? zero = some 0) (place : value? a = some (i : ℚ))
    (start : 0 ≤ i) (bound : i ≤ (Text.clusters s.toList).length) (difference : minus.kind = .minus)
    (join : ampersand.kind = .ampersand) :
    ∃ count rest front back, run .len [.string s] = .done (.ok count) ∧
      applyBinary minus count (.number a) = .ok rest ∧
      run .substring [.string s, .number zero, .number a] = .done (.ok front) ∧
      run .substring [.string s, .number a, rest] = .done (.ok back) ∧
      applyBinary ampersand front back = .ok (.string s)

/-- The function `substring` finds the parts of a string, and refuses all else.  A string with more
clusters than there are 64-bit integers does not fit into the memory of any machine. -/
theorem cutsExactly (s : String) (short : (Text.clusters s.toList).length < 2 ^ 63 - 1) :
    CutsExactly s where
  cut := run_substring_of_inside short
  refused := run_substring_of_not_inside short
  mistyped := run_substring_of_not_isWhole
  rejoined few := exists_rejoined few

theorem cutsExactly_flags :
    (Text.clusters "🇨🇭e\u0301".toList).length = 2 ∧ CutsExactly "🇨🇭e\u0301" := by
  have clusters : (Text.clusters "🇨🇭e\u0301".toList).length = 2 := by decide +kernel
  exact ⟨clusters, cutsExactly _ (by rw [clusters]; norm_num)⟩

end ScriptLang.Builtin

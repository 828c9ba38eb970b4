import ScriptLang.Proofs.Lexemes
import ScriptLang.Proofs.Numbers.Shortest

/-!
# Written numbers

The text of a finite number is a numeral behind a sign, and the numeral stands for a rational number
that rounds to the number.  So the text tells the number.

## Main definitions

* `Denotes` — the rational numbers that digits with an optional fraction stand for
* `Rounds` — the numbers that have a sign and to which a rational number rounds

## Main results

* `exists_render` — what the text of a finite number consists of
* `render_injective` — different finite numbers have different texts
* `lexeme_render` — the text of a finite number without a minus sign is a number literal
-/

namespace ScriptLang.Number

open Float.Model (UnpackedFloat)
open Float.Model.UnpackedFloat (Sign)

/-! ### Digits -/

theorem ofDigits_eq (ds : List Char) : ofDigits ds = Nat.ofDigitChars 10 ds 0 := rfl

theorem ofDigits_toDigits (n : Nat) : ofDigits (Nat.toDigits 10 n) = n :=
  Nat.ofDigitChars_ten_toDigits

theorem isDigits_toDigits (n : Nat) : IsDigits (Nat.toDigits 10 n) :=
  ⟨Nat.toDigits_ne_nil, fun _ mem => Nat.isDigit_of_mem_toDigits (by decide) (by decide) mem⟩

theorem isDigit_of_mem_zeros {n : Nat} {c : Char} (mem : c ∈ List.replicate n '0') :
    c.isDigit = true := by
  rw [List.eq_of_mem_replicate mem]
  rfl

/-- The numbers that digits with an optional fraction stand for. -/
inductive Denotes : List Char → ℚ → Prop where
  | whole {ds : List Char} (digits : IsDigits ds) : Denotes ds (ofDigits ds)
  | decimal {ds fs : List Char} (digits : IsDigits ds) (places : IsDigits fs) :
      Denotes (ds ++ '.' :: fs) (ofDigits (ds ++ fs) / 10 ^ fs.length)

namespace Denotes

variable {cs : List Char} {p q : ℚ}

theorem lexeme (h : Denotes cs q) : Lexeme .number cs := by
  cases h with
  | whole digits => exact .whole digits
  | decimal digits places => exact .decimal digits places

theorem point_not_mem {ds fs : List Char} (h : IsDigits (ds ++ '.' :: fs)) : False := by
  have digit : Char.isDigit '.' = true := h.2 '.' (by simp)
  exact absurd digit (by decide)

/-- The text tells the number. -/
theorem unique (h : Denotes cs p) (h' : Denotes cs q) : p = q := by
  cases h with
  | whole digits =>
    cases h' with
    | whole _ => rfl
    | decimal _ _ => exact (point_not_mem digits).elim
  | @decimal ds fs digits places =>
    generalize same : ds ++ '.' :: fs = cs at h'
    cases h' with
    | whole digits' =>
      subst same
      exact (point_not_mem digits').elim
    | @decimal ds' fs' digits' places' =>
      -- The point is the first character that is no digit.
      have clear (fs : List Char) : Clear Char.isDigit ('.' :: fs) := clear_cons.2 (by decide)
      have front := congrArg (List.takeWhile Char.isDigit) same
      have back := congrArg (List.dropWhile Char.isDigit) same
      rw [takeWhile_of_clear digits.2 (clear fs), takeWhile_of_clear digits'.2 (clear fs')] at front
      rw [dropWhile_of_clear digits.2 (clear fs), dropWhile_of_clear digits'.2 (clear fs')] at back
      cases front
      cases back
      rfl

/-- A numeral starts with a digit. -/
theorem starts (h : Denotes cs q) :
    ∃ c rest, cs = c :: rest ∧ c.isDigit = true := by
  cases h with
  | whole digits =>
    obtain ⟨c, rest, rfl⟩ := List.exists_cons_of_ne_nil digits.1
    exact ⟨c, rest, rfl, digits.2 c List.mem_cons_self⟩
  | decimal digits places =>
    obtain ⟨c, rest, rfl⟩ := List.exists_cons_of_ne_nil digits.1
    exact ⟨c, _, rfl, digits.2 c List.mem_cons_self⟩

/-- A sign and a numeral can be told from the text of both. -/
theorem of_signed {s s' : Sign} {body body' : List Char} (h : Denotes body p)
    (h' : Denotes body' q) (same : signText s ++ body = signText s' ++ body') :
    s = s' ∧ p = q := by
  obtain ⟨c, rest, rfl, digit⟩ := h.starts
  obtain ⟨c', rest', rfl, digit'⟩ := h'.starts
  have noDigit : Char.isDigit '-' ≠ true := by decide
  cases s <;> cases s'
  case positive.positive =>
    rw [List.append_cancel_left same] at h
    exact ⟨rfl, h.unique h'⟩
  case negative.negative =>
    rw [List.append_cancel_left same] at h
    exact ⟨rfl, h.unique h'⟩
  case positive.negative =>
    obtain ⟨rfl, -⟩ := List.cons.inj same
    exact absurd digit noDigit
  case negative.positive =>
    obtain ⟨rfl, -⟩ := List.cons.inj same
    exact absurd digit' noDigit

end Denotes

/-! ### Positional notation -/

theorem ofDigits_append_zeros (ds : List Char) (n : Nat) :
    ofDigits (ds ++ List.replicate n '0') = 10 ^ n * ofDigits ds := by
  rw [ofDigits_eq, Nat.ofDigitChars_append, Nat.ofDigitChars_replicate_zero]
  rfl

theorem ofDigits_zeros_append (ds : List Char) (n : Nat) :
    ofDigits (List.replicate n '0' ++ ds) = ofDigits ds := by
  rw [ofDigits_eq, Nat.ofDigitChars_append, Nat.ofDigitChars_replicate_zero, Nat.mul_zero]
  rfl

namespace Decimal

theorem denotes_positional (d : Decimal) : Denotes d.positional d.value := by
  have digits := isDigits_toDigits d.digits
  have count := ofDigits_toDigits d.digits
  unfold positional value
  dsimp only
  generalize Nat.toDigits 10 d.digits = ds at digits count ⊢
  split
  · next nonneg =>
    have zeros : IsDigits (ds ++ List.replicate d.exponent.toNat '0') :=
      ⟨List.append_ne_nil_of_left_ne_nil digits.1 _, fun c mem =>
        (List.mem_append.1 mem).elim (digits.2 c) isDigit_of_mem_zeros⟩
    have denotes := Denotes.whole zeros
    rw [ofDigits_append_zeros, count, Nat.cast_mul, Nat.cast_pow, Nat.cast_ofNat, mul_comm,
      ← zpow_natCast, Int.toNat_of_nonneg nonneg] at denotes
    exact denotes
  · next negative =>
    have exponent : d.exponent = -((-d.exponent).toNat : Int) := by omega
    have some : 0 < (-d.exponent).toNat := by omega
    generalize (-d.exponent).toNat = places at exponent some ⊢
    rw [exponent, zpow_neg, zpow_natCast, ← div_eq_mul_inv]
    split
    · next inside =>
      have first : IsDigits (ds.take (ds.length - places)) := by
        refine ⟨List.ne_nil_of_length_pos ?_, fun c mem => digits.2 c (List.mem_of_mem_take mem)⟩
        rw [List.length_take]
        omega
      have second : IsDigits (ds.drop (ds.length - places)) := by
        refine ⟨List.ne_nil_of_length_pos ?_, fun c mem => digits.2 c (List.mem_of_mem_drop mem)⟩
        rw [List.length_drop]
        omega
      have denotes := Denotes.decimal first second
      rw [List.take_append_drop, count, List.length_drop, Nat.sub_sub_self inside.le] at denotes
      exact denotes
    · next outside =>
      have zero : IsDigits ['0'] := ⟨List.cons_ne_nil _ _, List.forall_mem_singleton.2 rfl⟩
      have second : IsDigits (List.replicate (places - ds.length) '0' ++ ds) :=
        ⟨List.append_ne_nil_of_right_ne_nil _ digits.1, fun c mem =>
          (List.mem_append.1 mem).elim isDigit_of_mem_zeros (digits.2 c)⟩
      have denotes := Denotes.decimal zero second
      have count' : ofDigits (['0'] ++ (List.replicate (places - ds.length) '0' ++ ds)) =
          d.digits := by
        rw [← count, ← ofDigits_zeros_append ds (places - ds.length), ← ofDigits_zeros_append _ 1]
        rfl
      rw [count', List.length_append, List.length_replicate,
        Nat.sub_add_cancel (Nat.le_of_not_lt outside)] at denotes
      exact denotes

/-- Leaving out zeros at the end does not change the number. -/
theorem value_strip (d : Decimal) : d.strip.value = d.value := by
  fun_induction strip d with
  | case1 d h ih =>
    have tenth : d.digits = d.digits / 10 * 10 := by omega
    rw [ih, value, value, zpow_add_one₀ (by norm_num)]
    nth_rewrite 2 [tenth]
    push_cast
    ring
  | case2 d h => rfl

end Decimal

/-! ### Finite numbers -/

/-- The numbers that have a sign and to which a rational number rounds. -/
inductive Rounds : UnpackedFloat → Sign → ℚ → Prop where
  | zero (s : Sign) : Rounds (.zero s) s 0
  | finite {s : Sign} {m : Nat} {e : Int} {pos : 0 < m} {q : ℚ} (canonical : IsCanonical m e)
      (inside : (Interval.ofBinary m e (e == -1074)).Holds q) : Rounds (.finite s m e pos) s q

theorem not_holds_zero {m : Nat} {e : Int} (h : IsCanonical m e) :
    ¬(Interval.ofBinary m e (e == -1074)).Holds 0 := by
  intro inside
  have pos : (0 : ℚ) < ((4 * m - Interval.reach m e : Nat) : ℚ) * 2 ^ e := by
    have reach : Interval.reach m e ≤ 2 := Interval.reach_le
    have some := h.pos
    have lower : (0 : ℚ) < ((4 * m - Interval.reach m e : Nat) : ℚ) := by
      exact_mod_cast (by omega : 0 < 4 * m - Interval.reach m e)
    positivity
  rw [Interval.holds_ofBinary] at inside
  split at inside <;> linarith [inside.1]

theorem Rounds.unique {u u' : UnpackedFloat} {s : Sign} {q : ℚ} (h : Rounds u s q)
    (h' : Rounds u' s q) : u = u' := by
  cases h with
  | zero =>
    cases h' with
    | zero => rfl
    | finite canonical inside => exact absurd inside (not_holds_zero canonical)
  | finite canonical inside =>
    cases h' with
    | zero => exact absurd inside (not_holds_zero canonical)
    | finite canonical' inside' =>
      obtain ⟨rfl, rfl⟩ := Interval.unique_of_holds canonical canonical' inside inside'
      rfl

/-- The text of a finite number is a sign and a numeral that rounds to the number. -/
theorem exists_render {x : Float} (finite : x.isFinite = true) :
    ∃ s body q, (render x).toList = signText s ++ body ∧ Denotes body q ∧
      Rounds x.toModel.unpack s q := by
  unfold render
  rw [String.toList_ofList]
  have finite' : x.toModel.unpack.isFinite = true := finite
  cases unpacked : x.toModel.unpack with
  | notANumber | infinity =>
    rw [unpacked] at finite'
    cases finite'
  | zero s =>
    have zero : IsDigits ['0'] := ⟨List.cons_ne_nil _ _, List.forall_mem_singleton.2 rfl⟩
    have denotes := Denotes.whole zero
    rw [show ofDigits ['0'] = 0 from rfl, Nat.cast_zero] at denotes
    exact ⟨s, ['0'], 0, rfl, denotes, .zero s⟩
  | finite s m e pos =>
    have canonical := isCanonical_of_unpack unpacked
    have denotes := Decimal.denotes_positional
      (Interval.ofBinary m e (e == -1074)).shortest.strip
    rw [Decimal.value_strip] at denotes
    exact ⟨s, _, _, rfl, denotes, .finite canonical (Interval.shortest_holds
      (Interval.encloses_ofBinary canonical) (Interval.wide_ofBinary canonical))⟩

/-- Different finite numbers have different texts. -/
theorem render_injective {x y : Float} (finite : x.isFinite = true) (finite' : y.isFinite = true)
    (same : render x = render y) : x = y := by
  obtain ⟨s, body, q, text, denotes, rounds⟩ := exists_render finite
  obtain ⟨s', body', q', text', denotes', rounds'⟩ := exists_render finite'
  rw [same, text'] at text
  obtain ⟨rfl, rfl⟩ := denotes'.of_signed denotes text
  exact eq_of_unpack finite (rounds.unique rounds')

theorem Rounds.positive {u : UnpackedFloat} {s : Sign} {q : ℚ} (h : Rounds u s q)
    (unsigned : Unsigned u) : s = .positive := by
  cases unsigned <;> cases h <;> rfl

/-- The text of a finite number without a minus sign is a number literal. -/
theorem lexeme_render {x : Float} (finite : x.isFinite = true)
    (unsigned : Unsigned x.toModel.unpack) : Lexeme .number (render x).toList := by
  obtain ⟨s, body, q, text, denotes, rounds⟩ := exists_render finite
  cases rounds.positive unsigned
  rw [text]
  exact denotes.lexeme

end ScriptLang.Number

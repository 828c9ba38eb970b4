import Mathlib
import ScriptLang.Number.Text

/-!
# The fields of numbers

The sign, the exponent and the mantissa of a number tell it from all other finite numbers.  The
mantissa of a finite number has all the bits that it can have, unless the exponent is the least one.
The value of a literal has no minus sign.

## Main definitions

* `IsCanonical` — the mantissas and exponents of finite numbers
* `Fields` — what the stored bits of a finite number say
* `Unsigned` — numbers without a minus sign

## Main results

* `eq_of_unpack` — a finite number is given by its sign, its mantissa and its exponent
* `unsigned_ofLiteral` — the value of a number literal has no minus sign
-/

namespace ScriptLang.Number

open Float.Model (Format UnpackedFloat)
open Float.Model.UnpackedFloat

/-! ### The fields of a number -/

theorem toBitVec_ofBitVec (v : BitVec 1) : (Sign.ofBitVec v).toBitVec = v := by
  revert v
  decide

theorem ofBitVec_injective {v v' : BitVec 1} (h : Sign.ofBitVec v = Sign.ofBitVec v') : v = v' := by
  rw [← toBitVec_ofBitVec v, h, toBitVec_ofBitVec]

/-- The sign, the exponent and the mantissa are all the bits that there are. -/
theorem eq_of_fields {b b' : BitVec Format.binary64.numBits} (sign : unpackSign b = unpackSign b')
    (exponent : unpackExponent b = unpackExponent b')
    (mantissa : unpackMantissa b = unpackMantissa b') : b = b' := by
  have whole (b : BitVec Format.binary64.numBits) :
      packComponents .binary64 (Sign.ofBitVec (unpackSign b)) (unpackExponent b)
        (unpackMantissa b) = b := by
    simp only [packComponents, toBitVec_ofBitVec, unpackSign, unpackExponent, unpackMantissa,
      BitVec.extractLsb]
    ext i hi
    grind
  rw [← whole b, ← whole b', sign, exponent, mantissa]

theorem unpackSign_packComponents (sign : Sign) (exponent : BitVec 11) (mantissa : BitVec 52) :
    unpackSign (packComponents .binary64 sign exponent mantissa) = sign.toBitVec := by
  ext i hi
  obtain rfl : i = 0 := by omega
  have top : (sign.toBitVec ++ exponent ++ mantissa).getLsbD 63 = sign.toBitVec[0] := by
    rw [BitVec.getLsbD_append, if_neg (by decide), BitVec.getLsbD_append, if_neg (by decide)]
    rfl
  simp only [unpackSign, Nat.reduceAdd, Nat.reduceSub, packComponents, BitVec.cast_eq,
    BitVec.getElem_extract, Nat.add_zero]
  exact top

/-! ### Finite numbers -/

/-- The mantissas and exponents of finite numbers other than zero: the mantissa has all its bits,
unless the exponent is the least one. -/
structure IsCanonical (m : Nat) (e : Int) : Prop where
  pos : 0 < m
  small : m < 2 ^ 53
  least : -1074 ≤ e
  full : e = -1074 ∨ 2 ^ 52 ≤ m

/-- What the fields of a finite number say: its sign, and a mantissa that has lost its first bit
unless the number is subnormal. -/
inductive Fields (b : BitVec Format.binary64.numBits) : UnpackedFloat → Prop where
  | zero {s : Sign} (sign : s = .ofBitVec (unpackSign b)) (exponent : unpackExponent b = 0#11)
      (mantissa : unpackMantissa b = 0#52) : Fields b (.zero s)
  | subnormal {s : Sign} {m : Nat} {e : Int} {pos : 0 < m} (sign : s = .ofBitVec (unpackSign b))
      (exponent : unpackExponent b = 0#11) (mantissa : m = (unpackMantissa b).toNat)
      (least : e = -1074) : Fields b (.finite s m e pos)
  | normal {s : Sign} {m : Nat} {e : Int} {pos : 0 < m} (sign : s = .ofBitVec (unpackSign b))
      (exponent : 0 < (unpackExponent b).toNat) (mantissa : m = 2 ^ 52 + (unpackMantissa b).toNat)
      (scaled : e = (unpackExponent b).toNat - 1075) : Fields b (.finite s m e pos)

theorem fields_unpack {b : BitVec Format.binary64.numBits}
    (finite : (unpack .binary64 b).isFinite = true) : Fields b (unpack .binary64 b) := by
  unfold unpack at finite ⊢
  dsimp only at finite ⊢
  split at finite
  · split at finite <;> cases finite
  · next hi =>
    rw [if_neg hi]
    by_cases zero : unpackExponent b = 0#11
    · rw [if_pos zero]
      by_cases none : unpackMantissa b = 0#52
      · rw [dif_pos none]
        exact .zero rfl zero none
      · rw [dif_neg none]
        refine .subnormal rfl zero rfl ?_
        rw [zero]
        rfl
    · rw [if_neg zero]
      have exponent : 0 < (unpackExponent b).toNat :=
        (BitVec.toNat_pos _).2 ((BitVec.pos_iff_ne_zero _).2 zero)
      refine .normal rfl exponent ?_ rfl
      -- The first bit of the mantissa is not stored.
      have whole := Nat.two_pow_add_eq_or_of_lt (unpackMantissa b).isLt 1
      rw [BitVec.toNat_append, Nat.shiftLeft_eq, Nat.mul_comm]
      rw [Nat.mul_one] at whole
      exact whole.symm

theorem Fields.isCanonical {b : BitVec Format.binary64.numBits} {s : Sign} {m : Nat} {e : Int}
    {pos : 0 < m} (h : Fields b (.finite s m e pos)) : IsCanonical m e := by
  have small : (unpackMantissa b).toNat < 2 ^ 52 := (unpackMantissa b).isLt
  cases h with
  | subnormal _ _ mantissa least => exact ⟨pos, by omega, by omega, .inl least⟩
  | normal _ exponent mantissa scaled => exact ⟨pos, by omega, by omega, .inr (by omega)⟩

/-- The fields can be told from the number. -/
theorem Fields.unique {b b' : BitVec Format.binary64.numBits} {u : UnpackedFloat}
    (h : Fields b u) (h' : Fields b' u) : b = b' := by
  have small : (unpackMantissa b).toNat < 2 ^ 52 := (unpackMantissa b).isLt
  have small' : (unpackMantissa b').toNat < 2 ^ 52 := (unpackMantissa b').isLt
  cases h with
  | zero sign exponent mantissa =>
    cases h' with
    | zero sign' exponent' mantissa' =>
      exact eq_of_fields (ofBitVec_injective (sign.symm.trans sign'))
        (exponent.trans exponent'.symm) (mantissa.trans mantissa'.symm)
  | subnormal sign exponent mantissa least =>
    cases h' with
    | subnormal sign' exponent' mantissa' _ =>
      exact eq_of_fields (ofBitVec_injective (sign.symm.trans sign'))
        (exponent.trans exponent'.symm) (BitVec.eq_of_toNat_eq (mantissa.symm.trans mantissa'))
    | normal _ _ mantissa' _ => omega
  | normal sign exponent mantissa scaled =>
    cases h' with
    | subnormal _ _ mantissa' _ => omega
    | normal sign' _ mantissa' scaled' =>
      refine eq_of_fields (ofBitVec_injective (sign.symm.trans sign')) ?_ ?_
      · exact BitVec.eq_of_toNat_eq (by omega)
      · exact BitVec.eq_of_toNat_eq (by omega)

/-- The mantissa and the exponent of a finite number other than zero. -/
theorem isCanonical_of_unpack {x : Float} {s : Sign} {m : Nat} {e : Int} {pos : 0 < m}
    (unpacked : x.toModel.unpack = .finite s m e pos) : IsCanonical m e := by
  have fields : Fields x.toModel.toBits.toBitVec x.toModel.unpack :=
    fields_unpack (by rw [← Float.Model.unpack, unpacked]; rfl)
  rw [unpacked] at fields
  exact fields.isCanonical

/-- A finite number is given by its sign, its mantissa and its exponent. -/
theorem eq_of_unpack {x y : Float} (finite : x.isFinite = true)
    (same : x.toModel.unpack = y.toModel.unpack) : x = y := by
  have fields : Fields x.toModel.toBits.toBitVec x.toModel.unpack := fields_unpack finite
  have fields' : Fields y.toModel.toBits.toBitVec y.toModel.unpack := by
    refine fields_unpack ?_
    rw [← Float.Model.unpack, ← same]
    exact finite
  obtain ⟨⟨bits, _⟩⟩ := x
  obtain ⟨⟨bits', _⟩⟩ := y
  have bitsEq := fields.unique (same ▸ fields')
  dsimp only at bitsEq
  obtain rfl := UInt64.toBitVec_inj.1 bitsEq
  rfl

/-! ### Signs -/

/-- Numbers without a minus sign, and what is no number. -/
inductive Unsigned : UnpackedFloat → Prop where
  | notANumber : Unsigned .notANumber
  | infinity : Unsigned (.infinity .positive)
  | zero : Unsigned (.zero .positive)
  | finite (m : Nat) (e : Int) (pos : 0 < m) : Unsigned (.finite .positive m e pos)

/-- A number has no minus sign if the bit for it is clear. -/
theorem unsigned_unpack {b : BitVec Format.binary64.numBits} (clear : unpackSign b = 0#1) :
    Unsigned (unpack .binary64 b) := by
  have positive : Sign.ofBitVec (unpackSign b) = .positive := by
    rw [clear]
    rfl
  unfold unpack
  dsimp only
  rw [positive]
  split
  · split
    · exact .infinity
    · exact .notANumber
  · split
    · split
      · exact .zero
      · exact .finite ..
    · exact .finite ..

theorem unsigned_roundWithAccuracy (m : Nat) (e : Int) (a : Accuracy) :
    Unsigned (roundWithAccuracy .binary64 .positive m e a) := by
  unfold roundWithAccuracy
  dsimp only
  split
  · exact .zero
  · exact .finite ..

namespace Unsigned

variable {u v : UnpackedFloat}

theorem unpackSign_pack (h : Unsigned u) : unpackSign (pack .binary64 u) = 0#1 := by
  cases h with
  | notANumber | infinity | zero => exact unpackSign_packComponents ..
  | finite m e pos =>
    unfold pack
    dsimp only
    split
    · exact unpackSign_packComponents ..
    · split <;> exact unpackSign_packComponents ..

/-- Bits and fields are the same as far as the sign is concerned. -/
theorem unpack_pack (h : Unsigned u) : Unsigned (unpack .binary64 (pack .binary64 u)) :=
  unsigned_unpack h.unpackSign_pack

theorem mul (h : Unsigned u) (h' : Unsigned v) : Unsigned (mul .binary64 u v) := by
  cases h <;> cases h'
  case finite.finite => exact unsigned_roundWithAccuracy ..
  all_goals constructor

theorem div (h : Unsigned u) (h' : Unsigned v) : Unsigned (div .binary64 u v) := by
  cases h <;> cases h'
  case finite.finite => exact unsigned_roundWithAccuracy ..
  all_goals constructor

end Unsigned

theorem unsigned_ofNat (n : Nat) : Unsigned (ofNat .binary64 n) := by
  unfold UnpackedFloat.ofNat UnpackedFloat.ofInt UnpackedFloat.normalize
  split
  · next lt =>
    rw [compare_lt_iff_lt] at lt
    omega
  · exact .zero
  · exact unsigned_roundWithAccuracy ..

theorem unsigned_ofScientific (m : Nat) (e : Int) : Unsigned (ofScientific .binary64 m e) := by
  unfold ofScientific
  split
  · exact .zero
  · split
    · exact .infinity
    · split
      · exact .zero
      · split <;> exact unsigned_roundWithAccuracy ..

theorem unsigned_powerOfTen {x : Float} (mem : x ∈ Float.exactlyRepresentablePowersOfTen) :
    Unsigned x.toModel.unpack := by
  have clear : Float.exactlyRepresentablePowersOfTen.all (fun x =>
      @unpackSign .binary64 x.toModel.toBits.toBitVec == 0#1) = true := by
    decide +kernel
  exact unsigned_unpack (eq_of_beq (Array.all_eq_true'.1 clear x mem))

/-- The value of a number literal has no minus sign. -/
theorem unsigned_ofLiteral (whole fraction : List Char) :
    Unsigned (ofLiteral whole fraction).toModel.unpack := by
  unfold ofLiteral ofDecimal Float.ofScientific
  split
  · next few =>
    have digits := (unsigned_ofNat (ofDigits (whole ++ fraction)).toUInt64.toNat).unpack_pack
    have inside : (-(fraction.length : Int)).natAbs < Float.exactlyRepresentablePowersOfTen.size :=
      Nat.lt_succ_of_le few.2
    have power := unsigned_powerOfTen (Array.getElem_mem inside)
    split
    · exact (digits.div power).unpack_pack
    · exact (digits.mul power).unpack_pack
  · exact (unsigned_ofScientific _ _).unpack_pack

end ScriptLang.Number

import Mathlib
import ScriptLang.Eval

/-!
# Equal values

Values are compared type by type, and each type has a rule of its own.  Numbers are compared as
IEEE says, so that one of them is not equal to itself; functions are compared by where they come
from.  All these rules together are symmetric and transitive.

## Main definitions

* `Number.SameNumber` — what numbers that compare equal have in common
* `Value.isNaN` — the one value that is not equal to itself

## Main results

* `PartialEquivBEq Value` — comparing values is symmetric and transitive
* `Value.beq_self` — it is reflexive but on what is no number
* `Value.typeName_eq_of_beq` — equal values have one type
* `applyBinary_equal`, `applyBinary_unequal` — what the operators of a script make of it
-/

namespace ScriptLang

/-! ### Numbers -/

namespace Number

open Float.Model UnpackedFloat

/-- What numbers that compare equal have in common.  The two zeros are one number. -/
inductive SameNumber : UnpackedFloat → UnpackedFloat → Prop where
  | infinity (s : Sign) : SameNumber (.infinity s) (.infinity s)
  | zero (s t : Sign) : SameNumber (.zero s) (.zero t)
  | finite (s : Sign) (m : Nat) (e : Int) (pos : 0 < m) :
      SameNumber (.finite s m e pos) (.finite s m e pos)

namespace SameNumber

variable {x y z : UnpackedFloat}

theorem symm (h : SameNumber x y) : SameNumber y x := by
  cases h with
  | infinity s => exact .infinity s
  | zero s t => exact .zero t s
  | finite s m e pos => exact .finite s m e pos

theorem trans (h : SameNumber x y) (h' : SameNumber y z) : SameNumber x z := by
  cases h with
  | infinity | finite => exact h'
  | zero s t =>
    cases h' with
    | zero _ u => exact .zero s u

theorem self_iff : SameNumber x x ↔ x.isNaN = false := by
  cases x with
  | notANumber => exact ⟨fun h => (by cases h), fun h => (by cases h)⟩
  | infinity s => exact ⟨fun _ => rfl, fun _ => .infinity s⟩
  | zero s => exact ⟨fun _ => rfl, fun _ => .zero s s⟩
  | finite s m e pos => exact ⟨fun _ => rfl, fun _ => .finite s m e pos⟩

/-- Magnitudes are compared by their exponents first; equal ones have both parts in common. -/
theorem of_compare_parts {s : Sign} {m n : Nat} {e f : Int} {hm : 0 < m} {hn : 0 < n}
    (h : (compare e f).then (compare m n) = .eq) :
    SameNumber (.finite s m e hm) (.finite s n f hn) := by
  obtain ⟨exponents, mantissas⟩ := Ordering.then_eq_eq.1 h
  obtain rfl := Std.LawfulEqOrd.eq_of_compare exponents
  obtain rfl := Std.LawfulEqOrd.eq_of_compare mantissas
  exact .finite ..

theorem of_compare (h : x.compare y = some .eq) : SameNumber x y := by
  -- Numbers of different kinds or signs are never found equal, but for the zeros.
  cases x with
  | notANumber => cases h
  | infinity s =>
    cases y with
    | infinity t => cases s <;> cases t <;> first | exact .infinity _ | cases h
    | notANumber | zero _ | finite => cases s <;> cases h
  | zero s =>
    cases y with
    | zero t => exact .zero s t
    | infinity t | finite t => cases t <;> cases h
    | notANumber => cases h
  | finite s m e pos =>
    cases y with
    | finite t n f pos' =>
      cases s with
      | positive =>
        cases t with
        | positive => exact of_compare_parts (Option.some.inj h)
        | negative => cases h
      | negative =>
        cases t with
        | positive => cases h
        -- Negative numbers are compared the other way round.
        | negative => exact of_compare_parts (Ordering.swap_inj.1 (Option.some.inj h))
    | infinity t => cases s <;> cases t <;> cases h
    | zero t => cases s <;> cases h
    | notANumber => cases h

theorem compare_eq (h : SameNumber x y) : x.compare y = some .eq := by
  cases h with
  | infinity s => cases s <;> rfl
  | zero s t => rfl
  | finite s m e pos =>
    have parts : (compare e e).then (compare m m) = .eq := by simp
    cases s with
    | positive => exact congrArg some parts
    | negative => exact congrArg (some ·.swap) parts

end SameNumber

theorem beq_iff_sameNumber {x y : Float} :
    (x == y) = true ↔ SameNumber x.toModel.unpack y.toModel.unpack := by
  change (x.toModel.unpack.compare y.toModel.unpack == some .eq) = true ↔ _
  rw [beq_iff_eq]
  exact ⟨.of_compare, SameNumber.compare_eq⟩

theorem beq_self_iff {x : Float} : (x == x) = true ↔ x.isNaN = false :=
  beq_iff_sameNumber.trans SameNumber.self_iff

instance instPartialEquivBEqFloat : PartialEquivBEq Float where
  symm h := beq_iff_sameNumber.2 (beq_iff_sameNumber.1 h).symm
  trans h h' := beq_iff_sameNumber.2 ((beq_iff_sameNumber.1 h).trans (beq_iff_sameNumber.1 h'))

end Number

/-! ### Functions -/

/-- Built-in functions are told apart by their names. -/
theorem Builtin.name_injective : Function.Injective name := by
  have distinct : ∀ a ∈ all, ∀ b ∈ all, a.name = b.name → a = b := by decide
  exact fun a b => distinct a (mem_all a) b (mem_all b)

theorem UserFunction.same_iff {f g : UserFunction} :
    f.same g = true ↔ f.unit = g.unit ∧ f.decl.ident.span = g.decl.ident.span := by
  rw [same, Bool.and_eq_true, beq_iff_eq, decide_eq_true_iff]

/-- What two functions that are the same one have in common: a built-in function is itself, and a
declared one is its declaration in its unit. -/
inductive Callable.Same : Callable → Callable → Prop where
  | builtin (b : Builtin) : Same (.builtin b) (.builtin b)
  | user {f g : UserFunction} (unit : f.unit = g.unit)
      (place : f.decl.ident.span = g.decl.ident.span) : Same (.user f) (.user g)

namespace Callable

theorem same_iff {f g : Callable} : f.same g = true ↔ f.Same g := by
  constructor
  · intro h
    cases f with
    | builtin a =>
      cases g with
      | builtin b =>
        obtain rfl : a = b := beq_iff_eq.1 h
        exact .builtin a
      | user g => cases h
    | user f =>
      cases g with
      | builtin b => cases h
      | user g =>
        obtain ⟨unit, place⟩ := UserFunction.same_iff.1 h
        exact .user unit place
  · intro h
    cases h with
    | builtin b => exact beq_self_eq_true b
    | user unit place => exact UserFunction.same_iff.2 ⟨unit, place⟩

theorem Same.refl (f : Callable) : f.Same f := by
  cases f with
  | builtin b => exact .builtin b
  | user f => exact .user rfl rfl

theorem Same.symm {f g : Callable} (h : f.Same g) : g.Same f := by
  cases h with
  | builtin b => exact .builtin b
  | user unit place => exact .user unit.symm place.symm

theorem Same.trans {f g h : Callable} (first : f.Same g) (second : g.Same h) : f.Same h := by
  cases first with
  | builtin b => exact second
  | user unit place =>
    cases second with
    | user unit' place' => exact .user (unit.trans unit') (place.trans place')

end Callable

/-! ### Values -/

namespace Value

/-- Whether a value is the number that is no number. -/
def isNaN : Value → Bool
  | number x => x.isNaN
  | _ => false

/-- What equal values have in common: their type, and what the type compares. -/
inductive Same : Value → Value → Prop where
  | nil : Same nil nil
  | bool (b : Bool) : Same (bool b) (bool b)
  | number {x y : Float} (h : (x == y) = true) : Same (number x) (number y)
  | string (s : String) : Same (string s) (string s)
  | callable {f g : Callable} (h : f.Same g) : Same (callable f) (callable g)

variable {u v w : Value}

theorem beq_iff_same : (v == w) = true ↔ v.Same w := by
  change v.same w = true ↔ _
  constructor
  · intro h
    fun_cases same v w with
    | case1 => exact .nil
    | case2 a b =>
      obtain rfl : a = b := beq_iff_eq.1 h
      exact .bool a
    | case3 x y => exact .number h
    | case4 s t =>
      obtain rfl : s = t := beq_iff_eq.1 h
      exact .string s
    | case5 f g => exact .callable (Callable.same_iff.1 h)
    -- Values of different types.
    | case6 => simp_all [same]
  · intro h
    cases h with
    | nil => rfl
    | bool b => exact beq_self_eq_true b
    | number h => exact h
    | string s => exact beq_self_eq_true s
    | callable h => exact Callable.same_iff.2 h

theorem Same.symm (h : v.Same w) : w.Same v := by
  cases h with
  | nil => exact .nil
  | bool b => exact .bool b
  | number h => exact .number (PartialEquivBEq.symm h)
  | string s => exact .string s
  | callable h => exact .callable h.symm

theorem Same.trans (first : u.Same v) (second : v.Same w) : u.Same w := by
  cases first with
  | nil | bool | string => exact second
  | number h =>
    cases second with
    | number h' => exact .number (PartialEquivBEq.trans h h')
  | callable h =>
    cases second with
    | callable h' => exact .callable (h.trans h')

instance : PartialEquivBEq Value where
  symm h := beq_iff_same.2 (beq_iff_same.1 h).symm
  trans h h' := beq_iff_same.2 ((beq_iff_same.1 h).trans (beq_iff_same.1 h'))

/-- Every value is equal to itself but the number that is none. -/
theorem beq_self (v : Value) : (v == v) = !v.isNaN := by
  rw [Bool.eq_iff_iff, beq_iff_same]
  cases v with
  | nil => exact ⟨fun _ => rfl, fun _ => .nil⟩
  | bool b => exact ⟨fun _ => rfl, fun _ => .bool b⟩
  | number x =>
    rw [isNaN, Bool.not_eq_true', ← Number.beq_self_iff]
    refine ⟨fun h => ?_, .number⟩
    cases h with
    | number h => exact h
  | string s => exact ⟨fun _ => rfl, fun _ => .string s⟩
  | callable f => exact ⟨fun _ => rfl, fun _ => .callable (.refl f)⟩

theorem typeName_eq_of_beq (h : (v == w) = true) : v.typeName = w.typeName := by
  cases beq_iff_same.1 h <;> rfl

/-- A declared function is never equal to a built-in one, whatever their names are. -/
theorem user_beq_builtin (f : UserFunction) (b : Builtin) :
    (callable (.user f) == callable (.builtin b)) = false := rfl

theorem builtin_beq_iff {a b : Builtin} :
    (callable (.builtin a) == callable (.builtin b)) = true ↔ a = b :=
  show (a == b) = true ↔ a = b from beq_iff_eq

theorem user_beq_iff {f g : UserFunction} :
    (callable (.user f) == callable (.user g)) = true ↔
      f.unit = g.unit ∧ f.decl.ident.span = g.decl.ident.span :=
  UserFunction.same_iff

end Value

/-! ### Operators -/

theorem applyBinary_equal {op : Token} (h : op.kind = .equalEqual) (v w : Value) :
    applyBinary op v w = .ok (.bool (v == w)) := by
  unfold applyBinary
  rw [h]

/-- The other operator is the negation of the first. -/
theorem applyBinary_unequal {op : Token} (h : op.kind = .bangEqual) (v w : Value) :
    applyBinary op v w = .ok (.bool (!(v == w))) := by
  unfold applyBinary
  rw [h]
  rfl

end ScriptLang

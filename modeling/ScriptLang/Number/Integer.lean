/-!
# Numbers as integers

Which numbers are whole, and their conversion to 64-bit integers, which stops at the two ends of
the range.
-/

namespace ScriptLang.Number

/-- Whether a number is finite and has no fraction. -/
def isWhole (x : Float) : Bool :=
  match x.toModel.unpack with
  | .notANumber | .infinity _ => false
  | .zero _ => true
  | .finite _ m e _ => m % Nat.pow 2 (-e).toNat = 0

/-- The 64-bit integer of a whole number; the nearest one when the number lies beyond the range. -/
def toInt (x : Float) : Int :=
  x.toModel.toInt64.toInt

/-- The number nearest to an integer. -/
def ofInt (n : Int) : Float :=
  ⟨Float.Model.ofInt n⟩

/-- The number of things counted. -/
def ofCount (n : Nat) : Float :=
  Float.ofNat n

end ScriptLang.Number

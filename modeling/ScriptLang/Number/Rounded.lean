import ScriptLang.Number.Shortest

/-!
# Numbers with a given precision

Decimals with so many places behind the point, or with so many digits, as conversions such as
`%.2f` ask for.  The value is taken exactly as it is, and a half goes to the even neighbour.

## Main definitions

* `Fraction` — a number as a quotient
* `fixed`, `scientific`, `general` — the three ways of writing one
-/

namespace ScriptLang.Number

/-- A finite number that is not negative, as a quotient, or one that is none. -/
inductive Magnitude where
  | quotient (numerator denominator : Nat)
  | infinite
  | undefined

/-- Whether a number has a minus sign, and its magnitude. -/
def magnitudeOf (x : Float) : Bool × Magnitude :=
  let isNegative : Float.Model.UnpackedFloat.Sign → Bool
    | .positive => false
    | .negative => true
  match x.toModel.unpack with
  | .notANumber => (x.toBits ≥ 0x8000000000000000, .undefined)
  | .infinity s => (isNegative s, .infinite)
  | .zero s => (isNegative s, .quotient 0 1)
  | .finite s m e _ =>
    (isNegative s, .quotient (m * Nat.pow 2 e.toNat) (Nat.pow 2 (-e).toNat))

/-- The natural number nearest to a quotient; a half goes to the even one. -/
def nearest (numerator denominator : Nat) : Nat :=
  let n := numerator / denominator
  let rest := 2 * (numerator % denominator)
  if rest < denominator then n
  else if denominator < rest then n + 1
  else n + n % 2

/-- Digits with a point before the last ones; `bare` says whether a point is there even without a
place behind it. -/
def pointed (digits : List Char) (places : Nat) (bare : Bool) : List Char :=
  let digits := List.replicate (places + 1 - digits.length) '0' ++ digits
  let whole := digits.take (digits.length - places)
  if places = 0 then if bare then whole ++ ['.'] else whole
  else whole ++ '.' :: digits.drop (digits.length - places)

/-- A quotient with so many places behind the point. -/
def fixed (numerator denominator places : Nat) (bare : Bool) : List Char :=
  let n := nearest (numerator * Nat.pow 10 places) denominator
  pointed (Nat.toDigits 10 n) places bare

/-- The exponent `p` with `10 ^ p ≤ value < 10 ^ (p + 1)`; zero for zero. -/
def leadingExponent (numerator denominator : Nat) : Int :=
  if numerator = 0 then 0
  else if denominator ≤ numerator then (digitCount (numerator / denominator) : Int) - 1
  else -(digitCount ((denominator + numerator - 1) / numerator - 1) : Int)

/-- The digits of a quotient, one more than `places` of them, and the exponent of the first one. -/
def leadingDigits (numerator denominator places : Nat) : Nat × Int :=
  let p := leadingExponent numerator denominator
  let shift := (places : Int) - p
  let n := nearest (numerator * Nat.pow 10 shift.toNat) (denominator * Nat.pow 10 (-shift).toNat)
  -- Rounding may have made one digit too many.
  if n = Nat.pow 10 (places + 1) then (Nat.pow 10 places, p + 1) else (n, p)

/-- An exponent: its sign, and two digits or more. -/
def exponentText (p : Int) : List Char :=
  let ds := Nat.toDigits 10 p.natAbs
  (if p < 0 then '-' else '+') :: (List.replicate (2 - ds.length) '0' ++ ds)

/-- A quotient with one digit before the point, so many places behind it, and an exponent. -/
def scientific (numerator denominator places : Nat) (bare : Bool) : List Char :=
  let (n, p) := leadingDigits numerator denominator places
  pointed (Nat.toDigits 10 n) places bare ++ 'e' :: exponentText p

/-- Digits without the zeros behind the point. -/
def withoutZeros (cs : List Char) : List Char :=
  let ending := cs.dropWhile (· != 'e')
  let digits := cs.takeWhile (· != 'e')
  if digits.contains '.' then
    let kept := digits.reverse.dropWhile (· == '0')
    (kept.dropWhile (· == '.')).reverse ++ ending
  else cs

/-- A quotient with so many digits, written positionally unless that takes too many places.  Zeros
behind the point are left out unless `keep` says otherwise. -/
def general (numerator denominator digits : Nat) (keep : Bool) : List Char :=
  let digits := max digits 1
  let (_, p) := leadingDigits numerator denominator (digits - 1)
  let text :=
    if -4 ≤ p ∧ p < digits then fixed numerator denominator ((digits : Int) - 1 - p).toNat keep
    else scientific numerator denominator (digits - 1) keep
  if keep then text else withoutZeros text

/-- The text of a magnitude in the way that the letter of a conversion names. -/
def Magnitude.write (v : Magnitude) (way : Char) (precision : Nat) (keep : Bool) : List Char :=
  match v with
  | .undefined => ['n', 'a', 'n']
  | .infinite => ['i', 'n', 'f']
  | .quotient a b =>
    match way with
    | 'f' => fixed a b precision keep
    | 'e' => scientific a b precision keep
    | _ => general a b precision keep

end ScriptLang.Number

/-!
# Shortest decimals

The decimal with the fewest digits that lies among the reals which round to a given binary
fraction.  Everything is exact arithmetic on natural numbers.

## Main definitions

* `Decimal` — a number `digits × 10 ^ exponent`
* `Interval` — a positive fraction with the reals that round to it
* `Interval.shortest` — its shortest decimal; of two equally short ones the nearer, and the larger
  one of two equally near
-/

namespace ScriptLang.Number

/-- The number `digits × 10 ^ exponent`. -/
structure Decimal where
  digits : Nat
  exponent : Int
  deriving DecidableEq, Repr

/-- A positive fraction with an interval around it, all over one denominator. -/
structure Interval where
  lower : Nat
  value : Nat
  upper : Nat
  denominator : Nat
  /-- Whether the ends of the interval belong to it. -/
  closed : Bool

/-- The reals that round to `mantissa × 2 ^ exponent`.  They reach half a unit of the last place to
either side, and only a quarter below a power of two, whose lower neighbour is nearer; `least` says
that there is no nearer neighbour, because the exponent is the least one. -/
def Interval.ofBinary (mantissa : Nat) (exponent : Int) (least : Bool) : Interval :=
  let scale := Nat.pow 2 exponent.toNat
  -- The unit is a quarter of the last place.
  let below := if mantissa = Nat.pow 2 52 ∧ !least then 1 else 2
  { lower := (4 * mantissa - below) * scale
    value := 4 * mantissa * scale
    upper := (4 * mantissa + 2) * scale
    denominator := 4 * Nat.pow 2 (-exponent).toNat
    closed := mantissa % 2 = 0 }

/-- The number of decimal digits of a natural number; one for zero. -/
def digitCount (n : Nat) : Nat :=
  (Nat.toDigits 10 n).length

namespace Interval

/-- The exponent `p` with `10 ^ (p - 1) ≤ value < 10 ^ p`. -/
def magnitude (v : Interval) : Int :=
  if v.denominator ≤ v.value then digitCount (v.value / v.denominator)
  else 1 - (digitCount ((v.denominator + v.value - 1) / v.value - 1) : Nat)

/-- The same numbers over a denominator that makes `10 ^ exponent` a whole number of units; the
result's denominator is that power. -/
def onGrid (v : Interval) (exponent : Int) : Interval :=
  let shift := Nat.pow 10 (-exponent).toNat
  { v with
    lower := v.lower * shift
    value := v.value * shift
    upper := v.upper * shift
    denominator := v.denominator * Nat.pow 10 exponent.toNat }

/-- Whether `n` units of the grid lie in the interval. -/
def admits (v : Interval) (n : Nat) : Bool :=
  if v.closed then v.lower ≤ n * v.denominator && n * v.denominator ≤ v.upper
  else v.lower < n * v.denominator && n * v.denominator < v.upper

/-- The neighbour of the value on the grid that lies in the interval, and the nearer if both do. -/
def neighbour? (v : Interval) : Option Nat :=
  let n := v.value / v.denominator
  -- If both lie in the interval, the value is compared with the midpoint, which goes upwards.
  if v.admits n then
    if v.admits (n + 1) && (2 * n + 1) * v.denominator ≤ 2 * v.value then some (n + 1) else some n
  else if v.admits (n + 1) then some (n + 1) else none

/-- The first hit on the grids `10 ^ exponent`, `10 ^ (exponent - 1)`, … of the given number. -/
def firstHit (v : Interval) : Nat → Int → Decimal
  | 0, exponent => ⟨(v.onGrid exponent).value / (v.onGrid exponent).denominator, exponent⟩
  | grids + 1, exponent =>
    match (v.onGrid exponent).neighbour? with
    | some n => ⟨n, exponent⟩
    | none => firstHit v grids (exponent - 1)

/-- The shortest decimal in the interval.  Seventeen digits tell all binary fractions of 53 bits
apart. -/
def shortest (v : Interval) : Decimal :=
  v.firstHit 17 (v.magnitude - 1)

end Interval

end ScriptLang.Number

import ScriptLang.Number.Shortest
import ScriptLang.Text.Blank

/-!
# Numbers as text

Numbers are written positionally with the fewest digits that read back, without an exponent and
without a point behind a whole number.  They are read from decimal text with an optional sign,
fraction and exponent, and from the names of the infinities and of the number that is none.

## Main definitions

* `render` — the text of a number
* `read?` — the number that a text denotes
-/

namespace ScriptLang.Number

/-- The digits of `digits × 10 ^ exponent` in positional notation. -/
def Decimal.positional (d : Decimal) : List Char :=
  let ds := Nat.toDigits 10 d.digits
  if 0 ≤ d.exponent then ds ++ List.replicate d.exponent.toNat '0'
  else
    let places := (-d.exponent).toNat
    -- The point goes among the digits, or in front of them with zeros in between.
    if places < ds.length then ds.take (ds.length - places) ++ '.' :: ds.drop (ds.length - places)
    else '0' :: '.' :: List.replicate (places - ds.length) '0' ++ ds

/-- The decimal without the zeros that its digits end in. -/
def Decimal.strip (d : Decimal) : Decimal :=
  if h : d.digits ≠ 0 ∧ d.digits % 10 = 0 then strip ⟨d.digits / 10, d.exponent + 1⟩ else d
termination_by d.digits
decreasing_by omega

/-- The sign of a number as written. -/
def signText : Float.Model.UnpackedFloat.Sign → List Char
  | .positive => []
  | .negative => ['-']

/-- The text of a number: `NaN`, `inf`, `-inf`, or a positional decimal that keeps the sign of
zero. -/
def render (x : Float) : String :=
  String.ofList <| match x.toModel.unpack with
    | .notANumber => ['N', 'a', 'N']
    | .infinity s => signText s ++ ['i', 'n', 'f']
    | .zero s => signText s ++ ['0']
    | .finite s m e _ =>
      signText s ++ (Interval.ofBinary m e (e == -1074)).shortest.strip.positional

/-! ### Reading -/

/-- The value of a list of decimal digits. -/
def ofDigits (ds : List Char) : Nat :=
  ds.foldl (fun n d => 10 * n + (d.toNat - '0'.toNat)) 0

/-- The number `digits × 10 ^ exponent`, correctly rounded. -/
def ofDecimal (digits : Nat) (exponent : Int) : Float :=
  Float.ofScientific digits (exponent < 0) exponent.natAbs

/-- Takes an optional sign off a text; the flag says whether it was a minus. -/
def takeSign : List Char → Bool × List Char
  | '+' :: rest => (false, rest)
  | '-' :: rest => (true, rest)
  | rest => (false, rest)

/-- The exponent that a text denotes: nothing, or the letter e, a sign and digits. -/
def readExponent? : List Char → Option Int
  | [] => some 0
  | mark :: rest =>
    if mark = 'e' ∨ mark = 'E' then
      let (negative, ds) := takeSign rest
      -- An exponent mark without digits is no number at all.
      if ds ≠ [] ∧ ds.all Char.isDigit then
        some (if negative then -(ofDigits ds : Int) else ofDigits ds)
      else none
    else none

/-- The number that an unsigned decimal denotes. -/
def readDecimal? (cs : List Char) : Option Float :=
  let whole := cs.takeWhile Char.isDigit
  let rest := cs.dropWhile Char.isDigit
  let (fraction, rest) := match rest with
    | '.' :: rest => (rest.takeWhile Char.isDigit, rest.dropWhile Char.isDigit)
    | rest => ([], rest)
  if whole = [] ∧ fraction = [] then none
  else (readExponent? rest).map fun e =>
    ofDecimal (ofDigits (whole ++ fraction)) (e - fraction.length)

/-- The number that an unsigned text denotes. -/
def readUnsigned? (cs : List Char) : Option Float :=
  match String.ofList (cs.map Char.toLower) with
  | "inf" | "infinity" => some (1 / 0)
  | "nan" => some (0 / 0)
  | _ => readDecimal? cs

/-- The number that a text denotes. -/
def read? (cs : List Char) : Option Float :=
  let (negative, rest) := takeSign cs
  (readUnsigned? rest).map fun x => if negative then -x else x

/-- The number that a text denotes, blanks at its ends aside. -/
def readTrimmed? (s : String) : Option Float :=
  read? (Text.trimBlanks s.toList)

/-- The value of a number literal: digits, and maybe a point and more digits. -/
def ofLiteral (whole fraction : List Char) : Float :=
  ofDecimal (ofDigits (whole ++ fraction)) (-fraction.length)

end ScriptLang.Number

import ScriptLang.Number.Rounded
import ScriptLang.Number.Text
import ScriptLang.Shell.Arithmetic

/-!
# Formatted output

The escapes that begin with a backslash, and the directives of formats that begin with a percent
sign.  What goes wrong with an argument is noted beside the output.

## Main definitions

* `unescaped` — a text with its escapes carried out
* `Conversion` — how a directive writes a value
* `readFloat?` — the number at the start of a text
-/

namespace ScriptLang.Shell

/-- The character of a letter behind a backslash. -/
def letterEscape? (c : Char) : Option Char :=
  match c with
  | 'a' => some '\x07'
  | 'b' => some '\x08'
  | 'e' => some '\x1b'
  | 'f' => some '\x0c'
  | 'n' => some '\n'
  | 'r' => some '\r'
  | 't' => some '\t'
  | 'v' => some '\x0b'
  | '\\' => some '\\'
  | _ => none

/-- The character that octal digits name, modulo 256. -/
def octalChar (digits : List Char) : Char :=
  Char.ofNat (valueOf 8 digits % 256)

/-- The character of an escape, and what follows it; a backslash that begins none stands for
itself. -/
def escaped (cs : List Char) : Char × List Char :=
  match cs with
  | [] => ('\\', [])
  | c :: rest =>
    if isOctal c then
      let digits := (cs.takeWhile isOctal).take 3
      (octalChar digits, cs.drop digits.length)
    else
      match letterEscape? c with
      | some d => (d, rest)
      | none => ('\\', cs)

/-- A text with its escapes carried out, and whether `\c` has ended it.  Octal numbers may begin
with one more zero. -/
def unescapedFuel : Nat → List Char → List Char × Bool
  | 0, _ => ([], false)
  | _, [] => ([], false)
  | n + 1, '\\' :: rest =>
    match rest with
    | 'c' :: _ => ([], true)
    | _ =>
      let rest := match rest with
        | '0' :: d :: later => if isOctal d then d :: later else rest
        | _ => rest
      let (c, later) := escaped rest
      let (text, ended) := unescapedFuel n later
      (c :: text, ended)
  | n + 1, c :: rest =>
    let (text, ended) := unescapedFuel n rest
    (c :: text, ended)

/-- A text with its escapes carried out, and whether `\c` has ended it. -/
def unescaped (s : String) : String × Bool :=
  let (text, ended) := unescapedFuel (s.length + 1) s.toList
  (String.ofList text, ended)

/-! ### Conversions -/

/-- How a directive writes a value. -/
structure Conversion where
  /-- Whether blanks are filled in on the right. -/
  left : Bool := false
  plus : Bool := false
  space : Bool := false
  alternate : Bool := false
  zeros : Bool := false
  width : Nat := 0
  precision : Option Nat := none

namespace Conversion

/-- The conversion with a flag set. -/
def flagged (v : Conversion) (flag : Char) : Conversion :=
  match flag with
  | '-' => { v with left := true }
  | '+' => { v with plus := true }
  | ' ' => { v with space := true }
  | '#' => { v with alternate := true }
  | _ => { v with zeros := true }

/-- A text filled up to the width. -/
def fill (v : Conversion) (s : String) : String :=
  if v.left then paddedRight v.width s else paddedLeft v.width s

/-- Digits filled up to the width, behind a sign or a mark of the base. -/
def fillNumber (v : Conversion) (mark digits : String) (zeros : Bool) : String :=
  if zeros ∧ !v.left then
    let count := v.width - mark.length - digits.length
    mark ++ String.ofList (List.replicate count '0') ++ digits
  else v.fill (mark ++ digits)

/-- The sign of a number. -/
def sign (v : Conversion) (negative : Bool) : String :=
  if negative then "-" else if v.plus then "+" else if v.space then " " else ""

/-- Digits with as many zeros before them as the precision wants. -/
def digits (v : Conversion) (base n : Nat) : String :=
  match v.precision with
  | some 0 => if n = 0 then "" else inBase base n
  | some p =>
    let ds := inBase base n
    String.ofList (List.replicate (p - ds.length) '0') ++ ds
  | none => inBase base n

/-- A string, cut to the precision. -/
def writeString (v : Conversion) (s : String) : String :=
  match v.precision with
  | some p => v.fill (String.ofList (s.toList.take p))
  | none => v.fill s

/-- An integer in decimal. -/
def writeInteger (v : Conversion) (n : Int) : String :=
  v.fillNumber (v.sign (n < 0)) (v.digits 10 n.natAbs) (v.zeros && v.precision.isNone)

/-- A natural number in the base that a letter names. -/
def writeNatural (v : Conversion) (letter : Char) (n : Nat) : String :=
  let zeros := v.zeros && v.precision.isNone
  match letter with
  | 'o' =>
    let ds := v.digits 8 n
    v.fillNumber "" (if v.alternate ∧ !ds.startsWith "0" then "0" ++ ds else ds) zeros
  | 'x' => v.fillNumber (if v.alternate ∧ n ≠ 0 then "0x" else "") (v.digits 16 n) zeros
  | 'X' =>
    v.fillNumber (if v.alternate ∧ n ≠ 0 then "0X" else "") (v.digits 16 n).toUpper zeros
  | _ => v.fillNumber "" (v.digits 10 n) zeros

/-- The digits of a number in hexadecimal, as short as possible. -/
def hexadecimal (numerator denominator : Nat) : String :=
  if numerator = 0 then "0x0p+0"
  else
    -- The value as a fraction of 52 binary places behind a leading one.
    let p : Int := (Nat.log2 numerator : Int) - Nat.log2 denominator
    let shift := 52 - p
    let n := numerator * Nat.pow 2 shift.toNat / (denominator * Nat.pow 2 (-shift).toNat)
    let places := (inBase 16 (n % Nat.pow 2 52)).toList
    let places := List.replicate (13 - places.length) '0' ++ places
    let places := String.ofList (places.reverse.dropWhile (· == '0')).reverse
    let point := if places = "" then "" else "."
    let sign := if p < 0 then "-" else "+"
    "0x1" ++ point ++ places ++ "p" ++ sign ++ toString p.natAbs

/-- A number in the way that a letter names. -/
def writeFloat (v : Conversion) (letter : Char) (x : Float) : String :=
  let (negative, value) := Number.magnitudeOf x
  let way := letter.toLower
  let text := match way, value with
    | 'a', .quotient a b => hexadecimal a b
    | _, _ => String.ofList (value.write way (v.precision.getD 6) v.alternate)
  let finite := match value with
    | .quotient .. => true
    | _ => false
  v.fillNumber (v.sign negative) (if letter.isUpper then text.toUpper else text)
    (v.zeros && finite)

end Conversion

/-! ### Numbers in arguments -/

/-- The exponent at the start of a text behind its letter, and what follows. -/
def readExponent? (cs : List Char) : Option (Int × List Char) :=
  let (negative, cs) : Bool × List Char := match cs with
    | '-' :: rest => (true, rest)
    | '+' :: rest => (false, rest)
    | cs => (false, cs)
  let ds := cs.takeWhile Char.isDigit
  if ds = [] then none
  else
    let n : Int := valueOf 10 ds
    some (if negative then -n else n, cs.drop ds.length)

/-- The number at the start of a text, and what follows; none if there is no number. -/
def readFloat? (cs : List Char) : Option (Float × List Char) :=
  let cs := cs.dropWhile isSpace
  let (negative, cs) : Bool × List Char := match cs with
    | '-' :: rest => (true, rest)
    | '+' :: rest => (false, rest)
    | cs => (false, cs)
  let signed (x : Float) : Float := if negative then -x else x
  let lowered := String.ofList (cs.map Char.toLower)
  if lowered.startsWith "infinity" then some (signed (1 / 0), cs.drop 8)
  else if lowered.startsWith "inf" then some (signed (1 / 0), cs.drop 3)
  else if lowered.startsWith "nan" then some (signed (0 / 0), cs.drop 3)
  else if lowered.startsWith "0x" ∧ (cs[2]?.bind digitValue?).isSome then
    let ds := digitsOf 16 (cs.drop 2)
    some (signed (Float.ofNat (valueOf 16 ds)), cs.drop (2 + ds.length))
  else
    let whole := cs.takeWhile Char.isDigit
    let rest := cs.drop whole.length
    let fraction := match rest with
      | '.' :: rest => rest.takeWhile Char.isDigit
      | _ => []
    if whole = [] ∧ fraction = [] then none
    else
      let rest := match rest with
        | '.' :: rest => rest.drop fraction.length
        | rest => rest
      let (e, rest) : Int × List Char := match rest with
        | c :: later =>
          if c = 'e' ∨ c = 'E' then (readExponent? later).getD (0, rest) else (0, rest)
        | [] => (0, [])
      let places : Int := fraction.length
      some (signed (Number.ofDecimal (valueOf 10 (whole ++ fraction)) (e - places)), rest)

/-! ### Formats -/

/-- A format that is being filled with arguments. -/
structure Formatting where
  arguments : List String
  /-- What has been written, last piece first. -/
  output : List String := []
  /-- What was wrong with arguments. -/
  complaints : List String := []
  /-- Why the format cannot be carried out any further. -/
  failure : Option String := none
  /-- Whether `\c` has ended the output. -/
  ended : Bool := false

namespace Formatting

/-- Takes an argument, if there is one left. -/
def take? (s : Formatting) : Option String × Formatting :=
  match s.arguments with
  | [] => (none, s)
  | a :: rest => (some a, { s with arguments := rest })

/-- Writes a text. -/
def put (s : Formatting) (text : String) : Formatting :=
  { s with output := text :: s.output }

/-- Notes what is wrong with an argument of which something has not been read. -/
def check (s : Formatting) (text : String) (rest : List Char) (outOfRange : Bool) : Formatting :=
  if rest ≠ [] then
    let reason :=
      if rest.length = text.length then "expected numeric value" else "not completely converted"
    { s with complaints := s.complaints ++ [text ++ ": " ++ reason] }
  else if outOfRange then
    { s with complaints := s.complaints ++ [text ++ ": Numerical result out of range"] }
  else s

/-- The integer that the next argument denotes, within bounds. -/
def integer (s : Formatting) (signed : Bool) : Int × Formatting :=
  match s.take? with
  | (none, s) => (0, s)
  | (some text, s) =>
    match text.toList with
    | '"' :: rest | '\'' :: rest => ((rest.head?.map Char.toNat).getD 0, s)
    | cs =>
      let (n, rest) := (readInteger? cs).getD (0, cs)
      let least := if signed then minInteger else -18446744073709551615
      let greatest := if signed then maxInteger else 18446744073709551615
      let m := if signed then clamped n else if n < least then greatest else min greatest n
      (m, s.check text rest (n < least ∨ greatest < n))

/-- The number that the next argument denotes. -/
def float (s : Formatting) : Float × Formatting :=
  match s.take? with
  | (none, s) => (0, s)
  | (some text, s) =>
    match text.toList with
    | '"' :: rest | '\'' :: rest => (Float.ofNat ((rest.head?.map Char.toNat).getD 0), s)
    | cs =>
      match readFloat? cs with
      | none => (0, s.check text cs false)
      | some (x, rest) =>
        let named := cs.any fun c => c == 'n' || c == 'N'
        (x, s.check text rest (x.isInf && !named))

/-- A width or a precision at the start of a directive, which may be an argument. -/
def size (s : Formatting) (cs : List Char) : Int × List Char × Formatting :=
  match cs with
  | '*' :: rest =>
    let (n, s) := s.integer true
    (n, rest, s)
  | _ =>
    let ds := cs.takeWhile Char.isDigit
    (valueOf 10 ds, cs.drop ds.length, s)

/-- Carries out a directive, whose characters begin with the percent sign. -/
def convert (s : Formatting) (v : Conversion) (letter : Char) (whole : String) : Formatting :=
  match letter with
  | 'b' =>
    let (text, s) := s.take?
    let (text, ended) := unescaped (text.getD "")
    { s.put (v.writeString text) with ended }
  | 'c' =>
    let (text, s) := s.take?
    let c := match text with
      | some text => (text.toList.head?.getD '\x00').toString
      | none => "\x00"
    s.put (v.fill c)
  | 's' =>
    let (text, s) := s.take?
    s.put (v.writeString (text.getD ""))
  | 'd' | 'i' =>
    let (n, s) := s.integer true
    s.put (v.writeInteger n)
  | 'o' | 'u' | 'x' | 'X' =>
    let (n, s) := s.integer false
    s.put (v.writeNatural letter (n % 18446744073709551616).toNat)
  | 'a' | 'A' | 'e' | 'E' | 'f' | 'F' | 'g' | 'G' =>
    let (x, s) := s.float
    s.put (v.writeFloat letter x)
  | _ => { s with failure := some (whole ++ ": invalid directive") }

/-- Carries out a format once. -/
def once : Nat → List Char → Formatting → Formatting
  | 0, _, s => s
  | _, [], s => s
  | n + 1, '\\' :: rest, s =>
    let (c, later) := escaped rest
    once n later (s.put c.toString)
  | n + 1, '%' :: '%' :: rest, s => once n rest (s.put "%")
  | n + 1, '%' :: rest, s =>
    let isFlag (c : Char) : Bool := c ∈ ['#', '-', '+', ' ', '0']
    let flags := rest.takeWhile isFlag
    let v := flags.foldl Conversion.flagged {}
    let (width, rest₁, s) := s.size (rest.drop flags.length)
    let v := { v with left := v.left || width < 0, width := width.natAbs }
    let (v, rest₂, s) : Conversion × List Char × Formatting := match rest₁ with
      | '.' :: later =>
        let (precision, later, s) := s.size later
        (if precision < 0 then v else { v with precision := some precision.toNat }, later, s)
      | _ => (v, rest₁, s)
    match rest₂ with
    | [] => { s with failure := some "missing format character" }
    | letter :: later =>
      let length := rest.length - later.length
      let whole := String.ofList ('%' :: rest.take length)
      let s := s.convert v letter whole
      if s.ended ∨ s.failure.isSome then s else once n later s
  | n + 1, c :: rest, s => once n rest (s.put c.toString)

/-- Carries out a format until the arguments are used up. -/
def repeated : Nat → List Char → Formatting → Formatting
  | 0, _, s => s
  | n + 1, cs, s =>
    let next := once (cs.length + 1) cs s
    let consumed := next.arguments.length < s.arguments.length
    if next.ended ∨ next.failure.isSome ∨ next.arguments = [] ∨ !consumed then next
    else repeated n cs next

end Formatting

/-- What a format and its arguments come to. -/
def formatted (format : String) (arguments : List String) : Formatting :=
  Formatting.repeated (arguments.length + 1) format.toList { arguments }

/-- What a format writes. -/
def Formatting.text (s : Formatting) : String :=
  String.join s.output.reverse

end ScriptLang.Shell

import ScriptLang.Shell.Format
import ScriptLang.Shell.Tool.Lines

/-!
# Sorting lines

`sort` puts lines in order.  Lines are compared by keys, which are parts of lines, and each key says
how its parts are compared.

## Main definitions

* `SortRule`, `SortKey`, `Sorting` — how lines are compared
* `sortKey?` — reads a key
* `compareVersions` — compares names that hold numbers
* `runSort` — the program of this name
-/

namespace ScriptLang.Shell.Tool

/-! ### Keys -/

/-- How a part of a line is compared. -/
structure SortRule where
  numeric : Bool := false
  general : Bool := false
  human : Bool := false
  months : Bool := false
  version : Bool := false
  folded : Bool := false
  dictionary : Bool := false
  printing : Bool := false
  leading : Bool := false
  random : Bool := false
  reversed : Bool := false

/-- A place in a line: a field, a character in it, and whether blanks before it are skipped. -/
structure FieldPlace where
  field : Nat
  char : Nat
  skipping : Bool

/-- A part of a line by which lines are put in order. -/
structure SortKey where
  start : FieldPlace
  stop : Option FieldPlace
  rule : SortRule
  /-- Whether the key says how it is compared. -/
  own : Bool

/-- The ordering with an option letter added; none if the letter is none. -/
def SortRule.add? (o : SortRule) (c : Char) : Option SortRule :=
  match c with
  | 'n' => some { o with numeric := true }
  | 'g' => some { o with general := true }
  | 'h' => some { o with human := true }
  | 'M' => some { o with months := true }
  | 'V' => some { o with version := true }
  | 'R' => some { o with random := true }
  | 'f' => some { o with folded := true }
  | 'd' => some { o with dictionary := true }
  | 'i' => some { o with printing := true }
  | 'b' => some { o with leading := true }
  | 'r' => some { o with reversed := true }
  | _ => none

/-- The letters of options that cannot be given together, if there are such. -/
def SortRule.conflict? (o : SortRule) : Option String :=
  let kinds := [o.numeric, o.general, o.human, o.months,
    o.version || o.random || o.dictionary || o.printing]
  if (kinds.filter id).length ≤ 1 then none
  else
    let letters := [('d', o.dictionary), ('f', o.folded), ('g', o.general), ('h', o.human),
      ('i', o.printing && !o.dictionary), ('M', o.months), ('n', o.numeric), ('R', o.random),
      ('V', o.version)]
    some (String.ofList ((letters.filter Prod.snd).map Prod.fst))

/-- The number at the start of a text, and what follows it. -/
def countAt (problem : String) (cs : List Char) : Except String (Nat × List Char) :=
  match cs.takeWhile Char.isDigit with
  | [] => .error (problem ++ ": invalid count at start of " ++ quotedName (String.ofList cs))
  | ds => .ok (valueOf 10 ds, cs.drop ds.length)

/-- The number behind a point, and what follows it; zero without a point. -/
def countBehindPoint (cs : List Char) : Except String (Option Nat × List Char) :=
  match cs with
  | '.' :: rest => (countAt "invalid number after '.'" rest).map fun (n, rest) => (some n, rest)
  | _ => .ok (none, cs)

/-- The rule with the letters at the start of a text added, the letters, and what follows. -/
def addLetters (o : SortRule) : List Char → SortRule × List Char × List Char
  | [] => (o, [], [])
  | c :: rest =>
    match o.add? c with
    | some o =>
      let (o, letters, rest) := addLetters o rest
      (o, c :: letters, rest)
    | none => (o, [], c :: rest)

/-- Reads a key, or says what is wrong with it. -/
def sortKey? (text : String) : Except String SortKey :=
  let wrong (problem : String) : Except String SortKey :=
    .error (problem ++ ": invalid field specification " ++ quotedName text)
  (countAt "invalid number at field start" text.toList).bind fun (field, rest) =>
  if field = 0 then wrong "field number is zero"
  else
    (countBehindPoint rest).bind fun (char, rest) =>
    if char = some 0 then wrong "character offset is zero"
    else
      let (rule, letters, rest) := addLetters {} rest
      let start : FieldPlace := ⟨field - 1, (char.getD 1) - 1, letters.contains 'b'⟩
      match rest with
      | [] => .ok ⟨start, none, rule, !letters.isEmpty⟩
      | ',' :: rest =>
        (countAt "invalid number after ','" rest).bind fun (field, rest) =>
        if field = 0 then wrong "field number is zero"
        else
          (countBehindPoint rest).bind fun (char, rest) =>
          let (rule, more, rest) := addLetters rule rest
          if rest ≠ [] then wrong "stray character in field spec"
          else
            let stop : FieldPlace := ⟨field, char.getD 0, more.contains 'b'⟩
            .ok ⟨start, some stop, rule, !(letters ++ more).isEmpty⟩
      | _ => wrong "stray character in field spec"

/-- Whether a character separates fields by itself. -/
def isGap (c : Char) : Bool :=
  c == ' ' || c == '\t' || c == '\n'

/-- Where a field begins in a line.  Without a separator, fields begin with the blanks before
them. -/
def fieldStart (separator : Option Char) : Nat → List Char → List Char
  | 0, cs => cs
  | n + 1, cs =>
    match separator with
    | some c => fieldStart separator n ((cs.dropWhile (· != c)).drop 1)
    | none => fieldStart separator n ((cs.dropWhile isGap).dropWhile (!isGap ·))

/-- The part of a line that a key names. -/
def SortKey.part (k : SortKey) (separator : Option Char) (line : List Char) : List Char :=
  let skip (on : Bool) (cs : List Char) : List Char := if on then cs.dropWhile isGap else cs
  let from₁ := (skip k.start.skipping (fieldStart separator k.start.field line)).drop k.start.char
  match k.stop with
  | none => from₁
  | some stop =>
    let behind :=
      if stop.char = 0 then
        -- The whole field, up to the separator behind it.
        let field := fieldStart separator (stop.field - 1) line
        match separator with
        | some c => field.dropWhile (· != c)
        | none => (field.dropWhile isGap).dropWhile (!isGap ·)
      else (skip stop.skipping (fieldStart separator (stop.field - 1) line)).drop stop.char
    from₁.take (from₁.length - behind.length)

/-! ### Comparisons -/

/-- The number at the start of a text: its sign, and its digits before and behind the point. -/
structure LeadingNumber where
  negative : Bool
  whole : Nat
  fraction : List Char
  rest : List Char

/-- The number at the start of a text, behind blanks. -/
def leadingNumber (cs : List Char) : LeadingNumber :=
  let cs := cs.dropWhile isSpace
  let (negative, cs) : Bool × List Char := match cs with
    | '-' :: rest => (true, rest)
    | cs => (false, cs)
  let whole := cs.takeWhile Char.isDigit
  let rest := cs.drop whole.length
  let fraction := match rest with
    | '.' :: rest => rest.takeWhile Char.isDigit
    | _ => []
  let rest := match rest with
    | '.' :: rest => rest.drop fraction.length
    | rest => rest
  ⟨negative, valueOf 10 whole, fraction, rest⟩

/-- Compares two numbers by their digits. -/
def LeadingNumber.compare (a b : LeadingNumber) : Ordering :=
  let places := max a.fraction.length b.fraction.length
  let value (x : LeadingNumber) : Int :=
    let n := x.whole * Nat.pow 10 places +
      valueOf 10 (x.fraction ++ List.replicate (places - x.fraction.length) '0')
    if x.negative then -(n : Int) else n
  Ord.compare (value a) (value b)

/-- The rank of the unit behind a number. -/
def unitRank (x : LeadingNumber) : Int :=
  let rank : Nat := match x.rest.head? with
    | some 'K' | some 'k' => 1
    | some 'M' => 2
    | some 'G' => 3
    | some 'T' => 4
    | some 'P' => 5
    | some 'E' => 6
    | some 'Z' => 7
    | some 'Y' => 8
    | some 'R' => 9
    | some 'Q' => 10
    | _ => 0
  let zero := x.whole = 0 ∧ x.fraction.all (· == '0')
  if zero then 0 else if x.negative then -(rank : Int) else rank

/-- The number of the month whose name begins a text; zero if there is none. -/
def monthRank (cs : List Char) : Nat :=
  let name := String.ofList (((cs.dropWhile isSpace).take 3).map Char.toUpper)
  let names := ["JAN", "FEB", "MAR", "APR", "MAY", "JUN", "JUL", "AUG", "SEP", "OCT", "NOV", "DEC"]
  match names.findIdx? (· == name) with
  | some i => i + 1
  | none => 0

/-- Compares two lists of characters by their codes. -/
def compareChars : List Char → List Char → Ordering
  | [], [] => .eq
  | [], _ => .lt
  | _, [] => .gt
  | a :: s, b :: t => if a = b then compareChars s t else if a < b then .lt else .gt

/-- The rank of a character in the comparison of versions; a tilde comes before the end. -/
def versionRank (next : Option Char) : Int :=
  match next with
  | none => -1
  | some '~' => -2
  | some c =>
    if c.isDigit then 0
    else if c.isAlpha then c.toNat
    else c.toNat + 256

/-- Compares digits by their value and what stands between them character by character. -/
def compareMixed : Nat → List Char → List Char → Ordering
  | 0, _, _ => .eq
  | n + 1, s, t =>
    let isText (cs : List Char) : Bool := cs.head?.any (!Char.isDigit ·)
    if s = [] ∧ t = [] then .eq
    else if isText s ∨ isText t then
      match Ord.compare (versionRank s.head?) (versionRank t.head?) with
      | .eq => compareMixed n s.tail t.tail
      | o => o
    else
      let c := s.takeWhile Char.isDigit
      let d := t.takeWhile Char.isDigit
      match Ord.compare (valueOf 10 c) (valueOf 10 d) with
      | .eq => compareMixed n (s.drop c.length) (t.drop d.length)
      | o => o

/-- Whether a text is made of endings of file names, such as `.tar.gz`. -/
def isEnding : Nat → List Char → Bool
  | 0, _ => false
  | _, [] => true
  | n + 1, '.' :: c :: rest =>
    (c.isAlpha || c == '~') && isEnding n (rest.dropWhile fun c => c.isAlphanum || c == '~')
  | _, _ => false

/-- A file name without its endings. -/
def withoutEndings (cs : List Char) : List Char :=
  let ends (i : Nat) : Bool := isEnding (cs.length + 1) (cs.drop i)
  cs.take (((List.range cs.length).find? fun i => 0 < i && ends i).getD cs.length)

/-- Compares two names that hold numbers, first without their endings.  Names that begin with a
point come first, those of the directory itself and of the one above it before all others. -/
def compareVersions (s t : List Char) : Ordering :=
  let rank (cs : List Char) : Nat :=
    match cs with
    | [] => 0
    | ['.'] => 1
    | ['.', '.'] => 2
    | '.' :: _ => 3
    | _ => 4
  let fuel := s.length + t.length + 2
  match Ord.compare (rank s) (rank t) with
  | .eq =>
    match compareMixed fuel (withoutEndings s) (withoutEndings t) with
    | .eq => compareMixed fuel s t
    | o => o
  | o => o

/-- Compares two numbers in any notation; what is no number comes first. -/
def compareGeneral (s t : List Char) : Ordering :=
  let rank (x : Option (Float × List Char)) : Nat := match x with
    | none => 0
    | some (x, _) => if x.isNaN then 1 else 2
  let a := readFloat? s
  let b := readFloat? t
  match Ord.compare (rank a) (rank b), a, b with
  | .eq, some (x, _), some (y, _) => if x < y then .lt else if y < x then .gt else .eq
  | o, _, _ => o

/-- Compares two parts of lines. -/
def SortRule.compare (r : SortRule) (s t : List Char) : Ordering :=
  let order :=
    if r.numeric then (leadingNumber s).compare (leadingNumber t)
    else if r.general then compareGeneral s t
    else if r.human then
      let a := leadingNumber s
      let b := leadingNumber t
      match Ord.compare (unitRank a) (unitRank b) with
      | .eq => a.compare b
      | o => o
    else if r.months then Ord.compare (monthRank s) (monthRank t)
    else if r.version then compareVersions s t
    else
      let kept (cs : List Char) : List Char :=
        let cs := if r.dictionary then cs.filter fun c => c.isAlphanum || isGap c else cs
        let cs := if r.printing then cs.filter fun c => isGraph c || c == ' ' else cs
        if r.folded then cs.map Char.toUpper else cs
      compareChars (kept s) (kept t)
  if r.reversed then order.swap else order

/-- How lines are put in order. -/
structure Sorting where
  keys : List SortKey
  rule : SortRule
  separator : Option Char
  stable : Bool

/-- The keys with the rule of the whole for those that have none of their own. -/
def Sorting.inherited (s : Sorting) : List SortKey :=
  s.keys.map fun k =>
    if k.own then k
    else { k with rule := s.rule, start := { k.start with skipping := s.rule.leading }
                  stop := k.stop.map fun p => { p with skipping := s.rule.leading } }

/-- Compares two lines by the keys. -/
def Sorting.compareKeys (s : Sorting) (a b : List Char) : Ordering :=
  if s.keys = [] then
    let kept (cs : List Char) : List Char := if s.rule.leading then cs.dropWhile isGap else cs
    s.rule.compare (kept a) (kept b)
  else
    (s.inherited).foldl (fun o k => match o with
      | .eq => k.rule.compare (k.part s.separator a) (k.part s.separator b)
      | o => o) .eq

/-- Compares two lines; lines that are alike in all keys are compared as a whole. -/
def Sorting.compare (s : Sorting) (a b : List Char) : Ordering :=
  match s.compareKeys a b with
  | .eq =>
    if s.stable then .eq
    else if s.rule.reversed then (compareChars a b).swap
    else compareChars a b
  | o => o

/-- Lines without those that are alike to the one before them. -/
def Sorting.distinct (s : Sorting) (lines : List (List Char)) : List (List Char) :=
  (lines.foldl (fun (out : List (List Char)) line =>
    match out with
    | last :: _ => if s.compareKeys last line = .eq then out else line :: out
    | [] => [line]) []).reverse

/-- The first line that comes before the one in front of it, and its number. -/
def Sorting.disorder? (s : Sorting) (distinct : Bool) (n : Nat) :
    List (List Char) → Option (Nat × List Char)
  | a :: b :: later =>
    let order := if distinct then s.compareKeys a b else s.compare a b
    if order = .gt ∨ (distinct ∧ order = .eq) then some (n + 1, b)
    else s.disorder? distinct (n + 1) (b :: later)
  | _ => none

/-- Lines of several inputs, each of them in order, in one order. -/
def Sorting.merged (s : Sorting) (files : List (List (List Char))) : List (List Char) :=
  files.foldl (fun lines file => lines.merge file fun a b => s.compare a b != .gt) []

/-! ### The program -/

/-- Options whose arguments are words, turned into the letters that mean the same, or the status of
a complaint. -/
def sortLetters (name : String) (found : List (String × String)) :
    Action (Except Nat (List (String × String))) := do
  let mut out : List (String × String) := []
  for (key, text) in found do
    if key = "check" ∧ text ≠ "" then
      match ← wordChosen name "--check" text [["quiet", "silent"], ["diagnose-first"]] with
      | .ok word => out := out ++ [(if word = "quiet" then "C" else "c", "")]
      | .error status => return .error status
    else if key = "check" then out := out ++ [("c", "")]
    else if key = "sort" then
      match ← wordChosen name "--sort" text [["general-numeric"], ["human-numeric"], ["month"],
          ["numeric"], ["random"], ["version"]] with
      | .ok "month" => out := out ++ [("M", "")]
      | .ok "random" => out := out ++ [("R", "")]
      | .ok "version" => out := out ++ [("V", "")]
      | .ok word => out := out ++ [((word.take 1).toString, "")]
      | .error status => return .error status
    else out := out ++ [(key, text)]
  return .ok out

/-- The separator of fields that options ask for, or what is wrong with it. -/
def sortSeparator (found : List (String × String)) : Except String (Option Char) :=
  let step (before : Option Char) (o : String × String) : Except String (Option Char) := do
    if o.1 ≠ "t" then return before
    let c ← match o.2.toList with
      | [] => throw "empty tab"
      | [c] => pure c
      | ['\\', '0'] => pure '\x00'
      | _ => throw ("multi-character tab " ++ quotedName o.2)
    if before.any (· != c) then throw "incompatible tabs"
    return some c
  found.foldlM step none

/-- How options ask for lines to be compared, or what is wrong with them. -/
def sortingFrom (found : List (String × String)) : Except String Sorting := do
  let rule := found.foldl (fun (r : SortRule) o => match o.1.toList with
    | [c] => (r.add? c).getD r
    | _ => r) {}
  let keys ← (found.filter (·.1 == "k")).mapM fun o => sortKey? o.2
  let separator ← sortSeparator found
  let s : Sorting := { keys, rule, separator, stable := has found "s" || has found "u" }
  let rules := if keys = [] then [rule] else s.inherited.map SortKey.rule
  match rules.findSome? SortRule.conflict? with
  | some letters => throw ("options '-" ++ letters ++ "' are incompatible")
  | none => return s

/-- The names of the files to sort, or the status of a complaint. -/
def filesToSort (name : String) (found : List (String × String)) (operands : List String) :
    Action (Except Nat (List String)) := do
  match argument? found "from" with
  | none => return .ok (inputs operands)
  | some list =>
    if let extra :: _ := operands then
      complain name ("extra operand " ++ quotedName extra)
      warn "file operands cannot be combined with --files0-from\n"
      warn ("Try '" ++ name ++ " --help' for more information.\n")
      return .error 2
    match ← inputFrom list with
    | .error e =>
      return .error (← refuse name ("open failed: " ++ fileName list ++ ": " ++ e.reason) 2)
    | .ok content =>
      match (splitEnded '\x00' content.toList).1 with
      | [] => return .error (← refuse name ("no input from " ++ quotedName list) 2)
      | names => return .ok names

/-- `sort`: puts lines in order. -/
def runSort : Tool := fun _ name args =>
  withOptions
    { short := "bcCdfghik:mMno:rRsS:t:T:uVz"
      long := [("ignore-leading-blanks", "b"), ("check?", "check"), ("dictionary-order", "d"),
        ("ignore-case", "f"), ("general-numeric-sort", "g"), ("human-numeric-sort", "h"),
        ("ignore-nonprinting", "i"), ("key=", "k"), ("merge", "m"), ("month-sort", "M"),
        ("numeric-sort", "n"), ("output=", "o"), ("random-sort", "R"), ("reverse", "r"),
        ("sort=", "sort"), ("stable", "s"), ("field-separator=", "t"), ("unique", "u"),
        ("version-sort", "V"), ("zero-terminated", "z"), ("parallel=", "parallel"),
        ("buffer-size=", "S"), ("temporary-directory=", "T"), ("files0-from=", "from")] }
    name args (fun found operands => do
  match ← sortLetters name found with
  | .error status => return status
  | .ok found =>
  match sortingFrom found with
  | .error problem => refuse name problem 2
  | .ok s =>
  let checks := has found "c" || has found "C"
  if has found "c" ∧ has found "C" then
    return ← refuse name "options '-cC' are incompatible" 2
  if checks ∧ has found "o" then
    let letter := if has found "C" then "C" else "c"
    return ← refuse name ("options '-" ++ letter ++ "o' are incompatible") 2
  if ((found.filter (·.1 == "o")).map Prod.snd).eraseDups.length > 1 then
    return ← refuse name "multiple output files specified" 2
  match ← filesToSort name found operands with
  | .error status => return status
  | .ok names =>
    if checks then
      if let extra :: _ := names.drop 1 then
        return ← refuse name ("extra operand " ++ quotedName extra ++ " not allowed with -" ++
          (if has found "C" then "C" else "c")) 2
    let mark := lineMark found
    let mut files : List (List (List Char)) := []
    for file in names do
      match ← inputFrom file with
      | .ok content =>
        files := files ++ [(splitEnded mark content.toList).1.map String.toList]
      | .error e =>
        let what := if e = .isDirectory then "read failed" else "cannot read"
        return ← refuse name (what ++ ": " ++ fileName file ++ ": " ++ e.reason) 2
    let unique := has found "u"
    if checks then
      match s.disorder? unique 1 files.flatten with
      | none => return 0
      | some (n, line) =>
        if has found "c" then
          complain name (names.headD "-" ++ ":" ++ toString n ++ ": disorder: " ++
            String.ofList line)
        return 1
    let ordered := if has found "m" then s.merged files
      else files.flatten.mergeSort fun a b => s.compare a b != .gt
    let ordered := if unique then s.distinct ordered else ordered
    let text := endedBy mark (ordered.map String.ofList)
    match argument? found "o" with
    | none =>
      put text
      return 0
    | some path =>
      match ← writeFile path text with
      | .ok _ => return 0
      | .error e => refuse name ("open failed: " ++ fileName path ++ ": " ++ e.reason) 2) 2

end ScriptLang.Shell.Tool

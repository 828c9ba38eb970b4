import ScriptLang.Shell.Calendar
import ScriptLang.Shell.Format
import ScriptLang.Shell.Tool

/-!
# Time

`date` shows a moment, `sleep` waits, and `timeout` gives another program only so much time.

## Main definitions

* `DateReading` — the reading of a moment from words
* `runDate`, `runSleep`, `runTimeout` — the programs of these names
-/

namespace ScriptLang.Shell.Tool

/-! ### Moments in words -/

/-- What has been read of a moment. -/
structure DateReading where
  /-- The year, if there is one, the month and the day. -/
  date : Option (Option Int × Int × Int) := none
  /-- Hours, minutes and seconds. -/
  time : Option (Nat × Nat × Nat) := none
  nanoseconds : Nat := 0
  /-- Years, months, days and seconds that are added. -/
  years : Int := 0
  months : Int := 0
  days : Int := 0
  seconds : Int := 0
  weekday : Option Nat := none
  /-- Seconds by which the time is ahead of that of Greenwich. -/
  zone : Option Int := none

namespace DateReading

/-- The numbers between separators, if there are only digits between them. -/
def numbers? (separator : Char) (word : String) : Option (List Nat) :=
  (word.splitToList (· == separator)).mapM natural?

/-- The place of a name in a list, of which at least three letters are given. -/
def named? (names : List String) (word : String) : Option Nat :=
  let word := if word.endsWith "." then (word.dropEnd 1).toString else word
  if word.length < 3 then none
  else names.findIdx? fun name => name.toLower == word || (shortName name).toLower == word

/-- Adds an amount of a unit; none if there is no such unit. -/
def add? (s : DateReading) (amount : Int) (unit : String) : Option DateReading :=
  let unit := if unit.endsWith "s" ∧ unit ≠ "s" then (unit.dropEnd 1).toString else unit
  match unit with
  | "year" => some { s with years := s.years + amount }
  | "month" => some { s with months := s.months + amount }
  | "fortnight" => some { s with days := s.days + 14 * amount }
  | "week" => some { s with days := s.days + 7 * amount }
  | "day" => some { s with days := s.days + amount }
  | "hour" => some { s with seconds := s.seconds + 3600 * amount }
  | "minute" | "min" => some { s with seconds := s.seconds + 60 * amount }
  | "second" | "sec" => some { s with seconds := s.seconds + amount }
  | _ => none

/-- Whether there is such a date. -/
def isDate (y m d : Int) : Bool :=
  1 ≤ m && m ≤ 12 && 1 ≤ d && dateOfDays (daysOfDate y m d) == (y, m.toNat, d.toNat)

/-- The date that a word of digits and separators writes. -/
def dateWord? (word : String) : Option (Int × Int × Int) :=
  let found : Option (Int × Int × Int) :=
    match numbers? '-' word, numbers? '/' word with
    | some [y, m, d], _ => some (y, m, d)
    | _, some [a, b, c] => if 31 < a then some (a, b, c) else some (c, a, b)
    | _, _ => none
  found.filter fun (y, m, d) => isDate y m d

/-- The time of day that a word writes. -/
def timeWord? (word : String) : Option (Nat × Nat × Nat) :=
  let whole := (word.splitToList (· == '.')).headD ""
  let hour := (whole.dropEnd 2).toString
  match numbers? ':' whole with
  | none =>
    match natural? hour, whole.endsWith "am", whole.endsWith "pm" with
    | some h, true, _ => if 1 ≤ h ∧ h ≤ 12 then some (h % 12, 0, 0) else none
    | some h, _, true => if 1 ≤ h ∧ h ≤ 12 then some (h % 12 + 12, 0, 0) else none
    | _, _, _ => none
  | some [h, m] => if h < 24 ∧ m < 60 then some (h, m, 0) else none
  | some [h, m, s] => if h < 24 ∧ m < 60 ∧ s < 61 then some (h, m, s) else none
  | _ => none

/-- The nanoseconds behind the point in a word. -/
def fractionOf (word : String) : Nat :=
  let places := ((word.toList.dropWhile (· != '.')).drop 1).take 9
  valueOf 10 (places ++ List.replicate (9 - places.length) '0')

/-- The difference from the time of Greenwich that a word writes. -/
def zoneWord? (word : String) : Option Int :=
  let digits := String.ofList ((word.toList.drop 1).filter (· != ':'))
  let sign? : Option Int := match word.toList.head? with
    | some '+' => some 1
    | some '-' => some (-1)
    | _ => none
  match sign?, natural? digits with
  | some sign, some n =>
    if digits.length = 4 then some (sign * ((n / 100 * 3600 + n % 100 * 60 : Nat) : Int))
    else if digits.length ≤ 2 then some (sign * ((n * 3600 : Nat) : Int))
    else none
  | _, _ => none

/-- The integer that a word writes, with a sign or without. -/
def signed? (word : String) : Option Int :=
  match word.toList with
  | '+' :: ds => (natural? (String.ofList ds)).map fun n => (n : Int)
  | '-' :: ds => (natural? (String.ofList ds)).map fun n => -(n : Int)
  | _ => (natural? word).map fun n => (n : Int)

/-- Reads words; none if they make no sense. -/
def words? : Nat → List String → DateReading → Option DateReading
  | 0, _, s | _, [], s => some s
  | n + 1, word :: rest, s =>
    match word with
    | "now" => words? n rest s
    | "today" => words? n rest s
    | "yesterday" => words? n rest { s with days := s.days - 1 }
    | "tomorrow" => words? n rest { s with days := s.days + 1 }
    | "midnight" => words? n rest { s with time := some (0, 0, 0) }
    | "noon" => words? n rest { s with time := some (12, 0, 0) }
    | "ago" =>
      words? n rest { s with
        years := -s.years, months := -s.months, days := -s.days, seconds := -s.seconds }
    | "z" | "utc" | "gmt" => words? n rest { s with zone := some 0 }
    | "at" | "and" => words? n rest s
    | "am" => match s.time with
      | some (12, m, x) => words? n rest { s with time := some (0, m, x) }
      | _ => words? n rest s
    | "pm" => match s.time with
      | some (h, m, x) =>
        words? n rest { s with time := some (if h < 12 then h + 12 else h, m, x) }
      | none => none
    | _ =>
      let stepped (amount : Int) : Option DateReading := match rest with
        | unit :: later => (s.add? amount unit).bind (words? n later)
        | [] => none
      if word = "next" ∨ word = "last" then stepped (if word = "next" then 1 else -1)
      else if let some d := dateWord? word then
        words? n rest { s with date := some (some d.1, d.2) }
      else if let some t := timeWord? word then
        words? n rest { s with time := some t, nanoseconds := fractionOf word }
      else if let some next := s.add? 1 word then words? n rest next
      else if let some month := named? Shell.months word then
        let behind : Option (Nat × List String) := match rest with
          | day :: later => (natural? day).map fun d => (d, later)
          | [] => none
        match behind with
        | some (d, later) =>
          words? n later { s with date := some (none, (month : Int) + 1, (d : Int)) }
        | none => none
      else if let some day := named? weekdays word then
        words? n rest { s with weekday := some day }
      else if let some z := if s.time.isSome then zoneWord? word else none then
        words? n rest { s with zone := some z }
      else
        match signed? word, s.date with
        | some year, some (none, m, d) =>
          if word.length = 4 then words? n rest { s with date := some (some year, m, d) }
          else stepped year
        | some amount, _ =>
          match rest with
          | name :: year :: later =>
            match named? Shell.months name, natural? year with
            | some month, some y =>
              words? n later { s with date := some (some (y : Int), (month : Int) + 1, amount) }
            | _, _ => stepped amount
          | _ =>
            if word.length = 8 ∧ word.toList.all Char.isDigit then
              let k := amount.toNat
              let d : Int × Int × Int := (k / 10000, k / 100 % 100, k % 100)
              if isDate d.1 d.2.1 d.2.2 then words? n rest { s with date := some (some d.1, d.2) }
              else none
            else stepped amount
        | none, _ => none

/-- The words of a text; a letter between a date and a time separates them, too. -/
def wordsOf (text : String) : List String :=
  let rec spread : List Char → List Char
    | a :: 't' :: b :: rest =>
      if a.isDigit ∧ b.isDigit then a :: ' ' :: spread (b :: rest)
      else a :: spread ('t' :: b :: rest)
    | a :: 'z' :: rest => if a.isDigit then a :: ' ' :: 'z' :: spread rest
      else a :: spread ('z' :: rest)
    | a :: '+' :: b :: rest =>
      if a.isDigit ∧ b.isDigit then a :: ' ' :: '+' :: b :: spread rest
      else a :: spread ('+' :: b :: rest)
    | c :: rest => c :: spread rest
    | [] => []
  let lowered := spread (text.toList.map Char.toLower)
  ((String.ofList lowered).splitToList fun c => isSpace c || c == ',').filter (· ≠ "")

/-- The moment that a text names, seen from another one. -/
def moment? (now : Moment) (text : String) : Option Moment :=
  match text.toList with
  | '@' :: number =>
    let whole := number.takeWhile (· != '.')
    let places := (number.drop (whole.length + 1)).take 9
    (signed? (String.ofList whole)).map fun n =>
      Moment.ofSeconds n (valueOf 10 (places ++ List.replicate (9 - places.length) '0'))
  | _ =>
    let words := wordsOf text
    match words? (words.length + 1) words {} with
    | none => none
    | some s =>
      let resets := s.date.isSome ∨ s.weekday.isSome ∨ words = []
      let (y, m, d) := s.date.getD (none, now.month, now.day)
      let (h, minute, second) :=
        s.time.getD (if resets then (0, 0, 0) else (now.hour, now.minute, now.second))
      let days := daysOfDate (y.getD now.year + s.years) (m + s.months) d + s.days
      let days := match s.weekday with
        | some w => days + ((w : Int) - (days + 4)).fmod 7
        | none => days
      let seconds := days * 86400 + (h * 3600 + minute * 60 + second : Nat) + s.seconds -
        s.zone.getD 0
      let exact := !resets && s.time.isNone
      some (Moment.ofSeconds seconds (if exact then now.nanoseconds else s.nanoseconds))

end DateReading

/-- `date`: shows a moment. -/
def runDate : Tool := fun _ name args =>
  withOptions
    { short := "d:f:I::r:Rs:u"
      long := [("date=", "d"), ("file=", "f"), ("iso-8601?", "I"), ("reference=", "r"),
        ("rfc-email", "R"), ("rfc-3339=", "rfc"), ("set=", "s"), ("utc", "u"),
        ("universal", "u")] }
    name args fun found operands => do
  let now := Moment.ofClock (← call .clock)
  let moment ← match argument? found "r", argument? found "d" with
    | some path, _ =>
      match ← inspect path with
      | .ok info => pure (Moment.ofClock info.modified)
      | .error e => return ← refuse name (fileName path ++ ": " ++ e.reason)
    | none, some text =>
      match DateReading.moment? now text with
      | some m => pure m
      | none => return ← refuse name ("invalid date " ++ quotedName text)
    | none, none => pure now
  let iso : Option String := (argument? found "I").bind fun text =>
    match if text = "" then "date" else text with
    | "date" => some "%Y-%m-%d"
    | "hours" => some "%Y-%m-%dT%H%:z"
    | "minutes" => some "%Y-%m-%dT%H:%M%:z"
    | "seconds" => some "%Y-%m-%dT%H:%M:%S%:z"
    | "ns" => some "%Y-%m-%dT%H:%M:%S,%N%:z"
    | _ => none
  let strict : Option String := (argument? found "rfc").bind fun text =>
    match text with
    | "date" => some "%Y-%m-%d"
    | "seconds" => some "%Y-%m-%d %H:%M:%S%:z"
    | "ns" => some "%Y-%m-%d %H:%M:%S.%N%:z"
    | _ => none
  if let some extra := operands[1]? then
    return ← misused name ("extra operand " ++ quotedName extra)
  let format ← match operands with
    | operand :: _ =>
      if operand.startsWith "+" then pure (operand.drop 1).toString
      else if (argument? found "d").isSome then
        complain name ("the argument " ++ quotedName operand ++ " lacks a leading '+';")
        warn ("when using an option to specify date(s), any non-option\n" ++
          "argument must be a format string beginning with '+'\n")
        warn ("Try '" ++ name ++ " --help' for more information.\n")
        return 1
      else return ← refuse name ("invalid date " ++ quotedName operand)
    | [] =>
      pure ((iso.orElse fun _ => strict).getD
        (if has found "R" then "%a, %d %b %Y %H:%M:%S %z" else "%a %b %e %H:%M:%S %Z %Y"))
  deliver name (moment.format format ++ "\n")

/-! ### Waiting -/

/-- The number of seconds that a text with a unit writes. -/
def duration? (text : String) : Option Float :=
  match readFloat? text.toList with
  | none => none
  | some (x, rest) =>
    if x < 0 ∨ text.toList.head?.any isSpace then none
    else
      match rest with
      | [] | ['s'] => some x
      | ['m'] => some (x * 60)
      | ['h'] => some (x * 3600)
      | ['d'] => some (x * 86400)
      | _ => none

/-- `sleep`: waits. -/
def runSleep : Tool := fun _ name args =>
  withOptions { short := "" } name args fun _ operands => do
  if operands = [] then return ← misused name "missing operand"
  let mut total : Float := 0
  let mut wrong := false
  for operand in operands do
    match duration? operand with
    | some x => total := total + x
    | none =>
      complain name ("invalid time interval " ++ quotedName operand)
      wrong := true
  if wrong then
    warn ("Try '" ++ name ++ " --help' for more information.\n")
    return 1
  call (.sleep total)
  return 0

/-- `timeout`: gives another program only so much time. -/
def runTimeout : Tool := fun launch name args =>
  withOptions
    { short := "k:s:v", strict := true
      long := [("kill-after=", "k"), ("signal=", "s"), ("preserve-status", "p"),
        ("foreground", "f"), ("verbose", "v")] }
    name args (fun _ operands => do
  match operands with
  | limit :: program :: args =>
    match duration? limit with
    | none => misused name ("invalid time interval " ++ quotedName limit) 125
    | some seconds =>
      let before : Float ← call .clock
      match ← launch program args with
      | .error e =>
        refuse name ("failed to run command " ++ quotedName program ++ ": " ++ e.reason)
          (if e = .notFound then 127 else 126)
      | .ok status =>
        let after : Float ← call .clock
        return if 0 < seconds ∧ seconds < after - before then 124 else status
  | _ =>
    warn ("Try '" ++ name ++ " --help' for more information.\n")
    return 125) 125

end ScriptLang.Shell.Tool

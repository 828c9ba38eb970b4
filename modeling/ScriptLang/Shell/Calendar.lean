import ScriptLang.Shell.Bytes

/-!
# Dates and times

Moments in the calendar, counted in seconds from the beginning of 1970, and how they are written.
The time is that of Greenwich.

## Main definitions

* `Moment`, `Moment.ofSeconds` — a moment in the calendar
* `Moment.format` — a moment written as directives say
-/

namespace ScriptLang.Shell

/-- The months. -/
def months : List String :=
  ["January", "February", "March", "April", "May", "June", "July", "August", "September",
    "October", "November", "December"]

/-- The days of the week. -/
def weekdays : List String :=
  ["Sunday", "Monday", "Tuesday", "Wednesday", "Thursday", "Friday", "Saturday"]

/-- The first three letters of a name. -/
def shortName (name : String) : String :=
  String.ofList (name.toList.take 3)

/-- The year, month and day of a number of days after the beginning of 1970. -/
def dateOfDays (days : Int) : Int × Nat × Nat :=
  -- Years begin in March here, so that a leap day comes last.
  let z := days + 719468
  let era := z.fdiv 146097
  let doe := (z.fmod 146097).toNat
  let yoe := (doe - doe / 1460 + doe / 36524 - doe / 146096) / 365
  let doy := doe - (365 * yoe + yoe / 4 - yoe / 100)
  let mp := (5 * doy + 2) / 153
  let day := doy - (153 * mp + 2) / 5 + 1
  let month := if mp < 10 then mp + 3 else mp - 9
  (yoe + era * 400 + (if month ≤ 2 then 1 else 0), month, day)

/-- The number of days from the beginning of 1970 to a date; months beyond the year and days beyond
the month count on. -/
def daysOfDate (year : Int) (month : Int) (day : Int) : Int :=
  let year := year + (month - 1).fdiv 12
  let month := ((month - 1).fmod 12).toNat + 1
  let y := if month ≤ 2 then year - 1 else year
  let era := y.fdiv 400
  let yoe := y.fmod 400
  let mp : Int := if 2 < month then month - 3 else month + 9
  let doy := (153 * mp + 2).fdiv 5
  let doe := yoe * 365 + yoe.fdiv 4 - yoe.fdiv 100 + doy
  era * 146097 + doe - 719468 + day - 1

/-- A moment in the calendar. -/
structure Moment where
  /-- Seconds since the beginning of 1970. -/
  seconds : Int
  nanoseconds : Nat
  year : Int
  month : Nat
  day : Nat
  hour : Nat
  minute : Nat
  second : Nat
  /-- The day of the week; zero is a Sunday. -/
  weekday : Nat
  /-- The day of the year, from one on. -/
  yearDay : Nat

namespace Moment

/-- The moment so many seconds after the beginning of 1970. -/
def ofSeconds (seconds : Int) (nanoseconds : Nat := 0) : Moment :=
  let days := seconds.fdiv 86400
  let rest := (seconds.fmod 86400).toNat
  let (year, month, day) := dateOfDays days
  { seconds, nanoseconds, year, month, day
    hour := rest / 3600
    minute := rest / 60 % 60
    second := rest % 60
    weekday := ((days + 4).fmod 7).toNat
    yearDay := (days - daysOfDate year 1 1).toNat + 1 }

/-- The moment that a clock shows. -/
def ofClock (x : Float) : Moment :=
  let whole := x.toUInt64.toNat
  ofSeconds whole ((x - Float.ofNat whole) * 1000000000).toUInt64.toNat

/-- A number with something before it, to fill a width. -/
def filled (width : Nat) (fill : Char) (n : Int) : String :=
  let ds := toString n.natAbs
  let sign := if n < 0 then "-" else ""
  sign ++ String.ofList (List.replicate (width - ds.length - sign.length) fill) ++ ds

/-- The number of the week, when weeks begin on a day of the week. -/
def week (m : Moment) (first : Nat) : Nat :=
  (m.yearDay - 1 + 7 - (m.weekday + 7 - first) % 7) / 7

/-- The number of the week and its year, when weeks begin on Mondays and the first one has the
first Thursday. -/
def isoWeek (m : Moment) : Int × Nat :=
  let days := m.seconds.fdiv 86400
  -- The Thursday of the same week.
  let thursday := days - ((m.weekday + 6) % 7 : Nat) + 3
  let (year, _, _) := dateOfDays thursday
  (year, ((thursday - daysOfDate year 1 1) / 7).toNat + 1)

/-- A number, its width and what it is filled up with. -/
abbrev Numeral := Int × Nat × Char

/-- The number that a directive writes. -/
def numeral? (m : Moment) (directive : Char) : Option Numeral :=
  let twelve := if m.hour % 12 = 0 then 12 else m.hour % 12
  match directive with
  | 'Y' => some (m.year, 4, '0')
  | 'C' => some (m.year.fdiv 100, 2, '0')
  | 'y' => some (m.year.fmod 100, 2, '0')
  | 'm' => some (m.month, 2, '0')
  | 'd' => some (m.day, 2, '0')
  | 'e' => some (m.day, 2, ' ')
  | 'H' => some (m.hour, 2, '0')
  | 'I' => some (twelve, 2, '0')
  | 'k' => some (m.hour, 2, ' ')
  | 'l' => some (twelve, 2, ' ')
  | 'M' => some (m.minute, 2, '0')
  | 'S' => some (m.second, 2, '0')
  | 'N' => some (m.nanoseconds, 9, '0')
  | 's' => some (m.seconds, 1, '0')
  | 'j' => some (m.yearDay, 3, '0')
  | 'u' => some (if m.weekday = 0 then 7 else m.weekday, 1, '0')
  | 'w' => some (m.weekday, 1, '0')
  | 'U' => some (m.week 0, 2, '0')
  | 'W' => some (m.week 1, 2, '0')
  | 'V' => some (m.isoWeek.2, 2, '0')
  | 'G' => some (m.isoWeek.1, 4, '0')
  | 'g' => some (m.isoWeek.1.fmod 100, 2, '0')
  | 'q' => some ((m.month + 2) / 3, 1, '0')
  | _ => none

/-- The format for which a directive stands. -/
def longer? (directive : Char) : Option String :=
  match directive with
  | 'D' => some "%m/%d/%y"
  | 'x' => some "%m/%d/%y"
  | 'F' => some "%Y-%m-%d"
  | 'T' => some "%H:%M:%S"
  | 'X' => some "%H:%M:%S"
  | 'R' => some "%H:%M"
  | 'r' => some "%I:%M:%S %p"
  | 'c' => some "%a %b %e %H:%M:%S %Y"
  | 'h' => some "%b"
  | _ => none

/-- The text that a directive writes. -/
def text? (m : Moment) (directive : Char) : Option String :=
  match directive with
  | 'a' => some (shortName (weekdays[m.weekday]?.getD ""))
  | 'A' => some (weekdays[m.weekday]?.getD "")
  | 'b' => some (shortName (months[m.month - 1]?.getD ""))
  | 'B' => some (months[m.month - 1]?.getD "")
  | 'p' => some (if m.hour < 12 then "AM" else "PM")
  | 'P' => some (if m.hour < 12 then "am" else "pm")
  | 'Z' => some "UTC"
  | 'z' => some "+0000"
  | 'n' => some "\n"
  | 't' => some "\t"
  | '%' => some "%"
  | _ => none

/-- A moment written as directives say; a directive may have a flag and a width. -/
def formatFuel (m : Moment) : Nat → List Char → String
  | 0, _ | _, [] => ""
  | n + 1, '%' :: rest =>
    let flags := rest.takeWhile (· ∈ ['-', '_', '0', '^', '#'])
    let behind := rest.drop flags.length
    let width := behind.takeWhile Char.isDigit
    let behind := behind.drop width.length
    let colons := behind.takeWhile (· == ':')
    match behind.drop colons.length with
    | [] => String.ofList ('%' :: rest)
    | c :: later =>
      let flag := flags.getLast?
      let shift (s : String) : String :=
        if flags.contains '^' then s.toUpper
        else if flags.contains '#' then
          if c = 'p' ∨ c = 'Z' then s.toLower else s.toUpper
        else s
      let wanted := valueOf 10 width
      let fitted (s : String) : String :=
        if flag = some '0' then
          String.ofList (List.replicate (wanted - s.length) '0') ++ s
        else paddedLeft wanted s
      let written : String :=
        match m.numeral? c with
        | some (value, size, fill) =>
          match flag with
          | some '-' => toString value
          | some '_' => filled (max size wanted) ' ' value
          | some '0' => filled (max size wanted) '0' value
          | _ =>
            if c = 'N' ∧ width ≠ [] then
              String.ofList ((filled 9 '0' value).toList.take wanted)
            else filled (max size wanted) fill value
        | none =>
          match m.text? c, longer? c with
          | some "+0000", _ =>
            if colons = [':'] then "+00:00" else if colons = [':', ':'] then "+00:00:00"
            else "+0000"
          | some s, _ => fitted (shift s)
          | none, some longer => fitted (shift (m.formatFuel n longer.toList))
          | none, none => String.ofList ('%' :: rest.take (rest.length - later.length))
      written ++ m.formatFuel n later
  | n + 1, c :: rest => c.toString ++ m.formatFuel n rest

/-- A moment written as directives say. -/
def format (m : Moment) (directives : String) : String :=
  m.formatFuel (directives.length + 4) directives.toList

end Moment

end ScriptLang.Shell

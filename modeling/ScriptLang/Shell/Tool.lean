import ScriptLang.Shell.Action

/-!
# Tools

A tool is a program that a shell can start.  Some tools start other programs; how that is done is
given to them.  What tools have in common is how they read their options and name their files.

## Main definitions

* `Launch`, `Tool` — the starting of a program, and a program
* `OptionTable` — the options of a tool
* `withOptions` — reads the options of a tool
* `wordChosen`, `numberWithin` — the arguments of options
* `fileName`, `quotedName` — names of files in messages
-/

namespace ScriptLang.Shell

/-- Starts a program with arguments, and yields its status, or says why it cannot be started. -/
abbrev Launch := String → List String → Action (Except IoError Nat)

/-- A program: it gets the name under which it was started, and its arguments. -/
abbrev Tool := Launch → String → List String → Action Nat

namespace Tool

/-! ### Names in messages -/

/-- Whether a name with a character has to be quoted wherever the character stands. -/
def needsQuotes (c : Char) : Bool :=
  c ∈ [' ', '!', '"', '$', '&', '\'', '(', ')', '*', ';', '<', '=', '>', '?', '[', '\\', '^', '`',
    '|'] || isControl c || 0x7f < c.toNat

/-- A name in quotes, with escapes for what cannot be shown. -/
def quotedName (s : String) : String :=
  let cs := s.toList
  if cs.any fun c => isControl c || 0x7f < c.toNat then
    -- Quotes are closed around characters that are written as escapes.
    let escape (c : Char) : Option String :=
      match c with
      | '\n' => some "\\n"
      | '\t' => some "\\t"
      | '\r' => some "\\r"
      | c =>
        if isControl c ∨ 0x7f < c.toNat then
          let ds := inBase 8 c.toNat
          some ("\\" ++ String.ofList (List.replicate (3 - ds.length) '0') ++ ds)
        else none
    let step (s : String × Bool) (c : Char) : String × Bool :=
      match escape c with
      | some e => (s.1 ++ (if s.2 then "" else "'$'") ++ e, true)
      | none =>
        let text := if c = '\'' then "'\\''" else c.toString
        (s.1 ++ (if s.2 then "''" else "") ++ text, false)
    let (text, _) := cs.foldl step ("'", false)
    text ++ "'"
  else if !s.contains '\'' then "'" ++ s ++ "'"
  else if cs.all fun c => c ∉ ['"', '$', '`', '\\', '!'] then "\"" ++ s ++ "\""
  else "'" ++ s.replace "'" "'\\''" ++ "'"

/-- A name, in quotes only if it would be unclear without them. -/
def fileName (s : String) : String :=
  let cs := s.toList
  let first := cs.head?.any fun c => c == '#' || c == '~'
  if s = "" ∨ first ∨ cs.any (fun c => needsQuotes c || c == ':') then quotedName s else s

/-! ### Messages -/

/-- Complains in the name of a tool. -/
def complain (name text : String) : Action Unit :=
  warn (name ++ ": " ++ text ++ "\n")

/-- Complains, and yields a status. -/
def refuse (name text : String) (status : Nat := 1) : Action Nat := do
  complain name text
  return status

/-- Complains about how a tool was used, and yields a status. -/
def misused (name text : String) (status : Nat := 1) : Action Nat := do
  complain name text
  warn ("Try '" ++ name ++ " --help' for more information.\n")
  return status

/-- Writes to the output. -/
def put (text : String) : Action Unit := do
  let _ ← writeTo 1 text

/-- Writes to the output, and yields a status; complains if that fails. -/
def deliver (name text : String) : Action Nat := do
  match ← writeTo 1 text with
  | .ok _ => return 0
  | .error e => refuse name ("write error: " ++ e.reason)

/-- Asks a question, and reads a line that says yes or no. -/
def confirmed (question : String) : Action Bool := do
  warn question
  match ← readUntil 0 (· == '\n') with
  | .ok line => return line.head?.any fun c => c == 'y' || c == 'Y'
  | .error _ => return false

/-! ### Options -/

/-- The options of a tool. -/
structure OptionTable where
  /-- The letters; one colon says that an argument belongs to a letter, two that one may. -/
  short : String
  /-- The long names and what they stand for.  A name that ends in an equals sign has an argument,
  one that ends in a question mark may have one. -/
  long : List (String × String) := []
  /-- Whether the first operand ends the options. -/
  strict : Bool := false

/-- Options with their arguments, and operands. -/
abbrev Given := List (String × String) × List String

namespace OptionTable

/-- How many colons stand behind a letter; none if the letter is not known. -/
def colons? (t : OptionTable) (c : Char) : Option Nat :=
  match t.short.toList.dropWhile (· != c) with
  | [] => none
  | _ :: later => if c = ':' then none else some (later.takeWhile (· == ':')).length

/-- Reads letters in one argument. -/
def letters (t : OptionTable) : List Char → List String → Except String Given
  | [], rest => .ok ([], rest)
  | c :: later, rest =>
    match t.colons? c with
    | none => .error ("invalid option -- '" ++ c.toString ++ "'")
    | some 0 => (t.letters later rest).map fun (found, rest) => ((c.toString, "") :: found, rest)
    | some 1 =>
      if later ≠ [] then .ok ([(c.toString, String.ofList later)], rest)
      else
        match rest with
        | value :: rest => .ok ([(c.toString, value)], rest)
        | [] => .error ("option requires an argument -- '" ++ c.toString ++ "'")
    | some _ => .ok ([(c.toString, String.ofList later)], rest)

/-- A long name without the mark behind it. -/
def bareName (name : String) : String :=
  String.ofList (name.toList.filter fun c => c != '=' && c != '?')

/-- Reads a long option. -/
def longOption (t : OptionTable) (text : String) (rest : List String) : Except String Given :=
  let name := String.ofList (text.toList.takeWhile (· != '='))
  let value? : Option String := match text.toList.drop name.length with
    | _ :: value => some (String.ofList value)
    | [] => none
  let exact := t.long.filter fun e => bareName e.1 == name
  let candidates := if exact ≠ [] then exact else t.long.filter fun e => e.1.startsWith name
  let use (entry : String × String) : Except String Given :=
    let full := bareName entry.1
    match value?, entry.1.endsWith "=", entry.1.endsWith "?" with
    | some value, true, _ | some value, _, true => .ok ([(entry.2, value)], rest)
    | some _, _, _ => .error ("option '--" ++ full ++ "' doesn't allow an argument")
    | none, true, _ =>
      match rest with
      | value :: rest => .ok ([(entry.2, value)], rest)
      | [] => .error ("option '--" ++ full ++ "' requires an argument")
    | none, _, _ => .ok ([(entry.2, "")], rest)
  match candidates with
  | [] => .error ("unrecognized option '--" ++ text ++ "'")
  | [entry] => use entry
  | entry :: others =>
    if others.all (·.2 == entry.2) then use entry
    else
      .error ("option '--" ++ name ++ "' is ambiguous; possibilities:" ++
        String.join (candidates.map fun e => " '--" ++ bareName e.1 ++ "'"))

/-- Reads options and operands. -/
def readFuel (t : OptionTable) : Nat → List String → Except String Given
  | 0, args => .ok ([], args)
  | n + 1, args =>
    let more (found : Given) : Except String Given :=
      (t.readFuel n found.2).map fun (later, operands) => (found.1 ++ later, operands)
    match args with
    | [] => .ok ([], [])
    | "--" :: rest => .ok ([], rest)
    | arg :: rest =>
      match arg.toList with
      | '-' :: '-' :: name => (t.longOption (String.ofList name) rest).bind more
      | '-' :: c :: cs => (t.letters (c :: cs) rest).bind more
      | _ =>
        if t.strict then .ok ([], args)
        else (t.readFuel n rest).map fun (found, operands) => (found, arg :: operands)

/-- Reads options and operands. -/
def read (t : OptionTable) (args : List String) : Except String Given :=
  t.readFuel (args.length + 1) args

end OptionTable

/-- Reads the options of a tool and goes on with them, or complains. -/
def withOptions (t : OptionTable) (name : String) (args : List String)
    (act : List (String × String) → List String → Action Nat) (status : Nat := 1) : Action Nat :=
  match t.read args with
  | .ok (found, operands) => act found operands
  | .error text => misused name text status

/-- Whether an option has been given. -/
def has (found : List (String × String)) (key : String) : Bool :=
  found.any (·.1 == key)

/-- The argument of an option, the last one if it was given more than once. -/
def argument? (found : List (String × String)) (key : String) : Option String :=
  (found.reverse.find? (·.1 == key)).map Prod.snd

/-- The character that ends lines: a NUL character if the option `z` asks for it. -/
def lineMark (found : List (String × String)) : Char :=
  if has found "z" then '\x00' else '\n'

/-- The word that the argument of an option abbreviates, or the status of a complaint.  Words on one
line mean the same; the first one stands for them. -/
def wordChosen (name option value : String) (words : List (List String)) (status : Nat := 1) :
    Action (Except Nat String) := do
  let whole := words.filter fun line => line.contains value
  let begun := if whole ≠ [] then whole else words.filter fun line => line.any (·.startsWith value)
  match begun with
  | [line] => return .ok (line.headD "")
  | _ =>
    complain name ((if begun = [] then "invalid" else "ambiguous") ++ " argument " ++
      quotedName value ++ " for " ++ quotedName option)
    warn "Valid arguments are:\n"
    for line in words do
      warn ("  - " ++ ", ".intercalate (line.map fun w => "'" ++ w ++ "'") ++ "\n")
    warn ("Try '" ++ name ++ " --help' for more information.\n")
    return .error status

/-! ### Numbers in arguments -/

/-- The number that an argument writes behind blanks and a sign; a minus sign can be ruled out. -/
def wholeNumber? (text : String) (signed : Bool) : Option Int :=
  match text.toList.dropWhile isSpace with
  | '-' :: ds => if signed then (natural? (String.ofList ds)).map fun n => -(n : Int) else none
  | '+' :: ds => (natural? (String.ofList ds)).map Int.ofNat
  | ds => (natural? (String.ofList ds)).map Int.ofNat

/-- The number that an argument writes, or the status of a complaint if it writes none or one that
is out of bounds. -/
def numberWithin (name what text : String) (least most : Int) (signed : Bool := false) :
    Action (Except Nat Int) := do
  let invalid := "invalid " ++ what ++ ": " ++ quotedName text
  match wholeNumber? text signed with
  | none => return .error (← refuse name invalid)
  | some n =>
    if n < least then
      return .error (← refuse name (invalid ++ ": Numerical result out of range"))
    if most < n then
      return .error (← refuse name (invalid ++ ": Value too large for defined data type"))
    return .ok n

/-! ### Input -/

/-- The content of a file that an operand names; a minus sign stands for the input. -/
def inputFrom (name : String) : Action (Except IoError String) := do
  if name = "-" then readAll 0
  else
    match descriptorAt? name with
    | some fd => readAll fd
    | none => contentOf name

/-- The names of the inputs: the operands, or the input if there are none. -/
def inputs (operands : List String) : List String :=
  if operands = [] then ["-"] else operands

/-- Does something with the content of each input, and complains about those that cannot be read;
the status is that of the complaints. -/
def forInputs (name : String) (operands : List String)
    (act : String → String → Action Unit) : Action Nat := do
  let mut status := 0
  for operand in inputs operands do
    match ← inputFrom operand with
    | .ok content => act operand content
    | .error e =>
      complain name (fileName operand ++ ": " ++ e.reason)
      status := 1
  return status

end Tool

end ScriptLang.Shell

import ScriptLang.Shell.Bytes
import ScriptLang.Shell.Syntax

/-!
# Reading shell commands

A shell reads its commands line by line and carries out each line before it reads the next one.
What a word denotes depends on what the lines before it have done: an alias is replaced by its text
while the commands are read.  Texts inside of a word, such as the commands of a substitution, are
read along with it.

Here-documents follow the line that mentions them.  They get numbers, and their texts go into a
table when the end of the line has been reached.

## Main definitions

* `Source` — what is left to read
* `Read` — reading that can fail
* `readLine` — reads the next line of commands
-/

namespace ScriptLang.Shell

/-- A word, a sign or a keyword. -/
inductive Lexeme where
  | endOfText
  | newline
  | sign (text : String)
  | keyword (text : String)
  | word (w : Word)
  /-- A connection whose word is still to come; none for the file of a here-document. -/
  | redirect (fd : Nat) (sign : String)

/-- What a lexeme is called in complaints. -/
def Lexeme.describe : Lexeme → String
  | endOfText => "end of file"
  | newline => "newline"
  | sign text | keyword text => "\"" ++ text ++ "\""
  | word _ => "word"
  | redirect .. => "redirection"

/-- Whether a lexeme is a certain keyword. -/
def Lexeme.isKeyword (l : Lexeme) (text : String) : Bool :=
  match l with
  | keyword t => t == text
  | _ => false

/-- Whether a lexeme is a certain sign. -/
def Lexeme.isSign (l : Lexeme) (text : String) : Bool :=
  match l with
  | sign t => t == text
  | _ => false

/-- Whether a list of commands ends before a lexeme. -/
def Lexeme.endsList : Lexeme → Bool
  | endOfText => true
  | sign text => text == ")" || text == ";;"
  | keyword text => text ∈ ["do", "done", "elif", "else", "esac", "fi", "then", "\x7d"]
  | _ => false

/-- The words that have a meaning of their own where a command may begin. -/
def keywords : List String :=
  ["!", "case", "do", "done", "elif", "else", "esac", "fi", "for", "if", "in", "then", "until",
    "while", "\x7b", "\x7d"]

/-- A here-document whose text is still to come. -/
structure Awaited where
  id : Nat
  /-- The line that ends the text. -/
  mark : String
  /-- Whether tabs at the start of lines are dropped. -/
  stripped : Bool
  /-- Whether parameters in the text are filled in. -/
  filled : Bool

/-- A text that was left to read the text of an alias in front of it. -/
structure Suspended where
  name : String
  /-- Whether the text of the alias ends in a blank. -/
  blank : Bool
  rest : List Char

/-- What is left to read, and what is known while reading. -/
structure Source where
  rest : List Char
  suspended : List Suspended := []
  line : Nat := 1
  /-- A lexeme that has been read, but not been used. -/
  pushed : Option Lexeme := none
  /-- The lexeme that was read last, for complaints. -/
  last : Lexeme := .newline
  aliases : List (String × String) := []
  /-- Whether the next word may be an alias because the last one ended in a blank. -/
  aliasNext : Bool := false
  awaited : List Awaited := []
  documents : List (Nat × Word) := []
  /-- The number of the next here-document. -/
  nextDocument : Nat := 0

/-- Why a text cannot be read. -/
structure Unreadable where
  line : Nat
  message : String

/-- Reading that can fail. -/
abbrev Read := StateT Source (Except Unreadable)

/-- Fails. -/
def complain {α : Type} (message : String) : Read α := do
  throw ⟨(← get).line, message⟩

/-- Fails because of the last lexeme. -/
def unexpected {α : Type} (wanted : Option Lexeme := none) : Read α := do
  let found := (← get).last.describe ++ " unexpected"
  match wanted with
  | none => complain found
  | some l => complain (found ++ " (expecting " ++ l.describe ++ ")")

/-! ### Characters -/

/-- Goes back to the texts before aliases whose own texts have been read. -/
def Source.resume (s : Source) : List Suspended → Source
  | [] => { s with suspended := [] }
  | t :: later =>
    if s.rest = [] then
      { s with rest := t.rest, aliasNext := s.aliasNext || t.blank }.resume later
    else { s with suspended := t :: later }

/-- The next character, which is not read yet. -/
def peekChar : Read (Option Char) := do
  modify fun s => s.resume s.suspended
  return (← get).rest.head?

/-- Reads a character. -/
def dropChar : Read Unit :=
  modify fun s =>
    match s.rest with
    | [] => s
    | c :: rest => { s with rest, line := if c = '\n' then s.line + 1 else s.line }

/-- Reads a character, if there is one. -/
def getChar : Read (Option Char) := do
  let c ← peekChar
  dropChar
  return c

/-- The characters behind backslashes that join lines, and the number of these. -/
def skipJoins : List Char → List Char × Nat
  | '\\' :: '\n' :: rest => ((skipJoins rest).1, (skipJoins rest).2 + 1)
  | cs => (cs, 0)

/-- The next character where a backslash before a line break joins two lines. -/
def peekJoined : Read (Option Char) := do
  let _ ← peekChar
  modify fun s =>
    let (rest, joins) := skipJoins s.rest
    { s with rest, line := s.line + joins }
  peekChar

/-- Reads a character where a backslash before a line break joins two lines. -/
def getJoined : Read (Option Char) := do
  let c ← peekJoined
  dropChar
  return c

/-- Reads characters as long as they pass a test. -/
def takeJoined (test : Char → Bool) : Nat → Read (List Char)
  | 0 => return []
  | fuel + 1 => do
    match ← peekJoined with
    | some c =>
      if test c then
        dropChar
        return c :: (← takeJoined test fuel)
      else return []
    | none => return []

/-- Reads the rest of a comment, but not the line break behind it. -/
def skipComment : Read Unit :=
  modify fun s => { s with rest := s.rest.dropWhile (· != '\n') }

/-! ### Words -/

/-- What surrounds the characters of a word. -/
inductive Context where
  /-- Nothing: the word ends at a blank or a sign. -/
  | bare
  /-- Double quotes. -/
  | quotes
  /-- The braces of a parameter, inside of double quotes or not. -/
  | braces (quoted : Bool)
  /-- An arithmetic expression, with a number of open parentheses. -/
  | arithmetic (depth : Nat)
  /-- The text of a here-document. -/
  | document
  /-- The word behind the sign of a here-document, in which nothing is filled in. -/
  | mark
  deriving DecidableEq

/-- Whether characters in a context are quoted. -/
def Context.isQuoted : Context → Bool
  | bare | mark | braces false => false
  | quotes | arithmetic _ | document | braces true => true

/-- The parts of a word, last one first, with a character more. -/
def addChar (c : Char) (quoted : Bool) : List Part → List Part
  | .text chars q :: before =>
    if q = quoted then .text (chars.push c) q :: before
    else .text c.toString quoted :: .text chars q :: before
  | parts => .text c.toString quoted :: parts

/-- The parts of a word, last one first, with something quoted in it, if only quotes. -/
def addMark : List Part → List Part
  | .text chars true :: before => .text chars true :: before
  | parts => .text "" true :: parts

/-- The parts of a word, last one first, with a part more. -/
def addPart (parts : List Part) (p : Part) : List Part :=
  match p, parts with
  | .text chars true, .text before true :: rest => .text (before ++ chars) true :: rest
  | .text chars false, .text before false :: rest => .text (before ++ chars) false :: rest
  | p, parts => p :: parts

/-- The parts of a word, last one first, with what stands between double quotes.  Quotes around all
arguments, and nothing else, vanish if there are none. -/
def addQuoted (parts : List Part) (inner : Word) : List Part :=
  match inner with
  | [.parameter "@" .value true] => inner ++ parts
  | _ => inner.foldl addPart (addMark parts)

/-- Whether a character is the name of a special parameter. -/
def isSpecialName (c : Char) : Bool :=
  c ∈ ['#', '?', '$', '!', '-', '*', '@'] || c.isDigit

/-- Whether a word in the open ends before a character. -/
def endsWord (c : Char) : Bool :=
  c ∈ [' ', '\t', '\n', ';', '&', '|', '<', '>', '(', ')']

/-- Whether a backslash in a context takes the meaning from a character. -/
def Context.escapes (ctx : Context) (c : Char) : Bool :=
  match ctx with
  | bare | mark | braces false => true
  | quotes | arithmetic _ => c ∈ ['\\', '`', '$', '"']
  | braces true => c ∈ ['\\', '`', '$', '"', '}']
  | document => c ∈ ['\\', '`', '$']

/-- Reads the rest of a text in single quotes. -/
def readSingle (parts : List Part) : Read (List Part) := do
  let s ← get
  let inner := s.rest.takeWhile (· != '\'')
  match s.rest.drop inner.length with
  | [] =>
    modify fun s => { s with line := s.line + inner.count '\n' }
    complain "Unterminated quoted string"
  | _ :: rest =>
    set { s with rest, line := s.line + inner.count '\n' }
    return addPart (addMark parts) (.text (String.ofList inner) true)

/-- Reads the text of a substitution up to the second backquote.  A backslash protects only what
would otherwise have a meaning there. -/
def readBackquoted (ctx : Context) : Nat → Read (List Char)
  | 0 => complain "EOF in backquote substitution"
  | fuel + 1 => do
    match ← getJoined with
    | none => complain "EOF in backquote substitution"
    | some '`' => return []
    | some '\\' =>
      match ← getChar with
      | none => complain "EOF in backquote substitution"
      | some c =>
        let later ← readBackquoted ctx fuel
        if c ∈ ['\\', '`', '$'] ∨ (ctx.isQuoted ∧ c = '"') then return c :: later
        else return '\\' :: c :: later
    | some c => return c :: (← readBackquoted ctx fuel)

/-- The use of a parameter that a sign stands for. -/
def useOf? (sign : Char) (colon : Bool) (word : Word) : Option Use :=
  match sign with
  | '-' => some (.orElse colon word)
  | '=' => some (.orAssign colon word)
  | '?' => some (.orFail colon word)
  | '+' => some (.ifThere colon word)
  | _ => none

/-- The text of a here-document up to its mark, with its line breaks, and what follows.  Without
the mark the text goes on to the end. -/
def documentLines (mark : String) (stripped : Bool) :
    List (List Char) → List (List Char) × List (List Char)
  | [] => ([], [])
  | line :: later =>
    let line' := if stripped then line.dropWhile (· == '\t') else line
    if String.ofList line' = mark then ([], later)
    else
      let (text, after) := documentLines mark stripped later
      (line' :: text, after)

/-- The pieces of a list between line breaks. -/
def cutLines (cs : List Char) : List (List Char) :=
  cs.foldr (fun c lines =>
    if c = '\n' then [] :: lines
    else match lines with
      | [] => [[c]]
      | line :: later => (c :: line) :: later) [[]]

/-- Lines with a line break between any two. -/
def joinLines (ls : List (List Char)) : List Char :=
  ['\n'].intercalate ls

/-- Takes the text of a here-document from what is left to read. -/
def takeDocument (d : Awaited) : Read (List Char) := do
  let s ← get
  let lines := cutLines s.rest
  let (text, after) := documentLines d.mark d.stripped lines
  let used := lines.length - after.length
  set { s with rest := joinLines after, line := s.line + used }
  -- Every line of the text ends in a line break, but for one that the end of everything cuts off.
  if text.length = lines.length then return joinLines text
  else return text.flatMap (· ++ ['\n'])

/-- One command after another, if there is one before it. -/
def after (first : Option Command) (second : Command) : Option Command :=
  match first with
  | none => some second
  | some first => some (.sequence first second)

/-- Which words are looked at before a lexeme is taken for a plain word. -/
structure Lookup where
  newlines : Bool := false
  keywords : Bool := false
  aliases : Bool := false

/-- The lookup where a command may begin. -/
def Lookup.command : Lookup := ⟨false, true, true⟩

/-- The lookup where a command has to begin, on this line or a later one. -/
def Lookup.anyLine : Lookup := ⟨true, true, true⟩

/-- Puts a lexeme back. -/
def pushBack (l : Lexeme) : Read Unit :=
  modify fun s => { s with pushed := some l, last := l }

/-- Whether a list of commands is a line, the body of a compound command, which is not empty, or
one that may be empty. -/
inductive Extent where
  | line
  | body
  | anything
  deriving DecidableEq

/-- Reads the sign of a connection. -/
def readRedirect (fd : Option Nat) : Read Lexeme := do
  let sign (standard : Nat) (text : String) (more : Bool) : Read Lexeme := do
    if more then dropChar
    return .redirect (fd.getD standard) text
  match ← getJoined with
  | some '>' =>
    match ← peekJoined with
    | some '>' => sign 1 ">>" true
    | some '|' => sign 1 ">|" true
    | some '&' => sign 1 ">&" true
    | _ => sign 1 ">" false
  | _ =>
    match ← peekJoined with
    | some '<' =>
      dropChar
      let stripped := (← peekJoined) = some '-'
      sign 0 (if stripped then "<<-" else "<<") stripped
    | some '&' => sign 0 "<&" true
    | some '>' => sign 0 "<>" true
    | _ => sign 0 "<" false

mutual

/-- Reads the parts of a word up to its end; the ones read so far come last one first. -/
def readParts (fuel : Nat) (ctx : Context) (parts : List Part) : Read Word := do
  match fuel with
  | 0 => complain "Word too long"
  | n + 1 =>
    match ← peekJoined with
    | none =>
      match ctx with
      | .bare | .mark | .document => return parts.reverse
      | .quotes | .braces true => complain "Unterminated quoted string"
      | .braces false => complain "Missing '\x7d'"
      | .arithmetic _ => complain "Missing '))'"
    | some c =>
      if (ctx = .bare ∨ ctx = .mark) ∧ endsWord c then return parts.reverse
      dropChar
      match c, ctx with
      | '\\', _ =>
        match ← getChar with
        | none => readParts n ctx (addChar '\\' true parts)
        | some d =>
          if ctx.escapes d then readParts n ctx (addChar d true parts)
          else readParts n ctx (addChar d true (addChar '\\' true parts))
      | '\'', .bare | '\'', .mark | '\'', .braces false => do
        readParts n ctx (← readSingle parts)
      | '"', .quotes => return parts.reverse
      | '"', .bare | '"', .mark | '"', .braces _ => do
        readParts n ctx (addQuoted parts (← readParts n .quotes []))
      | '}', .braces _ => return parts.reverse
      | '(', .arithmetic depth =>
        readParts n (.arithmetic (depth + 1)) (addChar c true parts)
      | ')', .arithmetic 0 => do
        if (← peekJoined) = some ')' then
          dropChar
          return parts.reverse
        else readParts n ctx (addChar c true parts)
      | ')', .arithmetic (depth + 1) => readParts n (.arithmetic depth) (addChar c true parts)
      | '$', .mark => readParts n ctx (addChar c false parts)
      | '$', _ => do readParts n ctx (addPart parts (← readDollar n ctx))
      | '`', .mark => readParts n ctx (addChar c false parts)
      | '`', _ => do
        let text ← readBackquoted ctx (n + 1)
        readParts n ctx (.command (← readInner n text) ctx.isQuoted :: parts)
      | c, _ => readParts n ctx (addChar c ctx.isQuoted parts)
termination_by structural fuel

/-- Reads commands from a text of their own. -/
def readInner (fuel : Nat) (text : List Char) : Read Command := do
  match fuel with
  | 0 => complain "Commands too deep"
  | n + 1 =>
    let outer ← get
    set { outer with rest := text, suspended := [], line := 1, pushed := none, awaited := [] }
    let body ← readList n .anything none
    awaitDocuments n
    modify fun s =>
      { outer with documents := s.documents, nextDocument := s.nextDocument }
    return body.getD .nothing
termination_by structural fuel

/-- Reads what a dollar sign begins. -/
def readDollar (fuel : Nat) (ctx : Context) : Read Part := do
  match fuel with
  | 0 => complain "Word too long"
  | n + 1 =>
    match ← peekJoined with
    | some '(' =>
      dropChar
      if (← peekJoined) = some '(' then
        dropChar
        return .arithmetic (← readParts n (.arithmetic 0) []) ctx.isQuoted
      else
        let outer ← get
        set { outer with awaited := [] }
        let body ← readList n .anything none
        let close ← readLexeme n {}
        if !close.isSign ")" then unexpected (some (.sign ")"))
        awaitDocuments n
        modify fun s => { s with awaited := outer.awaited }
        return .command (body.getD .nothing) ctx.isQuoted
    | some '{' =>
      dropChar
      readBraced n ctx
    | some c =>
      if isNameStart c then
        return .parameter (String.ofList (← takeJoined isNameChar (n + 1))) .value ctx.isQuoted
      else if isSpecialName c then
        dropChar
        return .parameter c.toString .value ctx.isQuoted
      else return .text "$" ctx.isQuoted
    | none => return .text "$" ctx.isQuoted
termination_by structural fuel

/-- Reads a parameter in braces, behind the first one. -/
def readBraced (fuel : Nat) (ctx : Context) : Read Part := do
  match fuel with
  | 0 => complain "Word too long"
  | n + 1 =>
    let ofChars (cs : List Char) : Read String := return String.ofList cs
    match ← peekJoined with
    | none => readUse n ctx "" false
    | some c =>
      if isNameStart c then
        readUse n ctx (← ofChars (← takeJoined isNameChar (n + 1))) false
      else if c.isDigit then
        readUse n ctx (← ofChars (← takeJoined Char.isDigit (n + 1))) false
      else if c = '}' then readUse n ctx "" false
      else
        dropChar
        if c = '#' then
          match ← peekJoined with
          | none => readUse n ctx "#" false
          | some d =>
            if isNameStart d then
              readUse n ctx (← ofChars (← takeJoined isNameChar (n + 1))) true
            else if d.isDigit then
              readUse n ctx (← ofChars (← takeJoined Char.isDigit (n + 1))) true
            else if d = '}' then readUse n ctx "#" false
            else
              -- The length of a special parameter, unless more than a brace follows.
              let s ← get
              dropChar
              if (← peekJoined) = some '}' then
                readUse n ctx (if isSpecialName d then d.toString else "") true
              else
                set s
                readUse n ctx "#" false
        else if isSpecialName c then readUse n ctx c.toString false
        else readUse n ctx "" false
termination_by structural fuel

/-- Reads what is made of a parameter, up to the brace that closes it.  A parameter without a name
makes no sense. -/
def readUse (fuel : Nat) (ctx : Context) (name : String) (length : Bool) : Read Part := do
  match fuel with
  | 0 => complain "Word too long"
  | n + 1 =>
    let quoted := ctx.isQuoted
    let c ← peekJoined
    if name = "" then
      let _ ← readParts n (.braces quoted) []
      return .parameter name .bad quoted
    else if length then
      let _ ← readParts n (.braces quoted) []
      return .parameter name (if c = some '}' then .length else .bad) quoted
    else
      dropChar
      match c with
      | some '}' => return .parameter name .value quoted
      | some '%' | some '#' =>
        let longest := (← peekJoined) = c
        if longest then dropChar
        -- Patterns are read as if there were no quotes around them.
        let pattern ← readParts n (.braces false) []
        return .parameter name (.trim (c = some '%') longest pattern) quoted
      | none => complain (if quoted then "Unterminated quoted string" else "Missing '\x7d'")
      | some c =>
        let colon := c = ':'
        let sign ← if colon then getJoined else pure (some c)
        if sign = some '}' then return .parameter name .value quoted
        let word ← readParts n (.braces quoted) []
        return .parameter name ((sign.bind (useOf? · colon word)).getD .bad) quoted
termination_by structural fuel

/-- Reads the texts of the here-documents that the line has mentioned. -/
def awaitDocuments (fuel : Nat) : Read Unit := do
  match fuel with
  | 0 => return
  | n + 1 =>
    let s ← get
    match s.awaited with
    | [] => return
    | d :: later =>
      set { s with awaited := later }
      let text ← takeDocument d
      let body ←
        if d.filled then
          let outer ← get
          set { outer with
            rest := text, line := s.line, suspended := [], pushed := none, awaited := [] }
          let body ← readParts n .document []
          modify fun s =>
            { outer with documents := s.documents, nextDocument := s.nextDocument }
          pure body
        else pure [.text (String.ofList text) true]
      modify fun s => { s with documents := (d.id, body) :: s.documents }
      awaitDocuments n
termination_by structural fuel

/-- Reads a word, a sign or the beginning of a connection. -/
def readRaw (fuel : Nat) : Read Lexeme := do
  match fuel with
  | 0 => complain "Line too long"
  | n + 1 =>
    let pair (c : Char) : Read Lexeme := do
      if (← peekJoined) = some c then
        dropChar
        return .sign (String.ofList [c, c])
      else return .sign c.toString
    match ← peekJoined with
    | none => return .endOfText
    | some c =>
      match c with
      | ' ' | '\t' =>
        dropChar
        readRaw n
      | '#' =>
        skipComment
        readRaw n
      | '\n' =>
        dropChar
        return .newline
      | '&' | '|' | ';' =>
        dropChar
        pair c
      | '(' | ')' =>
        dropChar
        return .sign c.toString
      | '<' | '>' => readRedirect none
      | _ =>
        let w ← readParts n .bare []
        -- A single digit right in front of an angle bracket is a descriptor.
        match w, ← peekJoined with
        | [.text d false], some b =>
          match d.toList with
          | [d] =>
            if d.isDigit ∧ (b = '<' ∨ b = '>') then
              readRedirect (some (valueOf 10 [d]))
            else return .word w
          | _ => return .word w
        | _, _ => return .word w
termination_by structural fuel

/-- Reads the next lexeme. -/
def readLexeme (fuel : Nat) (lookup : Lookup) : Read Lexeme := do
  match fuel with
  | 0 => complain "Line too long"
  | n + 1 =>
    match (← get).pushed with
    | some l =>
      modify fun s => { s with pushed := none }
      match lookup.newlines, l with
      | true, .newline =>
        awaitDocuments n
        readLexeme n lookup
      | _, l => return l
    | none =>
      modify fun s => { s with aliasNext := false }
      let l ← readRaw n
      let s ← get
      match l with
      | .newline =>
        if lookup.newlines then
          awaitDocuments n
          readLexeme n lookup
        else
          set { s with last := l }
          return l
      | .word w =>
        match plainText? w with
        | none =>
          set { s with last := l }
          return l
        | some text =>
          if lookup.keywords ∧ text ∈ keywords then
            set { s with last := .keyword text }
            return .keyword text
          else
            let inUse := s.suspended.any (·.name == text)
            let sought := (lookup.aliases ∨ s.aliasNext) ∧ !inUse
            match if sought then s.aliases.lookup text else none with
            | some value =>
              let blank := value.toList.getLast?.any fun c => c == ' ' || c == '\t'
              if value ≠ "" then
                let suspended := ⟨text, blank, s.rest⟩ :: s.suspended
                set { s with rest := value.toList, suspended }
              readLexeme n lookup
            | none =>
              set { s with last := l }
              return l
      | l =>
        set { s with last := l }
        return l
termination_by structural fuel

/-- Reads the word behind the sign of a connection. -/
def readTarget (fuel : Nat) (fd : Nat) (sign : String) : Read Redirect := do
  match fuel with
  | 0 => complain "Line too long"
  | n + 1 =>
    let skipBlanks : Read Unit := do
      let _ ← takeJoined (fun c => c == ' ' || c == '\t') (n + 1)
    if sign = "<<" ∨ sign = "<<-" then
      skipBlanks
      let starts := (← peekJoined).any (!endsWord ·)
      if !starts then
        let _ ← readLexeme n {}
        unexpected
      let mark ← readParts n .mark []
      let text := String.join (mark.map fun
        | .text chars _ => chars
        | _ => "")
      let plain := mark.all fun
        | .text _ quoted => !quoted
        | _ => true
      let s ← get
      let d : Awaited := ⟨s.nextDocument, text, sign == "<<-", plain⟩
      set { s with nextDocument := s.nextDocument + 1, awaited := s.awaited ++ [d] }
      return .document fd d.id
    else
      match ← readLexeme n {} with
      | .word w =>
        match sign with
        | ">" => return .file fd .write w
        | ">|" => return .file fd .overwrite w
        | ">>" => return .file fd .append w
        | "<" => return .file fd .read w
        | "<>" => return .file fd .readWrite w
        | _ => return .copy fd w
      | _ => unexpected
termination_by structural fuel

/-- Reads commands up to the end of their list; the ones read so far come first. -/
def readList (fuel : Nat) (extent : Extent) (before : Option Command) : Read (Option Command) := do
  match fuel with
  | 0 => complain "Too many commands"
  | n + 1 =>
    let l ← readLexeme n ⟨extent ≠ .line, true, true⟩
    match l with
    | .newline =>
      awaitDocuments n
      return before
    | .endOfText =>
      awaitDocuments n
      pushBack l
      return before
    | _ =>
      pushBack l
      if extent = .anything ∧ l.endsList then return before
      let next ← readAndOr n
      let l ← readLexeme n {}
      let commands := after before (if l.isSign "&" then .background next else next)
      -- A body that has begun may end.
      let extent := if extent = .body then .anything else extent
      if l.isSign "&" ∨ l.isSign ";" then readList n extent commands
      else
        match l with
        | .newline | .endOfText =>
          pushBack l
          readList n extent commands
        | _ =>
          if extent = .line then unexpected
          pushBack l
          return commands
termination_by structural fuel

/-- Reads pipelines joined by `&&` and `||`. -/
def readAndOr (fuel : Nat) : Read Command := do
  match fuel with
  | 0 => complain "Too many commands"
  | n + 1 => readMore n (← readPipeline n {})
termination_by structural fuel

/-- Reads the pipelines joined to a first one. -/
def readMore (fuel : Nat) (first : Command) : Read Command := do
  match fuel with
  | 0 => complain "Too many commands"
  | n + 1 =>
    let l ← readLexeme n {}
    if l.isSign "&&" then readMore n (.both first (← readPipeline n .anyLine))
    else if l.isSign "||" then readMore n (.either first (← readPipeline n .anyLine))
    else
      pushBack l
      return first
termination_by structural fuel

/-- Reads a pipeline. -/
def readPipeline (fuel : Nat) (lookup : Lookup) : Read Command := do
  match fuel with
  | 0 => complain "Too many commands"
  | n + 1 =>
    let l ← readLexeme n lookup
    let negated := l.isKeyword "!"
    if !negated then pushBack l
    let first ← readCommand n (if negated then .command else {})
    let later ← readPiped n
    let whole := if later.isEmpty then first else .pipe (first :: later)
    return if negated then .inverted whole else whole
termination_by structural fuel

/-- Reads the commands of a pipeline behind the first one. -/
def readPiped (fuel : Nat) : Read (List Command) := do
  match fuel with
  | 0 => complain "Too many commands"
  | n + 1 =>
    let l ← readLexeme n {}
    if l.isSign "|" then
      let next ← readCommand n .anyLine
      return next :: (← readPiped n)
    else
      pushBack l
      return []
termination_by structural fuel

/-- Reads a body, which has to be there, and the keyword or sign that ends it. -/
def readBody (fuel : Nat) (close : Lexeme) : Read Command := do
  match fuel with
  | 0 => complain "Too many commands"
  | n + 1 =>
    let body ← readList n .body none
    let l ← readLexeme n {}
    let closed := match close, l with
      | .keyword a, .keyword b | .sign a, .sign b => a == b
      | _, _ => false
    if !closed then unexpected (some close)
    return body.getD .nothing
termination_by structural fuel

/-- Reads the rest of an `if` behind its keyword, up to the end of the last branch. -/
def readBranches (fuel : Nat) : Read Command := do
  match fuel with
  | 0 => complain "Too many commands"
  | n + 1 =>
    let test ← readBody n (.keyword "then")
    let yes ← readList n .body none
    let l ← readLexeme n {}
    if l.isKeyword "elif" then
      return .branch test (yes.getD .nothing) (← readBranches n)
    else if l.isKeyword "else" then
      let no ← readList n .body none
      return .branch test (yes.getD .nothing) (no.getD .nothing)
    else
      pushBack l
      return .branch test (yes.getD .nothing) .nothing
termination_by structural fuel

/-- Reads words up to a line break or a semicolon. -/
def readWords (fuel : Nat) : Read (List Word) := do
  match fuel with
  | 0 => complain "Too many words"
  | n + 1 =>
    match ← readLexeme n {} with
    | .word w => return w :: (← readWords n)
    | .newline => return []
    | l => if l.isSign ";" then return [] else unexpected
termination_by structural fuel

/-- Reads the patterns of a case behind the first one, up to the parenthesis. -/
def readPatterns (fuel : Nat) (l : Lexeme) : Read (List Word) := do
  match fuel with
  | 0 => complain "Too many words"
  | n + 1 =>
    let w : Word := match l with
      | .word w => w
      | .keyword t => [.text t false]
      | _ => []
    let next ← readLexeme n {}
    if next.isSign "|" then return w :: (← readPatterns n (← readLexeme n {}))
    else if next.isSign ")" then return [w]
    else unexpected (some (.sign ")"))
termination_by structural fuel

/-- Reads the cases of a `case` up to its end. -/
def readCases (fuel : Nat) : Read (List (List Word × Command)) := do
  match fuel with
  | 0 => complain "Too many cases"
  | n + 1 =>
    let l ← readLexeme n ⟨true, true, false⟩
    if l.isKeyword "esac" then return []
    let first ← if l.isSign "(" then readLexeme n {} else pure l
    let patterns ← readPatterns n first
    let body ← readList n .anything none
    let one := (patterns, body.getD .nothing)
    let close ← readLexeme n ⟨true, true, false⟩
    if close.isKeyword "esac" then return [one]
    else if close.isSign ";;" then return one :: (← readCases n)
    else unexpected (some (.sign ";;"))
termination_by structural fuel

/-- Reads the connections behind a compound command. -/
def readRedirects (fuel : Nat) : Read (List Redirect) := do
  match fuel with
  | 0 => complain "Too many words"
  | n + 1 =>
    match ← readLexeme n .command with
    | .redirect fd sign =>
      let r ← readTarget n fd sign
      return r :: (← readRedirects n)
    | l =>
      pushBack l
      return []
termination_by structural fuel

/-- Reads a command. -/
def readCommand (fuel : Nat) (lookup : Lookup) : Read Command := do
  match fuel with
  | 0 => complain "Too many commands"
  | n + 1 =>
    let line := (← get).line
    let finish (c : Command) : Read Command := do
      let rs ← readRedirects n
      match c, rs with
      | c, [] => return c
      | .subshell line body _, rs => return .subshell line body rs
      | c, rs => return .redirected line c rs
    match ← readLexeme n lookup with
    | .word w =>
      pushBack (.word w)
      readSimple n line [] [] [] true
    | .redirect fd sign =>
      pushBack (.redirect fd sign)
      readSimple n line [] [] [] true
    | .sign "(" => finish (.subshell line (← readBody n (.sign ")")) [])
    | .keyword "\x7b" => finish (← readBody n (.keyword "\x7d"))
    | .keyword "if" =>
      let c ← readBranches n
      let close ← readLexeme n {}
      if !close.isKeyword "fi" then unexpected (some (.keyword "fi"))
      finish c
    | .keyword "while" =>
      let test ← readBody n (.keyword "do")
      finish (.loop false test (← readBody n (.keyword "done")))
    | .keyword "until" =>
      let test ← readBody n (.keyword "do")
      finish (.loop true test (← readBody n (.keyword "done")))
    | .keyword "for" =>
      let name ← match ← readLexeme n {} with
        | .word w =>
          match plainText? w with
          | some t => if isName t then pure t else complain "Bad for loop variable"
          | none => complain "Bad for loop variable"
        | _ => complain "Bad for loop variable"
      let l ← readLexeme n .anyLine
      let words ←
        if l.isKeyword "in" then readWords n
        else do
          if !l.isSign ";" then pushBack l
          pure [Word.arguments]
      let start ← readLexeme n .anyLine
      if !start.isKeyword "do" then unexpected (some (.keyword "do"))
      finish (.each line name words (← readBody n (.keyword "done")))
    | .keyword "case" =>
      let subject ← match ← readLexeme n {} with
        | .word w => pure w
        | _ => unexpected (some (.word []))
      let l ← readLexeme n .anyLine
      if !l.isKeyword "in" then unexpected (some (.keyword "in"))
      finish (.select line subject (← readCases n))
    | _ => unexpected
termination_by structural fuel

/-- Reads the rest of a simple command, or the definition of a function. -/
def readSimple (fuel : Nat) (line : Nat) (assignments : List (String × Word)) (words : List Word)
    (redirects : List Redirect) (early : Bool) : Read Command := do
  match fuel with
  | 0 => complain "Too many words"
  | n + 1 =>
    match ← readLexeme n ⟨false, false, early⟩ with
    | .word w =>
      match if early then assignment? w else none with
      | some a => readSimple n line (assignments ++ [a]) words redirects true
      | none => readSimple n line assignments (words ++ [w]) redirects false
    | .redirect fd sign =>
      let r ← readTarget n fd sign
      readSimple n line assignments words (redirects ++ [r]) early
    | l =>
      match l, assignments, words, redirects with
      | .sign "(", [], [w], [] =>
        let close ← readLexeme n {}
        if !close.isSign ")" then unexpected (some (.sign ")"))
        let name := (plainText? w).getD ""
        let special := ["break", ":", "continue", ".", "eval", "exec", "exit", "export", "readonly",
          "return", "set", "shift", "times", "trap", "unset", "local"]
        if !isName name ∨ name ∈ special then complain "Bad function name"
        return .define name (← readCommand n .anyLine)
      | _, _, _, _ =>
        pushBack l
        return .simple line assignments words redirects
termination_by structural fuel

end

/-- Reads the next line of commands: none at the end of the text, and an empty one if there is
nothing on the line. -/
def readLine (fuel : Nat) : Read (Option Command) := do
  modify fun s => { s with pushed := none, awaited := [] }
  let line ← readList fuel .line none
  match line, (← get).pushed with
  | none, some .endOfText => return none
  | line, _ => return some (line.getD .nothing)

end ScriptLang.Shell

import ScriptLang.Shell.Calendar
import ScriptLang.Shell.Pattern
import ScriptLang.Shell.Tool.Marks
import ScriptLang.Shell.Tool.Sort

/-!
# Listing directories

`ls` lists files and what directories hold: one name a line, in columns, or with what else is known
of each file.

## Main definitions

* `QuoteStyle`, `quotedAs` — how names are written
* `Listing` — how files are listed
* `arranged` — files in the order in which they are listed
* `Listing.lines` — the text of a list
* `runLs` — the program of this name
-/

namespace ScriptLang.Shell.Tool

/-! ### Names -/

/-- How names are written. -/
inductive QuoteStyle where
  | literal
  | shell
  | shellAlways
  | shellEscape
  | shellEscapeAlways
  | c
  | cMaybe
  | escape
  | locale
  deriving DecidableEq

/-- A character as an escape, if it cannot be shown. -/
def shownEscape? (c : Char) : Option String :=
  match c with
  | '\x07' => some "\\a"
  | '\x08' => some "\\b"
  | '\x0c' => some "\\f"
  | '\n' => some "\\n"
  | '\r' => some "\\r"
  | '\t' => some "\\t"
  | '\x0b' => some "\\v"
  | c =>
    if isControl c ∨ 0x7e < c.toNat then
      let ds := inBase 8 c.toNat
      some ("\\" ++ String.ofList (List.replicate (3 - ds.length) '0') ++ ds)
    else none

/-- A name with a backslash before some characters, and escapes for what cannot be shown. -/
def backslashed (special : Char → Bool) (name : String) : String :=
  String.join (name.toList.map fun c =>
    match shownEscape? c with
    | some e => e
    | none => if c = '\\' ∨ special c then "\\" ++ c.toString else c.toString)

/-- A name in the quotes of a shell, which show all characters as they are. -/
def plainQuotes (name : String) : String :=
  if !name.contains '\'' then "'" ++ name ++ "'"
  else if name.toList.all fun c => c ∉ ['"', '$', '\x60', '\\', '!'] then "\"" ++ name ++ "\""
  else "'" ++ name.replace "'" "'\\''" ++ "'"

/-- A name as it is written in a style. -/
def quotedAs (style : QuoteStyle) (name : String) : String :=
  let c := "\"" ++ backslashed (· == '"') name ++ "\""
  let unclear := name = "" ∨ name.toList.any needsQuotes ∨
    name.toList.head?.any fun c => c == '#' || c == '~'
  match style with
  | .literal => name
  | .shell => if unclear then plainQuotes name else name
  | .shellAlways => plainQuotes name
  | .shellEscape => if unclear then quotedName name else name
  | .shellEscapeAlways => quotedName name
  | .c => c
  | .cMaybe => if c = "\"" ++ name ++ "\"" then name else c
  | .escape => backslashed (· == ' ') name
  | .locale => "'" ++ backslashed (· == '\'') name ++ "'"

/-- How many columns a text takes. -/
def shownWidth (text : String) : Nat :=
  (text.toList.filter fun c => isGraph c || c == ' ').length

/-! ### Listings -/

/-- The shape of a list. -/
inductive ListShape where
  | single
  | long
  | columns
  | across
  | commas
  deriving DecidableEq

/-- By what files are put in order. -/
inductive ListOrder where
  | name
  | none
  | time
  | size
  | extension
  | version
  | width
  deriving DecidableEq

/-- Which kinds of files get a mark behind their names. -/
inductive Indicator where
  | none
  | slash
  | kind
  /-- Files that can be executed get a mark, too. -/
  | classify
  deriving DecidableEq

/-- How links are followed. -/
inductive Following where
  | never
  | always
  | operands
  /-- Operands that are links to directories are followed. -/
  | directories
  deriving DecidableEq

/-- How sizes are written. -/
inductive SizeStyle where
  | units (bytes : Nat)
  /-- With a unit behind them, which is a power of a base. -/
  | human (base : Nat)

/-- How files are listed. -/
structure Listing where
  name : String
  shape : ListShape := .single
  order : ListOrder := .name
  reversed : Bool := false
  directoriesFirst : Bool := false
  /-- Whether names that begin with a point are listed. -/
  almost : Bool := false
  /-- Whether the directory itself and the one above it are listed. -/
  all : Bool := false
  /-- Names that are left out, and names that are left out unless names that begin with a point are
  listed. -/
  ignored : List Pattern := []
  hidden : List Pattern := []
  /-- Whether directories are listed like files. -/
  itself : Bool := false
  recursive : Bool := false
  following : Following := .directories
  indicator : Indicator := .none
  quoting : QuoteStyle := .literal
  /-- Whether characters that cannot be shown are replaced. -/
  masked : Bool := false
  colored : Bool := false
  identities : Bool := false
  blocks : Bool := false
  contexts : Bool := false
  sizes : SizeStyle := .units 1
  blockSizes : SizeStyle := .units 1024
  owner : Bool := true
  group : Bool := true
  author : Bool := false
  numeric : Bool := false
  /-- The formats of times of the last half year, and of other times. -/
  times : String × String := ("%b %e %H:%M", "%b %e  %Y")
  width : Nat := 80
  tabs : Nat := 8
  /-- What ends a line. -/
  mark : Char := '\n'

/-- A file in a listing. -/
structure Listed where
  shown : String
  path : String
  info : FileInfo
  /-- What a link leads to. -/
  target : Option FileInfo := none

/-- The letter of a kind of file. -/
def kindLetter : FileKind → String
  | .directory => "d"
  | .file => "-"
  | .link => "l"
  | .device => "c"

/-- A size with a unit that is a power of a base, rounded up. -/
def humanSize (n : Nat) (base : Nat := 1024) : String :=
  let rec go : List String → Nat → String
    | [], _ => toString n
    | unit :: later, scale =>
      if n < base * scale ∨ later = [] then
        if scale = 1 then toString n
        else
          let tenths := (n * 10 + scale - 1) / scale
          if tenths < 100 then toString (tenths / 10) ++ "." ++ toString (tenths % 10) ++ unit
          else toString ((n + scale - 1) / scale) ++ unit
      else go later (scale * base)
  go ["", if base = 1000 then "k" else "K", "M", "G", "T", "P", "E"] 1

/-- A number of bytes in a style. -/
def SizeStyle.shown (s : SizeStyle) (bytes : Nat) : String :=
  match s with
  | .units unit => toString ((bytes + unit - 1) / unit)
  | .human base => humanSize bytes base

/-- The bytes that the content of a file takes on a disk. -/
def spaceOf (info : FileInfo) : Nat :=
  match info.kind with
  | .directory => 4096
  | .file => (info.size + 4095) / 4096 * 4096
  | _ => 0

namespace Listing

/-- The mark behind a name that tells what kind of file it is. -/
def kindMark (l : Listing) (info : FileInfo) : String :=
  match info.kind with
  | .directory => if l.indicator = .none then "" else "/"
  | .link => if l.indicator = .kind ∨ l.indicator = .classify then "@" else ""
  | .file => if l.indicator = .classify ∧ info.mode &&& 0o111 ≠ 0 then "*" else ""
  | .device => ""

/-- The colour of a file; none for ordinary ones. -/
def color? (info : FileInfo) : Option String :=
  match info.kind with
  | .directory =>
    some (match info.mode &&& 0o1002 with
      | 0o1002 => "30;42"
      | 0o0002 => "34;42"
      | 0o1000 => "37;44"
      | _ => "01;34")
  | .link => some "01;36"
  | .device => some "40;33;01"
  | .file =>
    if info.mode &&& 0o4000 ≠ 0 then some "37;41"
    else if info.mode &&& 0o2000 ≠ 0 then some "30;43"
    else if info.mode &&& 0o111 ≠ 0 then some "01;32"
    else none

/-- A name as it is written, without its colour. -/
def plainName (l : Listing) (name : String) : String :=
  let text := quotedAs l.quoting name
  if l.masked then text.map fun c => if isGraph c ∨ c = ' ' then c else '?' else text

/-- A name in its colour. -/
def coloredName (l : Listing) (name : String) (info : FileInfo) : String :=
  match if l.colored then color? info else none with
  | some color => "\x1b[" ++ color ++ "m" ++ l.plainName name ++ "\x1b[0m"
  | none => l.plainName name

/-- Whether a name is left out. -/
def leavesOut (l : Listing) (name : String) : Bool :=
  let matchesIn (ps : List Pattern) : Bool := ps.any fun p => p.accepts name
  let pointed := name.startsWith "."
  (pointed && !l.all && !l.almost) ||
    (!l.all && !l.almost && matchesIn l.hidden) || matchesIn l.ignored

/-- Whether more than their names has to be known of files. -/
def looksClosely (l : Listing) : Bool :=
  l.shape == .long || l.order == .time || l.order == .size || l.blocks || l.recursive ||
    l.colored || l.indicator != .none || l.directoriesFirst

end Listing

/-- What comes behind the last point of a name, with the point. -/
def extensionOf (name : String) : String :=
  if name.contains '.' then "." ++ (name.splitOn ".").getLast?.getD "" else ""

/-- Files in the order in which they are listed. -/
def arranged (l : Listing) (files : List Listed) : List Listed :=
  if l.order = .none then files
  else
    let byName := files.mergeSort fun a b => !before b.shown a.shown
    let ordered := match l.order with
      | .time => byName.mergeSort fun a b => a.info.modified ≥ b.info.modified
      | .size => byName.mergeSort fun a b => b.info.size ≤ a.info.size
      | .extension =>
        byName.mergeSort fun a b => !before (extensionOf b.shown) (extensionOf a.shown)
      | .version =>
        byName.mergeSort fun a b => compareVersions a.shown.toList b.shown.toList != .gt
      | .width =>
        let width (f : Listed) : Nat := shownWidth (l.plainName f.shown)
        byName.mergeSort fun a b => width a ≤ width b
      | _ => byName
    let ordered := if l.reversed then ordered.reverse else ordered
    let leads (f : Listed) : Bool :=
      f.info.kind == .directory || f.target.any (·.kind == .directory)
    if l.directoriesFirst then ordered.filter leads ++ ordered.filter (!leads ·) else ordered

/-! ### Lists as text -/

/-- A piece of a list, and how many columns it takes. -/
structure Shown where
  text : String
  width : Nat

/-- What stands between two columns: tabs as far as they go, then blanks. -/
def indentation (tabs : Nat) : Nat → Nat → Nat → String
  | 0, _, _ => ""
  | n + 1, start, stop =>
    if stop ≤ start then ""
    else if tabs ≠ 0 ∧ stop / tabs > (start + 1) / tabs then
      "\t" ++ indentation tabs n (start + (tabs - start % tabs)) stop
    else " " ++ indentation tabs n (start + 1) stop

/-- The widths of columns, if pieces are put into a number of them. -/
def columnWidths (down : Bool) (pieces : List Shown) (count : Nat) : List Nat :=
  let rows := (pieces.length + count - 1) / count
  (List.range count).map fun column =>
    let inColumn (i : Nat) : Bool := (if down then i / rows else i % count) == column
    let gap := if column + 1 = count then 0 else 2
    ((pieces.zipIdx.filter fun p => inColumn p.2).map fun p => p.1.width + gap).foldl max 3

/-- The most columns into which pieces fit. -/
def columnCount (down : Bool) (width : Nat) (pieces : List Shown) : Nat :=
  let most := min ((width + 2) / 3) pieces.length
  let fits (count : Nat) : Bool :=
    (columnWidths down pieces count).foldl (· + ·) 0 < width
  ((List.range most).reverse.map (· + 1)).find? (fun count => 1 < count && fits count) |>.getD 1

namespace Listing

/-- Pieces in columns. -/
def inColumns (l : Listing) (down : Bool) (pieces : List Shown) : String :=
  if pieces.isEmpty then ""
  else
    let rowText (widths : List Nat) (row : List (Shown × Nat)) : String :=
      (row.zipIdx.foldl (fun (s : String × Nat) (p, column) =>
        let start := (widths.take column).foldl (· + ·) 0
        (s.1 ++ indentation l.tabs (start + 1) s.2 start ++ p.1.text, start + p.1.width))
        ("", 0)).1 ++ l.mark.toString
    let count := if l.width = 0 then pieces.length else columnCount down l.width pieces
    let widths :=
      if l.width = 0 then pieces.map fun p => p.width + 2 else columnWidths down pieces count
    let rows := (pieces.length + count - 1) / count
    let placed := pieces.zipIdx
    String.join ((List.range rows).map fun row =>
      rowText widths (placed.filter fun p => (if down then p.2 % rows else p.2 / count) == row))

/-- Pieces between commas, in lines that are not too long. -/
def withCommas (l : Listing) (pieces : List Shown) : String :=
  if pieces.isEmpty then ""
  else
    (pieces.zipIdx.foldl (fun (s : String × Nat) (p, i) =>
      if i = 0 then (p.text, p.width)
      else if l.width = 0 ∨ s.2 + p.width + 2 < l.width then
        (s.1 ++ ", " ++ p.text, s.2 + 2 + p.width)
      else (s.1 ++ "," ++ l.mark.toString ++ p.text, p.width)) ("", 0)).1 ++ l.mark.toString

/-- The time of a change. -/
def time (l : Listing) (now modified : Float) : String :=
  let recent := modified ≤ now ∧ now - modified < 15778476
  (Moment.ofClock modified).format (if recent then l.times.1 else l.times.2)

/-- The text of a list of files. -/
def lines (l : Listing) (now : Float) (files : List Listed) : Action String := do
  let files := arranged l files
  let widest (f : Listed → String) : Nat := (files.map fun x => (f x).length).foldl max 0
  let size (f : Listed) : String :=
    if f.info.kind = .device then "1, 3" else l.sizes.shown f.info.size
  let blocks (f : Listed) : String := l.blockSizes.shown (spaceOf f.info)
  let identity (f : Listed) : String := toString f.info.identity
  let links (f : Listed) : String := toString f.info.links
  let padded (column : Listed → String) (f : Listed) : String :=
    paddedLeft (if l.shape = .commas then 0 else widest column) (column f) ++ " "
  let user := if l.numeric then "0" else "root"
  -- Names without quotes are moved below the text of those that have some.
  let aligned := l.quoting ∈ [.shell, .shellEscape, .cMaybe] ∧
    l.shape ∈ [.long, .columns, .across] ∧ files.any fun f => l.plainName f.shown ≠ f.shown
  let pieces ← files.mapM fun f => do
    let start := (if l.identities then padded identity f else "") ++
      (if l.blocks then padded blocks f else "") ++
      (if l.contexts ∧ l.shape ≠ .long then "? " else "")
    let indent := if aligned ∧ l.plainName f.shown = f.shown then " " else ""
    let name := indent ++ l.coloredName f.shown f.info
    let plainWidth := start.length + indent.length + shownWidth (l.plainName f.shown)
    if l.shape = .long then
      let target ← if f.info.kind ≠ .link then pure ""
        else
          match ← call (.readLink (← pathOf f.path)) with
          | .ok text =>
            let text := ofText text
            pure (" -> " ++ match f.target with
              | some info => l.coloredName text info ++ l.kindMark info
              | none => l.plainName text)
          | .error _ => pure ""
      let mark := if f.info.kind = .link then "" else l.kindMark f.info
      let text := start ++ kindLetter f.info.kind ++ modeLetters f.info.mode ++ " " ++
        padded links f ++ (if l.owner then user ++ " " else "") ++
        (if l.group then user ++ " " else "") ++ (if l.author then user ++ " " else "") ++
        (if l.contexts then "? " else "") ++ padded size f ++ l.time now f.info.modified ++ " " ++
        name ++ mark ++ target
      return (⟨text, 0⟩ : Shown)
    else
      let mark := l.kindMark f.info
      return ⟨start ++ name ++ mark, plainWidth + mark.length⟩
  return match l.shape with
    | .columns => l.inColumns true pieces
    | .across => l.inColumns false pieces
    | .commas => l.withCommas pieces
    | _ => String.join (pieces.map fun p => p.text ++ l.mark.toString)

end Listing

/-! ### Going through directories -/

/-- What `ls` remembers. -/
structure ListState where
  status : Nat := 0
  /-- Whether a colour has been written. -/
  colored : Bool := false

/-- Writes a text; the first colour comes after the usual one. -/
def ListState.write (s : ListState) (text : String) : Action ListState := do
  match if s.colored then [text] else text.splitOn "\x1b" with
  | before :: first :: later =>
    put (before ++ "\x1b[0m\x1b" ++ "\x1b".intercalate (first :: later))
    return { s with colored := true }
  | _ =>
    put text
    return s

/-- Notes that something went wrong. -/
def ListState.failed (s : ListState) (status : Nat) : ListState :=
  { s with status := max s.status status }

/-- A name in a directory as it is listed. -/
def listedIn (l : Listing) (directory name : String) : Action (Option Listed × Bool) := do
  let path := joinedPath directory name
  let plain := (← inspect path false).toOption
  let target := (← inspect path).toOption
  match plain with
  | none => return (none, true)
  | some info =>
    if info.kind ≠ .link then return (some ⟨name, path, info, none⟩, true)
    if l.following = .always then
      match target with
      | some info => return (some ⟨name, path, info, none⟩, true)
      | none =>
        if !l.looksClosely then return (some ⟨name, path, info, none⟩, true)
        let shown := if directory = "." then name else path
        complain l.name ("cannot access " ++ quotedName shown ++ ": " ++ IoError.notFound.reason)
        return (some ⟨name, path, info, none⟩, false)
    return (some ⟨name, path, info, target⟩, true)

/-- Lists a directory, and those in it if that is asked for. -/
def listDirectory (l : Listing) (now : Float) : Nat → Bool → Bool → String → ListState →
    Action ListState
  | 0, _, _, _, s => return s.failed 1
  | n + 1, headed, top, path, s => do
    match ← namesIn path with
    | .error e =>
      complain l.name ("cannot open directory " ++ quotedName path ++ ": " ++ e.reason)
      return s.failed (if top then 2 else 1)
    | .ok names =>
      let names := if l.all then "." :: ".." :: names else names
      let mut files : List Listed := []
      let mut s := s
      for name in names.filter (!l.leavesOut ·) do
        let (file, clean) ← listedIn l path name
        files := files ++ file.toList
        if !clean then s := s.failed 1
      let heading := if headed then l.plainName path ++ ":\n" else ""
      let total := if l.shape = .long ∨ l.blocks then
          let space := files.foldl (fun n f => n + spaceOf f.info) 0
          "total " ++ l.blockSizes.shown space ++ l.mark.toString
        else ""
      s ← s.write (heading ++ total ++ (← l.lines now files))
      if l.recursive then
        for f in arranged l files do
          if f.info.kind = .directory ∧ f.shown ≠ "." ∧ f.shown ≠ ".." then
            s ← s.write "\n"
            s ← listDirectory l now n true false f.path s
      return s

/-! ### Options of `ls` -/

/-- The words for quoting styles, and the styles. -/
def quoteStyles : List (String × QuoteStyle) :=
  [("literal", .literal), ("shell", .shell), ("shell-always", .shellAlways),
    ("shell-escape", .shellEscape), ("shell-escape-always", .shellEscapeAlways), ("c", .c),
    ("c-maybe", .cMaybe), ("escape", .escape), ("locale", .locale), ("clocale", .c)]

/-- Complains about a style of times. -/
def noSuchTimeStyle (name word : String) : Action Nat := do
  complain name ("invalid argument " ++ quotedName word ++ " for 'time style'")
  warn "Valid arguments are:\n"
  for style in ["full-iso", "long-iso", "iso", "locale"] do
    warn ("  - [posix-]" ++ style ++ "\n")
  warn "  - +FORMAT (e.g., +%H:%M) for a 'date'-style format\n"
  warn ("Try '" ++ name ++ " --help' for more information.\n")
  return 2

/-- The formats of times in a style; none if there is no such style. -/
def timeFormats? (word : String) : Option (String × String) :=
  if word.startsWith "posix-" then some ("%b %e %H:%M", "%b %e  %Y")
  else
    match word with
    | "full-iso" => some ("%Y-%m-%d %H:%M:%S.%N %z", "%Y-%m-%d %H:%M:%S.%N %z")
    | "long-iso" => some ("%Y-%m-%d %H:%M", "%Y-%m-%d %H:%M")
    | "iso" => some ("%m-%d %H:%M", "%Y-%m-%d ")
    | "locale" => some ("%b %e %H:%M", "%b %e  %Y")
    | _ =>
      match word.toList with
      | '+' :: format =>
        match (String.ofList format).splitOn "\n" with
        | [one] => some (one, one)
        | old :: recent :: _ => some (recent, old)
        | [] => none
      | _ => none

/-- The listing with one option added that has a word as its argument, or the status of a
complaint. -/
def addListWord (l : Listing) (key text : String) : Action (Except Nat Listing) := do
  let choose (words : List (List String)) : Action (Except Nat String) :=
    wordChosen l.name ("--" ++ key) text words
  let always : List (List String) :=
    [["always", "yes", "force"], ["never", "no", "none"], ["auto", "tty", "if-tty"]]
  match key with
  | "color" =>
    if text = "" then return .ok { l with colored := true }
    match ← choose always with
    | .ok word => return .ok { l with colored := word == "always" }
    | .error status => return .error status
  | "classify" =>
    if text = "" then return .ok { l with indicator := .classify }
    match ← choose always with
    | .ok "always" => return .ok { l with indicator := .classify }
    | .ok _ => return .ok l
    | .error status => return .error status
  | "hyperlink" =>
    if text = "" then return .ok l
    match ← choose always with
    | .ok _ => return .ok l
    | .error status => return .error status
  | "indicator-style" =>
    match ← choose [["none"], ["slash"], ["file-type"], ["classify"]] with
    | .ok "none" => return .ok { l with indicator := .none }
    | .ok "slash" => return .ok { l with indicator := .slash }
    | .ok "file-type" => return .ok { l with indicator := .kind }
    | .ok _ => return .ok { l with indicator := .classify }
    | .error status => return .error status
  | "sort" =>
    match ← choose [["none"], ["time"], ["size"], ["extension"], ["version"], ["width"]] with
    | .ok "none" => return .ok { l with order := .none }
    | .ok "time" => return .ok { l with order := .time }
    | .ok "size" => return .ok { l with order := .size }
    | .ok "extension" => return .ok { l with order := .extension }
    | .ok "version" => return .ok { l with order := .version }
    | .ok _ => return .ok { l with order := .width }
    | .error status => return .error status
  | "format" =>
    match ← choose [["verbose", "long"], ["commas"], ["horizontal", "across"], ["vertical"],
        ["single-column"]] with
    | .ok "verbose" => return .ok { l with shape := .long }
    | .ok "commas" => return .ok { l with shape := .commas }
    | .ok "horizontal" => return .ok { l with shape := .across }
    | .ok "vertical" => return .ok { l with shape := .columns }
    | .ok _ => return .ok { l with shape := .single }
    | .error status => return .error status
  | "time" =>
    match ← choose [["atime", "access", "use"], ["ctime", "status"], ["mtime", "modification"],
        ["birth", "creation"]] with
    | .ok _ => return .ok l
    | .error status => return .error status
  | "quoting-style" =>
    match ← choose (quoteStyles.map fun s => [s.1]) with
    | .ok word => return .ok { l with quoting := (quoteStyles.lookup word).getD .literal }
    | .error status => return .error status
  | "time-style" =>
    match timeFormats? text with
    | some times => return .ok { l with times }
    | none => return .error (← noSuchTimeStyle l.name text)
  | "w" =>
    match wholeNumber? text false with
    | some n => return .ok { l with width := n.toNat }
    | none => return .error (← refuse l.name ("invalid line width: " ++ quotedName text) 2)
  | "T" =>
    match wholeNumber? text false with
    | some n => return .ok { l with tabs := n.toNat }
    | none => return .error (← refuse l.name ("invalid tab size: " ++ quotedName text) 2)
  | "block-size" =>
    match text with
    | "human-readable" => return .ok { l with sizes := .human 1024, blockSizes := .human 1024 }
    | "si" => return .ok { l with sizes := .human 1000, blockSizes := .human 1000 }
    | _ =>
      match amount? (if text.toList.head?.any Char.isDigit then text else "1" ++ text) with
      | some 0 | none =>
        return .error (← refuse l.name ("invalid --block-size argument " ++ quotedName text) 2)
      | some n => return .ok { l with sizes := .units n, blockSizes := .units n }
  | _ => return .ok l

/-- The listing with one option added that has no argument, or a pattern. -/
def addListFlag (l : Listing) (key text : String) : Listing :=
  match key with
  | "a" => { l with all := true }
  | "A" => { l with almost := true, all := false }
  | "b" => { l with quoting := .escape }
  | "B" => { l with ignored := Pattern.ofString "*~" :: Pattern.ofString ".*~" :: l.ignored }
  | "C" => { l with shape := .columns }
  | "d" => { l with itself := true }
  | "f" => { l with all := true, order := .none }
  | "F" => { l with indicator := .classify }
  | "g" => { l with shape := .long, owner := false }
  | "G" => { l with group := false }
  | "h" => { l with sizes := .human 1024, blockSizes := .human 1024 }
  | "si" => { l with sizes := .human 1000, blockSizes := .human 1000 }
  | "H" => { l with following := .operands }
  | "i" => { l with identities := true }
  | "I" => { l with ignored := Pattern.ofString text :: l.ignored }
  | "hide" => { l with hidden := Pattern.ofString text :: l.hidden }
  | "l" => { l with shape := .long }
  | "L" => { l with following := .always }
  | "m" => { l with shape := .commas }
  | "n" => { l with shape := .long, numeric := true }
  | "N" => { l with quoting := .literal, masked := false }
  | "o" => { l with shape := .long, group := false }
  | "p" => { l with indicator := .slash }
  | "file-type" => { l with indicator := .kind }
  | "q" => { l with masked := true }
  | "Q" => { l with quoting := .c }
  | "r" => { l with reversed := true }
  | "R" => { l with recursive := true }
  | "s" => { l with blocks := true }
  | "S" => { l with order := .size }
  | "t" => { l with order := .time }
  | "U" => { l with order := .none }
  | "v" => { l with order := .version }
  | "x" => { l with shape := .across }
  | "X" => { l with order := .extension }
  | "Z" => { l with contexts := true }
  | "1" => if l.shape = .long then l else { l with shape := .single }
  | "author" => { l with author := true }
  | "first" => { l with directoriesFirst := true }
  | "full-time" => { l with shape := .long, times := (timeFormats? "full-iso").getD l.times }
  | "zero" =>
    { l with
      shape := if l.shape = .long then .long else .single
      mark := '\x00', quoting := .literal, masked := false, colored := false }
  | _ => l

/-- The options of `ls`. -/
def listOptions : OptionTable :=
  { short := "aAbBcCdDfFgGhHiI:klLmnNopqQrRsStT:uUvw:xXZ1"
    long := [("all", "a"), ("almost-all", "A"), ("author", "author"), ("escape", "b"),
      ("block-size=", "block-size"), ("ignore-backups", "B"), ("color?", "color"),
      ("directory", "d"), ("dired", "D"), ("classify?", "classify"), ("file-type", "file-type"),
      ("format=", "format"), ("full-time", "full-time"), ("group-directories-first", "first"),
      ("no-group", "G"), ("human-readable", "h"), ("si", "si"), ("dereference-command-line", "H"),
      ("dereference-command-line-symlink-to-dir", "to-dir"), ("hide=", "hide"),
      ("hyperlink?", "hyperlink"), ("indicator-style=", "indicator-style"), ("inode", "i"),
      ("ignore=", "I"), ("kibibytes", "k"), ("dereference", "L"), ("numeric-uid-gid", "n"),
      ("literal", "N"), ("hide-control-chars", "q"), ("show-control-chars", "show"),
      ("quote-name", "Q"), ("quoting-style=", "quoting-style"), ("reverse", "r"),
      ("recursive", "R"), ("size", "s"), ("sort=", "sort"), ("time=", "time"),
      ("time-style=", "time-style"), ("tabsize=", "T"), ("width=", "w"), ("context", "Z"),
      ("zero", "zero")] }

/-- Whether what shows the output can show colours, as far as variables tell. -/
def showsColors : Action Bool := do
  let vars := (← memory).environment
  let isSet (name : String) : Bool := (vars.lookup name).any (· ≠ "")
  return isSet "LS_COLORS" || isSet "COLORTERM" ||
    (isSet "TERM" && vars.lookup "TERM" != some "dumb")

/-- How links are followed, if no option says so. -/
def Listing.settled (l : Listing) : Listing :=
  if l.following = .directories ∧ (l.itself ∨ l.indicator = .classify ∨ l.shape = .long) then
    { l with following := .never }
  else l

/-- An operand as it is listed, or why it cannot be. -/
def listedOperand (l : Listing) (path : String) : Action (Except IoError Listed) := do
  let plain ← inspect path false
  let target ← inspect path
  match l.following, plain, target with
  | .never, .ok info, _ => return .ok ⟨path, path, info, target.toOption⟩
  | .never, .error e, _ => return .error e
  | .directories, _, .ok info =>
    if info.kind = .directory then return .ok ⟨path, path, info, none⟩
    match plain with
    | .ok info => return .ok ⟨path, path, info, target.toOption⟩
    | .error e => return .error e
  | .directories, .ok info, .error e =>
    if e = .notFound ∨ e = .tooManyLinks then return .ok ⟨path, path, info, none⟩
    else return .error e
  | .directories, .error e, .error _ => return .error e
  | _, _, .ok info => return .ok ⟨path, path, info, none⟩
  | .operands, .ok info, .error _ => return .ok ⟨path, path, info, none⟩
  | _, _, .error e => return .error e

/-- `ls`: lists files and what directories hold. -/
def runLs : Tool := fun _ name args =>
  withOptions listOptions name args (fun found operands => do
  let mut l : Listing := { name }
  for (key, text) in found do
    match ← addListWord (addListFlag l key text) key text with
    | .ok next => l := next
    | .error status => return status
  l := l.settled
  if l.colored ∧ !(← showsColors) then l := { l with colored := false }
  let now ← call .clock
  let mut s : ListState := {}
  let mut files : List Listed := []
  let mut directories : List Listed := []
  for path in if operands = [] then ["."] else operands do
    match ← listedOperand l path with
    | .error e =>
      complain name ("cannot access " ++ quotedName path ++ ": " ++ e.reason)
      s := s.failed 2
    | .ok file =>
      if file.info.kind = .directory ∧ !l.itself then directories := directories ++ [file]
      else files := files ++ [file]
  if files ≠ [] then s ← s.write (← l.lines now files)
  let headed := 1 < operands.length || l.recursive
  let mut fresh := files.isEmpty
  for d in arranged l directories do
    if !fresh then s ← s.write "\n"
    fresh := false
    s ← listDirectory l now maxDepth headed true d.path s
  return s.status) 2

end ScriptLang.Shell.Tool

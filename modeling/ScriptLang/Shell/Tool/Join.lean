import ScriptLang.Shell.Tool.Alike

/-!
# Joining lines

`join` puts together the lines of two files that have a field in common, and `tsort` finds an order
of words in which the first word of each pair comes before the second.

## Main definitions

* `JoinStyle` — how lines are split and put together
* `JoinState` — the state of `join` between two lines
* `runJoin`, `runTsort` — the programs of these names
-/

namespace ScriptLang.Shell.Tool

/-! ### Fields -/

/-- A line, and its fields. -/
structure Row where
  line : String
  fields : List String

/-- A field in the output: the common one, or one of a file. -/
inductive OutputField where
  | common
  | of (second : Bool) (index : Nat)

/-- How lines are split and put together.  Fields are counted from zero. -/
structure JoinStyle where
  separator : Option Char := none
  field₁ : Nat := 0
  field₂ : Nat := 0
  ignoreCase : Bool := false
  /-- What stands for an empty field. -/
  filler : String := ""
  output : Option (List OutputField) := none
  /-- How many fields the lines of the files are given, if their first lines decide it. -/
  counts : Option (Nat × Nat) := none

namespace JoinStyle

/-- The fields of a line between blanks; a blank at the end is followed by one more field. -/
def blankFields : Nat → List Char → List String
  | 0, _ => []
  | n + 1, cs =>
    let field := cs.takeWhile (!isGap ·)
    match cs.drop field.length with
    | [] => [String.ofList field]
    | rest => String.ofList field :: blankFields n (rest.dropWhile isGap)

/-- A line with its fields. -/
def row (s : JoinStyle) (line : String) : Row :=
  let fields := match s.separator with
    | some c => if line = "" then [] else line.splitOn c.toString
    | none =>
      match line.toList.dropWhile isGap with
      | [] => []
      | cs => blankFields (cs.length + 1) cs
  ⟨line, fields⟩

/-- What a line is compared by. -/
def key (s : JoinStyle) (field : Nat) (r : Row) : String :=
  let text := (r.fields[field]?).getD ""
  if s.ignoreCase then text.map lowered else text

/-- A field of a line as it is written. -/
def shown (s : JoinStyle) (r : Option Row) (field : Nat) : String :=
  match r.bind fun r => r.fields[field]? with
  | some "" | none => s.filler
  | some text => text

/-- The line for two lines that belong together, or for one that is alone. -/
def joined (s : JoinStyle) (first second : Option Row) : String :=
  let common := match first with
    | some _ => s.shown first s.field₁
    | none => s.shown second s.field₂
  let others (r : Option Row) (field : Nat) (count : Option Nat) : List String :=
    let count := count.getD ((r.map fun r => r.fields.length).getD 0)
    ((List.range count).filter (· != field)).map (s.shown r)
  let pieces := match s.output with
    | some fields => fields.map fun
      | .common => common
      | .of second? index => s.shown (if second? then second else first) index
    | none =>
      common :: (others first s.field₁ (s.counts.map Prod.fst) ++
        others second s.field₂ (s.counts.map Prod.snd))
  (s.separator.getD ' ').toString.intercalate pieces

end JoinStyle

/-! ### Lines that belong together -/

/-- One of the two files that are joined. -/
structure JoinFile where
  name : String
  /-- The lines from the present one on. -/
  rest : List Row
  /-- The number of the present line. -/
  number : Nat := 1
  disordered : Bool := false

/-- The state of `join` between two lines. -/
structure JoinState where
  first : JoinFile
  second : JoinFile
  /-- Whether a line has been seen that belongs to no other. -/
  unpaired : Bool := false

/-- How `join` treats its files. -/
structure Joining where
  name : String
  style : JoinStyle
  check : OrderCheck
  mark : Char
  /-- Whether lines that belong together are written. -/
  pairs : Bool
  /-- Whether lines of the first file that belong to no other are written, and of the second. -/
  alone₁ : Bool
  alone₂ : Bool

namespace Joining

/-- Writes the line for two lines, or for one. -/
def write (j : Joining) (first second : Option Row) : Action Unit :=
  put (j.style.joined first second ++ j.mark.toString)

/-- Goes to the next line of a file, and complains if it is out of order; none if that ends the
program. -/
def advance (j : Joining) (field : Nat) (unpaired : Bool) (f : JoinFile) :
    Action (Option JoinFile) := do
  let next := { f with rest := f.rest.tail, number := f.number + 1 }
  match f.rest with
  | a :: b :: _ =>
    let checks := j.check == .always || (j.check == .unpaired && unpaired)
    if checks ∧ !f.disordered ∧ before (j.style.key field b) (j.style.key field a) then
      complain j.name (f.name ++ ":" ++ toString next.number ++ ": is not sorted: " ++ b.line)
      if j.check = .always then return none
      return some { next with disordered := true }
    return some next
  | _ => return some next

/-- Goes on in a file while its lines have a key. -/
def advancePast (j : Joining) (field : Nat) (unpaired : Bool) (key : String) :
    Nat → JoinFile → Action (Option JoinFile)
  | 0, f => return some f
  | n + 1, f => do
    match f.rest with
    | [] => return some f
    | r :: _ =>
      if j.style.key field r ≠ key then return some f
      match ← j.advance field unpaired f with
      | some f => advancePast j field unpaired key n f
      | none => return none

/-- Joins the lines while both files have some; none if the program ends with a complaint. -/
def merge (j : Joining) : Nat → JoinState → Action (Option JoinState)
  | 0, s => return some s
  | n + 1, s => do
    match s.first.rest, s.second.rest with
    | a :: _, b :: _ =>
      let key₁ := j.style.key j.style.field₁ a
      let key₂ := j.style.key j.style.field₂ b
      if key₁ = key₂ then
        let fuel := s.first.rest.length + s.second.rest.length + 1
        let some first ← j.advancePast j.style.field₁ s.unpaired key₁ fuel s.first | return none
        let some second ← j.advancePast j.style.field₂ s.unpaired key₂ fuel s.second | return none
        let those (before after : JoinFile) : List Row :=
          before.rest.take (before.rest.length - after.rest.length)
        if j.pairs then
          for x in those s.first first do
            for y in those s.second second do
              j.write (some x) (some y)
        merge j n { s with first, second }
      else if before key₁ key₂ then
        if j.alone₁ then j.write (some a) none
        let some first ← j.advance j.style.field₁ s.unpaired s.first | return none
        merge j n { s with first, unpaired := true }
      else
        if j.alone₂ then j.write none (some b)
        let some second ← j.advance j.style.field₂ s.unpaired s.second | return none
        merge j n { s with second, unpaired := true }
    | _, _ => return some s

/-- Goes over the lines of one file when the other one has no more; none if the program ends with a
complaint. -/
def finish (j : Joining) (field : Nat) (write : Option (Row → Action Unit)) (unpaired : Bool) :
    Nat → JoinFile → Action (Option JoinFile)
  | 0, f => return some f
  | n + 1, f => do
    match f.rest with
    | [] => return some f
    | r :: _ =>
      if let some write := write then write r
      match ← j.advance field unpaired f with
      | some f => finish j field write unpaired n f
      | none => return none

/-- Joins two files. -/
def run (j : Joining) (first second : JoinFile) : Action Nat := do
  let size := first.rest.length + second.rest.length + 2
  let some s ← j.merge size { first, second } | return 1
  let write₁ : Option (Row → Action Unit) := if j.alone₁ then some fun r => j.write (some r) none
    else none
  let write₂ : Option (Row → Action Unit) := if j.alone₂ then some fun r => j.write none (some r)
    else none
  let some first ← j.finish j.style.field₁ write₁ s.unpaired size s.first | return 1
  let some second ← j.finish j.style.field₂ write₂ s.unpaired size s.second | return 1
  if first.disordered ∨ second.disordered then
    return ← refuse j.name "input is not in sorted order"
  return 0

end Joining

/-! ### Options of `join` -/

/-- The number of a field, counted from zero, or what is wrong with it. -/
def joinField (text : String) : Except String Nat :=
  match wholeNumber? text false with
  | some n =>
    if n ≤ 0 then .error ("invalid field number: " ++ quotedName text) else .ok (n.toNat - 1)
  | none => .error ("invalid field number: " ++ quotedName text)

/-- The fields that a list names, or what is wrong with it. -/
def outputFields (list : String) : Except String (List OutputField) :=
  let pieces := (list.map fun c => if c = ' ' ∨ c = '\t' then ',' else c).splitOn ","
  pieces.mapM fun piece =>
    let invalid : Except String OutputField :=
      .error ("invalid field specifier: " ++ quotedName piece)
    match piece.toList with
    | ['0'] => .ok .common
    | '0' :: _ => invalid
    | '1' :: '.' :: n => (joinField (String.ofList n)).map (.of false)
    | '2' :: '.' :: n => (joinField (String.ofList n)).map (.of true)
    | '1' :: _ | '2' :: _ => invalid
    | _ => .error ("invalid file number in field spec: " ++ quotedName piece)

/-- The options of `join` as they have been read so far. -/
structure JoinOptions where
  separator : Option Char := none
  field₁ : Option Nat := none
  field₂ : Option Nat := none
  filler : Option String := none
  output : List OutputField := []
  auto : Bool := false

/-- The options with one more, or what is wrong with it. -/
def JoinOptions.add (o : JoinOptions) (option : String × String) : Except String JoinOptions :=
  let (key, text) := option
  let agree (present : Option Nat) (n : Nat) : Except String (Option Nat) :=
    match present with
    | some m =>
      if m = n then .ok (some n)
      else .error ("incompatible join fields " ++ toString m ++ ", " ++ toString n)
    | none => .ok (some n)
  match key with
  | "1" => do return { o with field₁ := ← agree o.field₁ (← joinField text) }
  | "2" => do return { o with field₂ := ← agree o.field₂ (← joinField text) }
  | "j" => do
    let n ← joinField text
    let field₁ ← agree o.field₁ n
    return { o with field₁, field₂ := ← agree o.field₂ n }
  | "e" =>
    if o.filler.any (· != text) then .error "conflicting empty-field replacement strings"
    else .ok { o with filler := some text }
  | "a" | "v" =>
    if text = "1" ∨ text = "2" then .ok o
    else .error ("invalid field number: " ++ quotedName text)
  | "o" =>
    if text = "auto" then .ok { o with auto := true }
    else (outputFields text).map fun fields => { o with output := o.output ++ fields }
  | "t" => do
    let c ← match text.toList with
      | [] => pure '\n'
      | [c] => pure c
      | ['\\', '0'] => pure '\x00'
      | _ => throw ("multi-character tab " ++ quotedName text)
    if o.separator.any (· != c) then throw "incompatible tabs"
    return { o with separator := some c }
  | _ => .ok o

/-- `join`: lines of two files that have a field in common. -/
def runJoin : Tool := fun _ name args =>
  withOptions
    { short := "a:e:ij:o:t:v:1:2:z"
      long := [("ignore-case", "i"), ("header", "header"), ("check-order", "check"),
        ("nocheck-order", "nocheck"), ("zero-terminated", "z")] }
    name args fun found operands => do
  match found.foldlM JoinOptions.add {} with
  | .error problem => refuse name problem
  | .ok o =>
  match operands with
  | [] => misused name "missing operand"
  | [one] => misused name ("missing operand after " ++ quotedName one)
  | [one, two] =>
    if one = "-" ∧ two = "-" then return ← refuse name "both files cannot be standard input"
    let problem (file : String) (e : IoError) : String :=
      (if e = .isDirectory then "read error" else fileName file) ++ ": " ++ e.reason
    match ← inputFrom one, ← inputFrom two with
    | .error e, _ => refuse name (problem one e)
    | _, .error e => refuse name (problem two e)
    | .ok a, .ok b =>
      let mark := lineMark found
      let style : JoinStyle :=
        { separator := o.separator, field₁ := o.field₁.getD 0, field₂ := o.field₂.getD 0
          ignoreCase := has found "i", filler := o.filler.getD ""
          output := if o.output = [] then none else some o.output }
      let rows (content : String) : List Row := (splitEnded mark content.toList).1.map style.row
      let rows₁ := rows a
      let rows₂ := rows b
      let size (rows : List Row) : Nat := (rows.head?.map fun r => r.fields.length).getD 0
      let style := if o.auto then { style with counts := some (size rows₁, size rows₂) } else style
      let asks (key file : String) : Bool := found.any fun o => o.1 == key && o.2 == file
      let j : Joining :=
        { name, style, check := orderCheck found, mark, pairs := !has found "v"
          alone₁ := asks "a" "1" || asks "v" "1", alone₂ := asks "a" "2" || asks "v" "2" }
      let headed := has found "header" && !(rows₁.isEmpty && rows₂.isEmpty)
      if headed then j.write rows₁.head? rows₂.head?
      let skipped := if headed then 1 else 0
      let file (name : String) (rows : List Row) : JoinFile :=
        { name, rest := rows.drop skipped, number := 1 + skipped }
      j.run (file one rows₁) (file two rows₂)
  | _ :: _ :: third :: _ => misused name ("extra operand " ++ quotedName third)

/-! ### Orders -/

/-- A word that is to be put in order. -/
structure Dependent where
  word : String
  /-- How many words have to come before it. -/
  waiting : Nat := 0
  /-- The words that have to come after it. -/
  later : List String := []
  done : Bool := false

/-- The words of an order, in the order of their bytes. -/
abbrev Dependents := List Dependent

namespace Dependents

/-- The words with one more among them. -/
def insert (ds : Dependents) (word : String) : Dependents :=
  match ds with
  | [] => [{ word }]
  | d :: later =>
    if d.word = word then ds
    else if before word d.word then { word } :: ds
    else d :: insert later word

/-- Changes what is known of a word. -/
def update (ds : Dependents) (word : String) (f : Dependent → Dependent) : Dependents :=
  ds.map fun d => if d.word = word then f d else d

/-- What is known of a word. -/
def get (ds : Dependents) (word : String) : Dependent :=
  (ds.find? (·.word == word)).getD { word }

/-- The words with the demand that one comes before another. -/
def relate (ds : Dependents) (pair : String × String) : Dependents :=
  let ds := (ds.insert pair.1).insert pair.2
  if pair.1 = pair.2 then ds
  else
    (ds.update pair.2 fun d => { d with waiting := d.waiting + 1 }).update pair.1 fun d =>
      { d with later := pair.2 :: d.later }

/-- Takes words from a queue; the words that wait for nothing any more are added to it. -/
def drain : Nat → Dependents → List String → Dependents × List String
  | 0, ds, _ => (ds, [])
  | _, ds, [] => (ds, [])
  | n + 1, ds, word :: queue =>
    let d := ds.get word
    let ds := ds.update word fun d => { d with done := true }
    let (ds, queue) := d.later.foldl (fun (ds, queue) next =>
      let ds := ds.update next fun d => { d with waiting := d.waiting - 1 }
      (ds, if (ds.get next).waiting = 0 then queue ++ [next] else queue)) (ds, queue)
    let (ds, out) := drain n ds queue
    (ds, word :: out)

/-- Looks for a loop: goes over the words that still wait, and follows a chain of words each of
which comes before the last one found.  The word at which the chain starts can be found once more.
Yields the words of the loop, and the demand that closes it. -/
def loopIn : Dependents → List String → Option (List String × String × String)
  | [], _ => none
  | d :: ds, chain =>
    if d.waiting = 0 then loopIn ds chain
    else
      match chain with
      | [] => loopIn ds [d.word]
      | last :: _ =>
        if !d.later.contains last then loopIn ds chain
        else if chain.dropLast.contains d.word then
          some (chain.takeWhile (· != d.word) ++ [d.word], d.word, last)
        else loopIn ds (d.word :: chain)

/-- Follows chains through the words again and again until there is a loop. -/
def findLoop (ds : Dependents) : Nat → Option (List String × String × String)
  | 0 => none
  | n + 1 => loopIn ((List.range (n + 1)).flatMap fun _ => ds) []

end Dependents

/-- `tsort`: words in an order that respects pairs. -/
def runTsort : Tool := fun _ name args =>
  withOptions { short := "" } name args fun _ operands => do
  if let extra :: _ := operands.drop 1 then
    return ← misused name ("extra operand " ++ quotedName extra)
  let file := operands.headD "-"
  match ← inputFrom file with
  | .error .isDirectory =>
    refuse name (fileName file ++ ": read error: " ++ IoError.isDirectory.reason)
  | .error e => refuse name (fileName file ++ ": " ++ e.reason)
  | .ok content =>
    let words := ((content.map fun c => if isGap c then ' ' else c).splitOn " ").filter (· != "")
    if words.length % 2 = 1 then
      return ← refuse name (fileName file ++ ": input contains an odd number of tokens")
    let rec pairs : List String → List (String × String)
      | a :: b :: later => (a, b) :: pairs later
      | _ => []
    let mut ds : Dependents := (pairs words).foldl Dependents.relate []
    let mut status := 0
    let mut queue := (ds.filter (·.waiting == 0)).map Dependent.word
    for _ in List.range (words.length + 1) do
      let (next, out) := ds.drain (words.length + 1) queue
      ds := next
      put (unlines out)
      match ds.findLoop (ds.length + 1) with
      | none => return status
      | some (loop, last, first) =>
        complain name (fileName file ++ ": input contains a loop:")
        for word in loop do
          complain name word
        status := 1
        ds := (ds.update first fun d => { d with waiting := d.waiting - 1 }).update last fun d =>
          { d with later := d.later.erase first }
        queue := (ds.filter fun d => d.waiting == 0 && !d.done).map Dependent.word
    return status

end ScriptLang.Shell.Tool

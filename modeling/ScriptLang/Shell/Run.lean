import ScriptLang.Shell.Expand
import ScriptLang.Shell.Own
import ScriptLang.Shell.Toolbox

/-!
# Carrying out commands

A shell reads a line of commands, carries it out, and reads the next one.  Commands that would run
side by side run one after the other: the commands of a pipeline from the first to the last, and a
command in the background at once.

## Main definitions

* `exec` — carries out a command
* `runText` — reads commands from a text and carries them out
* `shell` — what a command writes when a new shell carries it out
-/

namespace ScriptLang.Shell

/-- A connection whose word has been filled in. -/
inductive Connection where
  | file (fd : Nat) (how : Opening) (name : String)
  | copy (fd : Nat) (source : String)
  | document (fd : Nat) (id : Nat)

/-- The descriptor that a connection is about. -/
def Connection.fd : Connection → Nat
  | file fd .. | copy fd _ | document fd _ => fd

/-- The name of a command that stands behind `command` in a list of fields. -/
def commandBehind : List String → Option String
  | "command" :: later => commandBehind later
  | "-p" :: later => commandBehind later
  | name :: _ => some name
  | [] => none

/-- Whether arguments that look like assignments are treated as such behind some fields. -/
def assigns (fields : List String) : Bool :=
  (commandBehind fields).any fun name => name ∈ ["alias", "export", "local", "readonly"]

/-- What a command is after `command` has been taken off in front of it. -/
structure Unwrapped where
  fields : List String
  /-- Whether something was taken off. -/
  wrapped : Bool := false
  /-- Whether only the directories of the system are searched. -/
  standardPath : Bool := false

/-- Takes `command` off in front of a command, unless it only asks what a name stands for. -/
def unwrap : Nat → Unwrapped → Unwrapped
  | 0, u => u
  | n + 1, u =>
    match u.fields with
    | "command" :: later =>
      let (path, rest) : Bool × List String := match later with
        | "-p" :: rest => (true, rest)
        | rest => (false, rest)
      let rest := match rest with
        | "--" :: rest => rest
        | rest => rest
      match rest with
      | first :: _ =>
        if first.startsWith "-" ∧ first ≠ "-" then u
        else unwrap n ⟨rest, true, u.standardPath || path⟩
      | [] => u
    | _ => u

/-- The directories that every system has programs in. -/
def standardDirectories : List String :=
  ["/usr/sbin", "/usr/bin", "/sbin", "/bin"]

/-- What is said of a process that a signal has ended. -/
def signalText (signal : Nat) : String :=
  match signal with
  | 1 => "Hangup\n"
  | 3 => "Quit\n"
  | 6 => "Aborted\n"
  | 9 => "Killed\n"
  | 11 => "Segmentation fault\n"
  | 14 => "Alarm clock\n"
  | 15 => "Terminated\n"
  | _ => ""

/-- The program and its argument in the first line of a script. -/
def interpreter? (content : String) : Option (String × List String) :=
  if content.startsWith "#!" then
    let line := ((content.toList.drop 2).takeWhile (· != '\n')).dropWhile isSpace
    let path := line.takeWhile (!isSpace ·)
    let rest := (line.drop path.length).dropWhile isSpace
    let arg := (rest.reverse.dropWhile isSpace).reverse
    if path = [] then none
    else some (String.ofList path, if arg = [] then [] else [String.ofList arg])
  else none

/-- What is behind the last slash of a path. -/
def lastName (path : String) : String :=
  (path.splitOn "/").getLast?.getD path

/-- The memory of a new shell that another one starts. -/
def Memory.renewed (m : Memory) (name : String) (arguments : List String) (options : List Char) :
    Memory :=
  { settings := (m.settings.filter fun e => e.2.exported && e.1 != "OPTIND").map fun (name, v) =>
      (name, { v with readOnly := false })
    name, arguments, options
    descriptors := m.descriptors
    directory := m.directory
    traps := m.traps.filter fun t => t.2 == ""
    process := m.process + 1
    mask := m.mask }
  |> ([("IFS", " \t\n"), ("OPTIND", "1"), ("PS1", "# "), ("PS2", "> "), ("PS4", "+ "),
      ("PPID", toString m.process)]).foldl fun m (name, value) =>
        m.put name { value := some value, exported := ((m.find? name).any Variable.exported) }

/-- How a shell is asked to work by its arguments. -/
structure Invoked where
  options : List Char := []
  /-- Whether the first operand is a command, and not the name of a script. -/
  isCommand : Bool := false
  operands : List String := []

/-- Reads the arguments of a shell. -/
def Invoked.ofArguments : Nat → List String → Invoked → Except String Invoked
  | 0, _, i => .ok i
  | n + 1, args, i =>
    match args with
    | "--" :: rest | "-" :: rest => .ok { i with operands := rest }
    | arg :: rest =>
      match arg.toList with
      | sign :: c :: letters =>
        if sign = '-' ∨ sign = '+' then
          let letters := c :: letters
          let on := sign == '-'
          let known := letters.filter fun c => c != 'c' && c != 'o' && c != 'l'
          match known.find? fun c => !(optionNames.any fun o => o.2 == c) with
          | some c => .error ("Illegal option " ++ sign.toString ++ c.toString)
          | none =>
            let options := if on then i.options ++ known else i.options.filter (!known.contains ·)
            let i := { i with options, isCommand := i.isCommand || letters.contains 'c' }
            if letters.contains 'o' then
              match rest with
              | name :: rest =>
                match optionNames.lookup name with
                | some c => Invoked.ofArguments n rest { i with options := i.options ++ [c] }
                | none => .error ("Illegal option -o " ++ name)
              | [] => .ok i
            else Invoked.ofArguments n rest i
        else .ok { i with operands := args }
      | _ => .ok { i with operands := args }
    | [] => .ok i

/-- Lets a process run to its end, and yields its status. -/
def runProcess (act : Action Nat) : Action Nat := do
  match ← caught (apart (fun m => { m with command := none }) act) with
  | .ok status => return status % 256
  | .error (.killed signal) =>
    warn (signalText signal)
    return 128 + signal
  | .error _ => return (← memory).status

mutual

/-- Carries out a command.  What fails while it is `tested` does not end the shell. -/
def exec (fuel : Nat) (tested : Bool) (c : Command) : Action Nat := do
  match fuel with
  | 0 => fail "too many commands"
  | n + 1 =>
    if (← memory).has 'n' then return 0
    actOnSignals n
    let finish (status : Nat) : Action Nat := do
      setStatus status
      return status
    let checked (act : Action Nat) : Action Nat := do
      let status ← act
      setStatus status
      actOnSignals n
      if status ≠ 0 ∧ !tested ∧ (← memory).has 'e' then throw .leave
      return status
    match c with
    | .nothing => return 0
    | .simple line assignments words redirects =>
      checked (execSimple n tested line assignments words redirects)
    | .pipe commands => checked (execPipe n tested none commands)
    | .background body =>
      let status ← apart (fun m => { m with options := m.options.filter (· != 'e') }) do
        remember (·.connect 0 (some (← openChannel (.source []))))
        inSubshell n (exec n false body)
      let process ← modifyGet fun s => (s.nextProcess, { s with nextProcess := s.nextProcess + 1 })
      remember fun m => { m with children := ⟨process, status⟩ :: m.children }
      finish 0
    | .inverted body =>
      let status ← exec n true body
      finish (if status = 0 then 1 else 0)
    | .both first second =>
      let status ← exec n true first
      if status = 0 then exec n tested second else return status
    | .either first second =>
      let status ← exec n true first
      if status = 0 then return status else exec n tested second
    | .sequence first second =>
      let _ ← exec n tested first
      exec n tested second
    | .branch test yes no =>
      let status ← exec n true test
      match if status = 0 then yes else no with
      | .nothing => finish 0
      | chosen => exec n tested chosen
    | .loop till test body =>
      remember fun m => { m with loops := m.loops + 1 }
      let status ← ensuring (execLoop n tested till test body 0)
        (remember fun m => { m with loops := m.loops - 1 })
      finish status
    | .each line name words body =>
      remember fun m => { m with line }
      let values := (← words.mapM (wordFields (substitute n) n)).flatten
      remember fun m => { m with loops := m.loops + 1 }
      let status ← ensuring (execEach n tested name values body 0)
        (remember fun m => { m with loops := m.loops - 1 })
      finish status
    | .select line subject cases =>
      remember fun m => { m with line }
      let text ← wordText (substitute n) n subject
      let status ← execCases n tested text cases
      finish status
    | .subshell line body redirects =>
      remember fun m => { m with line }
      checked (do
        let connections ← redirects.mapM (fillRedirect n)
        inSubshell n do
          connections.forM (connect n)
          exec n tested body)
    | .redirected line body redirects =>
      remember fun m => { m with line }
      let connections ← redirects.mapM (fillRedirect n)
      let status ← connected n connections (return 2) (exec n tested body)
      finish status
    | .define name body =>
      remember fun m =>
        { m with functions := (name, body) :: m.functions.filter (·.1 != name) }
      finish 0
termination_by structural fuel

/-- Does what is to be done about the signals that have come. -/
def actOnSignals (fuel : Nat) : Action Unit := do
  match fuel with
  | 0 => return
  | n + 1 =>
    let m ← memory
    match m.pending with
    | [] => return
    | signal :: later =>
      remember fun m => { m with pending := later }
      let _ ← runText n ((m.traps.lookup signal).getD "") false
      setStatus m.status
      actOnSignals n
termination_by structural fuel

/-- The turns of a loop with a test. -/
def execLoop (fuel : Nat) (tested till : Bool) (test body : Command) (status : Nat) :
    Action Nat := do
  match fuel with
  | 0 => fail "too many turns"
  | n + 1 =>
    let turn : Action (Option Nat) := do
      let result ← exec n true test
      if (result == 0) == till then return none
      return some (← exec n tested body)
    match ← caught turn with
    | .ok none => return status
    | .ok (some status) => execLoop n tested till test body status
    | .error (.leaveLoops k) => if k ≤ 1 then return 0 else throw (.leaveLoops (k - 1))
    | .error (.nextTurn k) =>
      if k ≤ 1 then execLoop n tested till test body 0 else throw (.nextTurn (k - 1))
    | .error stop => throw stop
termination_by structural fuel

/-- The turns of a loop over values. -/
def execEach (fuel : Nat) (tested : Bool) (name : String) (values : List String) (body : Command)
    (status : Nat) : Action Nat := do
  match fuel with
  | 0 => fail "too many turns"
  | n + 1 =>
    match values with
    | [] => return status
    | value :: later =>
      assign name value
      match ← caught (exec n tested body) with
      | .ok status => execEach n tested name later body status
      | .error (.leaveLoops k) => if k ≤ 1 then return 0 else throw (.leaveLoops (k - 1))
      | .error (.nextTurn k) =>
        if k ≤ 1 then execEach n tested name later body 0 else throw (.nextTurn (k - 1))
      | .error stop => throw stop
termination_by structural fuel

/-- The first case with a pattern that stands for a text. -/
def execCases (fuel : Nat) (tested : Bool) (text : String) (cases : List (List Word × Command)) :
    Action Nat := do
  match fuel with
  | 0 => fail "too many cases"
  | n + 1 =>
    match cases with
    | [] => return 0
    | (words, body) :: later =>
      if ← anyAccepts n text words then
        match body with
        | .nothing => return 0
        | body => exec n tested body
      else execCases n tested text later
termination_by structural fuel

/-- Whether one of some patterns stands for a text. -/
def anyAccepts (fuel : Nat) (text : String) (words : List Word) : Action Bool := do
  match fuel with
  | 0 => fail "too many patterns"
  | n + 1 =>
    match words with
    | [] => return false
    | w :: later =>
      if (← wordPattern (substitute n) n w).accepts text then return true
      else anyAccepts n text later
termination_by structural fuel

/-- Does something in a subshell, and yields its status. -/
def inSubshell (fuel : Nat) (act : Action Nat) : Action Nat := do
  match fuel with
  | 0 => fail "too many commands"
  | n + 1 =>
    apart (fun m => { m with traps := m.traps.filter (·.2 == ""), pending := [] }) (endsHere n act)
termination_by structural fuel

/-- Does something at whose end the shell ends as well, and yields the status. -/
def endsHere (fuel : Nat) (act : Action Nat) : Action Nat := do
  match fuel with
  | 0 => fail "too many commands"
  | n + 1 =>
    match ← caught act with
    | .error (.killed signal) =>
      return 128 + signal
    | result =>
      if let .ok status := result then setStatus status
      match (← memory).traps.lookup "EXIT" with
      | none => return (← memory).status
      | some action =>
        let status := (← memory).status
        remember fun m => { m with traps := m.traps.filter (·.1 != "EXIT") }
        match ← caught (runText n action false) with
        | .error (.killed signal) => return 128 + signal
        | .error .leave => return (← memory).status
        | _ => return status
termination_by structural fuel

/-- The output of a command in a subshell. -/
def substitute (fuel : Nat) (body : Command) : Action String := do
  match fuel with
  | 0 => fail "too many commands"
  | n + 1 =>
    let id ← openChannel (.sink [] none)
    let status ← apart (·.connect 1 (some id)) (inSubshell n (exec n false body))
    remember fun m => { m with substituted := status }
    written id
termination_by structural fuel

/-- Carries out the commands of a pipeline; the first one reads from a channel if one is given. -/
def execPipe (fuel : Nat) (tested : Bool) (input : Option Nat) (commands : List Command) :
    Action Nat := do
  match fuel with
  | 0 => fail "too many commands"
  | n + 1 =>
    let reading (m : Memory) : Memory := if input.isSome then m.connect 0 input else m
    match commands with
    | [] => return 0
    | [last] => apart reading (inSubshell n (exec n tested last))
    | first :: later =>
      let id ← openChannel (.sink [] (some pipeRoom))
      let _ ← apart (fun m => (reading m).connect 1 (some id)) (inSubshell n (exec n tested first))
      let text ← written id
      execPipe n tested (some (← openChannel (.source text.toList))) later
termination_by structural fuel

/-- Fills in the word of a connection. -/
def fillRedirect (fuel : Nat) (r : Redirect) : Action Connection := do
  match fuel with
  | 0 => fail "too many connections"
  | n + 1 =>
    match r with
    | .file fd how target => return .file fd how (← wordText (substitute n) n target)
    | .copy fd source =>
      let text ← wordText (substitute n) n source
      let isDigit := text.length = 1 ∧ text.toList.all Char.isDigit
      if text ≠ "-" ∧ !isDigit then fail "Syntax error: Bad fd number"
      return .copy fd text
    | .document fd id => return .document fd id
termination_by structural fuel

/-- Makes a connection. -/
def connect (fuel : Nat) (c : Connection) : Action Unit := do
  match fuel with
  | 0 => fail "too many connections"
  | n + 1 =>
    match c with
    | .file fd how name =>
      let id ← openFor how name
      remember (·.connect fd (some id))
    | .copy fd "-" => remember (·.connect fd none)
    | .copy fd source =>
      match (← memory).channel? (valueOf 10 source.toList) with
      | some id => remember (·.connect fd (some id))
      | none => fail (source ++ ": Bad file descriptor")
    | .document fd id =>
      let body := ((← memory).documents.lookup id).getD []
      let text := textOf (plainChars (← fillWord (substitute n) n { full := false } body))
      let channel ← openChannel (.source text.toList)
      remember (·.connect fd (some channel))
termination_by structural fuel

/-- Does something with connections that are undone afterwards, or something else if they cannot be
made. -/
def connected (fuel : Nat) (connections : List Connection) (otherwise act : Action Nat) :
    Action Nat := do
  match fuel with
  | 0 => fail "too many connections"
  | n + 1 =>
    let before := (← memory).descriptors
    let undo : Action Unit := remember fun m =>
      connections.foldl (fun m c => m.connect c.fd (before.lookup c.fd)) m
    ensuring (do
      match ← caught (connections.forM (connect n)) with
      | .ok _ => act
      | .error .fault => otherwise
      | .error stop => throw stop) undo
termination_by structural fuel

/-- Fills in the words of a command one after the other. -/
def fillWords (fuel : Nat) (words : List Word) (before : List String) : Action (List String) := do
  match fuel with
  | 0 => fail "too many words"
  | n + 1 =>
    match words with
    | [] => return before
    | w :: later =>
      let fields ←
        match if assigns before then assignment? w else none with
        | some (name, value) => do
          pure [name ++ "=" ++ (← valueText (substitute n) n value)]
        | none => wordFields (substitute n) n w
      fillWords n later (before ++ fields)
termination_by structural fuel

/-- Makes the assignments in front of a command; `covering` says that they end with it. -/
def makeAssignments (fuel : Nat) (covering : Bool) (assignments : List (String × Word)) :
    Action (List String) := do
  match fuel with
  | 0 => fail "too many assignments"
  | n + 1 =>
    match assignments with
    | [] => return []
    | (name, value) :: later =>
      let text ← valueText (substitute n) n value
      if covering then cover name
      assign name text
      if covering then
        remember fun m =>
          m.put name { (m.find? name).getD { value := none } with exported := true }
      return (name ++ "=" ++ text) :: (← makeAssignments n covering later)
termination_by structural fuel

/-- Carries out a simple command. -/
def execSimple (fuel : Nat) (tested : Bool) (line : Nat) (assignments : List (String × Word))
    (words : List Word) (redirects : List Redirect) : Action Nat := do
  match fuel with
  | 0 => fail "too many commands"
  | n + 1 =>
    remember fun m => { m with line, substituted := 0 }
    let all ← fillWords n words []
    let u := unwrap (all.length + 1) { fields := all }
    let name := u.fields.headD ""
    let found ← if u.fields = [] then pure (.own true) else lookUp name (!u.wrapped)
    let special := match found with
      | .own special => special && !u.wrapped
      | _ => false
    -- Assignments in front of a special command, or without a command, last.
    let covering := !special
    let connections ← redirects.mapM (fillRedirect n)
    let errors := (← memory).channel? 2
    let run : Action Nat := do
      let assigned ← makeAssignments n covering assignments
      if (← memory).has 'x' then
        if let some id := errors then
          let start := ((← memory).value? "PS4").getD "+ "
          let _ ← writeInto id (start ++ " ".intercalate (assigned ++ all) ++ "\n")
      if u.fields = [] then return (← memory).substituted
      execFound n tested found u
    let covered : Action Nat := do
      if covering then
        remember fun m => { m with covered := [] :: m.covered }
        ensuring run uncover
      else run
    let otherwise : Action Nat := do
      setStatus 2
      if special ∧ u.fields ≠ [] then throw .fault
      return 2
    if name = "exec" ∧ u.fields.length = 1 then
      match ← caught (connections.forM (connect n)) with
      | .ok _ => covered
      | .error .fault => otherwise
      | .error stop => throw stop
    else connected n connections otherwise covered
termination_by structural fuel

/-- Carries out what a command stands for. -/
def execFound (fuel : Nat) (tested : Bool) (found : Found) (u : Unwrapped) : Action Nat := do
  match fuel with
  | 0 => fail "too many commands"
  | n + 1 =>
    let name := u.fields.headD ""
    let args := u.fields.tail
    match found with
    | .own special =>
      let outer := (← memory).command
      remember fun m => { m with command := some name }
      let result ← ensuring (caught (execOwn n tested name args))
        (remember fun m => { m with command := outer })
      match result with
      | .ok status => return status
      | .error .fault =>
        if special ∧ !u.wrapped then throw .fault else return (← memory).status
      | .error stop => throw stop
    | .function body => execFunction n tested args body
    | .program path =>
      if u.standardPath ∧ !name.contains '/' then
        match ← searchIn standardDirectories name with
        | .ok path => execProgram n path name args
        | .error _ => execProgram n path name args
      else execProgram n path name args
    | .nothing e =>
      complaint (name ++ ": " ++ reasonFor e "not found")
      return 127
termination_by structural fuel

/-- Carries out a command of the shell's own. -/
def execOwn (fuel : Nat) (tested : Bool) (name : String) (args : List String) : Action Nat := do
  match fuel with
  | 0 => fail "too many commands"
  | n + 1 =>
    match name with
    | "eval" =>
      let args := if args.head? = some "--" then args.tail else args
      if args = [] then return 0 else runText n (" ".intercalate args) tested
    | "." => runScriptHere n (if args.head? = some "--" then args.tail else args)
    | "exec" =>
      let args := if args.head? = some "--" then args.tail else args
      match args with
      | [] => return 0
      | target :: args =>
        let found ← if target.contains '/' then pure (.ok target) else search target
        match found with
        | .ok path =>
          setStatus (← execProgram n path target args)
          remember fun m => { m with traps := [] }
          throw .leave
        | .error e =>
          complaint (target ++ ": " ++ reasonFor e "not found")
          setStatus (if e = .accessDenied then 126 else 127)
          throw .leave
    | "command" =>
      let (found, names) ← options "pvV" args
      match names with
      | [] => return 0
      | target :: _ =>
        if given found 'v' ∨ given found 'V' then describe target (!given found 'v') else return 0
    | _ =>
      match ownCommand? name with
      | some run => run args
      | none => return 0
termination_by structural fuel

/-- Carries out a function. -/
def execFunction (fuel : Nat) (tested : Bool) (args : List String) (body : Command) :
    Action Nat := do
  match fuel with
  | 0 => fail "too many commands"
  | n + 1 =>
    let m ← memory
    remember fun m => { m with
      arguments := args, loops := 0, calls := m.calls + 1, optionOffset := none
      covered := [] :: m.covered }
    let result ← caught (exec n tested body)
    uncover
    remember fun now => { now with
      arguments := m.arguments, loops := m.loops, calls := m.calls, optionOffset := m.optionOffset }
    match result with
    | .ok status => return status
    | .error .goBack => return (← memory).status
    | .error stop => throw stop
termination_by structural fuel

/-- Reads commands from a text and carries them out. -/
def runText (fuel : Nat) (text : String) (tested : Bool) : Action Nat := do
  match fuel with
  | 0 => fail "too many commands"
  | n + 1 =>
    -- What cannot be part of a word is passed over.
    let chars := text.toList.filter (· != '\x00')
    runLines n tested { rest := chars, nextDocument := (← memory).nextDocument } 0
termination_by structural fuel

/-- Reads lines of commands and carries them out. -/
def runLines (fuel : Nat) (tested : Bool) (source : Source) (status : Nat) : Action Nat := do
  match fuel with
  | 0 => fail "too many lines"
  | n + 1 =>
    let m ← memory
    match (readLine n).run { source with aliases := m.aliases } with
    | .error e =>
      remember fun m => { m with line := e.line }
      fail ("Syntax error: " ++ e.message)
    | .ok (none, _) => return status
    | .ok (some command, source) =>
      remember fun m => { m with
        documents := source.documents ++ m.documents, nextDocument := source.nextDocument }
      let status ← match command with
        | .nothing => pure status
        | command => exec n tested command
      runLines n tested { source with documents := [] } status
termination_by structural fuel

/-- `.`: carries out the commands of a file in this shell. -/
def runScriptHere (fuel : Nat) (args : List String) : Action Nat := do
  match fuel with
  | 0 => fail "too many commands"
  | n + 1 =>
    match args with
    | [] => return 0
    | name :: _ =>
      let path ← if name.contains '/' then pure name
        else
          let directories := directoriesIn (((← memory).value? "PATH").getD "")
          match ← directories.findM? fun d => do
            return (← kindAt? (inDirectory d name)) = some .file with
          | some d => pure (inDirectory d name)
          | none => fail (name ++ ": not found")
      match ← scriptAt path with
      | .error e => fail ("cannot open " ++ path ++ ": " ++ reasonFor e "No such file")
      | .ok text =>
        remember fun m => { m with command := some path, calls := m.calls + 1 }
        let result ← caught (runText n text false)
        remember fun m => { m with calls := m.calls - 1 }
        match result with
        | .ok status => return status
        | .error .goBack => return (← memory).status
        | .error stop => throw stop
termination_by structural fuel

/-- Starts a program and waits for its end. -/
def execProgram (fuel : Nat) (path name : String) (args : List String) : Action Nat := do
  match fuel with
  | 0 => fail "too many programs"
  | n + 1 =>
    let refuse (e : IoError) : Action Nat := do
      complaint (name ++ ": " ++ reasonFor e "not found")
      return if e ∈ [.notFound, .notDirectory, .tooManyLinks, .nameTooLong] then 127 else 126
    match ← launch n path name args with
    | .error e => refuse e
    | .ok status => return status
termination_by structural fuel

/-- Starts the program at a path, and yields its status, or says why it cannot be started. -/
def launch (fuel : Nat) (path name : String) (args : List String) :
    Action (Except IoError Nat) := do
  match fuel with
  | 0 => fail "too many programs"
  | n + 1 =>
    match ← inspect path with
    | .error e => return .error e
    | .ok info =>
      if info.kind ≠ .file ∨ info.mode &&& 0o111 = 0 then return .error .accessDenied
      match ← contentOf path with
      | .error e => return .error e
      | .ok content =>
        if !content.startsWith "\x7fELF" then
          match interpreter? content with
          | some (program, more) => launch n program program (more ++ path :: args)
          | none => return .ok (← runProcess (runShell n path args [] content))
        else
          let target ← match ← call (.resolve (← pathOf path)) with
            | .ok target => pure (ofText target)
            | .error _ => pure path
          let found := [lastName path, lastName target].filterMap fun name => tools.lookup name
          match found.head? with
          | some tool => return .ok (← runProcess (tool (launchByName n) name args))
          | none =>
            if lastName path ∈ ["sh", "dash", "bash"] ∨ lastName target ∈ ["dash", "bash"] then
              return .ok (← runProcess (runShellProgram n name args))
            else return .error .notFound
termination_by structural fuel

/-- Starts the program with a name. -/
def launchByName (fuel : Nat) (name : String) (args : List String) :
    Action (Except IoError Nat) := do
  match fuel with
  | 0 => fail "too many programs"
  | n + 1 =>
    let found ← if name.contains '/' then pure (.ok name) else search name
    match found with
    | .ok path => launch n path name args
    | .error e => return .error e
termination_by structural fuel

/-- Carries out the commands of a text in a new shell. -/
def runShell (fuel : Nat) (name : String) (arguments : List String) (options : List Char)
    (text : String) : Action Nat := do
  match fuel with
  | 0 => fail "too many shells"
  | n + 1 =>
    remember fun m => m.renewed name arguments options
    let here ← workingDirectory
    remember fun m => m.put "PWD" { value := some here, exported := (m.find? "PWD").isSome }
    endsHere n (runText n text false)
termination_by structural fuel

/-- The shell as a program. -/
def runShellProgram (fuel : Nat) (name : String) (args : List String) : Action Nat := do
  match fuel with
  | 0 => fail "too many shells"
  | n + 1 =>
    let refuse (status : Nat) (text : String) : Action Nat := do
      warn (name ++ ": 0: " ++ text ++ "\n")
      return status
    match Invoked.ofArguments (args.length + 1) args {} with
    | .error text => refuse 2 text
    | .ok i =>
      match i.isCommand, i.operands with
      | true, [] => refuse 2 "-c requires an argument"
      | true, command :: rest =>
        runShell n (rest.headD name) rest.tail i.options command
      | false, operands =>
        if operands = [] ∨ i.options.contains 's' then
          match ← readAll 0 with
          | .ok text => runShell n name operands i.options text
          | .error _ => return 2
        else
          let script := operands.headD ""
          match ← scriptAt script with
          | .ok text => runShell n script operands.tail i.options text
          | .error e => refuse 2 ("cannot open " ++ script ++ ": " ++ reasonFor e "No such file")
termination_by structural fuel

end

/-- How much a shell may do. -/
def ample : Nat := 1000000000000000000

/-- What a command writes when a new shell carries it out, with nothing to read. -/
def shell (command : String) : Process Written := do
  let environment ← Process.call .environment
  let settings := environment.map fun (name, value) =>
    (ofText name, { value := some (ofText value), exported := true : Variable })
  let memory : Memory :=
    { settings, name := "sh", descriptors := [(0, 0), (1, 1), (2, 2)], process := 4241 }
  let state : State :=
    { memory, channels := #[.source [], .sink [] none, .sink [] none], nextProcess := 4250 }
  let act : Action Written := do
    let _ ← runProcess (runShell ample "sh" [] [] (ofText command))
    return { out := toBytes (← written 1), err := toBytes (← written 2) }
  let (result, _) ← act state
  match result with
  | .ok w => return w
  | .error _ => return {}

end ScriptLang.Shell

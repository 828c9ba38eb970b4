import ScriptLang.Shell.Syntax
import ScriptLang.Shell.System

/-!
# The state of a shell

What a shell remembers belongs to it alone: a subshell works on a copy, and what it changes is
forgotten when it ends.  The channels behind the descriptors are shared by all of them, because
what one has read or written stays read or written.

## Main definitions

* `Variable`, `Memory` — what one shell remembers
* `Channel` — what a descriptor leads to
* `State` — the memory of the running shell and all channels
-/

namespace ScriptLang.Shell

/-- A variable.  One without a value may still be marked. -/
structure Variable where
  value : Option String
  exported : Bool := false
  readOnly : Bool := false

/-- A process that was started in the background. -/
structure Child where
  process : Nat
  status : Nat

/-- What one shell remembers. -/
structure Memory where
  /-- The variables by their names, in the order in which they were made. -/
  settings : List (String × Variable)
  /-- The variables that functions have covered, innermost function first. -/
  covered : List (List (String × Option Variable)) := []
  /-- The name of the shell or of the script, for `$0` and for complaints. -/
  name : String
  arguments : List String := []
  functions : List (String × Command) := []
  aliases : List (String × String) := []
  /-- The programs that have been used, last one first. -/
  used : List String := []
  /-- The texts of the here-documents that have been read. -/
  documents : List (Nat × Word) := []
  nextDocument : Nat := 0
  /-- The options that are set, by their letters. -/
  options : List Char := []
  /-- The status of the last command. -/
  status : Nat := 0
  /-- The status of the last substitution of a command, for a command without a name. -/
  substituted : Nat := 0
  /-- The channels behind the descriptors. -/
  descriptors : List (Nat × Nat)
  /-- The working directory, once the shell has left the first one. -/
  directory : Option String := none
  /-- What is to be done when a signal comes; the empty name stands for the end of the shell. -/
  traps : List (String × String) := []
  /-- The signals that have come, but have not been acted on. -/
  pending : List String := []
  /-- In how many loops the shell is. -/
  loops : Nat := 0
  /-- In how many functions and scripts the shell is, from which it can go back. -/
  calls : Nat := 0
  line : Nat := 1
  /-- The built-in command that is at work, for complaints. -/
  command : Option String := none
  process : Nat
  children : List Child := []
  /-- The permission bits that new files do not get. -/
  mask : Nat := 0o022
  /-- How many characters of an argument `getopts` has read, if it has begun one. -/
  optionOffset : Option Nat := none

/-- What a descriptor leads to. -/
inductive Channel where
  /-- Characters that are still to be read. -/
  | source (rest : List Char)
  /-- What has been written, newest first, and how much more can be. -/
  | sink (written : List String) (room : Option Nat)
  /-- A file, and the place in it. -/
  | file (path : String) (offset : Nat) (append readable writable : Bool)

/-- The memory of the running shell and all channels. -/
structure State where
  memory : Memory
  channels : Array Channel
  /-- The number of the next process. -/
  nextProcess : Nat

namespace Memory

/-- The variable with a name. -/
def find? (m : Memory) (name : String) : Option Variable :=
  m.settings.lookup name

/-- The value of the variable with a name. -/
def value? (m : Memory) (name : String) : Option String :=
  (m.find? name).bind Variable.value

/-- The memory with another variable under a name. -/
def put (m : Memory) (name : String) (v : Variable) : Memory :=
  if (m.find? name).isSome then
    { m with settings := m.settings.map fun e => if e.1 = name then (name, v) else e }
  else { m with settings := m.settings ++ [(name, v)] }

/-- The memory without a variable. -/
def drop (m : Memory) (name : String) : Memory :=
  { m with settings := m.settings.filter (·.1 != name) }

/-- Whether an option is set. -/
def has (m : Memory) (option : Char) : Bool :=
  m.options.contains option

/-- The characters at which words are split. -/
def separators (m : Memory) : String :=
  (m.value? "IFS").getD " \t\n"

/-- The names and values that programs are given. -/
def environment (m : Memory) : List (String × String) :=
  m.settings.filterMap fun (name, v) =>
    if v.exported then v.value.map fun value => (name, value) else none

/-- The channel behind a descriptor. -/
def channel? (m : Memory) (fd : Nat) : Option Nat :=
  m.descriptors.lookup fd

/-- The memory with a descriptor that leads to a channel, or to none. -/
def connect (m : Memory) (fd : Nat) (channel : Option Nat) : Memory :=
  let others := m.descriptors.filter (·.1 != fd)
  { m with descriptors := match channel with
    | some c => (fd, c) :: others
    | none => others }

end Memory

end ScriptLang.Shell

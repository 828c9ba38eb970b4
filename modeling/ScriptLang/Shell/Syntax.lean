/-!
# The syntax of shell commands

Words keep apart what was quoted and what was not, because only the latter is split into fields and
compared with the names of files.

## Main definitions

* `Part`, `Use`, `Word` — words, and what they do with the values of parameters
* `Redirect` — a connection of a command to a file or to another connection
* `Command` — commands
-/

namespace ScriptLang.Shell

/-- How a file is opened for a command. -/
inductive Opening where
  | read
  /-- Creates the file or empties it, unless the shell has been told to spare files. -/
  | write
  /-- Creates the file or empties it in any case. -/
  | overwrite
  | append
  | readWrite
  deriving DecidableEq, Repr

mutual

/-- A part of a word. -/
inductive Part where
  | text (chars : String) (quoted : Bool)
  | parameter (name : String) (use : Use) (quoted : Bool)
  | arithmetic (expr : List Part) (quoted : Bool)
  | command (body : Command) (quoted : Bool)

/-- What is made of the value of a parameter. -/
inductive Use where
  | value
  | length
  /-- The word stands in for a missing value, or for an empty one if `orEmpty` says so. -/
  | orElse (orEmpty : Bool) (word : List Part)
  /-- The same, and the word becomes the value. -/
  | orAssign (orEmpty : Bool) (word : List Part)
  /-- A missing value ends the shell with the word as its complaint. -/
  | orFail (orEmpty : Bool) (word : List Part)
  /-- The word stands in for a value that is there. -/
  | ifThere (butEmpty : Bool) (word : List Part)
  /-- The value without what a pattern matches at its start or at its end. -/
  | trim (atEnd longest : Bool) (pattern : List Part)
  /-- Nothing that makes sense. -/
  | bad

/-- A connection that a command asks for. -/
inductive Redirect where
  | file (fd : Nat) (how : Opening) (target : List Part)
  /-- `fd` goes where the descriptor that the word names goes. -/
  | copy (fd : Nat) (source : List Part)
  /-- `fd` reads the here-document with a number. -/
  | document (fd : Nat) (id : Nat)

/-- A command. -/
inductive Command where
  | nothing
  /-- Assignments, words and connections; the line is kept for complaints. -/
  | simple (line : Nat) (assignments : List (String × List Part)) (words : List (List Part))
      (redirects : List Redirect)
  /-- Commands of which each reads what the one before it writes. -/
  | pipe (commands : List Command)
  | background (body : Command)
  | inverted (body : Command)
  | both (first second : Command)
  | either (first second : Command)
  | sequence (first second : Command)
  | branch (test yes no : Command)
  /-- Goes on while the test succeeds, or until it does. -/
  | loop (till : Bool) (test body : Command)
  | each (line : Nat) (name : String) (words : List (List Part)) (body : Command)
  | select (line : Nat) (subject : List Part) (cases : List (List (List Part) × Command))
  | subshell (line : Nat) (body : Command) (redirects : List Redirect)
  | redirected (line : Nat) (body : Command) (redirects : List Redirect)
  | define (name : String) (body : Command)

end

/-- A word before anything in it is filled in. -/
abbrev Word := List Part

/-- The text of a word in which nothing is quoted or to be filled in. -/
def plainText? : Word → Option String
  | [.text chars false] => some chars
  | _ => none

/-- A word that stands for all arguments. -/
def Word.arguments : Word :=
  [.parameter "@" .value true]

/-- The name and the value that a word assigns, if it does. -/
def assignment? (w : Word) : Option (String × Word) :=
  match w with
  | .text chars false :: later =>
    let name := chars.toList.takeWhile fun c => c.isAlphanum || c == '_'
    match name, chars.toList.drop name.length with
    | first :: _, '=' :: value =>
      if first.isDigit then none
      else
        let rest : Word := if value = [] then later else .text (String.ofList value) false :: later
        some (String.ofList name, rest)
    | _, _ => none
  | _ => none

end ScriptLang.Shell

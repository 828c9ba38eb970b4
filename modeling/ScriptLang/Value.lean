import ScriptLang.Tree

/-!
# Values

What expressions evaluate to.  Functions are compared by where they come from: a declared function
is the declaration it was made from, in the unit of source text that holds it, and a built-in
function is its name.

## Main definitions

* `Builtin` — the built-in functions with their names and arities
* `UserFunction`, `Callable` — what can be called
* `Value` — the values; `==` compares them
* `Value.text` — the text that printing a value writes
-/

namespace ScriptLang

/-- The built-in functions. -/
inductive Builtin where
  | clock
  | input
  | substring
  | len
  | floor
  | isInt
  | toInt
  | toLower
  | replace
  | wait
  | random
  | readFile
  | writeFile
  | fileExists
  | executeCommand
  deriving DecidableEq, Repr

namespace Builtin

/-- The name under which scripts call a built-in function. -/
def name : Builtin → String
  | clock => "clock"
  | input => "input"
  | substring => "substring"
  | len => "len"
  | floor => "floor"
  | isInt => "isInt"
  | toInt => "toInt"
  | toLower => "toLower"
  | replace => "replace"
  | wait => "wait"
  | random => "random"
  | readFile => "readFile"
  | writeFile => "writeFile"
  | fileExists => "fileExists"
  | executeCommand => "executeCommand"

/-- How many arguments a script has to pass. -/
def arity : Builtin → Nat
  | clock => 0
  | input | len | floor | isInt | toInt | toLower | wait | readFile | fileExists => 1
  | random | executeCommand => 2
  | substring | replace | writeFile => 3

/-- All built-in functions. -/
def all : List Builtin :=
  [clock, input, substring, len, floor, isInt, toInt, toLower, replace, wait, random, readFile,
    writeFile, fileExists, executeCommand]

theorem mem_all (b : Builtin) : b ∈ all := by cases b <;> decide

end Builtin

/-- A function declared in a script: its declaration, and the number of the unit of source text
that the declaration stands in. -/
structure UserFunction where
  unit : Nat
  decl : FunDecl

/-- Whether two functions were made from one declaration.  Within a unit the place of its name tells
a declaration from all others. -/
def UserFunction.same (f g : UserFunction) : Bool :=
  f.unit == g.unit && decide (f.decl.ident.span = g.decl.ident.span)

/-- What can be called. -/
inductive Callable where
  | builtin (b : Builtin)
  | user (f : UserFunction)

namespace Callable

/-- The name of a function. -/
def name : Callable → String
  | builtin b => b.name
  | user f => f.decl.ident.lexeme

/-- How many arguments a call has to pass. -/
def arity : Callable → Nat
  | builtin b => b.arity
  | user f => f.decl.params.length

/-- Whether two functions are the same one. -/
def same : Callable → Callable → Bool
  | builtin a, builtin b => a == b
  | user f, user g => f.same g
  | _, _ => false

/-- The text that printing a function writes. -/
def text : Callable → String
  | builtin _ => "<native fn>"
  | user f => "<fn " ++ f.decl.ident.lexeme ++ ">"

end Callable

/-- A value. -/
inductive Value where
  | nil
  | bool (b : Bool)
  | number (x : Float)
  | string (s : String)
  | callable (f : Callable)

namespace Value

/-- The value of a constant. -/
def ofConstant : Constant → Value
  | .nil => nil
  | .bool b => bool b
  | .number x => number x
  | .string s => string s

/-- Whether a value counts as true: all do but nil and false. -/
def isTruthy : Value → Bool
  | nil | bool false => false
  | _ => true

/-- The text that printing a value writes. -/
def text : Value → String
  | nil => "無"
  | bool b => if b then "true" else "false"
  | number x => Number.render x
  | string s => s
  | callable f => f.text

/-- The name of a value's type. -/
def typeName : Value → String
  | nil => "nil"
  | bool _ => "boolean"
  | number _ => "number"
  | string _ => "string"
  | callable _ => "function"

/-- Whether two values are equal.  Values of different types never are. -/
def same : Value → Value → Bool
  | nil, nil => true
  | bool a, bool b => a == b
  | number x, number y => x == y
  | string s, string t => s == t
  | callable f, callable g => f.same g
  | _, _ => false

instance : BEq Value := ⟨same⟩

end Value

end ScriptLang

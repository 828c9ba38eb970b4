import ScriptLang.Host
import ScriptLang.Value

/-!
# Runtime errors

What can go wrong while a script runs, each cause with its wording and its kind.

## Main definitions

* `RuntimeFault` — the causes
* `RuntimeError` — a cause with the token at which it was found
* `RuntimeError.report` — the line shown to the user
-/

namespace ScriptLang

/-- The kinds of runtime errors. -/
inductive FaultKind where
  | type
  | arity
  | undefinedVariable
  | redefinition
  | range
  | io
  deriving DecidableEq, Repr

/-- The name of a kind. -/
def FaultKind.label : FaultKind → String
  | type => "Type"
  | arity => "Arity"
  | undefinedVariable => "UndefinedVariable"
  | redefinition => "Redefinition"
  | range => "Range"
  | io => "Io"

/-- What can go wrong while a script runs. -/
inductive RuntimeFault where
  | undefinedVariable (name : String)
  | redefinition (name : String)
  | wrongArity (expected found : Nat)
  | operandNotNumber
  | operandsNotNumbers
  | operandsNotAddable
  | unknownOperator (op : String)
  | notCallable
  | substringText
  | substringStart
  | substringLength
  | substringStartBounds
  | substringLengthBounds
  | lenMissing
  | lenArgument (got : String)
  | floorMissing
  | floorArgument (got : String)
  | toIntMissing
  | toIntArgument (got : String)
  | toIntFraction (text : String)
  | toIntUnreadable (text : String)
  | toLowerArgument
  | replaceInput
  | replaceFrom
  | replaceTo
  | waitMissing
  | waitArgument (got : String)
  | waitNegative
  | waitTooLong
  | randomLeast
  | randomGreatest
  | randomEmpty
  | readFilePath
  | writeFilePath
  | writeFileContent
  | writeFileAppend
  | fileExistsPath
  | commandText
  | commandPrint
  | outputFailed (why : IoError)
  | promptFailed (why : IoError)
  | inputFailed (why : IoError)
  | readFileFailed (path : String) (why : IoError)
  | writeFileFailed (path : String) (why : IoError)
  | commandFailed (command : String) (why : IoError)
  deriving DecidableEq

namespace RuntimeFault

/-- The kind of a fault. -/
def kind : RuntimeFault → FaultKind
  | undefinedVariable _ => .undefinedVariable
  | redefinition _ => .redefinition
  | wrongArity .. => .arity
  | substringStartBounds | substringLengthBounds | toIntFraction _ | waitNegative | waitTooLong
  | randomEmpty => .range
  | outputFailed _ | promptFailed _ | inputFailed _ | readFileFailed .. | writeFileFailed ..
  | commandFailed .. => .io
  | _ => .type

/-- The wording of a fault. -/
def message : RuntimeFault → String
  | undefinedVariable name => "Variable '" ++ name ++ "' is undefined."
  | redefinition name => "Variable '" ++ name ++ "' is already defined in this scope."
  | wrongArity expected found =>
    "Expected " ++ toString expected ++ " arguments but got " ++ toString found ++ "."
  | operandNotNumber => "Operand must be a number."
  | operandsNotNumbers => "Operands must be numbers."
  | operandsNotAddable => "Operands must be numbers. Use '&' to concatenate strings."
  | unknownOperator op => "Unknown binary operator '" ++ op ++ "'."
  | notCallable => "Can only call functions."
  | substringText => "First argument to substring must be a string."
  | substringStart => "Second argument to substring (start index) must be an integer."
  | substringLength => "Third argument to substring (length) must be an integer."
  | substringStartBounds => "Substring start index is out of bounds."
  | substringLengthBounds => "Substring length is out of bounds or extends beyond string length."
  | lenMissing => "Cannot get length of nil."
  | lenArgument got => "Argument to len must be a string. Got " ++ got ++ "."
  | floorMissing => "Cannot call floor on nil."
  | floorArgument got => "Operand for floor must be a number. Got " ++ got ++ "."
  | toIntMissing => "Cannot call toInt on nil."
  | toIntArgument got => "Argument to toInt must be a string. Got " ++ got ++ "."
  | toIntFraction text =>
    "String '" ++ text ++
      "' represents a number with a decimal part, cannot convert to integer."
  | toIntUnreadable text => "String '" ++ text ++ "' cannot be converted to a valid number."
  | toLowerArgument => "Argument to toLower() must be a string."
  | replaceInput => "First argument to replace() (inputString) must be a string."
  | replaceFrom => "Second argument to replace() (stringToReplace) must be a string."
  | replaceTo => "Third argument to replace() (replacementString) must be a string."
  | waitMissing => "Argument to wait() cannot be nil."
  | waitArgument got => "Argument to wait() must be a number (seconds). Got " ++ got ++ "."
  | waitNegative => "Wait duration cannot be negative."
  | waitTooLong => "Wait duration is too large to be represented."
  | randomLeast => "First argument to random() (min) must be an integer."
  | randomGreatest => "Second argument to random() (max) must be an integer."
  | randomEmpty => "Min argument to random() cannot be greater than max argument."
  | readFilePath => "Argument to readFile must be a string (file path)."
  | writeFilePath => "First argument to writeFile (file path) must be a string and not nil."
  | writeFileContent => "Second argument to writeFile (content) must be a string and not nil."
  | writeFileAppend => "Third argument to writeFile (append) must be a boolean."
  | fileExistsPath => "Argument to fileExists() must be a string (file path)."
  | commandText =>
    "First argument to executeCommand (command string) must be a string and not nil."
  | commandPrint => "Second argument to executeCommand (print output) must be a boolean."
  | outputFailed why => "Error writing output: " ++ why.message ++ "."
  | promptFailed why => "Error writing prompt: " ++ why.message ++ "."
  | inputFailed why => "Error reading input: " ++ why.message ++ "."
  | readFileFailed path why => "Error reading file '" ++ path ++ "': " ++ why.message ++ "."
  | writeFileFailed path why => "Error writing to file '" ++ path ++ "': " ++ why.message ++ "."
  | commandFailed command why =>
    "Error executing command '" ++ command ++ "': " ++ why.message ++ "."

end RuntimeFault

/-- A fault and the token at which it was found. -/
structure RuntimeError where
  token : Token
  fault : RuntimeFault
  deriving DecidableEq

namespace RuntimeError

/-- The kind of an error. -/
def kind (e : RuntimeError) : FaultKind :=
  e.fault.kind

/-- The wording of an error. -/
def message (e : RuntimeError) : String :=
  e.fault.message

/-- The line shown to the user. -/
def report (e : RuntimeError) : String :=
  "[line " ++ toString e.token.line ++ "] Runtime error at '" ++ e.token.lexeme ++ "': " ++
    e.message

end RuntimeError

end ScriptLang

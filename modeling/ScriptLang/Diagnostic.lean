import ScriptLang.Token

/-!
# Diagnostics

What can be wrong with the text of a script, and the reports about it.

## Main definitions

* `SyntaxFault` — the causes, each with its wording
* `Diagnostic` — a cause with the place where it was found
* `Token.diagnose` — a report about a token
-/

namespace ScriptLang

/-- What can be wrong with the text of a script. -/
inductive SyntaxFault where
  | unexpectedCharacter (c : Char)
  | unterminatedString
  | unknownEscape (c : Char)
  | functionNameExpected
  | parenAfterFunctionNameExpected
  | tooManyParameters
  | parameterNameExpected
  | parenAfterParametersExpected
  | braceBeforeBodyExpected
  | variableNameExpected
  | variableNamedByNumber
  | equalAfterVariableExpected
  | semicolonAfterVariableExpected
  | initialiserExpected (name found : String)
  | semicolonAfterPrintExpected
  | semicolonAfterExpressionExpected
  | braceAfterBlockExpected
  | parenAfterIfExpected
  | parenAfterIfConditionExpected
  | parenAfterWhileExpected
  | parenAfterWhileConditionExpected
  | parenAfterForExpected
  | semicolonAfterLoopConditionExpected
  | parenAfterForClausesExpected
  | topLevelReturn
  | semicolonAfterReturnExpected
  | invalidAssignmentTarget
  | tooManyArguments
  | parenAfterArgumentsExpected
  | parenAfterGroupExpected
  | expressionExpectedAtStart (found : String)
  | expressionExpectedAfterOperator (op : String)
  | expressionExpectedAfterParen
  | expressionExpectedBefore (found : String)
  | trailingTokens (last : String)
  /-- Anything else, in the words of whoever reports it. -/
  | noted (text : String)
  deriving DecidableEq

/-- The wording of a fault. -/
def SyntaxFault.message : SyntaxFault → String
  | unexpectedCharacter c => "Unexpected character '" ++ c.toString ++ "'."
  | unterminatedString => "Unterminated string."
  | unknownEscape c => "Unrecognized escape sequence '\\" ++ c.toString ++ "'."
  | functionNameExpected => "Expect function name."
  | parenAfterFunctionNameExpected => "Expect '(' after function name."
  | tooManyParameters => "Can't have more than 255 parameters."
  | parameterNameExpected => "Expect parameter name."
  | parenAfterParametersExpected => "Expect ')' after parameters."
  | braceBeforeBodyExpected => "Expect '\x7b' before function body."
  | variableNameExpected => "Expected a variable name."
  | variableNamedByNumber => "Expected a variable name. Variable name cannot be a number."
  | equalAfterVariableExpected => "Expected '=' after variable name."
  | semicolonAfterVariableExpected => "Expected a ';' after variable declaration."
  | initialiserExpected name found =>
    "Expected initialiser after declaration of variable '" ++ name ++ "' but got '" ++ found ++ "'."
  | semicolonAfterPrintExpected => "Expected ';' at the end of the line."
  | semicolonAfterExpressionExpected => "Expect ';' after expression."
  | braceAfterBlockExpected => "Expect '\x7d' after block."
  | parenAfterIfExpected => "'(' after the 'if' is expected."
  | parenAfterIfConditionExpected => "')' after if condition is expected."
  | parenAfterWhileExpected => "'(' after 'while' is expected"
  | parenAfterWhileConditionExpected => "')' after condition is expected"
  | parenAfterForExpected => "'(' after 'for' is expected"
  | semicolonAfterLoopConditionExpected => "';' after loop condition is expected"
  | parenAfterForClausesExpected => "Expect ')' after for clauses."
  | topLevelReturn => "Can't return from top-level code."
  | semicolonAfterReturnExpected => "Expect ';' after return value."
  | invalidAssignmentTarget => "Invalid assignment target."
  | tooManyArguments => "Can't have more than 255 arguments."
  | parenAfterArgumentsExpected => "Expect ')' after arguments."
  | parenAfterGroupExpected => "Expect ')' after expression."
  | expressionExpectedAtStart found =>
    "Expected expression at start of line but found '" ++ found ++ "'"
  | expressionExpectedAfterOperator op => "Expected expression after operator '" ++ op ++ "'"
  | expressionExpectedAfterParen => "Expected expression after '('"
  | expressionExpectedBefore found => "Expected expression before '" ++ found ++ "'"
  | trailingTokens last => "Unexpected characters after expression '" ++ last ++ "'."
  | noted text => text

/-- A fault and the place where it was found. -/
structure Diagnostic where
  fault : SyntaxFault
  line : Nat
  /-- The place in words, as it stands in the report: nothing for a fault in the characters, the
  token or the end of the source otherwise. -/
  place : String
  span : Span
  deriving DecidableEq

/-- The report in one line. -/
def Diagnostic.render (d : Diagnostic) : String :=
  "[line " ++ toString d.line ++ "] Error" ++ d.place ++ ": " ++ d.fault.message

/-- The place of a token in words. -/
def Token.place (t : Token) : String :=
  if t.kind = .eof then " at end" else " at '" ++ t.lexeme ++ "'"

/-- A report about a fault found at a token. -/
def Token.diagnose (t : Token) (fault : SyntaxFault) : Diagnostic :=
  { fault, line := t.line, place := t.place, span := t.span }

end ScriptLang

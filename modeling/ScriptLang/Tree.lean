import ScriptLang.Token

/-!
# Syntax trees

The expressions and statements of a script.  A node keeps the tokens at which errors are reported:
operators, names, the closing parenthesis of a call, and the words `print` and `return`.  A `for`
loop has no node of its own; it is a `while` loop in a block.

## Main definitions

* `Expr`, `Stmt` — expressions and statements
* `FunDecl` — the declaration of a function, as function values keep it
-/

namespace ScriptLang

/-- A constant in an expression. -/
inductive Constant where
  | nil
  | bool (value : Bool)
  | number (value : Float)
  | string (value : String)
  deriving DecidableEq

/-- The constant that a literal token stands for; a token without a value stands for nil. -/
def Constant.ofLiteral : Option TokenLiteral → Constant
  | none => nil
  | some (.number x) => number x
  | some (.string s) => string s

/-- An expression. -/
inductive Expr where
  | constant (value : Constant)
  | group (inner : Expr)
  | unary (op : Token) (operand : Expr)
  | binary (op : Token) (left right : Expr)
  /-- `and` and `or`, whose right operand is not always evaluated. -/
  | logical (op : Token) (left right : Expr)
  | name (ident : Token)
  | assign (ident : Token) (value : Expr)
  | call (callee : Expr) (paren : Token) (args : List Expr)

/-- A statement. -/
inductive Stmt where
  | expression (expr : Expr)
  | print (keyword : Token) (expr : Expr)
  | var (ident : Token) (init : Option Expr)
  | block (body : List Stmt)
  | branch (condition : Expr) (yes : Stmt) (no : Option Stmt)
  | loop (condition : Expr) (body : Stmt)
  | function (ident : Token) (params : List Token) (body : List Stmt)
  | ret (keyword : Token) (value : Option Expr)

/-- The declaration of a function. -/
structure FunDecl where
  ident : Token
  params : List Token
  body : List Stmt

end ScriptLang

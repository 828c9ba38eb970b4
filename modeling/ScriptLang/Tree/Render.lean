import ScriptLang.Tree
import ScriptLang.Text.Quoted

/-!
# Trees as text

A tree is written fully parenthesised.  Operators stand between their operands; every other node
starts with a word or a sign that names its form.
-/

namespace ScriptLang

/-- The text of a constant. -/
def Constant.render : Constant → String
  | nil => "nil"
  | bool b => if b then "true" else "false"
  | number x => Number.render x
  | string s => Text.quote s

mutual

/-- The text of an expression. -/
def Expr.render : Expr → String
  | .constant value => value.render
  | .group inner => "(group " ++ inner.render ++ ")"
  | .unary op operand => "(" ++ op.lexeme ++ " " ++ operand.render ++ ")"
  | .binary op left right => "(" ++ left.render ++ " " ++ op.lexeme ++ " " ++ right.render ++ ")"
  | .logical op left right => "(" ++ left.render ++ " " ++ op.lexeme ++ " " ++ right.render ++ ")"
  | .name ident => ident.lexeme
  | .assign ident value => "(= " ++ ident.lexeme ++ " " ++ value.render ++ ")"
  | .call callee _ args => "(call " ++ callee.render ++ Expr.renderEach args ++ ")"

/-- The texts of expressions, each after a space. -/
def Expr.renderEach : List Expr → String
  | [] => ""
  | e :: rest => " " ++ e.render ++ Expr.renderEach rest

end

mutual

/-- The text of a statement. -/
def Stmt.render : Stmt → String
  | .expression expr => "(; " ++ expr.render ++ ")"
  | .print _ expr => "(print " ++ expr.render ++ ")"
  | .var ident none => "(var " ++ ident.lexeme ++ ")"
  | .var ident (some init) => "(var " ++ ident.lexeme ++ " = " ++ init.render ++ ")"
  | .block body => "(block" ++ Stmt.renderEach body ++ ")"
  | .branch condition yes no =>
    "(if " ++ condition.render ++ " " ++ yes.render ++ Stmt.renderElse no ++ ")"
  | .loop condition body => "(while " ++ condition.render ++ " " ++ body.render ++ ")"
  | .function ident params body =>
    "(fun " ++ ident.lexeme ++ "(" ++ ", ".intercalate (params.map Token.lexeme) ++ ")" ++
      Stmt.renderEach body ++ ")"
  | .ret _ none => "(return)"
  | .ret _ (some value) => "(return " ++ value.render ++ ")"

/-- The texts of statements, each after a space. -/
def Stmt.renderEach : List Stmt → String
  | [] => ""
  | s :: rest => " " ++ s.render ++ Stmt.renderEach rest

/-- The text of a branch that may be absent, after a space. -/
def Stmt.renderElse : Option Stmt → String
  | none => ""
  | some s => " " ++ s.render

end

end ScriptLang

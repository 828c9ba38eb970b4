import ScriptLang.Tree.ReadExpr

/-!
# Reading statements

A script is a list of declarations.  A declaration that cannot be read is reported and left out,
and reading goes on where the next statement seems to start.

## Main definitions

* `Stmt.forLoop` — the tree of a `for` loop
* `Stmt.readDeclaration` — reads a declaration, or reports why there is none
* `Script.ofTokens` — reads a whole script
-/

namespace ScriptLang

/-- The tree of a `for` loop: the increment runs behind the body in a block of its own, a missing
condition always holds, and the initialiser runs before the loop in a block around both. -/
def Stmt.forLoop (init : Option Stmt) (condition increment : Option Expr) (body : Stmt) : Stmt :=
  let step := match increment with
    | none => body
    | some increment => .block [body, .expression increment]
  let loop := .loop (condition.getD (.constant (.bool true))) step
  match init with
  | none => loop
  | some init => .block [init, loop]

/-! ### Parts without nested statements -/

/-- Reads an expression unless the token at the cursor is of kind `closing`, and then that token. -/
def Expr.readUntil (closing : TokenKind) (why : SyntaxFault) (c : Cursor) :
    Reading c.left (Option Expr) :=
  match c.take? (· == closing) with
  | some t => .done none t.after t.shorter
  | none =>
    (Expr.read c).andThen fun expr c₁ h₁ =>
      ((c₁.expect closing why).behind h₁).map fun _ => some expr

/-- Reads an expression and the token of kind `closing` behind it. -/
def Expr.readThen (closing : TokenKind) (why : SyntaxFault) (c : Cursor) : Reading c.left Expr :=
  (Expr.read c).andThen fun expr c₁ h₁ => ((c₁.expect closing why).behind h₁).map fun _ => expr

/-- Reads an expression between parentheses, as it stands behind `if` and `while`. -/
def Expr.readCondition (opening closing : SyntaxFault) (c : Cursor) : Reading c.left Expr :=
  (c.expect .leftParen opening).andThen fun _ c₁ h₁ =>
    (Expr.readThen .rightParen closing c₁).behind h₁

/-- Reads an expression statement. -/
def Stmt.readExpression (c : Cursor) : Reading c.left Stmt :=
  (Expr.readThen .semicolon .semicolonAfterExpressionExpected c).map .expression

/-- Reads a print statement behind its keyword. -/
def Stmt.readPrint (keyword : Token) (c : Cursor) : Reading c.left Stmt :=
  (Expr.readThen .semicolon .semicolonAfterPrintExpected c).map (.print keyword)

/-- Reads a return statement behind its keyword.  One outside of functions is reported, but read. -/
def Stmt.readReturn (inFunction : Bool) (keyword : Token) (c : Cursor) : Reading c.left Stmt :=
  -- The value is read all the same, so that its own faults are found too.
  (Expr.readUntil .semicolon .semicolonAfterReturnExpected
    (c.reportIf (!inFunction) (keyword.diagnose .topLevelReturn))).map (.ret keyword)

/-- What is wrong where the name of a variable should be. -/
def Cursor.variableExpected (c : Cursor) : SyntaxFault :=
  if c.peek.kind = .number then .variableNamedByNumber else .variableNameExpected

/-- Reads a variable declaration behind its keyword. -/
def Stmt.readVar (c : Cursor) : Reading c.left Stmt :=
  (c.expect .ident c.variableExpected).andThen fun ident c₁ h₁ =>
    -- A string here means that the equals sign was forgotten, which deserves a word of its own.
    if c₁.check .string then (c₁.failAt .equalAfterVariableExpected).behind h₁
    else
      match c₁.take? (· == .equal) with
      | some equals =>
        ((Expr.readThen .semicolon .semicolonAfterVariableExpected equals.after).behind
          (equals.further h₁)).map fun init => .var ident (some init)
      | none =>
        ((c₁.expect .semicolon (.initialiserExpected ident.lexeme c₁.peek.lexeme)).behind h₁).map
          fun _ => .var ident none

/-- Reads the parameters of a function behind the first `count` ones, and the closing
parenthesis. -/
def Stmt.readParams (count : Nat) (c : Cursor) : Reading c.left (List Token) :=
  ((c.limit count .tooManyParameters).expect .ident .parameterNameExpected).andThen
    fun param c₁ h₁ =>
      match c₁.take? (· == .comma) with
      | some comma =>
        ((Stmt.readParams (count + 1) comma.after).behind (comma.further h₁)).map
          fun later => param :: later
      | none =>
        ((c₁.expect .rightParen .parenAfterParametersExpected).behind h₁).map fun _ => [param]
termination_by c.left
decreasing_by exact comma.further h₁

/-- Reads the name and the parameters of a function and the brace that opens its body. -/
def Stmt.readHead (c : Cursor) : Reading c.left (Token × List Token) :=
  (c.expect .ident .functionNameExpected).andThen fun ident c₁ h₁ =>
    ((c₁.expect .leftParen .parenAfterFunctionNameExpected).behind h₁).andThen fun _ c₂ h₂ =>
      let params : Reading c₂.left (List Token) :=
        match c₂.take? (· == .rightParen) with
        | some closing => .done [] closing.after closing.shorter
        | none => Stmt.readParams 0 c₂
      (params.behind h₂).andThen fun params c₃ h₃ =>
        ((c₃.expect .leftBrace .braceBeforeBodyExpected).behind h₃).map fun _ => (ident, params)

/-- Reads the three clauses of a `for` loop between their parentheses. -/
def Stmt.readClauses (c : Cursor) : Reading c.left (Option Stmt × Option Expr × Option Expr) :=
  (c.expect .leftParen .parenAfterForExpected).andThen fun _ c₁ h₁ =>
    let init : Reading c₁.left (Option Stmt) :=
      match c₁.take? (· == .semicolon), c₁.take? (· == .varWord) with
      | some t, _ => .done none t.after t.shorter
      | none, some t => ((Stmt.readVar t.after).behind t.shorter).map some
      | none, none => (Stmt.readExpression c₁).map some
    (init.behind h₁).andThen fun init c₂ h₂ =>
      ((Expr.readUntil .semicolon .semicolonAfterLoopConditionExpected c₂).behind h₂).andThen
        fun condition c₃ h₃ =>
          ((Expr.readUntil .rightParen .parenAfterForClausesExpected c₃).behind h₃).map
            fun increment => (init, condition, increment)

/-! ### Statements -/

/-- What reading a declaration at a cursor yields: the statement, unless it was faulty, and the
cursor after it. -/
structure Resumed (c : Cursor) where
  stmt : Option Stmt
  after : Cursor
  shorter : after.left < c.left

/-- Reports the fault of a declaration and moves to where the next one seems to start. -/
def Reading.resume {c : Cursor} (r : Reading c.left Stmt) (pos : 0 < c.left) : Resumed c :=
  match r with
  | .done stmt after h => ⟨some stmt, after, h⟩
  -- Synchronising skips a token even if the fault was at the first one; hence the reading ends.
  | .fault d after h =>
    ⟨none, (after.report d).synchronize, Cursor.left_synchronize_report_lt d h pos⟩

theorem Cursor.left_pos {c : Cursor} {t : Token} {rest : List Token} (h : c.rest = t :: rest) :
    0 < c.left := by simp [Cursor.left, h]

mutual

/-- Reads a declaration where there are tokens to come. -/
def Stmt.readDeclaration (inFunction : Bool) (c : Cursor) (pos : 0 < c.left) : Resumed c :=
  let reading : Reading c.left Stmt :=
    match c.take? (· == .funWord), c.take? (· == .varWord) with
    | some t, _ => (Stmt.readFunction t.after).behind t.shorter
    | none, some t => (Stmt.readVar t.after).behind t.shorter
    | none, none => Stmt.read inFunction c
  reading.resume pos
termination_by (c.left, 2)
decreasing_by
  · exact Prod.Lex.left _ _ t.shorter
  · exact Prod.Lex.right _ (by decide)

/-- Reads a function declaration behind its keyword. -/
def Stmt.readFunction (c : Cursor) : Reading c.left Stmt :=
  (Stmt.readHead c).andThen fun head c₁ h₁ =>
    ((Stmt.readBody true c₁).behind h₁).map fun body => .function head.1 head.2 body
termination_by (c.left, 1)
decreasing_by exact Prod.Lex.left _ _ h₁

/-- Reads declarations up to the brace that closes them. -/
def Stmt.readBody (inFunction : Bool) (c : Cursor) : Reading c.left (List Stmt) :=
  match h : c.rest with
  | [] => c.failAt .braceAfterBlockExpected
  | _ :: _ =>
    match c.take? (· == .rightBrace) with
    | some closing => .done [] closing.after closing.shorter
    | none =>
      -- A faulty declaration has been reported and leaves no statement, but the body goes on.
      let first := Stmt.readDeclaration inFunction c (Cursor.left_pos h)
      ((Stmt.readBody inFunction first.after).behind first.shorter).map
        fun later => first.stmt.toList ++ later
termination_by (c.left, 3)
decreasing_by
  · exact Prod.Lex.right _ (by decide)
  · exact Prod.Lex.left _ _ first.shorter

/-- Reads a statement that declares nothing. -/
def Stmt.read (inFunction : Bool) (c : Cursor) : Reading c.left Stmt :=
  match c.take? (fun _ => true) with
  | none => Stmt.readExpression c
  | some t =>
    match t.token.kind with
    | .forWord =>
      ((Stmt.readClauses t.after).behind t.shorter).andThen fun clauses c₁ h₁ =>
        ((Stmt.read inFunction c₁).behind h₁).map
          (Stmt.forLoop clauses.1 clauses.2.1 clauses.2.2)
    | .ifWord =>
      ((Expr.readCondition .parenAfterIfExpected .parenAfterIfConditionExpected t.after).behind
        t.shorter).andThen fun condition c₁ h₁ =>
          ((Stmt.read inFunction c₁).behind h₁).andThen fun yes c₂ h₂ =>
            -- The innermost branch asks first, so it gets the `else`.
            match c₂.take? (· == .elseWord) with
            | none => .done (.branch condition yes none) c₂ h₂
            | some other =>
              ((Stmt.read inFunction other.after).behind (other.further h₂)).map
                fun no => .branch condition yes (some no)
    | .printWord => (Stmt.readPrint t.token t.after).behind t.shorter
    | .returnWord => (Stmt.readReturn inFunction t.token t.after).behind t.shorter
    | .whileWord =>
      ((Expr.readCondition .parenAfterWhileExpected .parenAfterWhileConditionExpected
        t.after).behind t.shorter).andThen fun condition c₁ h₁ =>
          ((Stmt.read inFunction c₁).behind h₁).map (.loop condition)
    | .leftBrace => ((Stmt.readBody inFunction t.after).behind t.shorter).map .block
    | _ => Stmt.readExpression c
termination_by (c.left, 1)
decreasing_by
  · exact Prod.Lex.left _ _ h₁
  · exact Prod.Lex.left _ _ h₁
  · exact Prod.Lex.left _ _ (other.further h₂)
  · exact Prod.Lex.left _ _ h₁
  · exact Prod.Lex.left _ _ t.shorter

end

/-- Reads declarations up to the end: the statements, and the cursor there. -/
def Stmt.readAll (c : Cursor) : List Stmt × Cursor :=
  match h : c.rest with
  | [] => ([], c)
  | _ :: _ =>
    let first := Stmt.readDeclaration false c (Cursor.left_pos h)
    let later := Stmt.readAll first.after
    (first.stmt.toList ++ later.1, later.2)
termination_by c.left
decreasing_by exact first.shorter

/-- The statements of a script, and the faults found in it. -/
structure Script where
  stmts : List Stmt
  diagnostics : List Diagnostic

/-- The script of a list of tokens. -/
def Script.ofTokens (tokens : List Token) : Script :=
  match Cursor.start? tokens with
  | none => ⟨[], []⟩
  | some c =>
    let all := Stmt.readAll c
    ⟨all.1, all.2.reported⟩

end ScriptLang

import ScriptLang.Cursor
import ScriptLang.Tree

/-!
# Reading expressions

Assignment binds weakest and to the right.  Then come six levels of operators that bind to the
left, then prefix operators, then calls, then literals, names and groups.

## Main definitions

* `Level` — the levels of binary operators
* `Expr.read` — reads an expression at a cursor
-/

namespace ScriptLang

/-- How many parameters or arguments a function may have. -/
def maxArguments : Nat := 255

/-- The levels of binary operators, from the weakest to the tightest. -/
inductive Level where
  | disjunction
  | conjunction
  | equality
  | comparison
  | sum
  | product
  deriving DecidableEq, Repr

namespace Level

/-- Whether an operator belongs to a level. -/
def has (l : Level) (kind : TokenKind) : Bool :=
  match l with
  | disjunction => kind == .orWord
  | conjunction => kind == .andWord
  | equality => kind == .bangEqual || kind == .equalEqual
  | comparison =>
    kind == .greater || kind == .greaterEqual || kind == .lesser || kind == .lesserEqual
  | sum => kind == .minus || kind == .plus || kind == .ampersand
  | product => kind == .slash || kind == .star

/-- The level of the operands; none for prefix expressions. -/
def tighter? : Level → Option Level
  | disjunction => some conjunction
  | conjunction => some equality
  | equality => some comparison
  | comparison => some sum
  | sum => some product
  | product => none

/-- The node of an operator of a level. -/
def node (l : Level) (op : Token) (left right : Expr) : Expr :=
  match l with
  | disjunction | conjunction => .logical op left right
  | _ => .binary op left right

/-- How many levels there are from this one on. -/
def rank : Level → Nat
  | disjunction => 6
  | conjunction => 5
  | equality => 4
  | comparison => 3
  | sum => 2
  | product => 1

/-- The same for the level of operands. -/
def rank? (l : Option Level) : Nat :=
  (l.map rank).getD 0

theorem rank?_tighter? (l : Level) : rank? l.tighter? < rank? (some l) := by
  cases l <;> decide

end Level

/-- What is wrong where an expression should start: the wording depends on the token before it. -/
def Cursor.expressionExpected (c : Cursor) : SyntaxFault :=
  match c.previous with
  | none => .expressionExpectedAtStart c.peek.lexeme
  | some p =>
    if p.kind.isArithmetic then .expressionExpectedAfterOperator p.lexeme
    else if p.kind = .leftParen then .expressionExpectedAfterParen
    else .expressionExpectedBefore c.peek.lexeme

/-- The cursor, with a fault if `count` arguments or parameters are as many as there may be. -/
def Cursor.limit (c : Cursor) (count : Nat) (why : SyntaxFault) : Cursor :=
  c.reportIf (maxArguments ≤ count) (c.peek.diagnose why)

@[simp] theorem Cursor.left_limit (c : Cursor) (count : Nat) (why : SyntaxFault) :
    (c.limit count why).left = c.left := rfl

/-- The expression that a token is on its own. -/
def Expr.ofToken? (t : Token) : Option Expr :=
  match t.kind with
  | .falseWord => some (.constant (.bool false))
  | .trueWord => some (.constant (.bool true))
  | .nilWord => some (.constant .nil)
  | .number | .string => some (.constant (.ofLiteral t.literal))
  | .ident => some (.name t)
  | _ => none

/-- What reading an assignment yields.  Only a name can be assigned to; anything else is reported,
and the assignment is left out. -/
def Expr.assignment {n : Nat} (target : Expr) (equals : Token) (value : Expr) (after : Cursor)
    (h : after.left < n) : Reading n Expr :=
  match target with
  | .name ident => .done (.assign ident value) after h
  | _ => .done target (after.report (equals.diagnose .invalidAssignmentTarget)) h

mutual

/-- Reads an expression. -/
def Expr.read (c : Cursor) : Reading c.left Expr :=
  (Expr.readLevel (some .disjunction) c).andThen fun target c₁ h₁ =>
    -- Whether this is an assignment shows only behind what may turn out to be its target.
    match c₁.take? (· == .equal) with
    | none => .done target c₁ h₁
    | some equals =>
      ((Expr.read equals.after).behind (equals.further h₁)).andThen fun value c₂ h₂ =>
        target.assignment equals.token value c₂ h₂
termination_by (c.left, 9)
decreasing_by
  · exact Prod.Lex.right _ (by decide)
  · exact Prod.Lex.left _ _ (equals.further h₁)

/-- Reads an expression of a level or a tighter one. -/
def Expr.readLevel (level : Option Level) (c : Cursor) : Reading c.left Expr :=
  match level with
  | none => Expr.readPrefixed c
  | some l =>
    (Expr.readLevel l.tighter? c).andThen fun left c₁ h₁ =>
      Expr.readOperators l left c₁ c.left h₁
termination_by (c.left, 2 + Level.rank? level)
decreasing_by
  · exact Prod.Lex.right _ (by omega)
  · exact Prod.Lex.right _ (Nat.add_lt_add_left (Level.rank?_tighter? l) 2)
  · exact Prod.Lex.left _ _ h₁

/-- Reads the operators of a level behind their left operand, with their right operands. -/
def Expr.readOperators (l : Level) (left : Expr) (c : Cursor) (bound : Nat) (h : c.left < bound) :
    Reading bound Expr :=
  match c.take? l.has with
  | none => .done left c h
  | some op =>
    ((Expr.readLevel l.tighter? op.after).behind op.shorter).andThenBehind h fun right c₁ h₁ =>
      Expr.readOperators l (l.node op.token left right) c₁ bound (Nat.lt_trans h₁ h)
termination_by (c.left, 0)
decreasing_by
  · exact Prod.Lex.left _ _ op.shorter
  · exact Prod.Lex.left _ _ h₁

/-- Reads prefix operators and their operand. -/
def Expr.readPrefixed (c : Cursor) : Reading c.left Expr :=
  match c.take? (fun kind => kind == .bang || kind == .minus) with
  | some op => ((Expr.readPrefixed op.after).behind op.shorter).map (.unary op.token)
  | none => (Expr.readPrimary c).andThen fun callee c₁ h₁ => Expr.readCalls callee c₁ c.left h₁
termination_by (c.left, 1)
decreasing_by
  · exact Prod.Lex.left _ _ op.shorter
  · exact Prod.Lex.right _ (by decide)
  · exact Prod.Lex.left _ _ h₁

/-- Reads the argument lists behind a callee. -/
def Expr.readCalls (callee : Expr) (c : Cursor) (bound : Nat) (h : c.left < bound) :
    Reading bound Expr :=
  match c.take? (· == .leftParen) with
  | none => .done callee c h
  | some opening =>
    let args : Reading opening.after.left (List Expr × Token) :=
      match opening.after.take? (· == .rightParen) with
      | some closing => .done ([], closing.token) closing.after closing.shorter
      | none => Expr.readArguments 0 opening.after
    (args.behind opening.shorter).andThenBehind h fun args c₁ h₁ =>
      Expr.readCalls (.call callee args.2 args.1) c₁ bound (Nat.lt_trans h₁ h)
termination_by (c.left, 0)
decreasing_by
  · exact Prod.Lex.left _ _ opening.shorter
  · exact Prod.Lex.left _ _ h₁

/-- Reads the arguments of a call behind the first `count` ones, and the closing parenthesis. -/
def Expr.readArguments (count : Nat) (c : Cursor) : Reading c.left (List Expr × Token) :=
  (Expr.read (c.limit count .tooManyArguments)).andThen fun arg c₁ h₁ =>
    match c₁.take? (· == .comma) with
    | some comma =>
      ((Expr.readArguments (count + 1) comma.after).behind (comma.further h₁)).map
        fun later => (arg :: later.1, later.2)
    | none =>
      ((c₁.expect .rightParen .parenAfterArgumentsExpected).behind h₁).map
        fun paren => ([arg], paren)
termination_by (c.left, 10)
decreasing_by
  · exact Prod.Lex.right _ (by decide)
  · exact Prod.Lex.left _ _ (comma.further h₁)

/-- Reads a literal, a name or a group. -/
def Expr.readPrimary (c : Cursor) : Reading c.left Expr :=
  match c.take? (· == .leftParen) with
  | some opening =>
    ((Expr.read opening.after).behind opening.shorter).andThen fun inner c₁ h₁ =>
      ((c₁.expect .rightParen .parenAfterGroupExpected).behind h₁).map fun _ => .group inner
  | none =>
    match Expr.ofToken? c.peek, c.take? (fun _ => true) with
    | some expr, some t => .done expr t.after t.shorter
    | _, _ => c.failAt c.expressionExpected
termination_by (c.left, 0)
decreasing_by exact Prod.Lex.left _ _ opening.shorter

end

/-- The only expression of a list of tokens, and the faults in it.  Tokens behind it are a fault,
and faults that do not stop the reading can come with an expression. -/
def Expr.ofTokens (tokens : List Token) : Option Expr × List Diagnostic :=
  match Cursor.start? tokens with
  | none => (none, [])
  | some c =>
    match Expr.read c with
    | .fault d after _ => (none, after.reported ++ [d])
    | .done expr after _ =>
      -- A fault that did not stop the reading still comes with the expression.
      if after.rest = [] then (some expr, after.reported)
      else
        let last := (after.previous.map Token.lexeme).getD ""
        (none, after.reported ++ [after.peek.diagnose (.trailingTokens last)])

end ScriptLang

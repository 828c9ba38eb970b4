import ScriptLang.Tree.ReadStmt

/-!
# The grammar

What a script looks like, said without a reader.  A phrase is related to the tokens that it starts
at, the tree that it stands for, and the tokens behind it.

An `else` could belong to any open `if` before it.  The grammar of statements therefore comes twice:
as it is written down, and with the rule that an `else` belongs to the nearest `if` that lacks one.
The two derive the same texts, but only the second one gives each text a single tree.

## Main definitions

* `Grammar.Expression`, `Grammar.Arguments` — expressions, by rank
* `Grammar.forTree` — the tree of a `for` loop, by the clauses that it has
* `Grammar.Statement`, `Grammar.Declaration`, `Grammar.Declarations` — statements and their lists
* `Grammar.Program` — the tokens of a whole script

## Main results

* `Grammar.Declarations.toNearest` — what can be derived can be derived with the nearest `if`
* `Grammar.Declarations.append` — lists of declarations can be put together
-/

namespace ScriptLang

/-- The nonterminals of expressions, from the widest to the narrowest. -/
inductive Rank where
  | assignment
  /-- The operators of a level and of all tighter ones; prefix operators if there is no level. -/
  | level (l : Option Level)
  | call
  | primary
  deriving DecidableEq

namespace Grammar

/-! ### Expressions -/

mutual

/-- The tokens start with an expression of a rank, which stands for a tree; others are behind
it. -/
inductive Expression : Rank → List Token → Expr → List Token → Prop where
  /-- `assignment := IDENTIFIER "=" assignment` -/
  | assign {ident equals : Token} {ts rest : List Token} {value : Expr}
      (isIdent : ident.kind = .ident) (isEquals : equals.kind = .equal)
      (right : Expression .assignment ts value rest) :
      Expression .assignment (ident :: equals :: ts) (.assign ident value) rest
  /-- `assignment := disjunction` -/
  | disjunction {ts rest : List Token} {e : Expr}
      (inner : Expression (.level (some .disjunction)) ts e rest) :
      Expression .assignment ts e rest
  /-- `level := tighter` -/
  | tighter {l : Level} {ts rest : List Token} {e : Expr}
      (inner : Expression (.level l.tighter?) ts e rest) :
      Expression (.level (some l)) ts e rest
  /-- `level := level operator tighter` -/
  | operation {l : Level} {ts us rest : List Token} {op : Token} {left right : Expr}
      (first : Expression (.level (some l)) ts left (op :: us)) (isOp : l.has op.kind = true)
      (second : Expression (.level l.tighter?) us right rest) :
      Expression (.level (some l)) ts (l.node op left right) rest
  /-- `unary := ("!" | "-") unary` -/
  | unary {op : Token} {ts rest : List Token} {operand : Expr}
      (isOp : op.kind = .bang ∨ op.kind = .minus)
      (inner : Expression (.level none) ts operand rest) :
      Expression (.level none) (op :: ts) (.unary op operand) rest
  /-- `unary := call` -/
  | ofCall {ts rest : List Token} {e : Expr} (inner : Expression .call ts e rest) :
      Expression (.level none) ts e rest
  /-- `call := primary` -/
  | ofPrimary {ts rest : List Token} {e : Expr} (inner : Expression .primary ts e rest) :
      Expression .call ts e rest
  /-- `call := call "(" ")"` -/
  | callEmpty {ts rest : List Token} {callee : Expr} {opening closing : Token}
      (first : Expression .call ts callee (opening :: closing :: rest))
      (isOpening : opening.kind = .leftParen) (isClosing : closing.kind = .rightParen) :
      Expression .call ts (.call callee closing []) rest
  /-- `call := call "(" arguments ")"`, of which there may be only so many -/
  | call {ts us rest : List Token} {callee : Expr} {opening closing : Token} {args : List Expr}
      (first : Expression .call ts callee (opening :: us)) (isOpening : opening.kind = .leftParen)
      (second : Arguments us args (closing :: rest)) (few : args.length ≤ maxArguments)
      (isClosing : closing.kind = .rightParen) :
      Expression .call ts (.call callee closing args) rest
  /-- `primary := "true"` -/
  | true {t : Token} {rest : List Token} (isTrue : t.kind = .trueWord) :
      Expression .primary (t :: rest) (.constant (.bool Bool.true)) rest
  /-- `primary := "false"` -/
  | false {t : Token} {rest : List Token} (isFalse : t.kind = .falseWord) :
      Expression .primary (t :: rest) (.constant (.bool Bool.false)) rest
  /-- `primary := "nil"` -/
  | nil {t : Token} {rest : List Token} (isNil : t.kind = .nilWord) :
      Expression .primary (t :: rest) (.constant .nil) rest
  /-- `primary := NUMBER | STRING`, with the value that the token carries -/
  | literal {t : Token} {rest : List Token} (isLiteral : t.kind = .number ∨ t.kind = .string) :
      Expression .primary (t :: rest) (.constant (.ofLiteral t.literal)) rest
  /-- `primary := IDENTIFIER` -/
  | name {t : Token} {rest : List Token} (isIdent : t.kind = .ident) :
      Expression .primary (t :: rest) (.name t) rest
  /-- `primary := "(" assignment ")"` -/
  | group {opening closing : Token} {ts rest : List Token} {inner : Expr}
      (isOpening : opening.kind = .leftParen)
      (body : Expression .assignment ts inner (closing :: rest))
      (isClosing : closing.kind = .rightParen) :
      Expression .primary (opening :: ts) (.group inner) rest

/-- The tokens start with expressions, at least one, with commas between them. -/
inductive Arguments : List Token → List Expr → List Token → Prop where
  | last {ts rest : List Token} {arg : Expr} (first : Expression .assignment ts arg rest) :
      Arguments ts [arg] rest
  | more {ts us rest : List Token} {arg : Expr} {comma : Token} {args : List Expr}
      (first : Expression .assignment ts arg (comma :: us)) (isComma : comma.kind = .comma)
      (later : Arguments us args rest) : Arguments ts (arg :: args) rest

end

/-- The tokens start with an expression unless the first one is of kind `closing`, and then with a
token of this kind. -/
inductive Until (closing : TokenKind) : List Token → Option Expr → List Token → Prop where
  | none {t : Token} {rest : List Token} (isClosing : t.kind = closing) :
      Until closing (t :: rest) .none rest
  | some {ts rest : List Token} {e : Expr} {t : Token}
      (body : Expression .assignment ts e (t :: rest)) (isClosing : t.kind = closing) :
      Until closing ts (.some e) rest

/-! ### Statements without statements in them -/

/-- `varDecl := IDENTIFIER ("=" expression)? ";"`, behind the word `var` -/
inductive Variable : List Token → Stmt → List Token → Prop where
  | bare {ident semicolon : Token} {rest : List Token} (isIdent : ident.kind = .ident)
      (isSemicolon : semicolon.kind = .semicolon) :
      Variable (ident :: semicolon :: rest) (.var ident none) rest
  | initialised {ident equals semicolon : Token} {ts rest : List Token} {init : Expr}
      (isIdent : ident.kind = .ident) (isEquals : equals.kind = .equal)
      (body : Expression .assignment ts init (semicolon :: rest))
      (isSemicolon : semicolon.kind = .semicolon) :
      Variable (ident :: equals :: ts) (.var ident (some init)) rest

/-- `parameters := IDENTIFIER ("," IDENTIFIER)*` -/
inductive Parameters : List Token → List Token → List Token → Prop where
  | last {param : Token} {rest : List Token} (isIdent : param.kind = .ident) :
      Parameters (param :: rest) [param] rest
  | more {param comma : Token} {ts params rest : List Token} (isIdent : param.kind = .ident)
      (isComma : comma.kind = .comma) (later : Parameters ts params rest) :
      Parameters (param :: comma :: ts) (param :: params) rest

/-- `IDENTIFIER "(" parameters? ")" "{"`, what stands between the word `fun` and the body, with only
so many parameters -/
inductive Head : List Token → Token → List Token → List Token → Prop where
  | empty {ident opening closing brace : Token} {rest : List Token} (isIdent : ident.kind = .ident)
      (isOpening : opening.kind = .leftParen) (isClosing : closing.kind = .rightParen)
      (isBrace : brace.kind = .leftBrace) :
      Head (ident :: opening :: closing :: brace :: rest) ident [] rest
  | some {ident opening closing brace : Token} {ts params rest : List Token}
      (isIdent : ident.kind = .ident) (isOpening : opening.kind = .leftParen)
      (body : Parameters ts params (closing :: brace :: rest))
      (few : params.length ≤ maxArguments) (isClosing : closing.kind = .rightParen)
      (isBrace : brace.kind = .leftBrace) :
      Head (ident :: opening :: ts) ident params rest

/-- `"(" expression ")"`, as it stands behind `if` and `while` -/
inductive Condition : List Token → Expr → List Token → Prop where
  | mk {opening closing : Token} {ts rest : List Token} {e : Expr}
      (isOpening : opening.kind = .leftParen)
      (body : Expression .assignment ts e (closing :: rest))
      (isClosing : closing.kind = .rightParen) : Condition (opening :: ts) e rest

/-- `"var" varDecl | exprStmt | ";"`, the first clause of a `for` loop -/
inductive Initialiser : List Token → Option Stmt → List Token → Prop where
  | none {semicolon : Token} {rest : List Token} (isSemicolon : semicolon.kind = .semicolon) :
      Initialiser (semicolon :: rest) .none rest
  | var {word : Token} {ts rest : List Token} {stmt : Stmt} (isVar : word.kind = .varWord)
      (body : Variable ts stmt rest) : Initialiser (word :: ts) (.some stmt) rest
  | expression {ts rest : List Token} {e : Expr} {semicolon : Token}
      (body : Expression .assignment ts e (semicolon :: rest))
      (isSemicolon : semicolon.kind = .semicolon) : Initialiser ts (.some (.expression e)) rest

/-- `"(" initialiser expression? ";" expression? ")"`, the clauses of a `for` loop -/
inductive Clauses :
    List Token → Option Stmt → Option Expr → Option Expr → List Token → Prop where
  | mk {opening : Token} {ts us vs rest : List Token} {init : Option Stmt}
      {condition increment : Option Expr} (isOpening : opening.kind = .leftParen)
      (first : Initialiser ts init us) (second : Until .semicolon us condition vs)
      (third : Until .rightParen vs increment rest) :
      Clauses (opening :: ts) init condition increment rest

/-! ### Statements -/

/-- The tree that a `for` loop stands for, by the clauses that it has.  It is a `while` loop, which
without a condition never ends by itself; an increment stands in one block behind the body, and an
initialiser in one block before the loop. -/
def forTree : Option Stmt → Option Expr → Option Expr → Stmt → Stmt
  | none, none, none, body => .loop (.constant (.bool true)) body
  | none, none, some step, body =>
    .loop (.constant (.bool true)) (.block [body, .expression step])
  | none, some test, none, body => .loop test body
  | none, some test, some step, body => .loop test (.block [body, .expression step])
  | some init, none, none, body => .block [init, .loop (.constant (.bool true)) body]
  | some init, none, some step, body =>
    .block [init, .loop (.constant (.bool true)) (.block [body, .expression step])]
  | some init, some test, none, body => .block [init, .loop test body]
  | some init, some test, some step, body =>
    .block [init, .loop test (.block [body, .expression step])]

/-- The reader makes no other tree. -/
theorem forTree_eq (init : Option Stmt) (condition increment : Option Expr) (body : Stmt) :
    forTree init condition increment body = Stmt.forLoop init condition increment body := by
  cases init <;> cases condition <;> cases increment <;> rfl

mutual

/-- The tokens start with a statement that declares nothing.  `inFunction` tells whether it stands
in the body of a function, and `opens` whether it ends with an `if` that has no `else`.  If
`nearest` holds, an `else` belongs to the nearest `if`. -/
inductive Statement (nearest : Prop) :
    (inFunction opens : Bool) → List Token → Stmt → List Token → Prop where
  /-- `exprStmt := expression ";"` -/
  | expression {f : Bool} {ts rest : List Token} {e : Expr} {semicolon : Token}
      (body : Expression .assignment ts e (semicolon :: rest))
      (isSemicolon : semicolon.kind = .semicolon) :
      Statement nearest f false ts (.expression e) rest
  /-- `printStmt := "print" expression ";"` -/
  | print {f : Bool} {word semicolon : Token} {ts rest : List Token} {e : Expr}
      (isPrint : word.kind = .printWord)
      (body : Expression .assignment ts e (semicolon :: rest))
      (isSemicolon : semicolon.kind = .semicolon) :
      Statement nearest f false (word :: ts) (.print word e) rest
  /-- `returnStmt := "return" expression? ";"`, only in the body of a function -/
  | ret {word : Token} {ts rest : List Token} {value : Option Expr}
      (isReturn : word.kind = .returnWord) (body : Until .semicolon ts value rest) :
      Statement nearest true false (word :: ts) (.ret word value) rest
  /-- `block := "{" declaration* "}"` -/
  | block {f : Bool} {opening closing : Token} {ts rest : List Token} {stmts : List Stmt}
      (isOpening : opening.kind = .leftBrace)
      (body : Declarations nearest f ts stmts (closing :: rest))
      (isClosing : closing.kind = .rightBrace) :
      Statement nearest f false (opening :: ts) (.block stmts) rest
  /-- `ifStmt := "if" "(" expression ")" statement` -/
  | branch {f o : Bool} {word : Token} {ts us rest : List Token} {condition : Expr} {yes : Stmt}
      (isIf : word.kind = .ifWord) (first : Condition ts condition us)
      (second : Statement nearest f o us yes rest) :
      Statement nearest f true (word :: ts) (.branch condition yes none) rest
  /-- `ifStmt := "if" "(" expression ")" statement "else" statement` -/
  | branchElse {f o o' : Bool} {word other : Token} {ts us vs rest : List Token}
      {condition : Expr} {yes no : Stmt} (isIf : word.kind = .ifWord)
      (first : Condition ts condition us) (second : Statement nearest f o us yes (other :: vs))
      (closed : nearest → o = false) (isElse : other.kind = .elseWord)
      (third : Statement nearest f o' vs no rest) :
      Statement nearest f o' (word :: ts) (.branch condition yes (some no)) rest
  /-- `whileStmt := "while" "(" expression ")" statement` -/
  | loop {f o : Bool} {word : Token} {ts us rest : List Token} {condition : Expr} {body : Stmt}
      (isWhile : word.kind = .whileWord) (first : Condition ts condition us)
      (second : Statement nearest f o us body rest) :
      Statement nearest f o (word :: ts) (.loop condition body) rest
  /-- `forStmt := "for" clauses statement` -/
  | forLoop {f o : Bool} {word : Token} {ts us rest : List Token} {init : Option Stmt}
      {condition increment : Option Expr} {body : Stmt} (isFor : word.kind = .forWord)
      (first : Clauses ts init condition increment us)
      (second : Statement nearest f o us body rest) :
      Statement nearest f o (word :: ts) (forTree init condition increment body) rest

/-- The tokens start with a declaration. -/
inductive Declaration (nearest : Prop) : Bool → List Token → Stmt → List Token → Prop where
  /-- `declaration := "fun" function` -/
  | function {f : Bool} {word ident closing : Token} {ts us params rest : List Token}
      {stmts : List Stmt} (isFun : word.kind = .funWord) (head : Head ts ident params us)
      (body : Declarations nearest true us stmts (closing :: rest))
      (isClosing : closing.kind = .rightBrace) :
      Declaration nearest f (word :: ts) (.function ident params stmts) rest
  /-- `declaration := "var" varDecl` -/
  | var {f : Bool} {word : Token} {ts rest : List Token} {stmt : Stmt}
      (isVar : word.kind = .varWord) (body : Variable ts stmt rest) :
      Declaration nearest f (word :: ts) stmt rest
  /-- `declaration := statement` -/
  | statement {f o : Bool} {ts rest : List Token} {stmt : Stmt}
      (inner : Statement nearest f o ts stmt rest) : Declaration nearest f ts stmt rest

/-- The tokens start with declarations, any number of them. -/
inductive Declarations (nearest : Prop) : Bool → List Token → List Stmt → List Token → Prop where
  | nil {f : Bool} {ts : List Token} : Declarations nearest f ts [] ts
  | cons {f : Bool} {ts us rest : List Token} {stmt : Stmt} {stmts : List Stmt}
      (first : Declaration nearest f ts stmt us)
      (later : Declarations nearest f us stmts rest) :
      Declarations nearest f ts (stmt :: stmts) rest

end

/-- The tokens are a script: declarations outside of functions, up to the end. -/
def Program (nearest : Prop) (ts : List Token) (stmts : List Stmt) : Prop :=
  Declarations nearest false ts stmts []

/-! ### First tokens -/

/-- Whether an operand can start with a token of this kind. -/
def startsOperand : TokenKind → Bool
  | .ident | .number | .string | .trueWord | .falseWord | .nilWord | .leftParen => true
  | _ => false

/-- Whether an expression of a rank can start with a token of this kind. -/
def starts : Rank → TokenKind → Bool
  | .assignment, k | .level _, k => k == .bang || k == .minus || startsOperand k
  | .call, k | .primary, k => startsOperand k

theorem starts_assignment {r : Rank} {k : TokenKind} (h : starts r k = true) :
    starts .assignment k = true := by
  cases r <;> simp_all [starts]

theorem Expression.starts : ∀ {r : Rank} {ts rest : List Token} {e : Expr},
    Expression r ts e rest → ∃ t us, ts = t :: us ∧ starts r t.kind = Bool.true
  | _, _, _, _, .assign isIdent _ _ => ⟨_, _, rfl, by simp [Grammar.starts, startsOperand, isIdent]⟩
  | _, _, _, _, .disjunction inner | _, _, _, _, .tighter inner
  | _, _, _, _, .operation inner .. => by
    obtain ⟨t, us, rfl, h⟩ := inner.starts
    exact ⟨t, us, rfl, h⟩
  | _, _, _, _, .unary isOp _ => ⟨_, _, rfl, by rcases isOp with h | h <;> simp [Grammar.starts, h]⟩
  | _, _, _, _, .ofCall inner => by
    obtain ⟨t, us, rfl, h⟩ := inner.starts
    exact ⟨t, us, rfl, starts_assignment h⟩
  | _, _, _, _, .ofPrimary inner | _, _, _, _, .callEmpty inner ..
  | _, _, _, _, .call inner .. => by
    obtain ⟨t, us, rfl, h⟩ := inner.starts
    exact ⟨t, us, rfl, h⟩
  | _, _, _, _, .true h | _, _, _, _, .false h | _, _, _, _, .nil h | _, _, _, _, .name h
  | _, _, _, _, .group h _ _ => ⟨_, _, rfl, by simp [Grammar.starts, startsOperand, h]⟩
  | _, _, _, _, .literal isLiteral => ⟨_, _, rfl, by
    rcases isLiteral with h | h <;> simp [Grammar.starts, startsOperand, h]⟩

/-- Whether a statement that declares nothing can start with a token of this kind. -/
def startsStatement : TokenKind → Bool
  | .forWord | .ifWord | .printWord | .returnWord | .whileWord | .leftBrace => true
  | k => starts .assignment k

/-- Whether a declaration can start with a token of this kind. -/
def startsDeclaration : TokenKind → Bool
  | .funWord | .varWord => true
  | k => startsStatement k

theorem Statement.starts {nearest : Prop} : ∀ {f o : Bool} {ts rest : List Token} {stmt : Stmt},
    Statement nearest f o ts stmt rest → ∃ t us, ts = t :: us ∧ startsStatement t.kind = true
  | _, _, _, _, _, .expression body _ => by
    obtain ⟨t, us, rfl, h⟩ := body.starts
    refine ⟨t, us, rfl, ?_⟩
    unfold startsStatement
    split
    all_goals first | rfl | exact h
  | _, _, _, _, _, .print h .. | _, _, _, _, _, .ret h .. | _, _, _, _, _, .block h ..
  | _, _, _, _, _, .branch h .. | _, _, _, _, _, .branchElse h .. | _, _, _, _, _, .loop h ..
  | _, _, _, _, _, .forLoop h .. => ⟨_, _, rfl, by simp [startsStatement, h]⟩

theorem Declaration.starts {nearest : Prop} {f : Bool} {ts rest : List Token} {stmt : Stmt}
    (h : Declaration nearest f ts stmt rest) :
    ∃ t us, ts = t :: us ∧ startsDeclaration t.kind = true := by
  cases h with
  | function isFun => exact ⟨_, _, rfl, by simp [startsDeclaration, isFun]⟩
  | var isVar => exact ⟨_, _, rfl, by simp [startsDeclaration, isVar]⟩
  | statement inner =>
    obtain ⟨t, us, rfl, h⟩ := inner.starts
    refine ⟨t, us, rfl, ?_⟩
    unfold startsDeclaration
    split
    all_goals first | rfl | exact h

/-! ### More tokens behind a phrase -/

mutual

theorem Expression.weaken (more : List Token) : ∀ {r : Rank} {ts rest : List Token} {e : Expr},
    Expression r ts e rest → Expression r (ts ++ more) e (rest ++ more)
  | _, _, _, _, .assign isIdent isEquals right => .assign isIdent isEquals (right.weaken more)
  | _, _, _, _, .disjunction inner => .disjunction (inner.weaken more)
  | _, _, _, _, .tighter inner => .tighter (inner.weaken more)
  | _, _, _, _, .operation first isOp second =>
    .operation (first.weaken more) isOp (second.weaken more)
  | _, _, _, _, .unary isOp inner => .unary isOp (inner.weaken more)
  | _, _, _, _, .ofCall inner => .ofCall (inner.weaken more)
  | _, _, _, _, .ofPrimary inner => .ofPrimary (inner.weaken more)
  | _, _, _, _, .callEmpty first isOpening isClosing =>
    .callEmpty (first.weaken more) isOpening isClosing
  | _, _, _, _, .call first isOpening second few isClosing =>
    .call (first.weaken more) isOpening (second.weaken more) few isClosing
  | _, _, _, _, .true h => .true h
  | _, _, _, _, .false h => .false h
  | _, _, _, _, .nil h => .nil h
  | _, _, _, _, .literal h => .literal h
  | _, _, _, _, .name h => .name h
  | _, _, _, _, .group isOpening body isClosing => .group isOpening (body.weaken more) isClosing

theorem Arguments.weaken (more : List Token) : ∀ {ts rest : List Token} {args : List Expr},
    Arguments ts args rest → Arguments (ts ++ more) args (rest ++ more)
  | _, _, _, .last first => .last (first.weaken more)
  | _, _, _, .more first isComma later => .more (first.weaken more) isComma (later.weaken more)

end

theorem Until.weaken {closing : TokenKind} {ts rest : List Token} {e : Option Expr}
    (more : List Token) (h : Until closing ts e rest) :
    Until closing (ts ++ more) e (rest ++ more) := by
  cases h with
  | none isClosing => exact .none isClosing
  | some body isClosing => exact .some (body.weaken more) isClosing

theorem Variable.weaken {ts rest : List Token} {stmt : Stmt} (more : List Token)
    (h : Variable ts stmt rest) : Variable (ts ++ more) stmt (rest ++ more) := by
  cases h with
  | bare isIdent isSemicolon => exact .bare isIdent isSemicolon
  | initialised isIdent isEquals body isSemicolon =>
    exact .initialised isIdent isEquals (body.weaken more) isSemicolon

theorem Parameters.weaken {ts params rest : List Token} (more : List Token)
    (h : Parameters ts params rest) : Parameters (ts ++ more) params (rest ++ more) := by
  induction h with
  | last isIdent => exact .last isIdent
  | more isIdent isComma _ ih => exact .more isIdent isComma ih

theorem Head.weaken {ts params rest : List Token} {ident : Token} (more : List Token)
    (h : Head ts ident params rest) : Head (ts ++ more) ident params (rest ++ more) := by
  cases h with
  | empty isIdent isOpening isClosing isBrace => exact .empty isIdent isOpening isClosing isBrace
  | some isIdent isOpening body few isClosing isBrace =>
    exact .some isIdent isOpening (body.weaken more) few isClosing isBrace

theorem Condition.weaken {ts rest : List Token} {e : Expr} (more : List Token)
    (h : Condition ts e rest) : Condition (ts ++ more) e (rest ++ more) := by
  obtain ⟨isOpening, body, isClosing⟩ := h
  exact .mk isOpening (body.weaken more) isClosing

theorem Initialiser.weaken {ts rest : List Token} {init : Option Stmt} (more : List Token)
    (h : Initialiser ts init rest) : Initialiser (ts ++ more) init (rest ++ more) := by
  cases h with
  | none isSemicolon => exact .none isSemicolon
  | var isVar body => exact .var isVar (body.weaken more)
  | expression body isSemicolon => exact .expression (body.weaken more) isSemicolon

theorem Clauses.weaken {ts rest : List Token} {init : Option Stmt}
    {condition increment : Option Expr} (more : List Token)
    (h : Clauses ts init condition increment rest) :
    Clauses (ts ++ more) init condition increment (rest ++ more) := by
  obtain ⟨isOpening, first, second, third⟩ := h
  exact .mk isOpening (first.weaken more) (second.weaken more) (third.weaken more)

mutual

theorem Statement.weaken {nearest : Prop} (more : List Token) :
    ∀ {f o : Bool} {ts rest : List Token} {stmt : Stmt},
      Statement nearest f o ts stmt rest → Statement nearest f o (ts ++ more) stmt (rest ++ more)
  | _, _, _, _, _, .expression body isSemicolon => .expression (body.weaken more) isSemicolon
  | _, _, _, _, _, .print isPrint body isSemicolon => .print isPrint (body.weaken more) isSemicolon
  | _, _, _, _, _, .ret isReturn body => .ret isReturn (body.weaken more)
  | _, _, _, _, _, .block isOpening body isClosing => .block isOpening (body.weaken more) isClosing
  | _, _, _, _, _, .branch isIf first second =>
    .branch isIf (first.weaken more) (second.weaken more)
  | _, _, _, _, _, .branchElse isIf first second closed isElse third =>
    .branchElse isIf (first.weaken more) (second.weaken more) closed isElse (third.weaken more)
  | _, _, _, _, _, .loop isWhile first second =>
    .loop isWhile (first.weaken more) (second.weaken more)
  | _, _, _, _, _, .forLoop isFor first second =>
    .forLoop isFor (first.weaken more) (second.weaken more)

theorem Declaration.weaken {nearest : Prop} (more : List Token) :
    ∀ {f : Bool} {ts rest : List Token} {stmt : Stmt},
      Declaration nearest f ts stmt rest → Declaration nearest f (ts ++ more) stmt (rest ++ more)
  | _, _, _, _, .function isFun head body isClosing =>
    .function isFun (head.weaken more) (body.weaken more) isClosing
  | _, _, _, _, .var isVar body => .var isVar (body.weaken more)
  | _, _, _, _, .statement inner => .statement (inner.weaken more)

theorem Declarations.weaken {nearest : Prop} (more : List Token) :
    ∀ {f : Bool} {ts rest : List Token} {stmts : List Stmt},
      Declarations nearest f ts stmts rest →
        Declarations nearest f (ts ++ more) stmts (rest ++ more)
  | _, _, _, _, .nil => .nil
  | _, _, _, _, .cons first later => .cons (first.weaken more) (later.weaken more)

end

theorem Declarations.append {nearest : Prop} {f : Bool} {us rest : List Token}
    {later : List Stmt} (second : Declarations nearest f us later rest) :
    ∀ {ts : List Token} {stmts : List Stmt}, Declarations nearest f ts stmts us →
      Declarations nearest f ts (stmts ++ later) rest
  | _, _, .nil => second
  | _, _, .cons first more => .cons first (second.append more)

/-- Two scripts, one behind the other, are one script. -/
theorem Program.append {nearest : Prop} {ts us : List Token} {stmts later : List Stmt}
    (first : Program nearest ts stmts) (second : Program nearest us later) :
    Program nearest (ts ++ us) (stmts ++ later) :=
  Declarations.append second (first.weaken us)

/-! ### The nearest `if` -/

mutual

/-- A tree in which an `else` belongs to the nearest `if` is one of the trees that the grammar
allows. -/
theorem Statement.toAny : ∀ {f o : Bool} {ts rest : List Token} {stmt : Stmt},
    Statement True f o ts stmt rest → Statement False f o ts stmt rest
  | _, _, _, _, _, .expression body isSemicolon => .expression body isSemicolon
  | _, _, _, _, _, .print isPrint body isSemicolon => .print isPrint body isSemicolon
  | _, _, _, _, _, .ret isReturn body => .ret isReturn body
  | _, _, _, _, _, .block isOpening body isClosing => .block isOpening body.toAny isClosing
  | _, _, _, _, _, .branch isIf first second => .branch isIf first second.toAny
  | _, _, _, _, _, .branchElse isIf first second _ isElse third =>
    .branchElse isIf first second.toAny False.elim isElse third.toAny
  | _, _, _, _, _, .loop isWhile first second => .loop isWhile first second.toAny
  | _, _, _, _, _, .forLoop isFor first second => .forLoop isFor first second.toAny

theorem Declaration.toAny : ∀ {f : Bool} {ts rest : List Token} {stmt : Stmt},
    Declaration True f ts stmt rest → Declaration False f ts stmt rest
  | _, _, _, _, .function isFun head body isClosing => .function isFun head body.toAny isClosing
  | _, _, _, _, .var isVar body => .var isVar body
  | _, _, _, _, .statement inner => .statement inner.toAny

theorem Declarations.toAny : ∀ {f : Bool} {ts rest : List Token} {stmts : List Stmt},
    Declarations True f ts stmts rest → Declarations False f ts stmts rest
  | _, _, _, _, .nil => .nil
  | _, _, _, _, .cons first later => .cons first.toAny later.toAny

end

/-- An `else` behind a statement that ends with an `if` without one goes to the innermost such `if`:
the statement with the `else` is a statement again. -/
theorem Statement.attach {o' : Bool} {other : Token} {vs rest : List Token} {no : Stmt}
    (isElse : other.kind = .elseWord) :
    ∀ {f o : Bool} {ts us : List Token} {yes : Stmt}, Statement True f o ts yes us →
      us = other :: vs → o = true → Statement True f o' vs no rest →
        ∃ o'' stmt, Statement True f o'' ts stmt rest
  | _, _, _, _, _, .expression .., _, h, _ | _, _, _, _, _, .print .., _, h, _
  | _, _, _, _, _, .ret .., _, h, _ | _, _, _, _, _, .block .., _, h, _ => nomatch h
  | _, _, _, _, _, .branch (o := false) isIf first second, hu, _, third =>
    ⟨_, _, .branchElse isIf first (hu ▸ second) (fun _ => rfl) isElse third⟩
  | _, _, _, _, _, .branch (o := true) isIf first second, hu, _, third =>
    let ⟨_, _, second'⟩ := second.attach isElse hu rfl third
    ⟨_, _, .branch isIf first second'⟩
  | _, _, _, _, _, .branchElse isIf first second closed isElse' no, hu, ho, third =>
    let ⟨_, _, no'⟩ := no.attach isElse hu ho third
    ⟨_, _, .branchElse isIf first second closed isElse' no'⟩
  | _, _, _, _, _, .loop isWhile first second, hu, ho, third =>
    let ⟨_, _, second'⟩ := second.attach isElse hu ho third
    ⟨_, _, .loop isWhile first second'⟩
  | _, _, _, _, _, .forLoop isFor first second, hu, ho, third =>
    let ⟨_, _, second'⟩ := second.attach isElse hu ho third
    ⟨_, _, .forLoop isFor first second'⟩

mutual

/-- What is a statement in some way is one in which an `else` belongs to the nearest `if`. -/
theorem Statement.toNearest : ∀ {f o : Bool} {ts rest : List Token} {stmt : Stmt},
    Statement False f o ts stmt rest → ∃ o' stmt', Statement True f o' ts stmt' rest
  | _, _, _, _, _, .expression body isSemicolon => ⟨_, _, .expression body isSemicolon⟩
  | _, _, _, _, _, .print isPrint body isSemicolon => ⟨_, _, .print isPrint body isSemicolon⟩
  | _, _, _, _, _, .ret isReturn body => ⟨_, _, .ret isReturn body⟩
  | _, _, _, _, _, .block isOpening body isClosing =>
    let ⟨_, body'⟩ := body.toNearest
    ⟨_, _, .block isOpening body' isClosing⟩
  | _, _, _, _, _, .branch isIf first second =>
    let ⟨_, _, second'⟩ := second.toNearest
    ⟨_, _, .branch isIf first second'⟩
  | _, _, _, _, _, .branchElse isIf first second _ isElse third =>
    match second.toNearest, third.toNearest with
    | ⟨false, _, second'⟩, ⟨_, _, third'⟩ =>
      ⟨_, _, .branchElse isIf first second' (fun _ => rfl) isElse third'⟩
    -- The `else` moves inwards, and the outer `if` is left without one.
    | ⟨true, _, second'⟩, ⟨_, _, third'⟩ =>
      let ⟨_, _, inner⟩ := second'.attach isElse rfl rfl third'
      ⟨_, _, .branch isIf first inner⟩
  | _, _, _, _, _, .loop isWhile first second =>
    let ⟨_, _, second'⟩ := second.toNearest
    ⟨_, _, .loop isWhile first second'⟩
  | _, _, _, _, _, .forLoop isFor first second =>
    let ⟨_, _, second'⟩ := second.toNearest
    ⟨_, _, .forLoop isFor first second'⟩

theorem Declaration.toNearest : ∀ {f : Bool} {ts rest : List Token} {stmt : Stmt},
    Declaration False f ts stmt rest → ∃ stmt', Declaration True f ts stmt' rest
  | _, _, _, _, .function isFun head body isClosing =>
    let ⟨_, body'⟩ := body.toNearest
    ⟨_, .function isFun head body' isClosing⟩
  | _, _, _, _, .var isVar body => ⟨_, .var isVar body⟩
  | _, _, _, _, .statement inner =>
    let ⟨_, _, inner'⟩ := inner.toNearest
    ⟨_, .statement inner'⟩

theorem Declarations.toNearest : ∀ {f : Bool} {ts rest : List Token} {stmts : List Stmt},
    Declarations False f ts stmts rest → ∃ stmts', Declarations True f ts stmts' rest
  | _, _, _, _, .nil => ⟨_, .nil⟩
  | _, _, _, _, .cons first later =>
    let ⟨_, first'⟩ := first.toNearest
    let ⟨_, later'⟩ := later.toNearest
    ⟨_, .cons first' later'⟩

end

end Grammar

end ScriptLang

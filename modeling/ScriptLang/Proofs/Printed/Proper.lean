import ScriptLang.Proofs.Grammar.Complete
import ScriptLang.Proofs.Grammar.Written
import ScriptLang.Proofs.Lexemes
import ScriptLang.Proofs.Likeness.Read
import ScriptLang.Proofs.Numbers.Binary
import ScriptLang.Proofs.Session

/-!
# Proper trees

The trees that the grammar derives from the tokens of a text.  Their tokens are pieces of the text,
an operator stands where there is one and an identifier where something is named, and the numbers in
them are values of literals.  Nothing is said about what else the text holds, so trees of two texts
can be compared.

## Main definitions

* `Token.Scanned` — tokens of some text
* `IsLiteral` — the numbers of literals
* `Expr.Proper`, `Stmt.Proper` — trees of tokens that can stand in their places

## Main results

* `Token.Scanned.alike` — kind and lexeme are all that tokens other than literals say
* `Grammar.Expression.proper`, `Grammar.Declarations.proper` — what the grammar derives is proper
-/

namespace ScriptLang

/-! ### Tokens -/

/-- All kinds but those of identifiers and literals have one lexeme each. -/
theorem Lexeme.eq_of_kind {kind : TokenKind} {text text' : List Char} (h : Lexeme kind text)
    (h' : Lexeme kind text') (noIdent : kind ≠ .ident) (noNumber : kind ≠ .number)
    (noString : kind ≠ .string) : text = text' := by
  have symbol : ∀ e ∈ symbols, ∀ e' ∈ symbols, e.1 = e'.1 → e.2 = e'.2 := by decide
  have keyword : ∀ e ∈ keywords, ∀ e' ∈ keywords, e.1 = e'.1 → e.2 = e'.2 := by decide
  have apart : ∀ e ∈ symbols, ∀ e' ∈ keywords, e.1 ≠ e'.1 := by decide
  cases h with
  | symbol known =>
    cases h' with
    | symbol known' => exact symbol _ known _ known' rfl
    | keyword known' => exact absurd rfl (apart _ known _ known')
    | whole _ | decimal _ _ => exact absurd rfl noNumber
    | ident _ _ => exact absurd rfl noIdent
    | string _ => exact absurd rfl noString
  | keyword known =>
    cases h' with
    | symbol known' => exact absurd rfl (apart _ known' _ known)
    | keyword known' => exact String.ofList_injective (keyword _ known _ known' rfl)
    | whole _ | decimal _ _ => exact absurd rfl noNumber
    | ident _ _ => exact absurd rfl noIdent
    | string _ => exact absurd rfl noString
  | whole _ | decimal _ _ => exact absurd rfl noNumber
  | ident _ _ => exact absurd rfl noIdent
  | string _ => exact absurd rfl noString

/-- A token that a piece of some text makes. -/
def Token.Scanned (t : Token) : Prop :=
  ∃ (piece : Piece) (after : List Char) (p : Position),
    piece.EndsBefore after ∧ piece.token? p = some t

namespace Token.Scanned

variable {t t' : Token}

theorem of_mem_scanInner {source : String} (mem : t ∈ scanInner source) : t.Scanned := by
  obtain ⟨piece, before, after, stands, token⟩ := mem_scanInner_iff.1 mem
  exact ⟨piece, after, _, stands.endsBefore, token⟩

theorem lexeme (h : t.Scanned) : Lexeme t.kind t.lexeme.toList := by
  obtain ⟨piece, after, p, ends, token⟩ := h
  rw [Piece.lexeme_of_token? token]
  exact ends.lexeme token

/-- A number that a token carries is one that can be written without a sign. -/
theorem unsigned (h : t.Scanned) {x : Float} (number : t.literal = some (.number x)) :
    Number.Unsigned x.toModel.unpack := by
  obtain ⟨piece, after, p, ends, token⟩ := h
  cases piece with
  | number whole fraction =>
    cases token
    cases number
    exact Number.unsigned_ofLiteral whole fraction
  | string body =>
    cases token
    cases number
  | symbol kind text | word text =>
    cases token
    cases number
  | blank c | comment body | openString body | stray c => cases token

/-- Tokens with one kind and one lexeme say the same, literals aside. -/
theorem alike (h : t.Scanned) (h' : t'.Scanned) (kind : t.kind = t'.kind)
    (lexeme : t.lexeme = t'.lexeme) (noNumber : t.kind ≠ .number) (noString : t.kind ≠ .string) :
    t.Alike t' := by
  obtain ⟨_, _, _, ends, token⟩ := h
  obtain ⟨_, _, _, ends', token'⟩ := h'
  refine ⟨kind, lexeme, ?_⟩
  rw [(ends.literal token).2 noNumber noString, (ends'.literal token').2 (kind ▸ noNumber)
    (kind ▸ noString)]

/-- Tokens of a kind with one lexeme only say the same. -/
theorem alike_of_kind (h : t.Scanned) (h' : t'.Scanned) (kind : t.kind = t'.kind)
    (noIdent : t.kind ≠ .ident) (noNumber : t.kind ≠ .number) (noString : t.kind ≠ .string) :
    t.Alike t' := by
  have same := h.lexeme.eq_of_kind (kind ▸ h'.lexeme) noIdent noNumber noString
  exact h.alike h' kind (String.toList_inj.1 same) noNumber noString

end Token.Scanned

/-! ### Trees -/

variable {N : Float → Prop}

/-- Whether a constant is anything but a number that fails a test. -/
def Constant.Proper (N : Float → Prop) (c : Constant) : Prop :=
  ∀ x, c = .number x → N x

/-- Expressions of tokens of texts, each of a kind that can stand in its place, in which all numbers
pass a test. -/
inductive Expr.Proper (N : Float → Prop) : Expr → Prop where
  | constant {value : Constant} (proper : value.Proper N) : Proper N (.constant value)
  | group {inner : Expr} (h : Proper N inner) : Proper N (.group inner)
  | unary {op : Token} {operand : Expr} (scanned : op.Scanned)
      (isOp : op.kind = .bang ∨ op.kind = .minus) (h : Proper N operand) :
      Proper N (.unary op operand)
  | binary {op : Token} {left right : Expr} {m : Nat} (scanned : op.Scanned)
      (isOp : op.kind.binding? = some m) (tight : 3 ≤ m) (hl : Proper N left)
      (hr : Proper N right) : Proper N (.binary op left right)
  | logical {op : Token} {left right : Expr} {m : Nat} (scanned : op.Scanned)
      (isOp : op.kind.binding? = some m) (loose : m < 3) (hl : Proper N left)
      (hr : Proper N right) : Proper N (.logical op left right)
  | name {ident : Token} (scanned : ident.Scanned) (isIdent : ident.kind = .ident) :
      Proper N (.name ident)
  | assign {ident : Token} {value : Expr} (scanned : ident.Scanned) (isIdent : ident.kind = .ident)
      (h : Proper N value) : Proper N (.assign ident value)
  | call {callee : Expr} {paren : Token} {args : List Expr} (h : Proper N callee)
      (scanned : paren.Scanned) (isClosing : paren.kind = .rightParen)
      (ha : ∀ arg ∈ args, Proper N arg) : Proper N (.call callee paren args)

/-- Statements of tokens of texts, each of a kind that can stand in its place, in which all numbers
pass a test. -/
inductive Stmt.Proper (N : Float → Prop) : Stmt → Prop where
  | expression {e : Expr} (h : e.Proper N) : Proper N (.expression e)
  | print {word : Token} {e : Expr} (scanned : word.Scanned) (isPrint : word.kind = .printWord)
      (h : e.Proper N) : Proper N (.print word e)
  | var {ident : Token} {init : Option Expr} (scanned : ident.Scanned)
      (isIdent : ident.kind = .ident) (h : ∀ e ∈ init, e.Proper N) : Proper N (.var ident init)
  | block {body : List Stmt} (h : ∀ s ∈ body, Proper N s) : Proper N (.block body)
  | branch {condition : Expr} {yes : Stmt} {no : Option Stmt} (hc : condition.Proper N)
      (hy : Proper N yes) (hn : ∀ s ∈ no, Proper N s) : Proper N (.branch condition yes no)
  | loop {condition : Expr} {body : Stmt} (hc : condition.Proper N) (hb : Proper N body) :
      Proper N (.loop condition body)
  | function {ident : Token} {params : List Token} {body : List Stmt} (scanned : ident.Scanned)
      (isIdent : ident.kind = .ident) (hp : ∀ p ∈ params, p.Scanned ∧ p.kind = .ident)
      (hb : ∀ s ∈ body, Proper N s) : Proper N (.function ident params body)
  | ret {word : Token} {value : Option Expr} (scanned : word.Scanned)
      (isReturn : word.kind = .returnWord) (h : ∀ e ∈ value, e.Proper N) :
      Proper N (.ret word value)

/-! ### What the grammar derives -/

theorem forall_mem_none {α : Type} {P : α → Prop} : ∀ a ∈ (none : Option α), P a :=
  fun a mem => absurd mem (Option.not_mem_none a)

theorem forall_mem_some {α : Type} {P : α → Prop} {a : α} (h : P a) : ∀ b ∈ some a, P b :=
  fun _ mem => Option.mem_some_iff.1 mem ▸ h

/-- The numbers of literals. -/
def IsLiteral (x : Float) : Prop :=
  Number.Unsigned x.toModel.unpack

namespace Grammar

open Number (Unsigned)

theorem proper_node {l : Level} {op : Token} {left right : Expr} (scanned : op.Scanned)
    (isOp : l.has op.kind = true) (hl : left.Proper N) (hr : right.Proper N) :
    (l.node op left right).Proper N := by
  have binding := (has_iff_binding? l op.kind).1 isOp
  cases l with
  | disjunction | conjunction => exact .logical scanned binding (by decide) hl hr
  | equality | comparison | sum | product => exact .binary scanned binding (by decide) hl hr

theorem proper_ofLiteral {t : Token} (scanned : t.Scanned) :
    (Constant.ofLiteral t.literal).Proper IsLiteral := by
  intro x number
  cases literal : t.literal with
  | none =>
    rw [literal] at number
    cases number
  | some l =>
    rw [literal] at number
    cases l with
    | number y =>
      cases number
      exact scanned.unsigned literal
    | string s => cases number

mutual

/-- The tokens that an expression is made of are among those that it is derived from. -/
theorem Expression.proper : ∀ {r : Rank} {ts rest : List Token} {e : Expr},
    Expression r ts e rest → (∀ t ∈ ts, t.Scanned) →
      e.Proper IsLiteral ∧ ∀ t ∈ rest, t.Scanned
  | _, _, _, _, .assign isIdent _ right, scanned => by
    obtain ⟨ident, -, later⟩ := List.forall_mem_cons.1 scanned |>.imp_right List.forall_mem_cons.1
    obtain ⟨value, rest⟩ := right.proper later
    exact ⟨.assign ident isIdent value, rest⟩
  | _, _, _, _, .disjunction inner, scanned => inner.proper scanned
  | _, _, _, _, .tighter inner, scanned => inner.proper scanned
  | _, _, _, _, .operation first isOp second, scanned => by
    obtain ⟨left, later⟩ := first.proper scanned
    obtain ⟨op, later⟩ := List.forall_mem_cons.1 later
    obtain ⟨right, rest⟩ := second.proper later
    exact ⟨proper_node op isOp left right, rest⟩
  | _, _, _, _, .unary isOp inner, scanned => by
    obtain ⟨op, later⟩ := List.forall_mem_cons.1 scanned
    obtain ⟨operand, rest⟩ := inner.proper later
    exact ⟨.unary op isOp operand, rest⟩
  | _, _, _, _, .ofCall inner, scanned => inner.proper scanned
  | _, _, _, _, .ofPrimary inner, scanned => inner.proper scanned
  | _, _, _, _, .callEmpty first _ isClosing, scanned => by
    obtain ⟨callee, later⟩ := first.proper scanned
    obtain ⟨-, closing, rest⟩ := List.forall_mem_cons.1 later |>.imp_right List.forall_mem_cons.1
    exact ⟨.call callee closing isClosing (List.forall_mem_nil _), rest⟩
  | _, _, _, _, .call first _ second _ isClosing, scanned => by
    obtain ⟨callee, later⟩ := first.proper scanned
    obtain ⟨args, later⟩ := second.proper (List.forall_mem_cons.1 later).2
    obtain ⟨closing, rest⟩ := List.forall_mem_cons.1 later
    exact ⟨.call callee closing isClosing args, rest⟩
  | _, _, _, _, .true _, scanned => by
    exact ⟨.constant (by rintro _ ⟨⟩), (List.forall_mem_cons.1 scanned).2⟩
  | _, _, _, _, .false _, scanned => by
    exact ⟨.constant (by rintro _ ⟨⟩), (List.forall_mem_cons.1 scanned).2⟩
  | _, _, _, _, .nil _, scanned => by
    exact ⟨.constant (by rintro _ ⟨⟩), (List.forall_mem_cons.1 scanned).2⟩
  | _, _, _, _, .literal _, scanned => by
    obtain ⟨t, rest⟩ := List.forall_mem_cons.1 scanned
    exact ⟨.constant (proper_ofLiteral t), rest⟩
  | _, _, _, _, .name isIdent, scanned => by
    obtain ⟨t, rest⟩ := List.forall_mem_cons.1 scanned
    exact ⟨.name t isIdent, rest⟩
  | _, _, _, _, .group _ body _, scanned => by
    obtain ⟨inner, later⟩ := body.proper (List.forall_mem_cons.1 scanned).2
    exact ⟨.group inner, (List.forall_mem_cons.1 later).2⟩

theorem Arguments.proper : ∀ {ts rest : List Token} {args : List Expr},
    Arguments ts args rest → (∀ t ∈ ts, t.Scanned) →
      (∀ arg ∈ args, arg.Proper IsLiteral) ∧ ∀ t ∈ rest, t.Scanned
  | _, _, _, .last first, scanned => by
    obtain ⟨arg, rest⟩ := first.proper scanned
    exact ⟨List.forall_mem_singleton.2 arg, rest⟩
  | _, _, _, .more first _ later, scanned => by
    obtain ⟨arg, following⟩ := first.proper scanned
    obtain ⟨args, rest⟩ := later.proper (List.forall_mem_cons.1 following).2
    exact ⟨List.forall_mem_cons.2 ⟨arg, args⟩, rest⟩

end

theorem Until.proper {closing : TokenKind} {ts rest : List Token} {e : Option Expr}
    (h : Until closing ts e rest) (scanned : ∀ t ∈ ts, t.Scanned) :
    (∀ e' ∈ e, e'.Proper IsLiteral) ∧ ∀ t ∈ rest, t.Scanned := by
  cases h with
  | none _ => exact ⟨forall_mem_none, (List.forall_mem_cons.1 scanned).2⟩
  | some body _ =>
    obtain ⟨inner, later⟩ := body.proper scanned
    exact ⟨forall_mem_some inner, (List.forall_mem_cons.1 later).2⟩

theorem Variable.proper {ts rest : List Token} {stmt : Stmt} (h : Variable ts stmt rest)
    (scanned : ∀ t ∈ ts, t.Scanned) : stmt.Proper IsLiteral ∧ ∀ t ∈ rest, t.Scanned := by
  cases h with
  | bare isIdent _ =>
    obtain ⟨ident, -, rest⟩ := List.forall_mem_cons.1 scanned |>.imp_right List.forall_mem_cons.1
    exact ⟨.var ident isIdent forall_mem_none, rest⟩
  | initialised isIdent _ body _ =>
    obtain ⟨ident, -, later⟩ := List.forall_mem_cons.1 scanned |>.imp_right List.forall_mem_cons.1
    obtain ⟨init, later⟩ := body.proper later
    exact ⟨.var ident isIdent (forall_mem_some init), (List.forall_mem_cons.1 later).2⟩

theorem Parameters.proper {ts params rest : List Token} (h : Parameters ts params rest)
    (scanned : ∀ t ∈ ts, t.Scanned) :
    (∀ p ∈ params, p.Scanned ∧ p.kind = .ident) ∧ ∀ t ∈ rest, t.Scanned := by
  induction h with
  | last isIdent =>
    obtain ⟨param, rest⟩ := List.forall_mem_cons.1 scanned
    exact ⟨List.forall_mem_singleton.2 ⟨param, isIdent⟩, rest⟩
  | more isIdent _ _ ih =>
    obtain ⟨param, -, later⟩ := List.forall_mem_cons.1 scanned |>.imp_right List.forall_mem_cons.1
    obtain ⟨params, rest⟩ := ih later
    exact ⟨List.forall_mem_cons.2 ⟨⟨param, isIdent⟩, params⟩, rest⟩

theorem Head.proper {ts params rest : List Token} {ident : Token} (h : Head ts ident params rest)
    (scanned : ∀ t ∈ ts, t.Scanned) :
    (ident.Scanned ∧ ident.kind = .ident) ∧ (∀ p ∈ params, p.Scanned ∧ p.kind = .ident) ∧
      ∀ t ∈ rest, t.Scanned := by
  cases h with
  | empty isIdent _ _ _ =>
    simp only [List.forall_mem_cons] at scanned
    exact ⟨⟨scanned.1, isIdent⟩, List.forall_mem_nil _, scanned.2.2.2.2⟩
  | some isIdent _ body _ _ _ =>
    simp only [List.forall_mem_cons] at scanned
    obtain ⟨params, later⟩ := body.proper scanned.2.2
    simp only [List.forall_mem_cons] at later
    exact ⟨⟨scanned.1, isIdent⟩, params, later.2.2⟩

theorem Condition.proper {ts rest : List Token} {e : Expr} (h : Condition ts e rest)
    (scanned : ∀ t ∈ ts, t.Scanned) : e.Proper IsLiteral ∧ ∀ t ∈ rest, t.Scanned := by
  obtain ⟨_, body, _⟩ := h
  obtain ⟨inner, later⟩ := body.proper (List.forall_mem_cons.1 scanned).2
  exact ⟨inner, (List.forall_mem_cons.1 later).2⟩

theorem Initialiser.proper {ts rest : List Token} {init : Option Stmt}
    (h : Initialiser ts init rest) (scanned : ∀ t ∈ ts, t.Scanned) :
    (∀ s ∈ init, s.Proper IsLiteral) ∧ ∀ t ∈ rest, t.Scanned := by
  cases h with
  | none _ => exact ⟨forall_mem_none, (List.forall_mem_cons.1 scanned).2⟩
  | var _ body =>
    obtain ⟨stmt, rest⟩ := body.proper (List.forall_mem_cons.1 scanned).2
    exact ⟨forall_mem_some stmt, rest⟩
  | expression body _ =>
    obtain ⟨inner, later⟩ := body.proper scanned
    exact ⟨forall_mem_some (.expression inner), (List.forall_mem_cons.1 later).2⟩

/-- A `for` loop is made of proper parts, and of the constant that stands for no condition. -/
theorem proper_forLoop {init : Option Stmt} {condition increment : Option Expr} {body : Stmt}
    (hi : ∀ s ∈ init, s.Proper IsLiteral) (hc : ∀ e ∈ condition, e.Proper IsLiteral)
    (hs : ∀ e ∈ increment, e.Proper IsLiteral) (hb : body.Proper IsLiteral) :
    (Stmt.forLoop init condition increment body).Proper IsLiteral := by
  have test : (condition.getD (.constant (.bool true))).Proper IsLiteral := by
    cases condition with
    | none => exact .constant (by rintro _ ⟨⟩)
    | some e => exact hc e rfl
  have pair {s s' : Stmt} (h : s.Proper IsLiteral) (h' : s'.Proper IsLiteral) :
      (Stmt.block [s, s']).Proper IsLiteral :=
    .block (List.forall_mem_cons.2 ⟨h, List.forall_mem_singleton.2 h'⟩)
  cases increment with
  | none =>
    cases init with
    | none => exact .loop test hb
    | some s => exact pair (hi s rfl) (.loop test hb)
  | some e =>
    have step := pair hb (.expression (hs e rfl))
    cases init with
    | none => exact .loop test step
    | some s => exact pair (hi s rfl) (.loop test step)

mutual

theorem Statement.proper : ∀ {f o : Bool} {ts rest : List Token} {stmt : Stmt},
    Statement True f o ts stmt rest → (∀ t ∈ ts, t.Scanned) →
      stmt.Proper IsLiteral ∧ ∀ t ∈ rest, t.Scanned
  | _, _, _, _, _, .expression body _, scanned => by
    obtain ⟨inner, later⟩ := body.proper scanned
    exact ⟨.expression inner, (List.forall_mem_cons.1 later).2⟩
  | _, _, _, _, _, .print isPrint body _, scanned => by
    obtain ⟨word, later⟩ := List.forall_mem_cons.1 scanned
    obtain ⟨inner, later⟩ := body.proper later
    exact ⟨.print word isPrint inner, (List.forall_mem_cons.1 later).2⟩
  | _, _, _, _, _, .ret isReturn body, scanned => by
    obtain ⟨word, later⟩ := List.forall_mem_cons.1 scanned
    obtain ⟨value, rest⟩ := body.proper later
    exact ⟨.ret word isReturn value, rest⟩
  | _, _, _, _, _, .block _ body _, scanned => by
    obtain ⟨stmts, later⟩ := body.proper (List.forall_mem_cons.1 scanned).2
    exact ⟨.block stmts, (List.forall_mem_cons.1 later).2⟩
  | _, _, _, _, _, .branch _ first second, scanned => by
    obtain ⟨condition, later⟩ := first.proper (List.forall_mem_cons.1 scanned).2
    obtain ⟨yes, rest⟩ := second.proper later
    exact ⟨.branch condition yes forall_mem_none, rest⟩
  | _, _, _, _, _, .branchElse _ first second _ _ third, scanned => by
    obtain ⟨condition, later⟩ := first.proper (List.forall_mem_cons.1 scanned).2
    obtain ⟨yes, later⟩ := second.proper later
    obtain ⟨no, rest⟩ := third.proper (List.forall_mem_cons.1 later).2
    exact ⟨.branch condition yes (forall_mem_some no), rest⟩
  | _, _, _, _, _, .loop _ first second, scanned => by
    obtain ⟨condition, later⟩ := first.proper (List.forall_mem_cons.1 scanned).2
    obtain ⟨body, rest⟩ := second.proper later
    exact ⟨.loop condition body, rest⟩
  | _, _, _, _, _, .forLoop _ (.mk _ init condition increment) second, scanned => by
    have inner := (List.forall_mem_cons.1 (List.forall_mem_cons.1 scanned).2).2
    obtain ⟨init, later⟩ := init.proper inner
    obtain ⟨condition, later⟩ := condition.proper later
    obtain ⟨increment, later⟩ := increment.proper later
    obtain ⟨body, rest⟩ := second.proper later
    rw [forTree_eq]
    exact ⟨proper_forLoop init condition increment body, rest⟩

theorem Declaration.proper : ∀ {f : Bool} {ts rest : List Token} {stmt : Stmt},
    Declaration True f ts stmt rest → (∀ t ∈ ts, t.Scanned) →
      stmt.Proper IsLiteral ∧ ∀ t ∈ rest, t.Scanned
  | _, _, _, _, .function _ head body _, scanned => by
    obtain ⟨⟨ident, isIdent⟩, params, later⟩ := head.proper (List.forall_mem_cons.1 scanned).2
    obtain ⟨stmts, later⟩ := body.proper later
    exact ⟨.function ident isIdent params stmts, (List.forall_mem_cons.1 later).2⟩
  | _, _, _, _, .var _ body, scanned => body.proper (List.forall_mem_cons.1 scanned).2
  | _, _, _, _, .statement inner, scanned => inner.proper scanned

theorem Declarations.proper : ∀ {f : Bool} {ts rest : List Token} {stmts : List Stmt},
    Declarations True f ts stmts rest → (∀ t ∈ ts, t.Scanned) →
      (∀ s ∈ stmts, s.Proper IsLiteral) ∧ ∀ t ∈ rest, t.Scanned
  | _, _, _, _, .nil, scanned => ⟨List.forall_mem_nil _, scanned⟩
  | _, _, _, _, .cons first later, scanned => by
    obtain ⟨stmt, following⟩ := first.proper scanned
    obtain ⟨stmts, rest⟩ := later.proper following
    exact ⟨List.forall_mem_cons.2 ⟨stmt, stmts⟩, rest⟩

end

end Grammar

end ScriptLang

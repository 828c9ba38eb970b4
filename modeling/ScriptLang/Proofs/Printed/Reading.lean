import ScriptLang.Proofs.Numbers.Written
import ScriptLang.Proofs.Printed.Forms
import ScriptLang.Proofs.Printed.Proper
import ScriptLang.Proofs.Printed.Words
import ScriptLang.Proofs.Quoted

/-!
# Reading printed trees

What is printed for a tree is made of the same words as the tree's form.  So reading the text, word
by word, gives the form back.

## Main definitions

* `Legible` — numbers whose text is a number literal

## Main results

* `Expr.Proper.words_render`, `Stmt.Proper.words_render` — the words of a printed tree are the words
  of its form
-/

namespace ScriptLang

/-- Whether the text of a number is a number literal. -/
def Legible (x : Float) : Prop :=
  IsLiteral x ∧ x.isFinite = true

variable {rest : List Char}

/-! ### Words -/

theorem delimited_space : Delimited (' ' :: rest) :=
  delimited_cons (by decide)

theorem delimited_closing : Delimited (')' :: rest) :=
  delimited_cons (by decide)

/-- The text of a constant is a lexeme. -/
theorem Constant.Proper.lexeme {c : Constant} (h : c.Proper Legible) :
    Lexeme c.kind c.render.toList := by
  cases c with
  | nil => exact .keyword (by decide)
  | bool b => cases b <;> exact .keyword (by decide)
  | number x =>
    obtain ⟨unsigned, finite⟩ := h x rfl
    exact Number.lexeme_render finite unsigned
  | string s => exact Text.lexeme_quote s

theorem Constant.words_render {c : Constant} (h : c.Proper Legible) (delimited : Delimited rest) :
    words (c.render.toList ++ rest) = (c.kind, c.render) :: words rest := by
  refine words_lexeme h.lexeme ?_ delimited
  cases c with
  | bool b => cases b <;> decide
  | nil | number x | string s => exact (nomatch ·)

theorem Token.Scanned.words {t : Token} (h : t.Scanned) (noComma : t.kind ≠ .comma)
    (delimited : Delimited rest) :
    words (t.lexeme.toList ++ rest) = (t.kind, t.lexeme) :: ScriptLang.words rest :=
  words_lexeme h.lexeme noComma delimited

/-- A head of a form. -/
theorem words_head (kind : TokenKind) (text : String) (h : Lexeme kind text.toList)
    (noComma : kind ≠ .comma) :
    words ('(' :: (text.toList ++ ' ' :: rest)) =
      (.leftParen, "(") :: (kind, text) :: words rest := by
  rw [words_opening, words_lexeme h noComma delimited_space, words_space]

/-- Heads that are no keywords. -/
theorem lexeme_of_unknown {text : List Char} (isWord : IsWord text)
    (unknown : TokenKind.ofWord? (String.ofList text) = none) : Lexeme .ident text := by
  refine .ident isWord fun kind mem => ?_
  cases unknown.symm.trans (mem_keywords_iff.1 mem)

theorem lexeme_group : Lexeme .ident "group".toList :=
  lexeme_of_unknown ⟨by decide, List.all_eq_true.1 (by decide)⟩ (by decide)

theorem lexeme_call : Lexeme .ident "call".toList :=
  lexeme_of_unknown ⟨by decide, List.all_eq_true.1 (by decide)⟩ (by decide)

theorem lexeme_block : Lexeme .ident "block".toList :=
  lexeme_of_unknown ⟨by decide, List.all_eq_true.1 (by decide)⟩ (by decide)

/-! ### Trees one after another -/

section Each

variable {α : Type} {text : α → List Char} {form : α → Form} {xs : List α}

theorem delimited_each : Delimited (xs.flatMap (' ' :: text ·) ++ ')' :: rest) := by
  cases xs with
  | nil => exact delimited_closing
  | cons x xs => exact delimited_space

/-- Texts that are read as forms are also read as forms one after another, with a space in front of
each and a closing parenthesis behind the last. -/
theorem words_each (each : ∀ x ∈ xs, ∀ {rest : List Char}, Delimited rest →
      words (text x ++ rest) = (form x).words ++ words rest) :
    words (xs.flatMap (' ' :: text ·) ++ ')' :: rest) =
      Form.allWords (xs.map form) ++ (.rightParen, ")") :: words rest := by
  induction xs with
  | nil => exact words_closing rest
  | cons x xs ih =>
    have later := ih fun y mem => each y (List.mem_cons_of_mem x mem)
    rw [List.flatMap_cons, List.cons_append, List.cons_append, List.append_assoc, words_space,
      each x List.mem_cons_self delimited_each, later, List.map_cons, Form.allWords,
      List.append_assoc]

end Each

theorem Expr.toList_renderEach (es : List Expr) :
    (Expr.renderEach es).toList = es.flatMap fun e => ' ' :: e.render.toList := by
  induction es with
  | nil => rfl
  | cons e es ih => simp [Expr.renderEach, ih]

theorem Stmt.toList_renderEach (ss : List Stmt) :
    (Stmt.renderEach ss).toList = ss.flatMap fun s => ' ' :: s.render.toList := by
  induction ss with
  | nil => rfl
  | cons s ss ih => simp [Stmt.renderEach, ih]

/-! ### Expressions -/

/-- Kinds that bind no operands are not those of operators. -/
theorem TokenKind.ne_of_binding? {kind other : TokenKind} {m : Nat}
    (isOp : kind.binding? = some m) (noOp : other.binding? = none) : kind ≠ other := by
  rintro rfl
  cases isOp.symm.trans noOp

/-- An operator between its operands, as binary and logical expressions are printed. -/
theorem words_operation {op : Token} {m : Nat} {l r : Expr} (scanned : op.Scanned)
    (isOp : op.kind.binding? = some m)
    (left : ∀ {rest : List Char}, Delimited rest →
      words (l.render.toList ++ rest) = l.form.words ++ words rest)
    (right : ∀ {rest : List Char}, Delimited rest →
      words (r.render.toList ++ rest) = r.form.words ++ words rest) :
    words ('(' :: (l.render.toList ++ ' ' :: (op.lexeme.toList ++
        ' ' :: (r.render.toList ++ ')' :: rest)))) =
      (Form.list [l.form, op.form, r.form]).words ++ words rest := by
  rw [words_opening, left delimited_space, words_space,
    scanned.words (TokenKind.ne_of_binding? isOp rfl) delimited_space, words_space,
    right delimited_closing, words_closing]
  simp [Token.form, Form.words, Form.allWords]

theorem Expr.Proper.words_render {e : Expr} (h : e.Proper Legible) (delimited : Delimited rest) :
    words (e.render.toList ++ rest) = e.form.words ++ words rest := by
  -- In each case the text is first laid out as one word after another.
  induction h generalizing rest with
  | constant proper => exact Constant.words_render proper delimited
  | @group inner _ ih =>
    have text : (Expr.group inner).render.toList ++ rest =
        '(' :: ("group".toList ++ ' ' :: (inner.render.toList ++ ')' :: rest)) := by
      simp only [Expr.render, String.toList_append, List.append_assoc]
      rfl
    rw [text, words_head .ident "group" lexeme_group (by decide), ih delimited_closing,
      words_closing]
    simp [Expr.form, Form.words, Form.allWords]
  | @unary op operand scanned isOp _ ih =>
    have text : (Expr.unary op operand).render.toList ++ rest =
        '(' :: (op.lexeme.toList ++ ' ' :: (operand.render.toList ++ ')' :: rest)) := by
      simp [Expr.render]
    have noComma : op.kind ≠ .comma := by
      obtain bang | minus := isOp
      · simp [bang]
      · simp [minus]
    rw [text, words_head op.kind op.lexeme scanned.lexeme noComma, ih delimited_closing,
      words_closing]
    simp [Expr.form, Token.form, Form.words, Form.allWords]
  | @binary op l r _ scanned isOp tight _ _ left right =>
    have text : (Expr.binary op l r).render.toList ++ rest = '(' :: (l.render.toList ++
        ' ' :: (op.lexeme.toList ++ ' ' :: (r.render.toList ++ ')' :: rest))) := by
      simp [Expr.render]
    rw [text]
    exact words_operation scanned isOp left right
  | @logical op l r _ scanned isOp loose _ _ left right =>
    have text : (Expr.logical op l r).render.toList ++ rest = '(' :: (l.render.toList ++
        ' ' :: (op.lexeme.toList ++ ' ' :: (r.render.toList ++ ')' :: rest))) := by
      simp [Expr.render]
    rw [text]
    exact words_operation scanned isOp left right
  | name scanned isIdent =>
    exact scanned.words (by rw [isIdent]; decide) delimited
  | @assign ident value scanned isIdent _ ih =>
    have text : (Expr.assign ident value).render.toList ++ rest = '(' :: ("=".toList ++
        ' ' :: (ident.lexeme.toList ++ ' ' :: (value.render.toList ++ ')' :: rest))) := by
      simp [Expr.render]
    rw [text, words_head .equal "=" (.symbol (by decide)) (by decide),
      scanned.words (by rw [isIdent]; decide) delimited_space, words_space, ih delimited_closing,
      words_closing]
    simp [Expr.form, Token.form, Form.words, Form.allWords]
  | @call callee paren args _ scanned isClosing _ ih each =>
    have text : (Expr.call callee paren args).render.toList ++ rest = '(' :: ("call".toList ++
        ' ' :: (callee.render.toList ++
          (args.flatMap (fun e => ' ' :: e.render.toList) ++ ')' :: rest))) := by
      simp [Expr.render, Expr.toList_renderEach]
    rw [text, words_head .ident "call" lexeme_call (by decide), ih delimited_each, words_each each]
    simp [Expr.form, Expr.forms_eq, Form.words, Form.allWords]

/-! ### Statements -/

theorem delimited_opening : Delimited ('(' :: rest) :=
  delimited_cons (by decide)

theorem delimited_comma : Delimited (',' :: rest) :=
  delimited_cons (by decide)

/-- The parameters of a function. -/
theorem words_params {params : List Token}
    (h : ∀ param ∈ params, param.Scanned ∧ param.kind = .ident) :
    words ((", ".intercalate (params.map Token.lexeme)).toList ++ ')' :: rest) =
      Form.allWords (params.map Token.form) ++ (.rightParen, ")") :: words rest := by
  induction params with
  | nil => exact words_closing rest
  | cons param params ih =>
    obtain ⟨⟨scanned, isIdent⟩, later⟩ := List.forall_mem_cons.1 h
    have noComma : param.kind ≠ .comma := by
      rw [isIdent]
      decide
    cases params with
    | nil =>
      rw [List.map_cons, List.map_nil, String.intercalate_singleton,
        scanned.words noComma delimited_closing, words_closing]
      rfl
    | cons next params =>
      have text : (", ".intercalate ((param :: next :: params).map Token.lexeme)).toList ++
          ')' :: rest = param.lexeme.toList ++ ',' :: ' ' ::
            ((", ".intercalate ((next :: params).map Token.lexeme)).toList ++ ')' :: rest) := by
        rw [List.map_cons, List.map_cons, String.intercalate_cons_cons]
        simp
      rw [text, scanned.words noComma delimited_comma, words_comma, words_space, ih later]
      rfl

theorem Stmt.Proper.words_render {s : Stmt} (h : s.Proper Legible) (delimited : Delimited rest) :
    words (s.render.toList ++ rest) = s.form.words ++ words rest := by
  induction h generalizing rest with
  | @expression e h =>
    have text : (Stmt.expression e).render.toList ++ rest =
        '(' :: (";".toList ++ ' ' :: (e.render.toList ++ ')' :: rest)) := by
      simp [Stmt.render]
    rw [text, words_head .semicolon ";" (.symbol (by decide)) (by decide),
      h.words_render delimited_closing, words_closing]
    simp [Stmt.form, Form.words, Form.allWords]
  | @print word e _ _ h =>
    have text : (Stmt.print word e).render.toList ++ rest =
        '(' :: ("print".toList ++ ' ' :: (e.render.toList ++ ')' :: rest)) := by
      simp [Stmt.render]
    rw [text, words_head .printWord "print" (.keyword (by decide)) (by decide),
      h.words_render delimited_closing, words_closing]
    simp [Stmt.form, Form.words, Form.allWords]
  | @var ident init scanned isIdent h =>
    have noComma : ident.kind ≠ .comma := by
      rw [isIdent]
      decide
    have isVar : Lexeme .varWord "var".toList := .keyword (by decide)
    cases init with
    | none =>
      have text : (Stmt.var ident none).render.toList ++ rest =
          '(' :: ("var".toList ++ ' ' :: (ident.lexeme.toList ++ ')' :: rest)) := by
        simp [Stmt.render]
      rw [text, words_head .varWord "var" isVar (by decide),
        scanned.words noComma delimited_closing, words_closing]
      simp [Stmt.form, Token.form, Form.words, Form.allWords]
    | some init =>
      have isEqual : Lexeme .equal "=".toList := .symbol (by decide)
      have text : (Stmt.var ident (some init)).render.toList ++ rest =
          '(' :: ("var".toList ++ ' ' :: (ident.lexeme.toList ++ ' ' :: ("=".toList ++
            ' ' :: (init.render.toList ++ ')' :: rest)))) := by
        simp [Stmt.render]
      rw [text, words_head .varWord "var" isVar (by decide), scanned.words noComma delimited_space,
        words_space, words_lexeme isEqual (by decide) delimited_space, words_space,
        (h init rfl).words_render delimited_closing, words_closing]
      simp [Stmt.form, Token.form, Form.words, Form.allWords]
  | @block body _ each =>
    have text : (Stmt.block body).render.toList ++ rest = '(' :: ("block".toList ++
        (body.flatMap (fun s => ' ' :: s.render.toList) ++ ')' :: rest)) := by
      simp [Stmt.render, Stmt.toList_renderEach]
    rw [text, words_opening, words_lexeme lexeme_block (by decide) delimited_each,
      words_each each]
    simp [Stmt.form, Stmt.forms_eq, Form.words, Form.allWords]
  | @branch condition yes no hc _ _ hy hn =>
    have isIf : Lexeme .ifWord "if".toList := .keyword (by decide)
    cases no with
    | none =>
      have text : (Stmt.branch condition yes none).render.toList ++ rest = '(' :: ("if".toList ++
          ' ' :: (condition.render.toList ++ ' ' :: (yes.render.toList ++ ')' :: rest))) := by
        simp [Stmt.render, Stmt.renderElse]
      rw [text, words_head .ifWord "if" isIf (by decide), hc.words_render delimited_space,
        words_space, hy delimited_closing, words_closing]
      simp [Stmt.form, Form.words, Form.allWords]
    | some no =>
      have text : (Stmt.branch condition yes (some no)).render.toList ++ rest =
          '(' :: ("if".toList ++ ' ' :: (condition.render.toList ++ ' ' :: (yes.render.toList ++
            ' ' :: (no.render.toList ++ ')' :: rest)))) := by
        simp [Stmt.render, Stmt.renderElse]
      rw [text, words_head .ifWord "if" isIf (by decide), hc.words_render delimited_space,
        words_space, hy delimited_space, words_space, hn no rfl delimited_closing, words_closing]
      simp [Stmt.form, Form.words, Form.allWords]
  | @loop condition body hc _ hb =>
    have text : (Stmt.loop condition body).render.toList ++ rest = '(' :: ("while".toList ++
        ' ' :: (condition.render.toList ++ ' ' :: (body.render.toList ++ ')' :: rest))) := by
      simp [Stmt.render]
    rw [text, words_head .whileWord "while" (.keyword (by decide)) (by decide),
      hc.words_render delimited_space, words_space, hb delimited_closing, words_closing]
    simp [Stmt.form, Form.words, Form.allWords]
  | @function ident params body scanned isIdent hp _ each =>
    have text : (Stmt.function ident params body).render.toList ++ rest = '(' :: ("fun".toList ++
        ' ' :: (ident.lexeme.toList ++ '(' ::
          ((", ".intercalate (params.map Token.lexeme)).toList ++ ')' ::
            (body.flatMap (fun s => ' ' :: s.render.toList) ++ ')' :: rest)))) := by
      simp [Stmt.render, Stmt.toList_renderEach]
    rw [text, words_head .funWord "fun" (.keyword (by decide)) (by decide),
      scanned.words (by rw [isIdent]; decide) delimited_opening, words_opening, words_params hp,
      words_each each]
    simp [Stmt.form, Token.form, Stmt.forms_eq, Form.words, Form.allWords]
  | @ret word value _ _ h =>
    have isReturn : Lexeme .returnWord "return".toList := .keyword (by decide)
    cases value with
    | none =>
      have text : (Stmt.ret word none).render.toList ++ rest =
          '(' :: ("return".toList ++ ')' :: rest) := by
        simp [Stmt.render]
      rw [text, words_opening, words_lexeme isReturn (by decide) delimited_closing, words_closing]
      simp [Stmt.form, Form.words, Form.allWords]
    | some value =>
      have text : (Stmt.ret word (some value)).render.toList ++ rest =
          '(' :: ("return".toList ++ ' ' :: (value.render.toList ++ ')' :: rest)) := by
        simp [Stmt.render]
      rw [text, words_head .returnWord "return" isReturn (by decide), (h value rfl).words_render
        delimited_closing, words_closing]
      simp [Stmt.form, Form.words, Form.allWords]

end ScriptLang

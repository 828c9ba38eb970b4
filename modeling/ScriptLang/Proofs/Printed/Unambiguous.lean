import ScriptLang.Proofs.Printed.Reading
import ScriptLang.Proofs.Printed.Sources

/-!
# Printed trees can be told apart

Names can be spelt like the heads that the printer writes, strings can hold any text, and all
compound trees are printed between the same parentheses.  Nonetheless, what is printed tells the
tree.  The text tells the form, since its words do and no parenthesis is a word of its own; and the
form tells the tree, since the heads and the places of operators tell what kind of node it is.

## Main definitions

* `Stmt.kind` — the kind of the word that a printed statement starts with

## Main results

* `Expr.Proper.alike`, `Stmt.Proper.alike` — proper trees of one form are alike
* `render_unambiguous` — trees of faultless texts that have one text are alike
-/

namespace ScriptLang

variable {N : Float → Prop}

/-! ### Forms of trees -/

theorem Constant.sound_form (c : Constant) : (Form.word c.kind c.render).Sound := by
  cases c with
  | bool b => cases b <;> exact .word (by decide) (by decide)
  | nil | number x | string s => exact .word (nomatch ·) (nomatch ·)

/-- A token that is no parenthesis is printed as a word. -/
theorem Token.sound_form {t : Token} {kind : TokenKind} (isKind : t.kind = kind)
    (other : kind ≠ .leftParen ∧ kind ≠ .rightParen) : t.form.Sound := by
  subst isKind
  exact .word other.1 other.2

theorem Expr.Proper.sound_form {e : Expr} (h : e.Proper N) : e.form.Sound := by
  induction h with
  | constant _ => exact Constant.sound_form _
  | group _ ih => exact .list (by simp [ih, Form.Sound.word])
  | @unary op _ _ isOp _ ih =>
    have op : op.form.Sound := by
      obtain bang | minus := isOp
      · exact Token.sound_form bang (by decide)
      · exact Token.sound_form minus (by decide)
    exact .list (by simp [op, ih])
  | binary _ isOp _ _ _ left right =>
    have op := Token.sound_form rfl ⟨TokenKind.ne_of_binding? isOp rfl,
      TokenKind.ne_of_binding? isOp rfl⟩
    exact .list (by simp [op, left, right])
  | logical _ isOp _ _ _ left right =>
    have op := Token.sound_form rfl ⟨TokenKind.ne_of_binding? isOp rfl,
      TokenKind.ne_of_binding? isOp rfl⟩
    exact .list (by simp [op, left, right])
  | name _ isIdent => exact Token.sound_form isIdent (by decide)
  | assign _ isIdent _ ih =>
    have ident := Token.sound_form isIdent (by decide)
    exact .list (by simp [ident, ih, Form.Sound.word])
  | call _ _ _ _ callee each =>
    exact .list (by simpa [callee, Form.Sound.word, Expr.forms_eq] using each)

theorem Stmt.Proper.sound_form {s : Stmt} (h : s.Proper N) : s.form.Sound := by
  induction h with
  | expression h => exact .list (by simp [h.sound_form, Form.Sound.word])
  | print _ _ h => exact .list (by simp [h.sound_form, Form.Sound.word])
  | @var ident init _ isIdent h =>
    have ident := Token.sound_form isIdent (by decide)
    cases init with
    | none => exact .list (by simp [ident, Form.Sound.word])
    | some e => exact .list (by simp [ident, (h e rfl).sound_form, Form.Sound.word])
  | block _ each => exact .list (by simpa [Form.Sound.word, Stmt.forms_eq] using each)
  | @branch condition yes no hc _ _ hy hn =>
    cases no with
    | none => exact .list (by simp [hc.sound_form, hy, Form.Sound.word])
    | some no => exact .list (by simp [hc.sound_form, hy, hn no rfl, Form.Sound.word])
  | loop hc _ hb => exact .list (by simp [hc.sound_form, hb, Form.Sound.word])
  | @function ident params body _ isIdent hp _ each =>
    have ident := Token.sound_form isIdent (by decide)
    have params : (Form.list (params.map Token.form)).Sound := by
      refine .list fun f mem => ?_
      obtain ⟨param, isParam, rfl⟩ := List.mem_map.1 mem
      exact Token.sound_form (hp param isParam).2 (by decide)
    exact .list (by simpa [ident, params, Form.Sound.word, Stmt.forms_eq] using each)
  | @ret word value _ _ h =>
    cases value with
    | none => exact .list (by simp [Form.Sound.word])
    | some e => exact .list (by simp [(h e rfl).sound_form, Form.Sound.word])

/-! ### Trees of forms -/

theorem Constant.eq_of_render {c c' : Constant} (h : c.Proper Legible) (h' : c'.Proper Legible)
    (kind : c.kind = c'.kind) (text : c.render = c'.render) : c = c' := by
  cases c with
  | nil =>
    cases c' with
    | nil => rfl
    | bool b => cases b <;> cases kind
    | _ => cases kind
  | bool b =>
    cases c' with
    | bool b' => cases b <;> cases b' <;> first | rfl | cases kind
    | _ => cases b <;> cases kind
  | number x =>
    cases c' with
    | number y => rw [Number.render_injective (h x rfl).2 (h' y rfl).2 text]
    | bool b => cases b <;> cases kind
    | _ => cases kind
  | string s =>
    cases c' with
    | string s' => rw [Text.quote_injective text]
    | bool b => cases b <;> cases kind
    | _ => cases kind

theorem Constant.kind_ne_ident (c : Constant) : c.kind ≠ .ident := by
  cases c with
  | bool b => cases b <;> exact (nomatch ·)
  | _ => exact (nomatch ·)

theorem Constant.binding?_kind (c : Constant) : c.kind.binding? = none := by
  cases c with
  | bool b => cases b <;> rfl
  | _ => rfl

theorem Token.kind_of_form {t t' : Token} (same : t.form = t'.form) : t.kind = t'.kind :=
  (Form.word.inj same).1

/-- Tokens of one form, neither of them a literal, say the same. -/
theorem Token.Scanned.alike_of_form {t t' : Token} (h : t.Scanned) (h' : t'.Scanned)
    (same : t'.form = t.form) (noNumber : t.kind ≠ .number) (noString : t.kind ≠ .string) :
    t.Alike t' :=
  h.alike h' (Form.word.inj same).1.symm (Form.word.inj same).2.symm noNumber noString

theorem Token.Scanned.ident_alike {t t' : Token} (h : t.Scanned) (isIdent : t.kind = .ident)
    (h' : t'.Scanned) (same : t'.form = t.form) : t.Alike t' :=
  h.alike_of_form h' same (by simp [isIdent]) (by simp [isIdent])

theorem Token.Scanned.op_alike {t t' : Token} {m : Nat} (h : t.Scanned)
    (isOp : t.kind.binding? = some m) (h' : t'.Scanned) (same : t'.form = t.form) : t.Alike t' :=
  h.alike_of_form h' same (TokenKind.ne_of_binding? isOp rfl) (TokenKind.ne_of_binding? isOp rfl)

theorem Token.Scanned.prefix_alike {t t' : Token} (h : t.Scanned)
    (isOp : t.kind = .bang ∨ t.kind = .minus) (h' : t'.Scanned) (same : t'.form = t.form) :
    t.Alike t' := by
  have other : t.kind ≠ .number ∧ t.kind ≠ .string := by
    obtain bang | minus := isOp
    · simp [bang]
    · simp [minus]
  exact h.alike_of_form h' same other.1 other.2

/-- No expression is printed as an operator. -/
theorem Expr.Proper.form_ne_op {e : Expr} (h : e.Proper N) {op : Token} {m : Nat}
    (isOp : op.kind.binding? = some m) : op.form ≠ e.form := by
  intro same
  cases h with
  | constant _ =>
    exact TokenKind.ne_of_binding? isOp (Constant.binding?_kind _) (Form.word.inj same).1
  | name _ isIdent =>
    exact TokenKind.ne_of_binding? isOp rfl ((Form.word.inj same).1.trans isIdent)
  | _ => cases same

/-! ### Lists of forms -/

/-- Lists of one list of forms are related one by one, if a form settles what has it. -/
theorem forall₂_of_map {α : Type} {P : α → Prop} {r : α → α → Prop} {form : α → Form}
    {xs xs' : List α} (one : ∀ x ∈ xs, ∀ {x' : α}, P x' → form x' = form x → r x x')
    (all : ∀ x ∈ xs', P x) (same : xs'.map form = xs.map form) : List.Forall₂ r xs xs' := by
  induction xs generalizing xs' with
  | nil =>
    cases List.map_eq_nil_iff.1 same
    exact .nil
  | cons x xs ih =>
    obtain ⟨x', later', rfl, first, later⟩ := List.map_eq_cons_iff.1 same
    obtain ⟨proper, rest⟩ := List.forall_mem_cons.1 all
    exact .cons (one x List.mem_cons_self proper first)
      (ih (fun a mem => one a (List.mem_cons_of_mem x mem)) rest later)

theorem Expr.AllAlike.of_forall₂ {r : Token → Token → Prop} {es es' : List Expr}
    (h : List.Forall₂ (Expr.Alike r) es es') : Expr.AllAlike r es es' := by
  induction h with
  | nil => exact .nil
  | cons first _ ih => exact .cons first ih

theorem Stmt.AllAlike.of_forall₂ {r : Token → Token → Prop} {ss ss' : List Stmt}
    (h : List.Forall₂ (Stmt.Alike r) ss ss') : Stmt.AllAlike r ss ss' := by
  induction h with
  | nil => exact .nil
  | cons first _ ih => exact .cons first ih

/-! ### Expressions of forms -/

namespace Expr.Proper

variable {e : Expr} {f g : Form}

theorem of_group (h : e.Proper N) (same : e.form = .list [.word .ident "group", f]) :
    ∃ inner, e = .group inner ∧ inner.Proper N ∧ inner.form = f := by
  cases h with
  | group h =>
    simp only [form, Form.list.injEq, List.cons.injEq] at same
    exact ⟨_, rfl, h, same.2.1⟩
  | unary _ isOp _ =>
    simp only [form, Token.form, Form.list.injEq, List.cons.injEq, Form.word.injEq] at same
    simp [same.1.1] at isOp
  | _ => simp [form, Token.form] at same

theorem of_unary {op : Token} (isOp : op.kind = .bang ∨ op.kind = .minus) (h : e.Proper N)
    (same : e.form = .list [op.form, f]) :
    ∃ op' operand, e = .unary op' operand ∧ op'.Scanned ∧ op'.form = op.form ∧
      operand.Proper N ∧ operand.form = f := by
  cases h with
  | unary scanned _ h =>
    simp only [form, Form.list.injEq, List.cons.injEq] at same
    exact ⟨_, _, rfl, scanned, same.1, h, same.2.1⟩
  | group _ | call _ _ _ _ =>
    simp only [form, Token.form, Form.list.injEq, List.cons.injEq, Form.word.injEq] at same
    simp [← same.1.1] at isOp
  | _ => simp [form, Token.form] at same

/-- Operands around an operator are a binary or a logical expression, as the operator binds. -/
theorem of_operation {op : Token} {m : Nat} (isOp : op.kind.binding? = some m) (h : e.Proper N)
    (same : e.form = .list [f, op.form, g]) :
    ∃ op' left right, e = (if 3 ≤ m then .binary op' left right else .logical op' left right) ∧
      op'.Scanned ∧ op'.form = op.form ∧ (left.Proper N ∧ left.form = f) ∧
      right.Proper N ∧ right.form = g := by
  cases h with
  | @binary op' _ _ _ scanned isOp' tight hl hr =>
    simp only [form, Form.list.injEq, List.cons.injEq] at same
    obtain ⟨left, middle, right, -⟩ := same
    rw [Token.kind_of_form middle, isOp] at isOp'
    cases isOp'
    exact ⟨_, _, _, (if_pos tight).symm, scanned, middle, ⟨hl, left⟩, hr, right⟩
  | @logical op' _ _ _ scanned isOp' loose hl hr =>
    simp only [form, Form.list.injEq, List.cons.injEq] at same
    obtain ⟨left, middle, right, -⟩ := same
    rw [Token.kind_of_form middle, isOp] at isOp'
    cases isOp'
    exact ⟨_, _, _, (if_neg (Nat.not_le_of_lt loose)).symm, scanned, middle, ⟨hl, left⟩, hr, right⟩
  | assign _ isIdent _ =>
    simp only [form, Form.list.injEq, List.cons.injEq] at same
    exact absurd ((Token.kind_of_form same.2.1).symm.trans isIdent)
      (TokenKind.ne_of_binding? isOp rfl)
  | call h _ _ _ =>
    -- A call with one argument has three parts too, but its callee stands where the operator is.
    simp only [form, Form.list.injEq, List.cons.injEq] at same
    exact absurd same.2.1.symm (h.form_ne_op isOp)
  | _ => simp [form, Token.form] at same

theorem of_name {ident : Token} (isIdent : ident.kind = .ident) (h : e.Proper N)
    (same : e.form = ident.form) :
    ∃ ident', e = .name ident' ∧ ident'.Scanned ∧ ident'.form = ident.form := by
  cases h with
  | name scanned _ => exact ⟨_, rfl, scanned, same⟩
  | constant _ =>
    exact absurd ((Form.word.inj same).1.trans isIdent) (Constant.kind_ne_ident _)
  | _ => cases same

theorem of_assign {ident : Token} (isIdent : ident.kind = .ident) (h : e.Proper N)
    (same : e.form = .list [.word .equal "=", ident.form, f]) :
    ∃ ident' value, e = .assign ident' value ∧ ident'.Scanned ∧ ident'.form = ident.form ∧
      value.Proper N ∧ value.form = f := by
  cases h with
  | assign scanned _ h =>
    simp only [form, Form.list.injEq, List.cons.injEq] at same
    exact ⟨_, _, rfl, scanned, same.2.1, h, same.2.2.1⟩
  | binary _ isOp _ _ _ | logical _ isOp _ _ _ =>
    simp only [form, Form.list.injEq, List.cons.injEq] at same
    exact absurd ((Token.kind_of_form same.2.1).trans isIdent)
      (TokenKind.ne_of_binding? isOp rfl)
  | _ => simp [form, Token.form] at same

theorem of_call {callee : Expr} {fs : List Form} (h : e.Proper N) (hc : callee.Proper N)
    (same : e.form = .list (.word .ident "call" :: callee.form :: fs)) :
    ∃ callee' paren args, e = .call callee' paren args ∧
      (callee'.Proper N ∧ callee'.form = callee.form) ∧ (paren.Scanned ∧ paren.kind = .rightParen) ∧
      (∀ arg ∈ args, arg.Proper N) ∧ args.map form = fs := by
  cases h with
  | call h scanned isClosing ha =>
    simp only [form, forms_eq, Form.list.injEq, List.cons.injEq] at same
    exact ⟨_, _, _, rfl, ⟨h, same.2.1⟩, ⟨scanned, isClosing⟩, ha, same.2.2⟩
  | unary _ isOp _ =>
    simp only [form, Token.form, Form.list.injEq, List.cons.injEq, Form.word.injEq] at same
    simp [same.1.1] at isOp
  | binary _ isOp _ _ _ | logical _ isOp _ _ _ =>
    simp only [form, Form.list.injEq, List.cons.injEq] at same
    exact absurd same.2.1 (hc.form_ne_op isOp)
  | _ => simp [form, Token.form] at same

/-- Expressions that are printed in one form are alike. -/
theorem alike {e' : Expr} (h : e.Proper Legible) (h' : e'.Proper Legible)
    (same : e'.form = e.form) : Expr.Alike Token.Alike e e' := by
  -- The form of the first expression settles which kind of node the second one is.
  induction h generalizing e' with
  | constant proper =>
    cases h' with
    | constant proper' =>
      obtain ⟨kind, text⟩ := Form.word.inj same
      rw [Constant.eq_of_render proper' proper kind text]
      exact .constant _
    | name _ isIdent =>
      exact absurd ((Form.word.inj same).1.symm.trans isIdent) (Constant.kind_ne_ident _)
    | _ => cases same
  | group _ ih =>
    obtain ⟨inner', rfl, proper, inner⟩ := h'.of_group same
    exact .group (ih proper inner)
  | unary scanned isOp _ ih =>
    obtain ⟨op', operand', rfl, scanned', op, proper, operand⟩ := h'.of_unary isOp same
    exact .unary (scanned.prefix_alike isOp scanned' op) (ih proper operand)
  | binary scanned isOp tight _ _ left right =>
    obtain ⟨op', left', right', rfl, scanned', op, ⟨hl, hl'⟩, hr, hr'⟩ := h'.of_operation isOp same
    rw [if_pos tight]
    exact .binary (scanned.op_alike isOp scanned' op) (left hl hl') (right hr hr')
  | logical scanned isOp loose _ _ left right =>
    obtain ⟨op', left', right', rfl, scanned', op, ⟨hl, hl'⟩, hr, hr'⟩ := h'.of_operation isOp same
    rw [if_neg (Nat.not_le_of_lt loose)]
    exact .logical (scanned.op_alike isOp scanned' op) (left hl hl') (right hr hr')
  | name scanned isIdent =>
    obtain ⟨ident', rfl, scanned', ident⟩ := h'.of_name isIdent same
    exact .name (scanned.ident_alike isIdent scanned' ident)
  | assign scanned isIdent _ ih =>
    obtain ⟨ident', value', rfl, scanned', ident, proper, value⟩ := h'.of_assign isIdent same
    exact .assign (scanned.ident_alike isIdent scanned' ident) (ih proper value)
  | call hc scanned isClosing _ ih each =>
    rw [form, forms_eq] at same
    obtain ⟨callee', paren', args', rfl, ⟨proper, callee⟩, ⟨scanned', isClosing'⟩, ha, args⟩ :=
      h'.of_call hc same
    -- The printer leaves the closing parenthesis out, but there is only one way to write it.
    have paren := scanned.alike_of_kind scanned' (isClosing.trans isClosing'.symm)
    exact .call (ih proper callee) (paren (by simp [isClosing]) (by simp [isClosing])
      (by simp [isClosing])) (.of_forall₂ (forall₂_of_map each ha args))

end Expr.Proper

/-! ### Statements of forms -/

/-- The kind of the word that a printed statement starts with. -/
def Stmt.kind : Stmt → TokenKind
  | .expression _ => .semicolon
  | .print _ _ => .printWord
  | .var _ _ => .varWord
  | .block _ => .ident
  | .branch _ _ _ => .ifWord
  | .loop _ _ => .whileWord
  | .function _ _ _ => .funWord
  | .ret _ _ => .returnWord

theorem Stmt.exists_form (s : Stmt) :
    ∃ text fs, s.form = .list (.word s.kind text :: fs) := by
  cases s with
  | var ident init => cases init <;> exact ⟨_, _, rfl⟩
  | branch condition yes no => cases no <;> exact ⟨_, _, rfl⟩
  | ret word value => cases value <;> exact ⟨_, _, rfl⟩
  | _ => exact ⟨_, _, rfl⟩

theorem Stmt.kind_of_form {s s' : Stmt} (same : s.form = s'.form) : s.kind = s'.kind := by
  obtain ⟨text, fs, form⟩ := s.exists_form
  obtain ⟨text', fs', form'⟩ := s'.exists_form
  rw [form, form', Form.list.injEq, List.cons.injEq, Form.word.injEq] at same
  exact same.1.1

namespace Stmt.Proper

/-- Statements that are printed in one form are alike. -/
theorem alike {s s' : Stmt} (h : s.Proper Legible) (h' : s'.Proper Legible)
    (same : s'.form = s.form) : Stmt.Alike Token.Alike s s' := by
  -- Statements of other kinds start with other words.
  induction h generalizing s' with
  | expression h =>
    cases h' with
    | expression h' =>
      simp only [form, Form.list.injEq, List.cons.injEq] at same
      exact .expression (h.alike h' same.2.1)
    | _ => cases Stmt.kind_of_form same
  | print scanned isPrint h =>
    cases h' with
    | print scanned' isPrint' h' =>
      simp only [form, Form.list.injEq, List.cons.injEq] at same
      have word := scanned.alike_of_kind scanned' (isPrint.trans isPrint'.symm)
      exact .print (word (by simp [isPrint]) (by simp [isPrint]) (by simp [isPrint]))
        (h.alike h' same.2.1)
    | _ => cases Stmt.kind_of_form same
  | @var ident init scanned isIdent h =>
    cases h' with
    | @var ident' init' scanned' isIdent' h' =>
      cases init with
      | none =>
        cases init' with
        | none =>
          simp only [form, Form.list.injEq, List.cons.injEq] at same
          exact .var (scanned.ident_alike isIdent scanned' same.2.1) .none
        | some e' => simp [form] at same
      | some e =>
        cases init' with
        | none => simp [form] at same
        | some e' =>
          simp only [form, Form.list.injEq, List.cons.injEq] at same
          exact .var (scanned.ident_alike isIdent scanned' same.2.1)
            (.some ((h e rfl).alike (h' e' rfl) same.2.2.2.1))
    | _ => cases Stmt.kind_of_form same
  | block _ each =>
    cases h' with
    | block h' =>
      simp only [form, forms_eq, Form.list.injEq, List.cons.injEq] at same
      exact .block (.of_forall₂ (forall₂_of_map each h' same.2))
    | _ => cases Stmt.kind_of_form same
  | @branch condition yes no hc _ _ hy hn =>
    cases h' with
    | @branch condition' yes' no' hc' hy' hn' =>
      cases no with
      | none =>
        cases no' with
        | none =>
          simp only [form, Form.list.injEq, List.cons.injEq] at same
          exact .branch (hc.alike hc' same.2.1) (hy hy' same.2.2.1)
        | some s' => simp [form] at same
      | some s =>
        cases no' with
        | none => simp [form] at same
        | some s' =>
          simp only [form, Form.list.injEq, List.cons.injEq] at same
          exact .branchElse (hc.alike hc' same.2.1) (hy hy' same.2.2.1)
            (hn s rfl (hn' s' rfl) same.2.2.2.1)
    | _ => cases Stmt.kind_of_form same
  | loop hc _ hb =>
    cases h' with
    | loop hc' hb' =>
      simp only [form, Form.list.injEq, List.cons.injEq] at same
      exact .loop (hc.alike hc' same.2.1) (hb hb' same.2.2.1)
    | _ => cases Stmt.kind_of_form same
  | @function ident params body scanned isIdent hp _ each =>
    cases h' with
    | function scanned' isIdent' hp' h' =>
      simp only [form, forms_eq, Form.list.injEq, List.cons.injEq] at same
      have param : ∀ p ∈ params, ∀ {p' : Token}, p'.Scanned ∧ p'.kind = .ident →
          p'.form = p.form → p.Alike p' :=
        fun p mem p' proper' => (hp p mem).1.ident_alike (hp p mem).2 proper'.1
      exact .function (scanned.ident_alike isIdent scanned' same.2.1)
        (forall₂_of_map param hp' same.2.2.1) (.of_forall₂ (forall₂_of_map each h' same.2.2.2))
    | _ => cases Stmt.kind_of_form same
  | @ret word value scanned isReturn h =>
    cases h' with
    | @ret word' value' scanned' isReturn' h' =>
      have word := scanned.alike_of_kind scanned' (isReturn.trans isReturn'.symm)
        (by simp [isReturn]) (by simp [isReturn]) (by simp [isReturn])
      cases value with
      | none =>
        cases value' with
        | none => exact .ret word .none
        | some e' => simp [form] at same
      | some e =>
        cases value' with
        | none => simp [form] at same
        | some e' =>
          simp only [form, Form.list.injEq, List.cons.injEq] at same
          exact .ret word (.some ((h e rfl).alike (h' e' rfl) same.2.1))
    | _ => cases Stmt.kind_of_form same

end Stmt.Proper

/-! ### Texts of trees -/

/-- Expressions with one text are alike. -/
theorem Expr.Proper.alike_of_render {e e' : Expr} (h : e.Proper Legible) (h' : e'.Proper Legible)
    (same : e.render = e'.render) : Expr.Alike Token.Alike e e' := by
  have read := h.words_render delimited_nil
  rw [same, h'.words_render delimited_nil] at read
  exact h.alike h' (h'.sound_form.unique h.sound_form read).1

/-- Statements with one text are alike. -/
theorem Stmt.Proper.alike_of_render {s s' : Stmt} (h : s.Proper Legible) (h' : s'.Proper Legible)
    (same : s.render = s'.render) : Stmt.Alike Token.Alike s s' := by
  have read := h.words_render delimited_nil
  rw [same, h'.words_render delimited_nil] at read
  exact h.alike h' (h'.sound_form.unique h.sound_form read).1

/-- Trees of faultless texts whose numbers are all finite can be told apart by what is printed: if
two statements have one text, or two expressions, then they differ at most in where their tokens
stand. -/
theorem render_unambiguous (source source' : String) :
    (∀ s s' : Stmt, s.ReadFrom source → s'.ReadFrom source' →
      (∀ x ∈ s.numbers, x.isFinite = true) → (∀ x ∈ s'.numbers, x.isFinite = true) →
      s.render = s'.render → Stmt.Alike Token.Alike s s') ∧
    ∀ e e' : Expr, e.ReadFrom source → e'.ReadFrom source' →
      (∀ x ∈ e.numbers, x.isFinite = true) → (∀ x ∈ e'.numbers, x.isFinite = true) →
      e.render = e'.render → Expr.Alike Token.Alike e e' := by
  constructor
  · intro s s' read read' finite finite' same
    exact (read.proper.and finite).alike_of_render (read'.proper.and finite') same
  · intro e e' read read' finite finite' same
    exact (read.proper.and finite).alike_of_render (read'.proper.and finite') same

/-- A call of a function that is named as calls are in printed trees. -/
def closeCall : String :=
  "call(2);"

/-- The same call with more blanks, another literal for its number and a comment. -/
def wideCall : String :=
  "call ( 2.0 ) ; // twice"

/-- The call in `closeCall`. -/
def closeTree : Expr :=
  .call (.name ⟨.ident, "call", none, 1, ⟨0, 4⟩⟩) ⟨.rightParen, ")", none, 1, ⟨6, 7⟩⟩
    [.constant (.number (Number.ofLiteral ['2'] []))]

/-- The call in `wideCall`. -/
def wideTree : Expr :=
  .call (.name ⟨.ident, "call", none, 1, ⟨0, 4⟩⟩) ⟨.rightParen, ")", none, 1, ⟨11, 12⟩⟩
    [.constant (.number (Number.ofLiteral ['2'] ['0']))]

theorem readFrom_closeCall : (Stmt.expression closeTree).ReadFrom closeCall := by
  have tokens : (scan closeCall).tokens =
      [⟨.ident, "call", none, 1, ⟨0, 4⟩⟩, ⟨.leftParen, "(", none, 1, ⟨4, 5⟩⟩,
        ⟨.number, "2", some (.number (Number.ofLiteral ['2'] [])), 1, ⟨5, 6⟩⟩,
        ⟨.rightParen, ")", none, 1, ⟨6, 7⟩⟩, ⟨.semicolon, ";", none, 1, ⟨7, 8⟩⟩,
        ⟨.eof, "", none, 1, ⟨8, 8⟩⟩] := by
    decide +kernel
  have script : Script.ofTokens (scan closeCall).tokens = ⟨[.expression closeTree], []⟩ := by
    rw [tokens, closeTree]
    generalize Number.ofLiteral ['2'] [] = x
    cbv
  have faultless : Faultless closeCall := by
    refine ⟨by decide +kernel, ?_⟩
    rw [script]
  refine .outermost faultless ?_
  rw [Script.stmtsOf, script]
  exact List.mem_singleton_self _

theorem readFrom_wideCall : (Stmt.expression wideTree).ReadFrom wideCall := by
  have tokens : (scan wideCall).tokens =
      [⟨.ident, "call", none, 1, ⟨0, 4⟩⟩, ⟨.leftParen, "(", none, 1, ⟨5, 6⟩⟩,
        ⟨.number, "2.0", some (.number (Number.ofLiteral ['2'] ['0'])), 1, ⟨7, 10⟩⟩,
        ⟨.rightParen, ")", none, 1, ⟨11, 12⟩⟩, ⟨.semicolon, ";", none, 1, ⟨13, 14⟩⟩,
        ⟨.eof, "", none, 1, ⟨23, 23⟩⟩] := by
    decide +kernel
  have script : Script.ofTokens (scan wideCall).tokens = ⟨[.expression wideTree], []⟩ := by
    rw [tokens, wideTree]
    generalize Number.ofLiteral ['2'] ['0'] = x
    cbv
  have faultless : Faultless wideCall := by
    refine ⟨by decide +kernel, ?_⟩
    rw [script]
  refine .outermost faultless ?_
  rw [Script.stmtsOf, script]
  exact List.mem_singleton_self _

theorem render_unambiguous_call :
    (Stmt.expression closeTree).render = (Stmt.expression wideTree).render ∧
      Stmt.Alike Token.Alike (.expression closeTree) (.expression wideTree) ∧
      Expr.Alike Token.Alike closeTree wideTree := by
  have finite : ∀ x ∈ (Stmt.expression closeTree).numbers, x.isFinite = true :=
    List.forall_mem_singleton.2 (by decide +kernel)
  have finite' : ∀ x ∈ (Stmt.expression wideTree).numbers, x.isFinite = true :=
    List.forall_mem_singleton.2 (by decide +kernel)
  obtain ⟨stmts, exprs⟩ := render_unambiguous closeCall wideCall
  refine ⟨by decide +kernel, ?_, ?_⟩
  · exact stmts _ _ readFrom_closeCall readFrom_wideCall finite finite' (by decide +kernel)
  · exact exprs _ _ (.expression readFrom_closeCall) (.expression readFrom_wideCall) finite finite'
      (by decide +kernel)

end ScriptLang

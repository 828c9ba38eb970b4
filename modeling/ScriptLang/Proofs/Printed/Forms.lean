import Mathlib.Data.List.Basic
import ScriptLang.Tree.Render

/-!
# Forms of trees

What is left of a tree when it is printed: words, and forms in parentheses.  The words that a form
is spelt with, parentheses included, tell the form, since a list of words has only one form at its
start.

## Main definitions

* `Form` — a word, or forms in parentheses
* `Form.words` — the words that a form is spelt with
* `Form.Sound` — forms in which no parenthesis is a word of its own
* `Expr.form`, `Stmt.form` — the forms of trees

## Main results

* `Form.Sound.unique` — words start with one form only
-/

namespace ScriptLang

/-- A word with its kind, or forms in parentheses. -/
inductive Form where
  | word (kind : TokenKind) (text : String)
  | list (items : List Form)

namespace Form

mutual

/-- The words that a form is spelt with. -/
def words : Form → List (TokenKind × String)
  | word kind text => [(kind, text)]
  | list items => (.leftParen, "(") :: (allWords items ++ [(.rightParen, ")")])

/-- The words that forms are spelt with, one after another. -/
def allWords : List Form → List (TokenKind × String)
  | [] => []
  | f :: rest => f.words ++ allWords rest

end

/-- No parenthesis is a word of its own. -/
inductive Sound : Form → Prop where
  | word {kind : TokenKind} {text : String} (opening : kind ≠ .leftParen)
      (closing : kind ≠ .rightParen) : Sound (word kind text)
  | list {items : List Form} (all : ∀ f ∈ items, Sound f) : Sound (list items)

namespace Sound

/-- A sound form starts with something but a closing parenthesis. -/
theorem starts {f : Form} (h : f.Sound) :
    ∃ w ws, f.words = w :: ws ∧ w.1 ≠ .rightParen := by
  cases h with
  | word _ closing => exact ⟨_, _, rfl, closing⟩
  | list _ => exact ⟨_, _, rfl, by decide⟩

/-- If words start with at most one of the forms of a list, then they start with at most one list of
forms that a closing parenthesis ends. -/
theorem all_unique {items items' : List Form} {ws ws' : List (TokenKind × String)}
    (all : ∀ f ∈ items, f.Sound) (all' : ∀ f ∈ items', f.Sound)
    (one : ∀ f ∈ items, ∀ {f' : Form} {us us' : List (TokenKind × String)}, f'.Sound →
      f.words ++ us = f'.words ++ us' → f = f' ∧ us = us')
    (same : allWords items ++ (.rightParen, ")") :: ws =
      allWords items' ++ (.rightParen, ")") :: ws') : items = items' ∧ ws = ws' := by
  induction items generalizing items' with
  | nil =>
    cases items' with
    | nil => exact ⟨rfl, (List.cons.inj same).2⟩
    | cons f' items' =>
      obtain ⟨w, us, starts, closing⟩ := (all' f' List.mem_cons_self).starts
      rw [allWords, allWords, starts] at same
      exact absurd (congrArg Prod.fst (List.cons.inj same).1).symm closing
  | cons f items ih =>
    obtain ⟨first, later⟩ := List.forall_mem_cons.1 all
    cases items' with
    | nil =>
      obtain ⟨w, us, starts, closing⟩ := first.starts
      rw [allWords, allWords, starts] at same
      exact absurd (congrArg Prod.fst (List.cons.inj same).1) closing
    | cons f' items' =>
      obtain ⟨first', later'⟩ := List.forall_mem_cons.1 all'
      rw [allWords, allWords, List.append_assoc, List.append_assoc] at same
      obtain ⟨rfl, rest⟩ := one f List.mem_cons_self first' same
      obtain ⟨rfl, rfl⟩ := ih later later' (fun g mem => one g (List.mem_cons_of_mem f mem)) rest
      exact ⟨rfl, rfl⟩

/-- Words start with one sound form only. -/
theorem unique {f f' : Form} {ws ws' : List (TokenKind × String)} (h : f.Sound) (h' : f'.Sound)
    (same : f.words ++ ws = f'.words ++ ws') : f = f' ∧ ws = ws' := by
  induction h generalizing f' ws ws' with
  | word opening closing =>
    cases h' with
    | word _ _ =>
      cases same
      exact ⟨rfl, rfl⟩
    | list _ =>
      cases same
      exact absurd rfl opening
  | list all one =>
    cases h' with
    | word opening _ =>
      cases same
      exact absurd rfl opening
    | list all' =>
      rw [words, words, List.cons_append, List.cons_append, List.append_assoc,
        List.append_assoc] at same
      obtain ⟨rfl, rfl⟩ := all_unique all all' one (List.cons.inj same).2
      exact ⟨rfl, rfl⟩

end Sound

end Form

/-! ### Trees -/

/-- The kind of the word that a constant is printed as. -/
def Constant.kind : Constant → TokenKind
  | nil => .nilWord
  | bool true => .trueWord
  | bool false => .falseWord
  | number _ => .number
  | string _ => .string

/-- The word that a token is printed as. -/
def Token.form (t : Token) : Form :=
  .word t.kind t.lexeme

mutual

/-- The form that an expression is printed in. -/
def Expr.form : Expr → Form
  | .constant value => .word value.kind value.render
  | .group inner => .list [.word .ident "group", inner.form]
  | .unary op operand => .list [op.form, operand.form]
  | .binary op left right => .list [left.form, op.form, right.form]
  | .logical op left right => .list [left.form, op.form, right.form]
  | .name ident => ident.form
  | .assign ident value => .list [.word .equal "=", ident.form, value.form]
  | .call callee _ args => .list (.word .ident "call" :: callee.form :: Expr.forms args)

/-- The forms of expressions one after another. -/
def Expr.forms : List Expr → List Form
  | [] => []
  | e :: rest => e.form :: Expr.forms rest

end

theorem Expr.forms_eq (es : List Expr) : Expr.forms es = es.map Expr.form := by
  induction es with
  | nil => rfl
  | cons e es ih => rw [Expr.forms, ih, List.map_cons]

mutual

/-- The form that a statement is printed in. -/
def Stmt.form : Stmt → Form
  | .expression expr => .list [.word .semicolon ";", expr.form]
  | .print _ expr => .list [.word .printWord "print", expr.form]
  | .var ident none => .list [.word .varWord "var", ident.form]
  | .var ident (some init) =>
    .list [.word .varWord "var", ident.form, .word .equal "=", init.form]
  | .block body => .list (.word .ident "block" :: Stmt.forms body)
  | .branch condition yes none => .list [.word .ifWord "if", condition.form, yes.form]
  | .branch condition yes (some no) =>
    .list [.word .ifWord "if", condition.form, yes.form, no.form]
  | .loop condition body => .list [.word .whileWord "while", condition.form, body.form]
  | .function ident params body =>
    .list (.word .funWord "fun" :: ident.form :: .list (params.map Token.form) :: Stmt.forms body)
  | .ret _ none => .list [.word .returnWord "return"]
  | .ret _ (some value) => .list [.word .returnWord "return", value.form]

/-- The forms of statements one after another. -/
def Stmt.forms : List Stmt → List Form
  | [] => []
  | s :: rest => s.form :: Stmt.forms rest

end

theorem Stmt.forms_eq (ss : List Stmt) : Stmt.forms ss = ss.map Stmt.form := by
  induction ss with
  | nil => rfl
  | cons s ss ih => rw [Stmt.forms, ih, List.map_cons]

end ScriptLang

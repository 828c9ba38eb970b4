import Mathlib.Data.List.Forall2
import ScriptLang.Tree

/-!
# Trees alike

Two trees are alike if they differ in their tokens only, and only as a relation between tokens
allows.  Tokens that a relation pairs up may stand in different places, say.

## Main definitions

* `Expr.Alike`, `Stmt.Alike` — likeness of trees up to a relation between their tokens

## Main results

* `Stmt.Alike.mono` — a wider relation makes more trees alike
* `Stmt.Alike.eq` — trees alike up to equality are equal
-/

namespace ScriptLang

variable {r q : Token → Token → Prop}

mutual

/-- Expressions that differ in their tokens only, as `r` allows. -/
inductive Expr.Alike (r : Token → Token → Prop) : Expr → Expr → Prop where
  | constant (value : Constant) : Expr.Alike r (.constant value) (.constant value)
  | group {inner inner' : Expr} (h : Expr.Alike r inner inner') :
      Expr.Alike r (.group inner) (.group inner')
  | unary {op op' : Token} {operand operand' : Expr} (ht : r op op')
      (h : Expr.Alike r operand operand') : Expr.Alike r (.unary op operand) (.unary op' operand')
  | binary {op op' : Token} {left left' right right' : Expr} (ht : r op op')
      (hl : Expr.Alike r left left') (hr : Expr.Alike r right right') :
      Expr.Alike r (.binary op left right) (.binary op' left' right')
  | logical {op op' : Token} {left left' right right' : Expr} (ht : r op op')
      (hl : Expr.Alike r left left') (hr : Expr.Alike r right right') :
      Expr.Alike r (.logical op left right) (.logical op' left' right')
  | name {ident ident' : Token} (ht : r ident ident') : Expr.Alike r (.name ident) (.name ident')
  | assign {ident ident' : Token} {value value' : Expr} (ht : r ident ident')
      (h : Expr.Alike r value value') : Expr.Alike r (.assign ident value) (.assign ident' value')
  | call {callee callee' : Expr} {paren paren' : Token} {args args' : List Expr}
      (h : Expr.Alike r callee callee') (ht : r paren paren') (ha : Expr.AllAlike r args args') :
      Expr.Alike r (.call callee paren args) (.call callee' paren' args')

/-- Lists of expressions that are alike one by one. -/
inductive Expr.AllAlike (r : Token → Token → Prop) : List Expr → List Expr → Prop where
  | nil : Expr.AllAlike r [] []
  | cons {e e' : Expr} {es es' : List Expr} (h : Expr.Alike r e e')
      (later : Expr.AllAlike r es es') : Expr.AllAlike r (e :: es) (e' :: es')

end

/-- Expressions that are alike, or none in either place. -/
inductive Expr.OptionAlike (r : Token → Token → Prop) : Option Expr → Option Expr → Prop where
  | none : Expr.OptionAlike r none none
  | some {e e' : Expr} (h : Expr.Alike r e e') : Expr.OptionAlike r (some e) (some e')

mutual

/-- Statements that differ in their tokens only, as `r` allows. -/
inductive Stmt.Alike (r : Token → Token → Prop) : Stmt → Stmt → Prop where
  | expression {e e' : Expr} (h : Expr.Alike r e e') : Stmt.Alike r (.expression e) (.expression e')
  | print {word word' : Token} {e e' : Expr} (ht : r word word') (h : Expr.Alike r e e') :
      Stmt.Alike r (.print word e) (.print word' e')
  | var {ident ident' : Token} {init init' : Option Expr} (ht : r ident ident')
      (h : Expr.OptionAlike r init init') : Stmt.Alike r (.var ident init) (.var ident' init')
  | block {body body' : List Stmt} (h : Stmt.AllAlike r body body') :
      Stmt.Alike r (.block body) (.block body')
  | branch {condition condition' : Expr} {yes yes' : Stmt} (hc : Expr.Alike r condition condition')
      (hy : Stmt.Alike r yes yes') :
      Stmt.Alike r (.branch condition yes none) (.branch condition' yes' none)
  | branchElse {condition condition' : Expr} {yes yes' no no' : Stmt}
      (hc : Expr.Alike r condition condition') (hy : Stmt.Alike r yes yes')
      (hn : Stmt.Alike r no no') :
      Stmt.Alike r (.branch condition yes (some no)) (.branch condition' yes' (some no'))
  | loop {condition condition' : Expr} {body body' : Stmt}
      (hc : Expr.Alike r condition condition') (hb : Stmt.Alike r body body') :
      Stmt.Alike r (.loop condition body) (.loop condition' body')
  | function {ident ident' : Token} {params params' : List Token} {body body' : List Stmt}
      (ht : r ident ident') (hp : List.Forall₂ r params params')
      (hb : Stmt.AllAlike r body body') :
      Stmt.Alike r (.function ident params body) (.function ident' params' body')
  | ret {word word' : Token} {value value' : Option Expr} (ht : r word word')
      (h : Expr.OptionAlike r value value') : Stmt.Alike r (.ret word value) (.ret word' value')

/-- Lists of statements that are alike one by one. -/
inductive Stmt.AllAlike (r : Token → Token → Prop) : List Stmt → List Stmt → Prop where
  | nil : Stmt.AllAlike r [] []
  | cons {s s' : Stmt} {ss ss' : List Stmt} (h : Stmt.Alike r s s')
      (later : Stmt.AllAlike r ss ss') : Stmt.AllAlike r (s :: ss) (s' :: ss')

end

/-! ### Wider relations -/

mutual

theorem Expr.Alike.mono (sub : ∀ t t', r t t' → q t t') : ∀ {e e' : Expr},
    Expr.Alike r e e' → Expr.Alike q e e'
  | _, _, .constant value => .constant value
  | _, _, .group h => .group (h.mono sub)
  | _, _, .unary ht h => .unary (sub _ _ ht) (h.mono sub)
  | _, _, .binary ht hl hr => .binary (sub _ _ ht) (hl.mono sub) (hr.mono sub)
  | _, _, .logical ht hl hr => .logical (sub _ _ ht) (hl.mono sub) (hr.mono sub)
  | _, _, .name ht => .name (sub _ _ ht)
  | _, _, .assign ht h => .assign (sub _ _ ht) (h.mono sub)
  | _, _, .call h ht ha => .call (h.mono sub) (sub _ _ ht) (ha.mono sub)

theorem Expr.AllAlike.mono (sub : ∀ t t', r t t' → q t t') : ∀ {es es' : List Expr},
    Expr.AllAlike r es es' → Expr.AllAlike q es es'
  | _, _, .nil => .nil
  | _, _, .cons h later => .cons (h.mono sub) (later.mono sub)

end

theorem Expr.OptionAlike.mono (sub : ∀ t t', r t t' → q t t') {e e' : Option Expr}
    (h : Expr.OptionAlike r e e') : Expr.OptionAlike q e e' := by
  cases h with
  | none => exact .none
  | some h => exact .some (h.mono sub)

mutual

theorem Stmt.Alike.mono (sub : ∀ t t', r t t' → q t t') : ∀ {s s' : Stmt},
    Stmt.Alike r s s' → Stmt.Alike q s s'
  | _, _, .expression h => .expression (h.mono sub)
  | _, _, .print ht h => .print (sub _ _ ht) (h.mono sub)
  | _, _, .var ht h => .var (sub _ _ ht) (h.mono sub)
  | _, _, .block h => .block (h.mono sub)
  | _, _, .branch hc hy => .branch (hc.mono sub) (hy.mono sub)
  | _, _, .branchElse hc hy hn => .branchElse (hc.mono sub) (hy.mono sub) (hn.mono sub)
  | _, _, .loop hc hb => .loop (hc.mono sub) (hb.mono sub)
  | _, _, .function ht hp hb => .function (sub _ _ ht) (hp.imp fun _ _ h => sub _ _ h) (hb.mono sub)
  | _, _, .ret ht h => .ret (sub _ _ ht) (h.mono sub)

theorem Stmt.AllAlike.mono (sub : ∀ t t', r t t' → q t t') : ∀ {ss ss' : List Stmt},
    Stmt.AllAlike r ss ss' → Stmt.AllAlike q ss ss'
  | _, _, .nil => .nil
  | _, _, .cons h later => .cons (h.mono sub) (later.mono sub)

end

theorem Stmt.AllAlike.append {ss ss' us us' : List Stmt} (h : Stmt.AllAlike r ss ss')
    (h' : Stmt.AllAlike r us us') : Stmt.AllAlike r (ss ++ us) (ss' ++ us') := by
  induction ss generalizing ss' with
  | nil =>
    cases h
    exact h'
  | cons s ss ih =>
    cases h with
    | cons h later => exact .cons h (ih later)

/-! ### One tree -/

mutual

theorem Expr.Alike.refl (h : ∀ t, r t t) : ∀ e : Expr, Expr.Alike r e e
  | .constant value => .constant value
  | .group inner => .group (.refl h inner)
  | .unary op operand => .unary (h op) (.refl h operand)
  | .binary op left right => .binary (h op) (.refl h left) (.refl h right)
  | .logical op left right => .logical (h op) (.refl h left) (.refl h right)
  | .name ident => .name (h ident)
  | .assign ident value => .assign (h ident) (.refl h value)
  | .call callee paren args => .call (.refl h callee) (h paren) (.refl h args)

theorem Expr.AllAlike.refl (h : ∀ t, r t t) : ∀ es : List Expr, Expr.AllAlike r es es
  | [] => .nil
  | e :: es => .cons (.refl h e) (.refl h es)

end

theorem Expr.OptionAlike.refl (h : ∀ t, r t t) : ∀ e : Option Expr, Expr.OptionAlike r e e
  | .none => .none
  | .some e => .some (.refl h e)

mutual

theorem Stmt.Alike.refl (h : ∀ t, r t t) : ∀ s : Stmt, Stmt.Alike r s s
  | .expression e => .expression (.refl h e)
  | .print word e => .print (h word) (.refl h e)
  | .var ident init => .var (h ident) (.refl h init)
  | .block body => .block (.refl h body)
  | .branch condition yes none => .branch (.refl h condition) (.refl h yes)
  | .branch condition yes (some no) => .branchElse (.refl h condition) (.refl h yes) (.refl h no)
  | .loop condition body => .loop (.refl h condition) (.refl h body)
  | .function ident _ body =>
    .function (h ident) (List.forall₂_same.2 fun t _ => h t) (.refl h body)
  | .ret word value => .ret (h word) (.refl h value)

theorem Stmt.AllAlike.refl (h : ∀ t, r t t) : ∀ ss : List Stmt, Stmt.AllAlike r ss ss
  | [] => .nil
  | s :: ss => .cons (.refl h s) (.refl h ss)

end

mutual

theorem Expr.Alike.eq : ∀ {e e' : Expr}, Expr.Alike Eq e e' → e = e'
  | _, _, .constant _ => rfl
  | _, _, .group h => by rw [h.eq]
  | _, _, .unary ht h => by rw [ht, h.eq]
  | _, _, .binary ht hl hr | _, _, .logical ht hl hr => by rw [ht, hl.eq, hr.eq]
  | _, _, .name ht => by rw [ht]
  | _, _, .assign ht h => by rw [ht, h.eq]
  | _, _, .call h ht ha => by rw [h.eq, ht, ha.eq]

theorem Expr.AllAlike.eq : ∀ {es es' : List Expr}, Expr.AllAlike Eq es es' → es = es'
  | _, _, .nil => rfl
  | _, _, .cons h later => by rw [h.eq, later.eq]

end

theorem Expr.OptionAlike.eq {e e' : Option Expr} (h : Expr.OptionAlike Eq e e') : e = e' := by
  cases h with
  | none => rfl
  | some h => rw [h.eq]

mutual

/-- Trees that are alike with equal tokens are equal. -/
theorem Stmt.Alike.eq : ∀ {s s' : Stmt}, Stmt.Alike Eq s s' → s = s'
  | _, _, .expression h => by rw [h.eq]
  | _, _, .print ht h => by rw [ht, h.eq]
  | _, _, .var ht h => by rw [ht, h.eq]
  | _, _, .block h => by rw [h.eq]
  | _, _, .branch hc hy => by rw [hc.eq, hy.eq]
  | _, _, .branchElse hc hy hn => by rw [hc.eq, hy.eq, hn.eq]
  | _, _, .loop hc hb => by rw [hc.eq, hb.eq]
  | _, _, .function ht hp hb => by
    rw [List.forall₂_eq_eq_eq] at hp
    rw [ht, hp, hb.eq]
  | _, _, .ret ht h => by rw [ht, h.eq]

theorem Stmt.AllAlike.eq : ∀ {ss ss' : List Stmt}, Stmt.AllAlike Eq ss ss' → ss = ss'
  | _, _, .nil => rfl
  | _, _, .cons h later => by rw [h.eq, later.eq]

end

end ScriptLang

import Mathlib.Data.List.Forall2
import ScriptLang.Proofs.Grammar.Complete

/-!
# Expressions written back

A tree keeps its operators, its names, and the closing parentheses of its calls.  Everything else
that stood in the text can be put back: parentheses around groups and before arguments, commas
between arguments, and the sign of an assignment.  So a tree says which tokens it was read from, and
the grammar of expressions can be said about trees alone: which tree may stand below which node
without parentheses around it.

## Main definitions

* `TokenKind.binding?` — how tightly a binary operator binds
* `Expr.fits` — whether a tree may stand where only tight enough ones may
* `Mark`, `Expr.written` — what a tree leaves in a text, in the order of the text

## Main results

* `Grammar.expression_iff_written` — deriving a tree is writing it, if it fits
* `Expr.ofTokens_eq_iff` — a tree is read without a fault exactly if the tokens derive it
* `Expr.ofTokens_precedence` — both together, with the uniqueness of the tree
-/

namespace ScriptLang

/-! ### Trees that need no more parentheses -/

/-- How tightly a binary operator binds: the greater the number, the tighter. -/
def TokenKind.binding? : TokenKind → Option Nat
  | .orWord => some 1
  | .andWord => some 2
  | .equalEqual | .bangEqual => some 3
  | .greater | .greaterEqual | .lesser | .lesserEqual => some 4
  | .plus | .minus | .ampersand => some 5
  | .star | .slash => some 6
  | _ => none

mutual

/-- Whether a tree, without parentheses around it, may stand where what is looser than `n` may not.
Assignments have the number 0, binary operators those of `binding?`, prefix operators 7 and calls 8;
everything else is as tight as can be.  An operand on the side to which an operator does not
associate has to be tighter than the operator. -/
def Expr.fits : Nat → Expr → Bool
  | n, .assign ident value => n == 0 && ident.kind == .ident && value.fits 0
  | n, .logical op left right =>
    match op.kind.binding? with
    | some m => n ≤ m && m ≤ 2 && left.fits m && right.fits (m + 1)
    | none => false
  | n, .binary op left right =>
    match op.kind.binding? with
    | some m => n ≤ m && 3 ≤ m && left.fits m && right.fits (m + 1)
    | none => false
  | n, .unary op operand => n ≤ 7 && (op.kind == .bang || op.kind == .minus) && operand.fits 7
  | n, .call callee paren args =>
    n ≤ 8 && callee.fits 8 && paren.kind == .rightParen && args.length ≤ maxArguments &&
      Expr.allFit args
  | _, .group inner => inner.fits 0
  | _, .name ident => ident.kind == .ident
  | _, .constant _ => true

/-- Whether all of these trees may stand between commas. -/
def Expr.allFit : List Expr → Bool
  | [] => true
  | e :: more => e.fits 0 && Expr.allFit more

end

/-- A tree that may stand at one place may stand at every place that asks for less. -/
theorem Expr.fits_mono {m n : Nat} (h : m ≤ n) {e : Expr} (fits : e.fits n = true) :
    e.fits m = true := by
  cases e with
  | assign ident value =>
    simp only [Expr.fits, Bool.and_eq_true, beq_iff_eq] at fits ⊢
    exact ⟨⟨by omega, fits.1.2⟩, fits.2⟩
  | logical op left right | binary op left right =>
    unfold Expr.fits at fits ⊢
    cases hb : op.kind.binding? with
    | none => simp [hb] at fits
    | some k =>
      simp only [hb, Bool.and_eq_true, decide_eq_true_eq] at fits ⊢
      exact ⟨⟨⟨Nat.le_trans h fits.1.1.1, fits.1.1.2⟩, fits.1.2⟩, fits.2⟩
  | unary op operand =>
    simp only [Expr.fits, Bool.and_eq_true, decide_eq_true_eq] at fits ⊢
    exact ⟨⟨Nat.le_trans h fits.1.1, fits.1.2⟩, fits.2⟩
  | call callee paren args =>
    simp only [Expr.fits, Bool.and_eq_true, decide_eq_true_eq] at fits ⊢
    exact ⟨⟨⟨⟨Nat.le_trans h fits.1.1.1.1, fits.1.1.1.2⟩, fits.1.1.2⟩, fits.1.2⟩, fits.2⟩
  | group inner | name ident | constant value => exact fits

/-! ### What a tree leaves in a text -/

/-- A token stands for a constant.  A literal without a value stands for nil, as the word does. -/
inductive Constant.Spelled : Constant → Token → Prop where
  | nil {t : Token} (isNil : t.kind = .nilWord) : Spelled .nil t
  | true {t : Token} (isTrue : t.kind = .trueWord) : Spelled (.bool Bool.true) t
  | false {t : Token} (isFalse : t.kind = .falseWord) : Spelled (.bool Bool.false) t
  | noValue {t : Token} (isLiteral : t.kind = .number ∨ t.kind = .string) (h : t.literal = none) :
    Spelled .nil t
  | number {t : Token} {x : Float} (isLiteral : t.kind = .number ∨ t.kind = .string)
    (h : t.literal = some (.number x)) : Spelled (.number x) t
  | string {t : Token} {s : String} (isLiteral : t.kind = .number ∨ t.kind = .string)
    (h : t.literal = some (.string s)) : Spelled (.string s) t

/-- What a tree leaves at one place of a text. -/
inductive Mark where
  /-- A token that the tree keeps. -/
  | kept (t : Token)
  /-- A constant, of which the tree keeps the value only. -/
  | constant (value : Constant)
  /-- Punctuation that the tree does not keep. -/
  | sign (kind : TokenKind)

/-- The token is what the mark asks for. -/
def Mark.Spelled : Mark → Token → Prop
  | kept t, u => u = t
  | constant value, u => value.Spelled u
  | sign kind, u => u.kind = kind

mutual

/-- The marks of a tree, in the order of the text. -/
def Expr.written : Expr → List Mark
  | .assign ident value => .kept ident :: .sign .equal :: value.written
  | .logical op left right | .binary op left right => left.written ++ .kept op :: right.written
  | .unary op operand => .kept op :: operand.written
  | .call callee paren args =>
    callee.written ++ .sign .leftParen :: (Expr.writtenEach args ++ [.kept paren])
  | .group inner => .sign .leftParen :: (inner.written ++ [.sign .rightParen])
  | .name ident => [.kept ident]
  | .constant value => [.constant value]

/-- The marks of trees with commas between them. -/
def Expr.writtenEach : List Expr → List Mark
  | [] => []
  | [e] => e.written
  | e :: more => e.written ++ .sign .comma :: Expr.writtenEach more

end

/-- The tokens are what the marks ask for, one by one. -/
abbrev Spell (marks : List Mark) (ts : List Token) : Prop :=
  List.Forall₂ Mark.Spelled marks ts

theorem Spell.append {as bs : List Mark} {ts us : List Token} (h : Spell as ts) (h' : Spell bs us) :
    Spell (as ++ bs) (ts ++ us) :=
  List.rel_append h h'

theorem Spell.uncons {a : Mark} {as : List Mark} {ts : List Token} (h : Spell (a :: as) ts) :
    ∃ t us, ts = t :: us ∧ a.Spelled t ∧ Spell as us := by
  obtain ⟨t, us, ha, has, rfl⟩ := List.forall₂_cons_left_iff.1 h
  exact ⟨t, us, rfl, ha, has⟩

theorem Spell.split {as bs : List Mark} {ts : List Token} (h : Spell (as ++ bs) ts) :
    ∃ us vs, ts = us ++ vs ∧ Spell as us ∧ Spell bs vs := by
  induction as generalizing ts with
  | nil => exact ⟨[], ts, rfl, .nil, h⟩
  | cons a as ih =>
    obtain ⟨t, ts', rfl, ha, h'⟩ := Spell.uncons h
    obtain ⟨us, vs, rfl, first, second⟩ := ih h'
    exact ⟨t :: us, vs, rfl, .cons ha first, second⟩

theorem Constant.spelled_ofLiteral {t : Token} (isLiteral : t.kind = .number ∨ t.kind = .string) :
    (Constant.ofLiteral t.literal).Spelled t := by
  unfold Constant.ofLiteral
  split
  · exact .noValue isLiteral ‹_›
  · exact .number isLiteral ‹_›
  · exact .string isLiteral ‹_›

namespace Grammar

/-! ### Ranks by number -/

/-- The rank of the trees that a number allows. -/
def rankOf : Nat → Rank
  | 0 => .assignment
  | 1 => .level (some .disjunction)
  | 2 => .level (some .conjunction)
  | 3 => .level (some .equality)
  | 4 => .level (some .comparison)
  | 5 => .level (some .sum)
  | 6 => .level (some .product)
  | 7 => .level none
  | 8 => .call
  | _ => .primary

/-- The number of a rank. -/
def numberOf : Rank → Nat
  | .assignment => 0
  | .level l => 7 - Level.rank? l
  | .call => 8
  | .primary => 9

theorem rankOf_numberOf (r : Rank) : rankOf (numberOf r) = r := by
  rcases r with _ | (_ | l) | _ | _
  case level.some => cases l <;> rfl
  all_goals rfl

/-- An operator belongs to the level with its number. -/
theorem has_iff_binding? (l : Level) (k : TokenKind) :
    l.has k = true ↔ k.binding? = some (numberOf (.level (some l))) := by
  cases l <;> cases k <;> decide

theorem numberOf_tighter? (l : Level) :
    numberOf (.level l.tighter?) = numberOf (.level (some l)) + 1 := by
  cases l <;> rfl

/-- The node of an operator fits if its operands do: the left one may be of the same level. -/
theorem fits_node {l : Level} {op : Token} {left right : Expr} (isOp : l.has op.kind = true) :
    (l.node op left right).fits (numberOf (.level (some l))) = true ↔
      left.fits (numberOf (.level (some l))) = true ∧
        right.fits (numberOf (.level l.tighter?)) = true := by
  have hb := (has_iff_binding? l op.kind).1 isOp
  rw [numberOf_tighter?]
  cases l <;> simp [Level.node, Expr.fits, hb, numberOf, Level.rank?, Level.rank]

theorem written_node (l : Level) (op : Token) (left right : Expr) :
    (l.node op left right).written = left.written ++ .kept op :: right.written := by
  cases l <;> simp [Level.node, Expr.written]

/-- Every binary operator belongs to a level. -/
theorem exists_level {k : TokenKind} {m : Nat} (h : k.binding? = some m) :
    ∃ l : Level, l.has k = true ∧ numberOf (.level (some l)) = m := by
  have level : ∃ l : Level, l.has k = true := by
    cases k <;> simp only [TokenKind.binding?, reduceCtorEq] at h <;>
      first
      | exact ⟨.disjunction, rfl⟩ | exact ⟨.conjunction, rfl⟩ | exact ⟨.equality, rfl⟩
      | exact ⟨.comparison, rfl⟩ | exact ⟨.sum, rfl⟩ | exact ⟨.product, rfl⟩
  obtain ⟨l, hl⟩ := level
  have bind := (has_iff_binding? l k).1 hl
  rw [h, Option.some.injEq] at bind
  exact ⟨l, hl, bind.symm⟩

/-- The two loosest levels have nodes of their own, since their right operands may be skipped. -/
theorem node_eq_logical {l : Level} (h : numberOf (.level (some l)) ≤ 2) (op : Token)
    (left right : Expr) : l.node op left right = .logical op left right := by
  cases l <;> first | rfl | simp [numberOf, Level.rank?, Level.rank] at h

theorem node_eq_binary {l : Level} (h : 3 ≤ numberOf (.level (some l))) (op : Token)
    (left right : Expr) : l.node op left right = .binary op left right := by
  cases l <;> first | rfl | simp [numberOf, Level.rank?, Level.rank] at h

/-- A tree with a binary operator that fits is the node of a level, and its operands fit. -/
theorem exists_node {n : Nat} {e left right : Expr} {op : Token}
    (isNode : e = .logical op left right ∨ e = .binary op left right) (fits : e.fits n = true) :
    ∃ l : Level, l.has op.kind = true ∧ n ≤ numberOf (.level (some l)) ∧ l.node op left right = e ∧
      left.fits (numberOf (.level (some l))) = true ∧
      right.fits (numberOf (.level (some l)) + 1) = true := by
  cases bind : op.kind.binding? with
  | none => obtain rfl | rfl := isNode <;> simp [Expr.fits, bind] at fits
  | some m =>
    obtain ⟨l, isOp, rfl⟩ := exists_level bind
    refine ⟨l, isOp, ?_⟩
    obtain rfl | rfl := isNode
    · simp only [Expr.fits, bind, Bool.and_eq_true, decide_eq_true_eq] at fits
      obtain ⟨⟨⟨le, loose⟩, fitsLeft⟩, fitsRight⟩ := fits
      exact ⟨le, node_eq_logical loose .., fitsLeft, fitsRight⟩
    · simp only [Expr.fits, bind, Bool.and_eq_true, decide_eq_true_eq] at fits
      obtain ⟨⟨⟨le, tight⟩, fitsLeft⟩, fitsRight⟩ := fits
      exact ⟨le, node_eq_binary tight .., fitsLeft, fitsRight⟩

/-- What stands at one rank stands at the next looser one. -/
theorem Expression.loosen {ts rest : List Token} {e : Expr} :
    ∀ n, Expression (rankOf (n + 1)) ts e rest → Expression (rankOf n) ts e rest
  | 0, h => .disjunction h
  | 1, h => .tighter (l := .disjunction) h
  | 2, h => .tighter (l := .conjunction) h
  | 3, h => .tighter (l := .equality) h
  | 4, h => .tighter (l := .comparison) h
  | 5, h => .tighter (l := .sum) h
  | 6, h => .tighter (l := .product) h
  | 7, h => .ofCall h
  | 8, h => .ofPrimary h
  | _ + 9, h => h

theorem Expression.loosenTo {ts rest : List Token} {e : Expr} {m n : Nat} (le : m ≤ n)
    (h : Expression (rankOf n) ts e rest) : Expression (rankOf m) ts e rest := by
  induction le with
  | refl => exact h
  | step _ ih => exact ih (h.loosen _)

/-! ### Derivations and trees -/

mutual

/-- A tree that derives from tokens fits, and is written as these tokens. -/
theorem Expression.written : ∀ {r : Rank} {ts rest : List Token} {e : Expr},
    Expression r ts e rest →
      ∃ us, ts = us ++ rest ∧ e.fits (numberOf r) = true ∧ Spell e.written us
  | _, _, _, _, .assign isIdent isEquals right => by
    obtain ⟨us, rfl, fits, spell⟩ := right.written
    refine ⟨_ :: _ :: us, rfl, ?_, .cons rfl (.cons isEquals spell)⟩
    simp [Expr.fits, numberOf, isIdent, show Expr.fits 0 _ = true from fits]
  | _, _, _, _, .disjunction inner => by
    obtain ⟨us, rfl, fits, spell⟩ := inner.written
    exact ⟨us, rfl, Expr.fits_mono (Nat.zero_le _) fits, spell⟩
  | _, _, _, _, .tighter (l := l) inner => by
    obtain ⟨us, rfl, fits, spell⟩ := inner.written
    rw [numberOf_tighter?] at fits
    exact ⟨us, rfl, Expr.fits_mono (Nat.le_succ _) fits, spell⟩
  | _, _, _, _, .operation (l := l) first isOp second => by
    rename_i op left right
    obtain ⟨us, rfl, fits, spell⟩ := first.written
    obtain ⟨vs, rfl, fits', spell'⟩ := second.written
    refine ⟨us ++ op :: vs, by simp, (fits_node isOp).2 ⟨fits, fits'⟩, ?_⟩
    rw [written_node]
    exact spell.append (.cons rfl spell')
  | _, _, _, _, .unary isOp inner => by
    obtain ⟨us, rfl, fits, spell⟩ := inner.written
    refine ⟨_ :: us, rfl, ?_, .cons rfl spell⟩
    simpa [Expr.fits, numberOf, Level.rank?, isOp] using fits
  | _, _, _, _, .ofCall inner => by
    obtain ⟨us, rfl, fits, spell⟩ := inner.written
    exact ⟨us, rfl, Expr.fits_mono (by decide) fits, spell⟩
  | _, _, _, _, .ofPrimary inner => by
    obtain ⟨us, rfl, fits, spell⟩ := inner.written
    exact ⟨us, rfl, Expr.fits_mono (by decide) fits, spell⟩
  | _, _, _, _, .callEmpty first isOpening isClosing => by
    obtain ⟨us, rfl, fits, spell⟩ := first.written
    refine ⟨us ++ [_, _], by simp, ?_, spell.append (.cons isOpening (.cons rfl .nil))⟩
    have fits : Expr.fits 8 _ = true := fits
    simp [Expr.fits, Expr.allFit, numberOf, isClosing, fits]
  | _, _, _, _, .call first isOpening second few isClosing => by
    obtain ⟨us, rfl, fits, spell⟩ := first.written
    obtain ⟨vs, rfl, fits', spell'⟩ := second.written
    refine ⟨us ++ _ :: (vs ++ [_]), by simp, ?_,
      spell.append (.cons isOpening (spell'.append (.cons rfl .nil)))⟩
    have fits : Expr.fits 8 _ = true := fits
    simp [Expr.fits, numberOf, isClosing, fits, fits', few]
  | _, _, _, _, .true h => ⟨[_], rfl, rfl, .cons (.true h) .nil⟩
  | _, _, _, _, .false h => ⟨[_], rfl, rfl, .cons (.false h) .nil⟩
  | _, _, _, _, .nil h => ⟨[_], rfl, rfl, .cons (.nil h) .nil⟩
  | _, _, _, _, .literal h => ⟨[_], rfl, rfl, .cons (Constant.spelled_ofLiteral h) .nil⟩
  | _, _, _, _, .name h => ⟨[_], rfl, by simp [Expr.fits, h], .cons rfl .nil⟩
  | _, _, _, _, .group isOpening body isClosing => by
    obtain ⟨us, rfl, fits, spell⟩ := body.written
    exact ⟨_ :: (us ++ [_]), by simp, fits,
      .cons isOpening (spell.append (.cons isClosing .nil))⟩

theorem Arguments.written : ∀ {ts rest : List Token} {args : List Expr}, Arguments ts args rest →
    ∃ us, ts = us ++ rest ∧ Expr.allFit args = true ∧ Spell (Expr.writtenEach args) us
  | _, _, _, .last first => by
    obtain ⟨us, rfl, fits, spell⟩ := first.written
    have fits : Expr.fits 0 _ = true := fits
    exact ⟨us, rfl, by simp [Expr.allFit, fits], spell⟩
  | _, _, _, .more first isComma later => by
    rename_i comma args
    obtain ⟨us, rfl, fits, spell⟩ := first.written
    obtain ⟨vs, rfl, fits', spell'⟩ := later.written
    refine ⟨us ++ comma :: vs, by simp, ?_, ?_⟩
    · have fits : Expr.fits 0 _ = true := fits
      simp [Expr.allFit, fits, fits']
    · -- There are arguments behind the comma, so it is written.
      cases later <;> exact spell.append (.cons isComma spell')

end

/-- A constant derives from the token that stands for it. -/
theorem Expression.ofConstant {value : Constant} {t : Token} (h : value.Spelled t)
    (rest : List Token) : Expression .primary (t :: rest) (.constant value) rest := by
  cases h with
  | nil isNil => exact .nil isNil
  | «true» isTrue => exact .true isTrue
  | «false» isFalse => exact .false isFalse
  | noValue isLiteral h | number isLiteral h | string isLiteral h =>
    have derived : Expression .primary (t :: rest) _ rest := .literal isLiteral
    rwa [h] at derived

/-- An operator between trees of its level and of the next tighter one. -/
theorem Expression.ofOperation {l : Level} {n : Nat} {op : Token} {ts us rest : List Token}
    {left right : Expr} (isOp : l.has op.kind = Bool.true) (le : n ≤ numberOf (.level (some l)))
    (first : Expression (rankOf (numberOf (.level (some l)))) ts left (op :: us))
    (second : Expression (rankOf (numberOf (.level (some l)) + 1)) us right rest) :
    Expression (rankOf n) ts (l.node op left right) rest := by
  rw [← numberOf_tighter?, rankOf_numberOf] at second
  rw [rankOf_numberOf] at first
  have whole := Expression.operation first isOp second
  rw [← rankOf_numberOf (.level (some l))] at whole
  exact whole.loosenTo le

mutual

/-- A tree that fits derives from the tokens that it is written as. -/
theorem Expression.of_written (rest : List Token) : ∀ {n : Nat} {ts : List Token} (e : Expr),
    e.fits n = true → Spell e.written ts → Expression (rankOf n) (ts ++ rest) e rest
  | n, ts, .assign ident value, fits, spell => by
    simp only [Expr.fits, Bool.and_eq_true, beq_iff_eq] at fits
    obtain ⟨⟨rfl, isIdent⟩, fits⟩ := fits
    rw [Expr.written] at spell
    obtain ⟨_, us, rfl, rfl, behind⟩ := spell.uncons
    obtain ⟨equals, vs, rfl, isEquals, right⟩ := behind.uncons
    exact .assign isIdent isEquals (Expression.of_written rest value fits right)
  | n, ts, .logical op left right, fits, spell => by
    obtain ⟨l, isOp, le, same, fitsLeft, fitsRight⟩ := exists_node (.inl rfl) fits
    rw [Expr.written] at spell
    obtain ⟨us, vs, rfl, first, behind⟩ := spell.split
    obtain ⟨_, ws, rfl, rfl, second⟩ := behind.uncons
    rw [← same, List.append_assoc]
    exact .ofOperation isOp le (Expression.of_written _ left fitsLeft first)
      (Expression.of_written rest right fitsRight second)
  | n, ts, .binary op left right, fits, spell => by
    obtain ⟨l, isOp, le, same, fitsLeft, fitsRight⟩ := exists_node (.inr rfl) fits
    rw [Expr.written] at spell
    obtain ⟨us, vs, rfl, first, behind⟩ := spell.split
    obtain ⟨_, ws, rfl, rfl, second⟩ := behind.uncons
    rw [← same, List.append_assoc]
    exact .ofOperation isOp le (Expression.of_written _ left fitsLeft first)
      (Expression.of_written rest right fitsRight second)
  | n, ts, .unary op operand, fits, spell => by
    simp only [Expr.fits, Bool.and_eq_true, Bool.or_eq_true, decide_eq_true_eq, beq_iff_eq] at fits
    obtain ⟨⟨le, isOp⟩, fits⟩ := fits
    rw [Expr.written] at spell
    obtain ⟨_, us, rfl, rfl, inner⟩ := spell.uncons
    have derived := Expression.of_written rest operand fits inner
    exact Expression.loosenTo (n := 7) le (.unary isOp derived)
  | n, ts, .call callee paren args, fits, spell => by
    simp only [Expr.fits, Bool.and_eq_true, decide_eq_true_eq, beq_iff_eq] at fits
    obtain ⟨⟨⟨⟨le, fits⟩, isClosing⟩, few⟩, fitsArgs⟩ := fits
    rw [Expr.written] at spell
    obtain ⟨us, vs, rfl, first, behind⟩ := spell.split
    obtain ⟨opening, ws, rfl, isOpening, inner⟩ := behind.uncons
    obtain ⟨ws, xs, rfl, second, closed⟩ := inner.split
    obtain ⟨closing, _, rfl, rfl, nothing⟩ := closed.uncons
    obtain rfl := List.forall₂_nil_left_iff.1 nothing
    have called := Expression.of_written (opening :: (ws ++ closing :: rest)) callee fits first
    have whole : Expression (rankOf 8) (us ++ opening :: (ws ++ closing :: rest))
        (.call callee closing args) rest := by
      by_cases none : args = []
      · subst none
        obtain rfl := List.forall₂_nil_left_iff.1 second
        exact .callEmpty called isOpening isClosing
      · have derived := Arguments.of_written (closing :: rest) args none fitsArgs second
        exact .call called isOpening derived few isClosing
    simpa using whole.loosenTo le
  | n, ts, .group inner, fits, spell => by
    rw [Expr.fits] at fits
    rw [Expr.written] at spell
    obtain ⟨opening, us, rfl, isOpening, behind⟩ := spell.uncons
    obtain ⟨vs, ws, rfl, body, closed⟩ := behind.split
    obtain ⟨closing, _, rfl, isClosing, nothing⟩ := closed.uncons
    obtain rfl := List.forall₂_nil_left_iff.1 nothing
    have derived := Expression.of_written (closing :: rest) inner fits body
    have whole : Expression (rankOf (n + 9)) (opening :: (vs ++ closing :: rest)) (.group inner)
      rest := .group isOpening derived isClosing
    simpa using whole.loosenTo (Nat.le_add_right n 9)
  | n, ts, .name ident, fits, spell => by
    rw [Expr.fits, beq_iff_eq] at fits
    obtain ⟨_, _, rfl, rfl, nothing⟩ := spell.uncons
    obtain rfl := List.forall₂_nil_left_iff.1 nothing
    exact Expression.loosenTo (n := n + 9) (Nat.le_add_right n 9) (.name fits)
  | n, ts, .constant value, _, spell => by
    obtain ⟨t, _, rfl, spelled, nothing⟩ := spell.uncons
    obtain rfl := List.forall₂_nil_left_iff.1 nothing
    exact Expression.loosenTo (n := n + 9) (Nat.le_add_right n 9) (.ofConstant spelled rest)

theorem Arguments.of_written (rest : List Token) : ∀ {ts : List Token} (args : List Expr),
    args ≠ [] → Expr.allFit args = true → Spell (Expr.writtenEach args) ts →
      Arguments (ts ++ rest) args rest
  | _, [], nonempty, _, _ => absurd rfl nonempty
  | ts, [e], _, fits, spell => by
    rw [Expr.allFit, Bool.and_eq_true] at fits
    exact .last (Expression.of_written rest e fits.1 spell)
  | ts, e :: e' :: more, _, fits, spell => by
    rw [Expr.allFit, Bool.and_eq_true] at fits
    rw [Expr.writtenEach] at spell
    · obtain ⟨us, vs, rfl, first, behind⟩ := spell.split
      obtain ⟨comma, ws, rfl, isComma, later⟩ := behind.uncons
      have arg := Expression.of_written (comma :: (ws ++ rest)) e fits.1 first
      have args := Arguments.of_written rest (e' :: more) (List.cons_ne_nil _ _) fits.2 later
      simpa using Arguments.more arg isComma args
    · simp

end

/-- Deriving a tree is the same as writing it, for trees that fit. -/
theorem expression_iff_written {r : Rank} {ts rest : List Token} {e : Expr} :
    Expression r ts e rest ↔
      ∃ us, ts = us ++ rest ∧ e.fits (numberOf r) = true ∧ Spell e.written us := by
  constructor
  · exact Expression.written
  · rintro ⟨us, rfl, fits, spell⟩
    have derived := Expression.of_written rest e fits spell
    rwa [rankOf_numberOf] at derived

/-- The tokens of an expression have a single tree. -/
theorem Expression.unique {ts : List Token} {e e' : Expr} (h : Expression .assignment ts e [])
    (h' : Expression .assignment ts e' []) : e = e' := by
  have stops : Stops .assignment [] := fun t us ht => nomatch ht
  -- Reading yields both trees, wherever the tokens end.
  let start : Cursor := ⟨none, ts, ⟨.eof, "", none, 1, ⟨0, 0⟩⟩, []⟩
  obtain ⟨_, _, read, -⟩ := h.reads start rfl stops
  obtain ⟨_, _, read', -⟩ := h'.reads start rfl stops
  rw [read] at read'
  cases read'
  rfl

end Grammar

/-! ### Reading an expression on its own -/

open Grammar

/-- An expression is read without a fault exactly if the tokens derive it. -/
theorem Expr.ofTokens_eq_iff {ts : List Token} {last : Token} (inner : ∀ t ∈ ts, t.kind ≠ .eof)
    (isLast : last.kind = .eof) (e : Expr) :
    Expr.ofTokens (ts ++ [last]) = (some e, []) ↔ Expression .assignment ts e [] := by
  have sound := Expr.read_sound ⟨none, ts, last, []⟩
  rw [Expr.ofTokens, Cursor.start?_append inner isLast]
  constructor
  · intro read
    cases h : Expr.read ⟨none, ts, last, []⟩ with
    | fault d after noLonger => simp [h] at read
    | done e' after shorter =>
      by_cases ended : after.rest = []
      · simp only [h, ended, if_true, Prod.mk.injEq, Option.some.injEq] at read
        obtain ⟨rfl, quiet⟩ := read
        rw [h] at sound
        exact ended ▸ sound.2 quiet
      · simp [h, ended] at read
  · intro derived
    have stops : Stops .assignment [] := fun t us ht => absurd ht (List.cons_ne_nil t us).symm
    obtain ⟨after, shorter, h, reach⟩ := derived.reads ⟨none, ts, last, []⟩ rfl stops
    simp [h, reach.rest, reach.reported]

/-- Reading an expression finds no fault exactly if the tokens derive from the grammar, and yields
the tree of the derivation, which is the only one.  It is the tree whose operators bind as tightly
as they should, and which is written as these very tokens. -/
theorem Expr.ofTokens_precedence {ts : List Token} {last : Token} (inner : ∀ t ∈ ts, t.kind ≠ .eof)
    (isLast : last.kind = .eof) :
    ((∃ e, Expr.ofTokens (ts ++ [last]) = (some e, [])) ↔ ∃ e, Expression .assignment ts e []) ∧
      (∀ e, Expr.ofTokens (ts ++ [last]) = (some e, []) ↔ Expression .assignment ts e []) ∧
      (∀ e e', Expression .assignment ts e [] → Expression .assignment ts e' [] → e = e') ∧
      ∀ e, Expression .assignment ts e [] ↔ e.fits 0 = true ∧ Spell e.written ts := by
  have read := Expr.ofTokens_eq_iff inner isLast
  refine ⟨exists_congr read, read, fun _ _ => Expression.unique, fun e => ?_⟩
  rw [expression_iff_written]
  constructor
  · rintro ⟨us, rfl, fits, spell⟩
    exact ⟨fits, by simpa using spell⟩
  · rintro ⟨fits, spell⟩
    exact ⟨ts, by simp, fits, spell⟩

/-- A token of which only the kind and the text count. -/
def Grammar.word (kind : TokenKind) (lexeme : String) : Token :=
  ⟨kind, lexeme, none, 1, ⟨0, 0⟩⟩

/-- The tokens of `a = - b - c(d, "") or (e = nil) and g`. -/
def Grammar.mixed : List Token :=
  [word .ident "a", word .equal "=", word .minus "-", word .ident "b", word .minus "-",
    word .ident "c", word .leftParen "(", word .ident "d", word .comma ",", word .string "",
    word .rightParen ")", word .orWord "or", word .leftParen "(", word .ident "e",
    word .equal "=", word .nilWord "nil", word .rightParen ")", word .andWord "and",
    word .ident "g"]

/-- The tree of these tokens; the literal without a value counts as nil. -/
def Grammar.mixedTree : Expr :=
  .assign (word .ident "a")
    (.logical (word .orWord "or")
      (.binary (word .minus "-") (.unary (word .minus "-") (.name (word .ident "b")))
        (.call (.name (word .ident "c")) (word .rightParen ")")
          [.name (word .ident "d"), .constant .nil]))
      (.logical (word .andWord "and") (.group (.assign (word .ident "e") (.constant .nil)))
        (.name (word .ident "g"))))

/-- The operators of all kinds in one expression are read as they bind. -/
theorem Expr.ofTokens_mixed :
    (∀ t ∈ mixed, t.kind ≠ .eof) ∧
      Expr.ofTokens (mixed ++ [word .eof ""]) = (some mixedTree, []) := by
  have inner : ∀ t ∈ mixed, t.kind ≠ .eof := by decide
  have isLast : (word .eof "").kind = .eof := rfl
  have whole := Expr.ofTokens_precedence inner isLast
  refine ⟨inner, (whole.2.1 mixedTree).2 ((whole.2.2.2 mixedTree).2 ⟨rfl, ?_⟩)⟩
  have noValue : Constant.nil.Spelled (word .string "") := .noValue (.inr rfl) rfl
  have nil : Constant.nil.Spelled (word .nilWord "nil") := .nil rfl
  simpa [Spell, mixedTree, mixed, Expr.written, Expr.writtenEach, Mark.Spelled, word]
    using And.intro noValue nil

end ScriptLang

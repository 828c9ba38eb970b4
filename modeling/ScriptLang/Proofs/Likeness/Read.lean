import ScriptLang.Proofs.Grammar.Sound
import ScriptLang.Proofs.Likeness

/-!
# Reading tokens that are alike

A reader looks at the kinds, the lexemes and the literals of the tokens and at nothing else of them.
So lists of tokens that agree in these are read alike: the trees are alike, and the same faults are
reported at tokens that stand for each other.

## Main definitions

* `Token.Alike` — tokens that differ in their place only
* `Diagnostic.Alike`, `Cursor.Alike`, `Reading.Alike` — what is met while reading such tokens

## Main results

* `Expr.read_alike`, `Stmt.readDeclaration_alike` — the readers of expressions and declarations
* `Script.ofTokens_alike`, `Expr.ofTokens_alike` — scripts and expressions of tokens that are alike
-/

namespace ScriptLang

/-- Tokens that say the same, wherever they stand. -/
structure Token.Alike (t t' : Token) : Prop where
  kind : t.kind = t'.kind
  lexeme : t.lexeme = t'.lexeme
  literal : t.literal = t'.literal

/-- Reports of one fault at tokens that `r` relates. -/
def Diagnostic.Alike (r : Token → Token → Prop) (d d' : Diagnostic) : Prop :=
  ∃ t t' fault, r t t' ∧ d = t.diagnose fault ∧ d' = t'.diagnose fault

/-- Places in lists of tokens that `r` relates one by one, with the same faults so far. -/
structure Cursor.Alike (r : Token → Token → Prop) (c c' : Cursor) : Prop where
  previous : Option.Rel r c.previous c'.previous
  rest : List.Forall₂ r c.rest c'.rest
  last : r c.last c'.last
  reported : List.Forall₂ (Diagnostic.Alike r) c.reported c'.reported

variable {r : Token → Token → Prop}

/-! ### Cursors -/

namespace Cursor.Alike

variable {c c' : Cursor}

theorem peek (hc : c.Alike r c') : r c.peek c'.peek := by
  have hrest := hc.rest
  unfold Cursor.peek
  generalize c.rest = rest at hrest ⊢
  generalize c'.rest = rest' at hrest ⊢
  cases hrest with
  | nil => exact hc.last
  | cons ht _ => exact ht

theorem rest_eq_nil_iff (hc : c.Alike r c') : c.rest = [] ↔ c'.rest = [] := by
  rw [← List.length_eq_zero_iff, ← List.length_eq_zero_iff, hc.rest.length_eq]

theorem step (hc : c.Alike r c') {t t' : Token} {rest rest' : List Token} (ht : r t t')
    (hrest : List.Forall₂ r rest rest') :
    Cursor.Alike r { c with previous := some t, rest := rest }
      { c' with previous := some t', rest := rest' } :=
  ⟨.some ht, hrest, hc.last, hc.reported⟩

theorem report (hc : c.Alike r c') {d d' : Diagnostic} (hd : d.Alike r d') :
    (c.report d).Alike r (c'.report d') :=
  ⟨hc.previous, hc.rest, hc.last, List.rel_append hc.reported (.cons hd .nil)⟩

theorem reportIf (hc : c.Alike r c') (wrong : Bool) {d d' : Diagnostic} (hd : d.Alike r d') :
    (c.reportIf wrong d).Alike r (c'.reportIf wrong d') := by
  cases wrong with
  | false => exact hc
  | true => exact hc.report hd

theorem limit (hc : c.Alike r c') (count : Nat) (why : SyntaxFault) :
    (c.limit count why).Alike r (c'.limit count why) :=
  hc.reportIf _ ⟨_, _, why, hc.peek, rfl, rfl⟩

theorem advance (hc : c.Alike r c') : c.advance.Alike r c'.advance := by
  obtain ⟨previous, rest, last, reported⟩ := c
  obtain ⟨previous', rest', last', reported'⟩ := c'
  have hrest := hc.rest
  cases hrest with
  | nil => exact hc
  | cons ht hrest => exact hc.step ht hrest

end Cursor.Alike

/-! ### Readings -/

/-- Related values, or one fault, and cursors that are alike. -/
inductive Reading.Alike (r : Token → Token → Prop) {α α' : Type} (R : α → α' → Prop) {n n' : Nat} :
    Reading n α → Reading n' α' → Prop where
  | done {value : α} {value' : α'} {after after' : Cursor} {lt : after.left < n}
      {lt' : after'.left < n'} (hv : R value value') (ha : after.Alike r after') :
      Reading.Alike r R (.done value after lt) (.done value' after' lt')
  | fault {d d' : Diagnostic} {after after' : Cursor} {le : after.left ≤ n} {le' : after'.left ≤ n'}
      (hd : d.Alike r d') (ha : after.Alike r after') :
      Reading.Alike r R (.fault d after le) (.fault d' after' le')

namespace Reading.Alike

variable {α α' β β' : Type} {R : α → α' → Prop} {S : β → β' → Prop} {m m' n n' : Nat}

theorem andThen {x : Reading n α} {x' : Reading n' α'}
    {next : (value : α) → (after : Cursor) → after.left < n → Reading n β}
    {next' : (value : α') → (after : Cursor) → after.left < n' → Reading n' β'}
    (hx : x.Alike r R x')
    (hn : ∀ value value' after after' lt lt', R value value' → after.Alike r after' →
      (next value after lt).Alike r S (next' value' after' lt')) :
    (x.andThen next).Alike r S (x'.andThen next') := by
  cases hx with
  | done hv ha => exact hn _ _ _ _ _ _ hv ha
  | fault hd ha => exact .fault hd ha

theorem andThenBehind {x : Reading m α} {x' : Reading m' α'} {lt : m < n} {lt' : m' < n'}
    {next : (value : α) → (after : Cursor) → after.left < m → Reading n β}
    {next' : (value : α') → (after : Cursor) → after.left < m' → Reading n' β'}
    (hx : x.Alike r R x')
    (hn : ∀ value value' after after' lt lt', R value value' → after.Alike r after' →
      (next value after lt).Alike r S (next' value' after' lt')) :
    (x.andThenBehind lt next).Alike r S (x'.andThenBehind lt' next') := by
  cases hx with
  | done hv ha => exact hn _ _ _ _ _ _ hv ha
  | fault hd ha => exact .fault hd ha

theorem behind {x : Reading m α} {x' : Reading m' α'} {lt : m < n} {lt' : m' < n'}
    (hx : x.Alike r R x') : (x.behind lt).Alike r R (x'.behind lt') := by
  cases hx with
  | done hv ha => exact .done hv ha
  | fault hd ha => exact .fault hd ha

theorem map {x : Reading n α} {x' : Reading n' α'} {f : α → β} {f' : α' → β'} (hx : x.Alike r R x')
    (hf : ∀ value value', R value value' → S (f value) (f' value')) :
    (x.map f).Alike r S (x'.map f') := by
  cases hx with
  | done hv ha => exact .done (hf _ _ hv) ha
  | fault hd ha => exact .fault hd ha

theorem failAt {c c' : Cursor} (hc : c.Alike r c') (why : SyntaxFault) :
    (c.failAt why : Reading c.left α).Alike r R (c'.failAt why : Reading c'.left α') :=
  .fault ⟨_, _, why, hc.peek, rfl, rfl⟩ hc

end Reading.Alike

/-! ### Reading one token -/

variable (same : ∀ {t t' : Token}, r t t' → t.Alike t')
include same

namespace Cursor.Alike

variable {c c' : Cursor} (hc : c.Alike r c')
include hc

/-- A token is taken from both or from neither. -/
theorem take? (test : TokenKind → Bool) :
    c.take? test = none ∧ c'.take? test = none ∨
      ∃ t t', c.take? test = some t ∧ c'.take? test = some t' ∧ r t.token t'.token ∧
        t.after.Alike r t'.after := by
  obtain ⟨previous, rest, last, reported⟩ := c
  obtain ⟨previous', rest', last', reported'⟩ := c'
  have hrest := hc.rest
  cases hrest with
  | nil => exact .inl ⟨rfl, rfl⟩
  | @cons t t' _ _ ht hrest =>
    simp only [Cursor.take?, ← (same ht).kind]
    split
    · exact .inr ⟨_, _, rfl, rfl, ht, hc.step ht hrest⟩
    · exact .inl ⟨rfl, rfl⟩

theorem expect (kind : TokenKind) (why : SyntaxFault) :
    (c.expect kind why).Alike r r (c'.expect kind why) := by
  unfold Cursor.expect
  obtain ⟨h, h'⟩ | ⟨t, t', h, h', ht, ha⟩ := hc.take? same (· == kind)
  · simp only [h, h']
    exact .failAt hc why
  · simp only [h, h']
    exact .done ht ha

theorem check_eq (kind : TokenKind) : c.check kind = c'.check kind := by
  have hrest := hc.rest
  unfold Cursor.check
  generalize c.rest = rest at hrest ⊢
  generalize c'.rest = rest' at hrest ⊢
  cases hrest with
  | nil => rfl
  | cons ht _ =>
    rw [List.head?_cons, List.head?_cons, Option.map_some, Option.map_some, (same ht).kind]

theorem expressionExpected_eq : c.expressionExpected = c'.expressionExpected := by
  have hprevious := hc.previous
  unfold Cursor.expressionExpected
  rw [(same hc.peek).lexeme]
  generalize c.previous = p at hprevious ⊢
  generalize c'.previous = p' at hprevious ⊢
  cases hprevious with
  | none => rfl
  | some ht => simp only [(same ht).kind, (same ht).lexeme]

theorem variableExpected_eq : c.variableExpected = c'.variableExpected := by
  unfold Cursor.variableExpected
  rw [(same hc.peek).kind]

theorem seekStatement : c.seekStatement.Alike r c'.seekStatement := by
  obtain ⟨previous, rest, last, reported⟩ := c
  obtain ⟨previous', rest', last', reported'⟩ := c'
  have hrest := hc.rest
  have hprevious := hc.previous
  dsimp only at hrest hprevious
  induction hrest generalizing previous previous' with
  | nil =>
    rw [Cursor.seekStatement, Cursor.seekStatement]
    exact hc
  | @cons t t' _ _ ht hrest ih =>
    have semicolon : (previous.map Token.kind = some .semicolon) =
        (previous'.map Token.kind = some .semicolon) := by
      cases hprevious with
      | none => rfl
      | some hp => rw [Option.map_some, Option.map_some, (same hp).kind]
    rw [Cursor.seekStatement, Cursor.seekStatement]
    simp only [semicolon, (same ht).kind]
    split
    · exact hc
    · exact ih _ _ (hc.step ht hrest) (.some ht)

theorem synchronize : c.synchronize.Alike r c'.synchronize :=
  hc.advance.seekStatement same

end Cursor.Alike

/-! ### Reading expressions -/

omit same in
theorem Level.node_alike (l : Level) {op op' : Token} {left left' right right' : Expr}
    (ht : r op op') (hl : left.Alike r left') (hr : right.Alike r right') :
    (l.node op left right).Alike r (l.node op' left' right') := by
  cases l with
  | disjunction | conjunction => exact .logical ht hl hr
  | equality | comparison | sum | product => exact .binary ht hl hr

theorem Expr.ofToken?_alike {t t' : Token} (ht : r t t') :
    Option.Rel (Expr.Alike r) (Expr.ofToken? t) (Expr.ofToken? t') := by
  unfold Expr.ofToken?
  rw [(same ht).kind, (same ht).literal]
  split
  · exact .some (.constant _)
  · exact .some (.constant _)
  · exact .some (.constant _)
  · exact .some (.constant _)
  · exact .some (.constant _)
  · exact .some (.name ht)
  · exact .none

omit same in
theorem Expr.assignment_alike {target target' value value' : Expr} {equals equals' : Token}
    {c c' : Cursor} {n n' : Nat} {lt : c.left < n} {lt' : c'.left < n'}
    (htarget : target.Alike r target') (ht : r equals equals') (hv : value.Alike r value')
    (hc : c.Alike r c') :
    (target.assignment equals value c lt).Alike r (Expr.Alike r)
      (target'.assignment equals' value' c' lt') := by
  have kept := htarget
  cases htarget with
  | name hident => exact .done (.assign hident hv) hc
  | constant | group | unary | binary | logical | assign | call =>
    exact .done kept (hc.report ⟨_, _, _, ht, rfl, rfl⟩)

/-- Lists of arguments that are alike, with closing parentheses that `r` relates. -/
def Expr.ArgumentsAlike (r : Token → Token → Prop) (args args' : List Expr × Token) : Prop :=
  Expr.AllAlike r args.1 args'.1 ∧ r args.2 args'.2

-- Not every one of these reads a token by itself.
set_option linter.unusedSectionVars false in
mutual

theorem Expr.read_alike {c c' : Cursor} (hc : c.Alike r c') :
    (Expr.read c).Alike r (Expr.Alike r) (Expr.read c') := by
  unfold Expr.read
  refine (Expr.readLevel_alike (some .disjunction) hc).andThen
    fun target target' c₁ c₁' h₁ h₁' htarget hc₁ => ?_
  obtain ⟨h, h'⟩ | ⟨t, t', h, h', ht, ha⟩ := hc₁.take? same (· == .equal)
  · simp only [h, h']
    exact .done htarget hc₁
  · simp only [h, h']
    refine (Expr.read_alike ha).behind.andThen fun value value' c₂ c₂' h₂ h₂' hv hc₂ => ?_
    exact Expr.assignment_alike htarget ht hv hc₂
termination_by (c.left, 9)
decreasing_by
  · exact Prod.Lex.right _ (by decide)
  · exact Prod.Lex.left _ _ (t.further h₁)

theorem Expr.readLevel_alike (level : Option Level) {c c' : Cursor} (hc : c.Alike r c') :
    (Expr.readLevel level c).Alike r (Expr.Alike r) (Expr.readLevel level c') := by
  cases level with
  | none =>
    unfold Expr.readLevel
    exact Expr.readPrefixed_alike hc
  | some l =>
    unfold Expr.readLevel
    refine (Expr.readLevel_alike l.tighter? hc).andThen fun left left' c₁ c₁' h₁ h₁' hl hc₁ => ?_
    exact Expr.readOperators_alike l hl hc₁ h₁ h₁'
termination_by (c.left, 2 + Level.rank? level)
decreasing_by
  · exact Prod.Lex.right _ (by omega)
  · exact Prod.Lex.right _ (Nat.add_lt_add_left (Level.rank?_tighter? l) 2)
  · exact Prod.Lex.left _ _ h₁

theorem Expr.readOperators_alike (l : Level) {left left' : Expr} (hl : left.Alike r left')
    {c c' : Cursor} (hc : c.Alike r c') {bound bound' : Nat} (lt : c.left < bound)
    (lt' : c'.left < bound') :
    (Expr.readOperators l left c bound lt).Alike r (Expr.Alike r)
      (Expr.readOperators l left' c' bound' lt') := by
  unfold Expr.readOperators
  obtain ⟨h, h'⟩ | ⟨t, t', h, h', ht, ha⟩ := hc.take? same l.has
  · simp only [h, h']
    exact .done hl hc
  · simp only [h, h']
    refine (Expr.readLevel_alike l.tighter? ha).behind.andThenBehind
      fun right right' c₁ c₁' h₁ h₁' hr hc₁ => ?_
    exact Expr.readOperators_alike l (l.node_alike ht hl hr) hc₁ _ _
termination_by (c.left, 0)
decreasing_by
  · exact Prod.Lex.left _ _ t.shorter
  · exact Prod.Lex.left _ _ h₁

theorem Expr.readPrefixed_alike {c c' : Cursor} (hc : c.Alike r c') :
    (Expr.readPrefixed c).Alike r (Expr.Alike r) (Expr.readPrefixed c') := by
  unfold Expr.readPrefixed
  obtain ⟨h, h'⟩ | ⟨t, t', h, h', ht, ha⟩ :=
    hc.take? same fun kind => kind == .bang || kind == .minus
  · simp only [h, h']
    refine (Expr.readPrimary_alike hc).andThen fun callee callee' c₁ c₁' h₁ h₁' he hc₁ => ?_
    exact Expr.readCalls_alike he hc₁ h₁ h₁'
  · simp only [h, h']
    exact (Expr.readPrefixed_alike ha).behind.map fun operand operand' he => .unary ht he
termination_by (c.left, 1)
decreasing_by
  · exact Prod.Lex.right _ (by decide)
  · exact Prod.Lex.left _ _ h₁
  · exact Prod.Lex.left _ _ t.shorter

theorem Expr.readCalls_alike {callee callee' : Expr} (he : callee.Alike r callee')
    {c c' : Cursor} (hc : c.Alike r c') {bound bound' : Nat} (lt : c.left < bound)
    (lt' : c'.left < bound') :
    (Expr.readCalls callee c bound lt).Alike r (Expr.Alike r)
      (Expr.readCalls callee' c' bound' lt') := by
  unfold Expr.readCalls
  obtain ⟨h, h'⟩ | ⟨t, t', h, h', ht, ha⟩ := hc.take? same (· == .leftParen)
  · simp only [h, h']
    exact .done he hc
  · simp only [h, h']
    refine Reading.Alike.andThenBehind (R := Expr.ArgumentsAlike r) (.behind ?_)
      fun args args' c₁ c₁' h₁ h₁' hargs hc₁ => ?_
    · obtain ⟨h, h'⟩ | ⟨u, u', h, h', hu, hb⟩ := ha.take? same (· == .rightParen)
      · simp only [h, h']
        exact Expr.readArguments_alike 0 ha
      · simp only [h, h']
        exact .done ⟨.nil, hu⟩ hb
    · exact Expr.readCalls_alike (.call he hargs.2 hargs.1) hc₁ _ _
termination_by (c.left, 0)
decreasing_by
  · exact Prod.Lex.left _ _ t.shorter
  · exact Prod.Lex.left _ _ h₁

theorem Expr.readArguments_alike (count : Nat) {c c' : Cursor} (hc : c.Alike r c') :
    (Expr.readArguments count c).Alike r (Expr.ArgumentsAlike r)
      (Expr.readArguments count c') := by
  unfold Expr.readArguments
  refine (Expr.read_alike (hc.limit count .tooManyArguments)).andThen
    fun arg arg' c₁ c₁' h₁ h₁' he hc₁ => ?_
  obtain ⟨h, h'⟩ | ⟨t, t', h, h', ht, ha⟩ := hc₁.take? same (· == .comma)
  · simp only [h, h']
    refine (hc₁.expect same _ _).behind.map fun paren paren' hp => ?_
    exact ⟨.cons he .nil, hp⟩
  · simp only [h, h']
    refine (Expr.readArguments_alike (count + 1) ha).behind.map fun later later' hl => ?_
    exact ⟨.cons he hl.1, hl.2⟩
termination_by (c.left, 10)
decreasing_by
  · exact Prod.Lex.right _ (by decide)
  · exact Prod.Lex.left _ _ (t.further h₁)

theorem Expr.readPrimary_alike {c c' : Cursor} (hc : c.Alike r c') :
    (Expr.readPrimary c).Alike r (Expr.Alike r) (Expr.readPrimary c') := by
  unfold Expr.readPrimary
  obtain ⟨h, h'⟩ | ⟨t, t', h, h', ht, ha⟩ := hc.take? same (· == .leftParen)
  · have he := Expr.ofToken?_alike same hc.peek
    simp only [h, h', hc.expressionExpected_eq same]
    generalize Expr.ofToken? c.peek = e at he ⊢
    generalize Expr.ofToken? c'.peek = e' at he ⊢
    cases he with
    | none => exact .failAt hc _
    | some he =>
      obtain ⟨h, h'⟩ | ⟨t, t', h, h', ht, ha⟩ := hc.take? same fun _ => true
      · simp only [h, h']
        exact .failAt hc _
      · simp only [h, h']
        exact .done he ha
  · simp only [h, h']
    refine (Expr.read_alike ha).behind.andThen fun inner inner' c₁ c₁' h₁ h₁' he hc₁ => ?_
    exact (hc₁.expect same _ _).behind.map fun _ _ _ => .group he
termination_by (c.left, 0)
decreasing_by exact Prod.Lex.left _ _ t.shorter

end

/-! ### Reading parts of statements -/

section Parts

variable {c c' : Cursor} (hc : c.Alike r c')
include hc

theorem Expr.readUntil_alike (closing : TokenKind) (why : SyntaxFault) :
    (Expr.readUntil closing why c).Alike r (Expr.OptionAlike r)
      (Expr.readUntil closing why c') := by
  unfold Expr.readUntil
  obtain ⟨h, h'⟩ | ⟨t, t', h, h', ht, ha⟩ := hc.take? same (· == closing)
  · simp only [h, h']
    refine (Expr.read_alike same hc).andThen fun e e' c₁ c₁' h₁ h₁' he hc₁ => ?_
    exact (hc₁.expect same closing why).behind.map fun _ _ _ => .some he
  · simp only [h, h']
    exact .done .none ha

theorem Expr.readThen_alike (closing : TokenKind) (why : SyntaxFault) :
    (Expr.readThen closing why c).Alike r (Expr.Alike r) (Expr.readThen closing why c') := by
  unfold Expr.readThen
  refine (Expr.read_alike same hc).andThen fun e e' c₁ c₁' h₁ h₁' he hc₁ => ?_
  exact (hc₁.expect same closing why).behind.map fun _ _ _ => he

theorem Expr.readCondition_alike (opening closing : SyntaxFault) :
    (Expr.readCondition opening closing c).Alike r (Expr.Alike r)
      (Expr.readCondition opening closing c') := by
  unfold Expr.readCondition
  refine (hc.expect same .leftParen opening).andThen fun t t' c₁ c₁' h₁ h₁' ht hc₁ => ?_
  exact (Expr.readThen_alike same hc₁ .rightParen closing).behind

theorem Stmt.readExpression_alike :
    (Stmt.readExpression c).Alike r (Stmt.Alike r) (Stmt.readExpression c') :=
  (Expr.readThen_alike same hc .semicolon _).map fun _ _ he => .expression he

theorem Stmt.readPrint_alike {keyword keyword' : Token} (hk : r keyword keyword') :
    (Stmt.readPrint keyword c).Alike r (Stmt.Alike r) (Stmt.readPrint keyword' c') :=
  (Expr.readThen_alike same hc .semicolon _).map fun _ _ he => .print hk he

theorem Stmt.readReturn_alike (inFunction : Bool) {keyword keyword' : Token}
    (hk : r keyword keyword') :
    (Stmt.readReturn inFunction keyword c).Alike r (Stmt.Alike r)
      (Stmt.readReturn inFunction keyword' c') := by
  have reported := hc.reportIf (!inFunction) ⟨_, _, .topLevelReturn, hk, rfl, rfl⟩
  exact (Expr.readUntil_alike same reported .semicolon _).map fun _ _ he => .ret hk he

theorem Stmt.readVar_alike : (Stmt.readVar c).Alike r (Stmt.Alike r) (Stmt.readVar c') := by
  unfold Stmt.readVar
  rw [hc.variableExpected_eq same]
  refine (hc.expect same .ident _).andThen fun ident ident' c₁ c₁' h₁ h₁' hi hc₁ => ?_
  rw [hc₁.check_eq same]
  split
  · exact (Reading.Alike.failAt hc₁ _).behind
  · obtain ⟨h, h'⟩ | ⟨t, t', h, h', ht, ha⟩ := hc₁.take? same (· == .equal)
    · simp only [h, h', (same hi).lexeme, (same hc₁.peek).lexeme]
      exact (hc₁.expect same .semicolon _).behind.map fun _ _ _ => .var hi .none
    · simp only [h, h']
      refine (Expr.readThen_alike same ha .semicolon _).behind.map fun e e' he => ?_
      exact .var hi (.some he)

omit hc in
theorem Stmt.readParams_alike (count : Nat) {c c' : Cursor} (hc : c.Alike r c') :
    (Stmt.readParams count c).Alike r (List.Forall₂ r) (Stmt.readParams count c') := by
  unfold Stmt.readParams
  refine ((hc.limit count .tooManyParameters).expect same .ident _).andThen
    fun param param' c₁ c₁' h₁ h₁' hp hc₁ => ?_
  obtain ⟨h, h'⟩ | ⟨t, t', h, h', ht, ha⟩ := hc₁.take? same (· == .comma)
  · simp only [h, h']
    exact (hc₁.expect same _ _).behind.map fun _ _ _ => .cons hp .nil
  · simp only [h, h']
    exact (Stmt.readParams_alike (count + 1) ha).behind.map fun _ _ hl => .cons hp hl
termination_by c.left
decreasing_by exact t.further h₁

theorem Stmt.readHead_alike :
    (Stmt.readHead c).Alike r (fun head head' => r head.1 head'.1 ∧ List.Forall₂ r head.2 head'.2)
      (Stmt.readHead c') := by
  unfold Stmt.readHead
  refine (hc.expect same .ident _).andThen fun ident ident' c₁ c₁' h₁ h₁' hi hc₁ => ?_
  refine (hc₁.expect same .leftParen _).behind.andThen fun _ _ c₂ c₂' h₂ h₂' _ hc₂ => ?_
  refine Reading.Alike.andThen (R := List.Forall₂ r) (.behind ?_)
    fun params params' c₃ c₃' h₃ h₃' hp hc₃ => ?_
  · obtain ⟨h, h'⟩ | ⟨t, t', h, h', ht, ha⟩ := hc₂.take? same (· == .rightParen)
    · simp only [h, h']
      exact Stmt.readParams_alike same 0 hc₂
    · simp only [h, h']
      exact .done .nil ha
  · exact (hc₃.expect same .leftBrace _).behind.map fun _ _ _ => ⟨hi, hp⟩

/-- Clauses of a `for` loop that are alike one by one. -/
structure Stmt.ClausesAlike (r : Token → Token → Prop)
    (clauses clauses' : Option Stmt × Option Expr × Option Expr) : Prop where
  init : Option.Rel (Stmt.Alike r) clauses.1 clauses'.1
  condition : Expr.OptionAlike r clauses.2.1 clauses'.2.1
  increment : Expr.OptionAlike r clauses.2.2 clauses'.2.2

theorem Stmt.readClauses_alike :
    (Stmt.readClauses c).Alike r (Stmt.ClausesAlike r) (Stmt.readClauses c') := by
  unfold Stmt.readClauses
  refine (hc.expect same .leftParen _).andThen fun _ _ c₁ c₁' h₁ h₁' _ hc₁ => ?_
  refine Reading.Alike.andThen (R := Option.Rel (Stmt.Alike r)) (.behind ?_)
    fun init init' c₂ c₂' h₂ h₂' hi hc₂ => ?_
  · obtain ⟨h, h'⟩ | ⟨t, t', h, h', ht, ha⟩ := hc₁.take? same (· == .semicolon)
    · obtain ⟨g, g'⟩ | ⟨u, u', g, g', hu, hb⟩ := hc₁.take? same (· == .varWord)
      · simp only [h, h', g, g']
        exact (Stmt.readExpression_alike same hc₁).map fun _ _ hs => .some hs
      · simp only [h, h', g, g']
        exact (Stmt.readVar_alike same hb).behind.map fun _ _ hs => .some hs
    · simp only [h, h']
      exact .done .none ha
  · refine (Expr.readUntil_alike same hc₂ .semicolon _).behind.andThen
      fun condition condition' c₃ c₃' h₃ h₃' hcond hc₃ => ?_
    refine (Expr.readUntil_alike same hc₃ .rightParen _).behind.map
      fun increment increment' hincr => ?_
    exact ⟨hi, hcond, hincr⟩

end Parts

/-! ### Reading statements -/

omit same in
theorem Stmt.forLoop_alike {clauses clauses' : Option Stmt × Option Expr × Option Expr}
    {body body' : Stmt} (h : Stmt.ClausesAlike r clauses clauses') (hb : body.Alike r body') :
    (Stmt.forLoop clauses.1 clauses.2.1 clauses.2.2 body).Alike r
      (Stmt.forLoop clauses'.1 clauses'.2.1 clauses'.2.2 body') := by
  obtain ⟨init, condition, increment⟩ := clauses
  obtain ⟨init', condition', increment'⟩ := clauses'
  obtain ⟨hinit, hcondition, hincrement⟩ := h
  have test : (condition.getD (.constant (.bool true))).Alike r
      (condition'.getD (.constant (.bool true))) := by
    cases hcondition with
    | none => exact .constant _
    | some he => exact he
  have loop : (Stmt.forLoop none condition increment body).Alike r
      (Stmt.forLoop none condition' increment' body') := by
    cases hincrement with
    | none => exact .loop test hb
    | some he => exact .loop test (.block (.cons hb (.cons (.expression he) .nil)))
  cases hinit with
  | none => exact loop
  | some hi => exact .block (.cons hi (.cons loop .nil))

/-- Statements that are alike, or none, and cursors that are alike. -/
structure Resumed.Alike (r : Token → Token → Prop) {c c' : Cursor} (x : Resumed c)
    (x' : Resumed c') : Prop where
  stmt : Option.Rel (Stmt.Alike r) x.stmt x'.stmt
  after : x.after.Alike r x'.after

theorem Reading.Alike.resume {c c' : Cursor} {x : Reading c.left Stmt} {x' : Reading c'.left Stmt}
    (hx : x.Alike r (Stmt.Alike r) x') (pos : 0 < c.left) (pos' : 0 < c'.left) :
    (x.resume pos).Alike r (x'.resume pos') := by
  cases hx with
  | done hs ha => exact ⟨.some hs, ha⟩
  | fault hd ha => exact ⟨.none, (ha.report hd).synchronize same⟩

omit same in
theorem Resumed.Alike.stmts {c c' : Cursor} {x : Resumed c} {x' : Resumed c'} (h : x.Alike r x')
    {later later' : List Stmt} (hl : Stmt.AllAlike r later later') :
    Stmt.AllAlike r (x.stmt.toList ++ later) (x'.stmt.toList ++ later') := by
  have hs := h.stmt
  generalize x.stmt = s at hs ⊢
  generalize x'.stmt = s' at hs ⊢
  cases hs with
  | none => exact hl
  | some hs => exact .cons hs hl

mutual

theorem Stmt.readDeclaration_alike (inFunction : Bool) {c c' : Cursor} (hc : c.Alike r c')
    (pos : 0 < c.left) (pos' : 0 < c'.left) :
    (Stmt.readDeclaration inFunction c pos).Alike r (Stmt.readDeclaration inFunction c' pos') := by
  unfold Stmt.readDeclaration
  refine Reading.Alike.resume same ?_ pos pos'
  obtain ⟨h, h'⟩ | ⟨t, t', h, h', ht, ha⟩ := hc.take? same (· == .funWord)
  · obtain ⟨g, g'⟩ | ⟨u, u', g, g', hu, hb⟩ := hc.take? same (· == .varWord)
    · simp only [h, h', g, g']
      exact Stmt.read_alike inFunction hc
    · simp only [h, h', g, g']
      exact (Stmt.readVar_alike same hb).behind
  · simp only [h, h']
    exact (Stmt.readFunction_alike ha).behind
termination_by (c.left, 2)
decreasing_by
  · exact Prod.Lex.right _ (by decide)
  · exact Prod.Lex.left _ _ t.shorter

theorem Stmt.readFunction_alike {c c' : Cursor} (hc : c.Alike r c') :
    (Stmt.readFunction c).Alike r (Stmt.Alike r) (Stmt.readFunction c') := by
  unfold Stmt.readFunction
  refine (Stmt.readHead_alike same hc).andThen fun head head' c₁ c₁' h₁ h₁' hh hc₁ => ?_
  exact (Stmt.readBody_alike true hc₁).behind.map fun _ _ hb => .function hh.1 hh.2 hb
termination_by (c.left, 1)
decreasing_by exact Prod.Lex.left _ _ h₁

theorem Stmt.readBody_alike (inFunction : Bool) {c c' : Cursor} (hc : c.Alike r c') :
    (Stmt.readBody inFunction c).Alike r (Stmt.AllAlike r) (Stmt.readBody inFunction c') := by
  unfold Stmt.readBody
  obtain ⟨h, h'⟩ | ⟨u, u', h, h', hu, ha⟩ := hc.take? same (· == .rightBrace)
  · simp only [h, h']
    split
    · rename_i e
      split
      · exact .failAt hc _
      · rename_i e'
        exact absurd (e'.symm.trans (hc.rest_eq_nil_iff.1 e)) (List.cons_ne_nil _ _)
    · rename_i t ts e
      split
      · rename_i e'
        exact absurd (e.symm.trans (hc.rest_eq_nil_iff.2 e')) (List.cons_ne_nil _ _)
      · rename_i t' ts' e'
        have first := Stmt.readDeclaration_alike inFunction hc (Cursor.left_pos e)
          (Cursor.left_pos e')
        exact (Stmt.readBody_alike inFunction first.after).behind.map fun _ _ hl => first.stmts hl
  · have e := Cursor.rest_of_take? h
    have e' := Cursor.rest_of_take? h'
    simp only [h, h']
    split
    · rename_i none
      exact absurd (e.symm.trans none) (List.cons_ne_nil _ _)
    · split
      · rename_i none
        exact absurd (e'.symm.trans none) (List.cons_ne_nil _ _)
      · exact .done .nil ha
termination_by (c.left, 3)
decreasing_by
  · exact Prod.Lex.right _ (by decide)
  · exact Prod.Lex.left _ _ (Resumed.shorter _)

theorem Stmt.read_alike (inFunction : Bool) {c c' : Cursor} (hc : c.Alike r c') :
    (Stmt.read inFunction c).Alike r (Stmt.Alike r) (Stmt.read inFunction c') := by
  unfold Stmt.read
  obtain ⟨h, h'⟩ | ⟨t, t', h, h', ht, ha⟩ := hc.take? same fun _ => true
  · simp only [h, h']
    exact Stmt.readExpression_alike same hc
  · simp only [h, h', ← (same ht).kind]
    split
    · refine (Stmt.readClauses_alike same ha).behind.andThen
        fun clauses clauses' c₁ c₁' h₁ h₁' hclauses hc₁ => ?_
      exact (Stmt.read_alike inFunction hc₁).behind.map fun _ _ hb => Stmt.forLoop_alike hclauses hb
    · refine (Expr.readCondition_alike same ha _ _).behind.andThen
        fun condition condition' c₁ c₁' h₁ h₁' hcond hc₁ => ?_
      refine (Stmt.read_alike inFunction hc₁).behind.andThen
        fun yes yes' c₂ c₂' h₂ h₂' hy hc₂ => ?_
      obtain ⟨g, g'⟩ | ⟨u, u', g, g', hu, hb⟩ := hc₂.take? same (· == .elseWord)
      · simp only [g, g']
        exact .done (.branch hcond hy) hc₂
      · simp only [g, g']
        exact (Stmt.read_alike inFunction hb).behind.map fun _ _ hn => .branchElse hcond hy hn
    · exact (Stmt.readPrint_alike same ha ht).behind
    · exact (Stmt.readReturn_alike same ha inFunction ht).behind
    · refine (Expr.readCondition_alike same ha _ _).behind.andThen
        fun condition condition' c₁ c₁' h₁ h₁' hcond hc₁ => ?_
      exact (Stmt.read_alike inFunction hc₁).behind.map fun _ _ hb => .loop hcond hb
    · exact (Stmt.readBody_alike inFunction ha).behind.map fun _ _ hb => .block hb
    · exact Stmt.readExpression_alike same hc
termination_by (c.left, 1)
decreasing_by
  · exact Prod.Lex.left _ _ h₁
  · exact Prod.Lex.left _ _ h₁
  · exact Prod.Lex.left _ _ (u.further h₂)
  · exact Prod.Lex.left _ _ h₁
  · exact Prod.Lex.left _ _ t.shorter

end

/-! ### Reading scripts -/

theorem Stmt.readAll_alike {c c' : Cursor} (hc : c.Alike r c') :
    Stmt.AllAlike r (Stmt.readAll c).1 (Stmt.readAll c').1 ∧
      (Stmt.readAll c).2.Alike r (Stmt.readAll c').2 := by
  unfold Stmt.readAll
  split
  · rename_i e
    split
    · exact ⟨.nil, hc⟩
    · rename_i e'
      exact absurd (e'.symm.trans (hc.rest_eq_nil_iff.1 e)) (List.cons_ne_nil _ _)
  · rename_i t ts e
    split
    · rename_i e'
      exact absurd (e.symm.trans (hc.rest_eq_nil_iff.2 e')) (List.cons_ne_nil _ _)
    · rename_i t' ts' e'
      have first := Stmt.readDeclaration_alike same false hc (Cursor.left_pos e)
        (Cursor.left_pos e')
      obtain ⟨stmts, after⟩ := Stmt.readAll_alike first.after
      exact ⟨first.stmts stmts, after⟩
termination_by c.left
decreasing_by exact Resumed.shorter _

/-- Where no token is an end token, none of their counterparts is. -/
theorem kind_ne_eof_alike {ts ts' : List Token} (rest : List.Forall₂ r ts ts')
    (inner : ∀ t ∈ ts, t.kind ≠ .eof) : ∀ t ∈ ts', t.kind ≠ .eof := by
  induction rest with
  | nil => exact nofun
  | cons ht _ ih =>
    rw [List.forall_mem_cons] at inner ⊢
    exact ⟨(same ht).kind ▸ inner.1, ih inner.2⟩

section OfTokens

variable {ts ts' : List Token} {last last' : Token} (rest : List.Forall₂ r ts ts')
  (hl : r last last') (inner : ∀ t ∈ ts, t.kind ≠ .eof) (isLast : last.kind = .eof)
include rest hl inner isLast

/-- Scripts of tokens that `r` relates one by one have statements that are alike, and the same
faults. -/
theorem Script.ofTokens_alike :
    Stmt.AllAlike r (Script.ofTokens (ts ++ [last])).stmts
        (Script.ofTokens (ts' ++ [last'])).stmts ∧
      List.Forall₂ (Diagnostic.Alike r) (Script.ofTokens (ts ++ [last])).diagnostics
        (Script.ofTokens (ts' ++ [last'])).diagnostics := by
  have inner' := kind_ne_eof_alike same rest inner
  have isLast' : last'.kind = .eof := (same hl).kind ▸ isLast
  rw [Script.ofTokens_append inner isLast, Script.ofTokens_append inner' isLast']
  have start : Cursor.Alike r ⟨none, ts, last, []⟩ ⟨none, ts', last', []⟩ :=
    ⟨.none, rest, hl, .nil⟩
  obtain ⟨stmts, after⟩ := Stmt.readAll_alike same start
  exact ⟨stmts, after.reported⟩

/-- So have the only expressions of such tokens. -/
theorem Expr.ofTokens_alike :
    Expr.OptionAlike r (Expr.ofTokens (ts ++ [last])).1 (Expr.ofTokens (ts' ++ [last'])).1 ∧
      List.Forall₂ (Diagnostic.Alike r) (Expr.ofTokens (ts ++ [last])).2
        (Expr.ofTokens (ts' ++ [last'])).2 := by
  have inner' := kind_ne_eof_alike same rest inner
  have isLast' : last'.kind = .eof := (same hl).kind ▸ isLast
  have start : Cursor.Alike r ⟨none, ts, last, []⟩ ⟨none, ts', last', []⟩ :=
    ⟨.none, rest, hl, .nil⟩
  have reading := Expr.read_alike same start
  simp only [Expr.ofTokens, Cursor.start?_append inner isLast,
    Cursor.start?_append inner' isLast']
  generalize Expr.read ⟨none, ts, last, []⟩ = x at reading ⊢
  generalize Expr.read ⟨none, ts', last', []⟩ = x' at reading ⊢
  cases reading with
  | fault hd ha => exact ⟨.none, List.rel_append ha.reported (.cons hd .nil)⟩
  | @done expr expr' after after' _ _ he ha =>
    have previous : after.previous.map Token.lexeme = after'.previous.map Token.lexeme := by
      have hp := ha.previous
      generalize after.previous = p at hp ⊢
      generalize after'.previous = p' at hp ⊢
      cases hp with
      | none => rfl
      | some ht => rw [Option.map_some, Option.map_some, (same ht).lexeme]
    simp only [ha.rest_eq_nil_iff, previous]
    split
    · exact ⟨.some he, ha.reported⟩
    · exact ⟨.none, List.rel_append ha.reported (.cons ⟨_, _, _, ha.peek, rfl, rfl⟩ .nil)⟩

end OfTokens

end ScriptLang

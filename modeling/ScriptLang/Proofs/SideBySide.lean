import ScriptLang.Proofs.Grammar.Sound

/-!
# Readers side by side

Two readers are at work on lists of tokens that agree for a while.  As long as they take the same
tokens and report what belongs together, they build the same tree.  What it takes for that is said
step by step, for single steps of their cursors; that whole readers then stay together is proved
here, once for all such pairs.

The tokens may part where a statement ends, so cursors have two relations: one for places inside a
statement, and one for places behind a semicolon or where the next statement is looked for.

## Main definitions

* `Cursor.InStep` — what single steps of two cursors have to keep
* `Reading.Matches` — the same value, or faults that belong together

## Main results

* `Expr.read_matches` — the reader of expressions stays in step
* `Stmt.readDeclaration_matches` — so does the reader of declarations, up to where it is done
-/

namespace ScriptLang

/-- Whether the fault is that an expression was expected where the text starts. -/
def SyntaxFault.atStart : SyntaxFault → Bool
  | .expressionExpectedAtStart _ => true
  | _ => false

/-- Two cursors that move together: `S` relates them inside a statement, `E` where one may have
ended, and `D` relates what is reported at them. -/
structure Cursor.InStep (S E : Cursor → Cursor → Prop) (D : Diagnostic → Diagnostic → Prop) :
    Prop where
  peek {c c' : Cursor} : S c c' → c.peek = c'.peek
  /-- The same token is taken from both, or none.  Only a semicolon may end the statement. -/
  take {c c' : Cursor} : S c c' → ∀ test : TokenKind → Bool,
    c.take? test = none ∧ c'.take? test = none ∨
      ∃ t t', c.take? test = some t ∧ c'.take? test = some t' ∧ t.token = t'.token ∧
        E t.after t'.after ∧ (t.token.kind ≠ .semicolon → S t.after t'.after)
  /-- Where a statement has ended, an `else` is taken from both or from neither. -/
  takeElse {c c' : Cursor} : E c c' →
    c.take? (· == .elseWord) = none ∧ c'.take? (· == .elseWord) = none ∨
      ∃ t t', c.take? (· == .elseWord) = some t ∧ c'.take? (· == .elseWord) = some t' ∧
        S t.after t'.after
  report {c c' : Cursor} {d d' : Diagnostic} : S c c' → D d d' → S (c.report d) (c'.report d')
  diagnose (t : Token) (why : SyntaxFault) : why.atStart = false →
    D (t.diagnose why) (t.diagnose why)
  expected {c c' : Cursor} : S c c' →
    D (c.peek.diagnose c.expressionExpected) (c'.peek.diagnose c'.expressionExpected)
  synchronize {c c' : Cursor} : S c c' → E c.synchronize c'.synchronize
  ended {c c' : Cursor} : S c c' → (c.rest = [] ↔ c'.rest = [])
  /-- Statements in which statements end are read only where that makes no difference. -/
  nested : (∀ c c', E c c' → S c c') ∨
    ∀ c c' t rest, S c c' → c.rest = t :: rest → t.kind ≠ .leftBrace ∧ t.kind ≠ .forWord

/-- The same value with cursors that `T` relates, or faults that `D` relates with cursors that `S`
relates. -/
inductive Reading.Matches (S : Cursor → Cursor → Prop) (D : Diagnostic → Diagnostic → Prop)
    (T : Cursor → Cursor → Prop) {α : Type} {n n' : Nat} : Reading n α → Reading n' α → Prop where
  | done {value : α} {after after' : Cursor} {lt : after.left < n} {lt' : after'.left < n'}
      (ha : T after after') :
      Reading.Matches S D T (.done value after lt) (.done value after' lt')
  | fault {d d' : Diagnostic} {after after' : Cursor} {le : after.left ≤ n} {le' : after'.left ≤ n'}
      (hd : D d d') (ha : S after after') :
      Reading.Matches S D T (.fault d after le) (.fault d' after' le')

variable {S E T U : Cursor → Cursor → Prop} {D : Diagnostic → Diagnostic → Prop}

namespace Reading.Matches

variable {α β : Type} {m m' n n' : Nat}

theorem andThen {x : Reading n α} {x' : Reading n' α}
    {next : (value : α) → (after : Cursor) → after.left < n → Reading n β}
    {next' : (value : α) → (after : Cursor) → after.left < n' → Reading n' β}
    (hx : x.Matches S D T x')
    (hn : ∀ value after after' lt lt', T after after' →
      (next value after lt).Matches S D U (next' value after' lt')) :
    (x.andThen next).Matches S D U (x'.andThen next') := by
  cases hx with
  | done ha => exact hn _ _ _ _ _ ha
  | fault hd ha => exact .fault hd ha

theorem andThenBehind {x : Reading m α} {x' : Reading m' α} {lt : m < n} {lt' : m' < n'}
    {next : (value : α) → (after : Cursor) → after.left < m → Reading n β}
    {next' : (value : α) → (after : Cursor) → after.left < m' → Reading n' β}
    (hx : x.Matches S D T x')
    (hn : ∀ value after after' lt lt', T after after' →
      (next value after lt).Matches S D U (next' value after' lt')) :
    (x.andThenBehind lt next).Matches S D U (x'.andThenBehind lt' next') := by
  cases hx with
  | done ha => exact hn _ _ _ _ _ ha
  | fault hd ha => exact .fault hd ha

theorem behind {x : Reading m α} {x' : Reading m' α} {lt : m < n} {lt' : m' < n'}
    (hx : x.Matches S D T x') : (x.behind lt).Matches S D T (x'.behind lt') := by
  cases hx with
  | done ha => exact .done ha
  | fault hd ha => exact .fault hd ha

theorem map {x : Reading n α} {x' : Reading n' α} (f : α → β) (hx : x.Matches S D T x') :
    (x.map f).Matches S D T (x'.map f) := by
  cases hx with
  | done ha => exact .done ha
  | fault hd ha => exact .fault hd ha

theorem mono {x : Reading n α} {x' : Reading n' α} (hx : x.Matches S D T x')
    (hT : ∀ c c', T c c' → U c c') : x.Matches S D U x' := by
  cases hx with
  | done ha => exact .done (hT _ _ ha)
  | fault hd ha => exact .fault hd ha

end Reading.Matches

open Reading

variable (both : Cursor.InStep S E D)
include both

/-! ### Single steps -/

namespace Cursor.InStep

variable {c c' : Cursor} (hc : S c c')
include hc

/-- A token that is no semicolon is taken from both or from neither. -/
theorem takeInside (test : TokenKind → Bool) (ht : test .semicolon = false) :
    c.take? test = none ∧ c'.take? test = none ∨
      ∃ t t', c.take? test = some t ∧ c'.take? test = some t' ∧ t.token = t'.token ∧
        S t.after t'.after := by
  obtain none | ⟨t, t', h, h', same, -, ha⟩ := both.take hc test
  · exact .inl none
  · refine .inr ⟨t, t', h, h', same, ha fun semicolon => ?_⟩
    have passes := (of_take? h).1
    rw [semicolon, ht] at passes
    contradiction

theorem failAt {α : Type} {why : SyntaxFault} (hw : why.atStart = false) :
    (c.failAt why : Reading c.left α).Matches S D T (c'.failAt why : Reading c'.left α) := by
  refine .fault ?_ hc
  rw [both.peek hc]
  exact both.diagnose _ _ hw

theorem expect {kind : TokenKind} {why : SyntaxFault} (hk : kind ≠ .semicolon)
    (hw : why.atStart = false) : (c.expect kind why).Matches S D S (c'.expect kind why) := by
  have ht : (TokenKind.semicolon == kind) = false := by simpa using Ne.symm hk
  unfold Cursor.expect
  obtain ⟨h, h'⟩ | ⟨t, t', h, h', same, ha⟩ := both.takeInside hc (· == kind) ht
  · simp only [h, h']
    exact both.failAt hc hw
  · simp only [h, h', same]
    exact .done ha

/-- A statement may end behind a semicolon that was expected. -/
theorem expectSemicolon {why : SyntaxFault} (hw : why.atStart = false) :
    (c.expect .semicolon why).Matches S D E (c'.expect .semicolon why) := by
  unfold Cursor.expect
  obtain ⟨h, h'⟩ | ⟨t, t', h, h', same, ha, -⟩ := both.take hc (· == .semicolon)
  · simp only [h, h']
    exact both.failAt hc hw
  · simp only [h, h', same]
    exact .done ha

theorem reportIf (wrong : Bool) {d : Diagnostic} (hd : D d d) :
    S (c.reportIf wrong d) (c'.reportIf wrong d) := by
  cases wrong with
  | false => exact hc
  | true => exact both.report hc hd

theorem limit (count : Nat) {why : SyntaxFault} (hw : why.atStart = false) :
    S (c.limit count why) (c'.limit count why) := by
  unfold Cursor.limit
  rw [both.peek hc]
  exact both.reportIf hc _ (both.diagnose _ _ hw)

theorem check_eq (kind : TokenKind) : c.check kind = c'.check kind := by
  have isSome (d : Cursor) : d.check kind = (d.take? (· == kind)).isSome := by
    cases h : d.take? (· == kind) with
    | none =>
      have other := take?_eq_none_iff.1 h
      cases hr : d.rest with
      | nil => simp [Cursor.check, hr]
      | cons t rest => simpa [Cursor.check, hr] using other t rest hr
    | some t =>
      have passes := (of_take? h).1
      simpa [Cursor.check, rest_of_take? h] using passes
  rw [isSome, isSome]
  obtain ⟨h, h'⟩ | ⟨t, t', h, h', -⟩ := both.take hc (· == kind)
  · rw [h, h']
    rfl
  · rw [h, h']
    rfl

omit both hc in
theorem variableExpected_atStart (c : Cursor) : c.variableExpected.atStart = false := by
  unfold Cursor.variableExpected
  split <;> rfl

end Cursor.InStep

/-! ### Expressions -/

theorem Expr.assignment_matches (target : Expr) (equals : Token) (value : Expr) {c c' : Cursor}
    (hc : S c c') {n n' : Nat} {lt : c.left < n} {lt' : c'.left < n'} :
    (target.assignment equals value c lt).Matches S D S
      (target.assignment equals value c' lt') := by
  unfold Expr.assignment
  split
  · exact .done hc
  · exact .done (both.report hc (both.diagnose equals _ rfl))

-- The induction is the one that makes the readers end, so each proof has its reader's measure.
set_option linter.unusedSectionVars false in
mutual

theorem Expr.read_matches {c c' : Cursor} (hc : S c c') :
    (Expr.read c).Matches S D S (Expr.read c') := by
  unfold Expr.read
  refine (Expr.readLevel_matches (some .disjunction) hc).andThen
    fun target c₁ c₁' h₁ h₁' hc₁ => ?_
  obtain ⟨h, h'⟩ | ⟨t, t', h, h', same, ha⟩ := both.takeInside hc₁ (· == .equal) rfl
  · simp only [h, h']
    exact .done hc₁
  · simp only [h, h', same]
    refine (Expr.read_matches ha).behind.andThen fun value c₂ c₂' h₂ h₂' hc₂ => ?_
    exact Expr.assignment_matches both target t'.token value hc₂
termination_by (c.left, 9)
decreasing_by
  · exact Prod.Lex.right _ (by decide)
  · exact Prod.Lex.left _ _ (t.further h₁)

theorem Expr.readLevel_matches (level : Option Level) {c c' : Cursor} (hc : S c c') :
    (Expr.readLevel level c).Matches S D S (Expr.readLevel level c') := by
  cases level with
  | none =>
    unfold Expr.readLevel
    exact Expr.readPrefixed_matches hc
  | some l =>
    unfold Expr.readLevel
    refine (Expr.readLevel_matches l.tighter? hc).andThen fun left c₁ c₁' h₁ h₁' hc₁ => ?_
    exact Expr.readOperators_matches l left hc₁ h₁ h₁'
termination_by (c.left, 2 + Level.rank? level)
decreasing_by
  · exact Prod.Lex.right _ (by omega)
  · exact Prod.Lex.right _ (Nat.add_lt_add_left (Level.rank?_tighter? l) 2)
  · exact Prod.Lex.left _ _ h₁

theorem Expr.readOperators_matches (l : Level) (left : Expr) {c c' : Cursor} (hc : S c c')
    {bound bound' : Nat} (lt : c.left < bound) (lt' : c'.left < bound') :
    (Expr.readOperators l left c bound lt).Matches S D S
      (Expr.readOperators l left c' bound' lt') := by
  have notOp : l.has .semicolon = false := by cases l <;> rfl
  unfold Expr.readOperators
  obtain ⟨h, h'⟩ | ⟨t, t', h, h', same, ha⟩ := both.takeInside hc l.has notOp
  · simp only [h, h']
    exact .done hc
  · simp only [h, h', same]
    refine (Expr.readLevel_matches l.tighter? ha).behind.andThenBehind
      fun right c₁ c₁' h₁ h₁' hc₁ => ?_
    exact Expr.readOperators_matches l (l.node t'.token left right) hc₁ _ _
termination_by (c.left, 0)
decreasing_by
  · exact Prod.Lex.left _ _ t.shorter
  · exact Prod.Lex.left _ _ h₁

theorem Expr.readPrefixed_matches {c c' : Cursor} (hc : S c c') :
    (Expr.readPrefixed c).Matches S D S (Expr.readPrefixed c') := by
  unfold Expr.readPrefixed
  obtain ⟨h, h'⟩ | ⟨t, t', h, h', same, ha⟩ :=
    both.takeInside hc (fun kind => kind == .bang || kind == .minus) rfl
  · simp only [h, h']
    refine (Expr.readPrimary_matches hc).andThen fun callee c₁ c₁' h₁ h₁' hc₁ => ?_
    exact Expr.readCalls_matches callee hc₁ h₁ h₁'
  · simp only [h, h', same]
    exact (Expr.readPrefixed_matches ha).behind.map _
termination_by (c.left, 1)
decreasing_by
  · exact Prod.Lex.right _ (by decide)
  · exact Prod.Lex.left _ _ h₁
  · exact Prod.Lex.left _ _ t.shorter

theorem Expr.readCalls_matches (callee : Expr) {c c' : Cursor} (hc : S c c') {bound bound' : Nat}
    (lt : c.left < bound) (lt' : c'.left < bound') :
    (Expr.readCalls callee c bound lt).Matches S D S (Expr.readCalls callee c' bound' lt') := by
  unfold Expr.readCalls
  obtain ⟨h, h'⟩ | ⟨t, t', h, h', same, ha⟩ := both.takeInside hc (· == .leftParen) rfl
  · simp only [h, h']
    exact .done hc
  · simp only [h, h']
    refine Reading.Matches.andThenBehind (T := S) (.behind ?_) fun args c₁ c₁' h₁ h₁' hc₁ => ?_
    · obtain ⟨h, h'⟩ | ⟨u, u', h, h', same, hb⟩ :=
        both.takeInside ha (· == .rightParen) rfl
      · simp only [h, h']
        exact Expr.readArguments_matches 0 ha
      · simp only [h, h', same]
        exact .done hb
    · exact Expr.readCalls_matches (.call callee args.2 args.1) hc₁ _ _
termination_by (c.left, 0)
decreasing_by
  · exact Prod.Lex.left _ _ t.shorter
  · exact Prod.Lex.left _ _ h₁

theorem Expr.readArguments_matches (count : Nat) {c c' : Cursor} (hc : S c c') :
    (Expr.readArguments count c).Matches S D S (Expr.readArguments count c') := by
  have hl : S (c.limit count .tooManyArguments) (c'.limit count .tooManyArguments) :=
    both.limit hc count rfl
  unfold Expr.readArguments
  refine (Expr.read_matches hl).andThen fun arg c₁ c₁' h₁ h₁' hc₁ => ?_
  obtain ⟨h, h'⟩ | ⟨t, t', h, h', same, ha⟩ := both.takeInside hc₁ (· == .comma) rfl
  · simp only [h, h']
    exact (both.expect hc₁ (by decide) rfl).behind.map _
  · simp only [h, h']
    exact (Expr.readArguments_matches (count + 1) ha).behind.map _
termination_by (c.left, 10)
decreasing_by
  · exact Prod.Lex.right _ (by decide)
  · exact Prod.Lex.left _ _ (t.further h₁)

theorem Expr.readPrimary_matches {c c' : Cursor} (hc : S c c') :
    (Expr.readPrimary c).Matches S D S (Expr.readPrimary c') := by
  unfold Expr.readPrimary
  obtain ⟨h, h'⟩ | ⟨t, t', h, h', same, ha⟩ := both.takeInside hc (· == .leftParen) rfl
  · simp only [h, h']
    rw [← both.peek hc]
    cases he : Expr.ofToken? c.peek with
    | none => exact .fault (both.expected hc) hc
    | some e =>
      obtain ⟨h, h'⟩ | ⟨t, t', h, h', same, -, ha⟩ := both.take hc fun _ => true
      · simp only [h, h']
        exact .fault (both.expected hc) hc
      · simp only [h, h']
        refine .done (ha fun semicolon => ?_)
        -- A semicolon is no expression.
        rw [Cursor.peek, Cursor.rest_of_take? h, List.headD_cons, Expr.ofToken?, semicolon] at he
        contradiction
  · simp only [h, h']
    refine (Expr.read_matches ha).behind.andThen fun inner c₁ c₁' h₁ h₁' hc₁ => ?_
    exact (both.expect hc₁ (by decide) rfl).behind.map _
termination_by (c.left, 0)
decreasing_by exact Prod.Lex.left _ _ t.shorter

end

/-! ### Parts of statements -/

section Parts

variable {c c' : Cursor} (hc : S c c')
include hc

theorem Expr.readThen_matches {closing : TokenKind} {why : SyntaxFault} (hk : closing ≠ .semicolon)
    (hw : why.atStart = false) :
    (Expr.readThen closing why c).Matches S D S (Expr.readThen closing why c') := by
  unfold Expr.readThen
  refine (Expr.read_matches both hc).andThen fun e c₁ c₁' h₁ h₁' hc₁ => ?_
  exact (both.expect hc₁ hk hw).behind.map _

theorem Expr.readThen_semicolon {why : SyntaxFault} (hw : why.atStart = false) :
    (Expr.readThen .semicolon why c).Matches S D E (Expr.readThen .semicolon why c') := by
  unfold Expr.readThen
  refine (Expr.read_matches both hc).andThen fun e c₁ c₁' h₁ h₁' hc₁ => ?_
  exact (both.expectSemicolon hc₁ hw).behind.map _

theorem Expr.readUntil_matches {closing : TokenKind} {why : SyntaxFault} (hk : closing ≠ .semicolon)
    (hw : why.atStart = false) :
    (Expr.readUntil closing why c).Matches S D S (Expr.readUntil closing why c') := by
  have ht : (TokenKind.semicolon == closing) = false := by simpa using Ne.symm hk
  unfold Expr.readUntil
  obtain ⟨h, h'⟩ | ⟨t, t', h, h', same, ha⟩ := both.takeInside hc (· == closing) ht
  · simp only [h, h']
    refine (Expr.read_matches both hc).andThen fun e c₁ c₁' h₁ h₁' hc₁ => ?_
    exact (both.expect hc₁ hk hw).behind.map _
  · simp only [h, h']
    exact .done ha

theorem Expr.readUntil_semicolon {why : SyntaxFault} (hw : why.atStart = false) :
    (Expr.readUntil .semicolon why c).Matches S D E (Expr.readUntil .semicolon why c') := by
  unfold Expr.readUntil
  obtain ⟨h, h'⟩ | ⟨t, t', h, h', same, ha, -⟩ := both.take hc (· == .semicolon)
  · simp only [h, h']
    refine (Expr.read_matches both hc).andThen fun e c₁ c₁' h₁ h₁' hc₁ => ?_
    exact (both.expectSemicolon hc₁ hw).behind.map _
  · simp only [h, h']
    exact .done ha

theorem Expr.readCondition_matches (opening closing : SyntaxFault) (ho : opening.atStart = false)
    (hw : closing.atStart = false) :
    (Expr.readCondition opening closing c).Matches S D S
      (Expr.readCondition opening closing c') := by
  unfold Expr.readCondition
  refine (both.expect hc (by decide) ho).andThen fun _ c₁ c₁' h₁ h₁' hc₁ => ?_
  exact (Expr.readThen_matches both hc₁ (by decide) hw).behind

theorem Stmt.readExpression_matches :
    (Stmt.readExpression c).Matches S D E (Stmt.readExpression c') :=
  (Expr.readThen_semicolon both hc rfl).map _

theorem Stmt.readPrint_matches (keyword : Token) :
    (Stmt.readPrint keyword c).Matches S D E (Stmt.readPrint keyword c') :=
  (Expr.readThen_semicolon both hc rfl).map _

theorem Stmt.readReturn_matches (inFunction : Bool) (keyword : Token) :
    (Stmt.readReturn inFunction keyword c).Matches S D E
      (Stmt.readReturn inFunction keyword c') := by
  have reported := both.reportIf hc (!inFunction) (both.diagnose keyword .topLevelReturn rfl)
  exact (Expr.readUntil_semicolon both reported rfl).map _

theorem Stmt.readVar_matches : (Stmt.readVar c).Matches S D E (Stmt.readVar c') := by
  have expected : c.variableExpected = c'.variableExpected := by
    unfold Cursor.variableExpected
    rw [both.peek hc]
  unfold Stmt.readVar
  rw [← expected]
  refine (both.expect hc (by decide) (Cursor.InStep.variableExpected_atStart c)).andThen
    fun ident c₁ c₁' h₁ h₁' hc₁ => ?_
  rw [both.check_eq hc₁]
  split
  · exact (both.failAt hc₁ rfl).behind
  · obtain ⟨h, h'⟩ | ⟨t, t', h, h', same, ha⟩ := both.takeInside hc₁ (· == .equal) rfl
    · simp only [h, h', both.peek hc₁]
      exact (both.expectSemicolon hc₁ rfl).behind.map _
    · simp only [h, h']
      exact (Expr.readThen_semicolon both ha rfl).behind.map _

omit hc in
theorem Stmt.readParams_matches (count : Nat) {c c' : Cursor} (hc : S c c') :
    (Stmt.readParams count c).Matches S D S (Stmt.readParams count c') := by
  have hl : S (c.limit count .tooManyParameters) (c'.limit count .tooManyParameters) :=
    both.limit hc count rfl
  unfold Stmt.readParams
  refine (both.expect hl (by decide) rfl).andThen fun param c₁ c₁' h₁ h₁' hc₁ => ?_
  obtain ⟨h, h'⟩ | ⟨t, t', h, h', same, ha⟩ := both.takeInside hc₁ (· == .comma) rfl
  · simp only [h, h']
    exact (both.expect hc₁ (by decide) rfl).behind.map _
  · simp only [h, h']
    exact (Stmt.readParams_matches (count + 1) ha).behind.map _
termination_by c.left
decreasing_by exact t.further h₁

/-- What the reader of heads yields depends on the brace at the end of the head. -/
theorem Stmt.readHead_matches
    (brace : ∀ {d d' : Cursor}, S d d' →
      (d.expect .leftBrace .braceBeforeBodyExpected).Matches S D T
        (d'.expect .leftBrace .braceBeforeBodyExpected)) :
    (Stmt.readHead c).Matches S D T (Stmt.readHead c') := by
  unfold Stmt.readHead
  refine (both.expect hc (by decide) rfl).andThen fun ident c₁ c₁' h₁ h₁' hc₁ => ?_
  refine (both.expect hc₁ (by decide) rfl).behind.andThen fun _ c₂ c₂' h₂ h₂' hc₂ => ?_
  refine Reading.Matches.andThen (T := S) (.behind ?_) fun params c₃ c₃' h₃ h₃' hc₃ => ?_
  · obtain ⟨h, h'⟩ | ⟨t, t', h, h', same, ha⟩ :=
      both.takeInside hc₂ (· == .rightParen) rfl
    · simp only [h, h']
      exact Stmt.readParams_matches both 0 hc₂
    · simp only [h, h']
      exact .done ha
  · exact (brace hc₃).behind.map _

theorem Stmt.readClauses_matches (inner : ∀ c c', E c c' → S c c') :
    (Stmt.readClauses c).Matches S D S (Stmt.readClauses c') := by
  unfold Stmt.readClauses
  refine (both.expect hc (by decide) rfl).andThen fun _ c₁ c₁' h₁ h₁' hc₁ => ?_
  refine Reading.Matches.andThen (T := S) (.behind ?_) fun init c₂ c₂' h₂ h₂' hc₂ => ?_
  · obtain ⟨h, h'⟩ | ⟨t, t', h, h', same, ha, -⟩ := both.take hc₁ (· == .semicolon)
    · obtain ⟨g, g'⟩ | ⟨u, u', g, g', same, hb⟩ :=
        both.takeInside hc₁ (· == .varWord) rfl
      · simp only [h, h', g, g']
        exact ((Stmt.readExpression_matches both hc₁).mono inner).map _
      · simp only [h, h', g, g']
        exact ((Stmt.readVar_matches both hb).mono inner).behind.map _
    · simp only [h, h']
      exact .done (inner _ _ ha)
  · refine ((Expr.readUntil_semicolon both hc₂ rfl).mono inner).behind.andThen
      fun condition c₃ c₃' h₃ h₃' hc₃ => ?_
    exact (Expr.readUntil_matches both hc₃ (by decide) rfl).behind.map _

end Parts

/-! ### Statements -/

/-- The same statement, or none, with cursors behind it. -/
structure Resumed.Matches (E : Cursor → Cursor → Prop) {c c' : Cursor} (x : Resumed c)
    (x' : Resumed c') : Prop where
  stmt : x.stmt = x'.stmt
  after : E x.after x'.after

/-- What cannot be read is reported and left on both sides. -/
theorem Reading.Matches.resume {c c' : Cursor} {x : Reading c.left Stmt} {x' : Reading c'.left Stmt}
    (hx : x.Matches S D E x') (pos : 0 < c.left) (pos' : 0 < c'.left) :
    (x.resume pos).Matches E (x'.resume pos') := by
  cases hx with
  | done ha => exact ⟨rfl, ha⟩
  | fault hd ha => exact ⟨rfl, both.synchronize (both.report ha hd)⟩

mutual

theorem Stmt.readDeclaration_matches (inFunction : Bool) {c c' : Cursor} (hc : S c c')
    (pos : 0 < c.left) (pos' : 0 < c'.left) :
    (Stmt.readDeclaration inFunction c pos).Matches E
      (Stmt.readDeclaration inFunction c' pos') := by
  unfold Stmt.readDeclaration
  refine Reading.Matches.resume both ?_ pos pos'
  obtain ⟨h, h'⟩ | ⟨t, t', h, h', same, ha⟩ := both.takeInside hc (· == .funWord) rfl
  · obtain ⟨g, g'⟩ | ⟨u, u', g, g', same, hb⟩ := both.takeInside hc (· == .varWord) rfl
    · simp only [h, h', g, g']
      exact Stmt.read_matches inFunction hc
    · simp only [h, h', g, g']
      exact (Stmt.readVar_matches both hb).behind
  · simp only [h, h']
    exact (Stmt.readFunction_matches ha).behind
termination_by (c.left, 2)
decreasing_by
  · exact Prod.Lex.right _ (by decide)
  · exact Prod.Lex.left _ _ t.shorter

theorem Stmt.readFunction_matches {c c' : Cursor} (hc : S c c') :
    (Stmt.readFunction c).Matches S D E (Stmt.readFunction c') := by
  unfold Stmt.readFunction
  obtain inner | plain := both.nested
  · refine (Stmt.readHead_matches both hc fun h => both.expect h (by decide) rfl).andThen
      fun head c₁ c₁' h₁ h₁' hc₁ => ?_
    exact (Stmt.readBody_matches inner true hc₁).behind.map _
  · -- Without a brace the head has no end.
    have head : (Stmt.readHead c).Matches S D (fun _ _ => False) (Stmt.readHead c') := by
      refine Stmt.readHead_matches both hc fun {d d'} h => ?_
      unfold Cursor.expect
      obtain ⟨g, g'⟩ | ⟨t, t', g, -⟩ := both.take h (· == .leftBrace)
      · simp only [g, g']
        exact both.failAt h rfl
      · have passes := (Cursor.of_take? g).1
        exact absurd (by simpa using passes) (plain _ _ _ _ h (Cursor.rest_of_take? g)).1
    exact head.andThen fun _ _ _ _ _ impossible => impossible.elim
termination_by (c.left, 1)
decreasing_by exact Prod.Lex.left _ _ h₁

theorem Stmt.readBody_matches (inner : ∀ c c', E c c' → S c c') (inFunction : Bool)
    {c c' : Cursor} (hc : S c c') :
    (Stmt.readBody inFunction c).Matches S D E (Stmt.readBody inFunction c') := by
  unfold Stmt.readBody
  obtain ⟨h, h'⟩ | ⟨u, u', h, h', same, ha, -⟩ := both.take hc (· == .rightBrace)
  · simp only [h, h']
    split
    · rename_i e
      split
      · exact both.failAt hc rfl
      · rename_i e'
        exact absurd (e'.symm.trans ((both.ended hc).1 e)) (List.cons_ne_nil _ _)
    · rename_i t ts e
      split
      · rename_i e'
        exact absurd (e.symm.trans ((both.ended hc).2 e')) (List.cons_ne_nil _ _)
      · rename_i t' ts' e'
        have first := Stmt.readDeclaration_matches inFunction hc (Cursor.left_pos e)
          (Cursor.left_pos e')
        rw [first.stmt]
        exact (Stmt.readBody_matches inner inFunction (inner _ _ first.after)).behind.map _
  · have e := Cursor.rest_of_take? h
    have e' := Cursor.rest_of_take? h'
    simp only [h, h']
    split
    · rename_i none
      exact absurd (e.symm.trans none) (List.cons_ne_nil _ _)
    · split
      · rename_i none
        exact absurd (e'.symm.trans none) (List.cons_ne_nil _ _)
      · exact .done ha
termination_by (c.left, 3)
decreasing_by
  · exact Prod.Lex.right _ (by decide)
  · exact Prod.Lex.left _ _ (Resumed.shorter _)

theorem Stmt.read_matches (inFunction : Bool) {c c' : Cursor} (hc : S c c') :
    (Stmt.read inFunction c).Matches S D E (Stmt.read inFunction c') := by
  unfold Stmt.read
  obtain ⟨h, h'⟩ | ⟨t, t', h, h', same, -, ha⟩ := both.take hc fun _ => true
  · simp only [h, h']
    exact Stmt.readExpression_matches both hc
  · have rest := Cursor.rest_of_take? h
    simp only [h, h', ← same]
    split
    · rename_i hk
      obtain inner | plain := both.nested
      · refine (Stmt.readClauses_matches both (ha (by simp [hk])) inner).behind.andThen
          fun clauses c₁ c₁' h₁ h₁' hc₁ => ?_
        exact (Stmt.read_matches inFunction hc₁).behind.map _
      · exact absurd hk (plain _ _ _ _ hc rest).2
    · rename_i hk
      have condition := Expr.readCondition_matches both (ha (by simp [hk]))
        .parenAfterIfExpected .parenAfterIfConditionExpected rfl rfl
      refine condition.behind.andThen fun condition c₁ c₁' h₁ h₁' hc₁ => ?_
      refine (Stmt.read_matches inFunction hc₁).behind.andThen fun yes c₂ c₂' h₂ h₂' hc₂ => ?_
      obtain ⟨g, g'⟩ | ⟨u, u', g, g', hb⟩ := both.takeElse hc₂
      · simp only [g, g']
        exact .done hc₂
      · simp only [g, g']
        exact (Stmt.read_matches inFunction hb).behind.map _
    · rename_i hk
      exact (Stmt.readPrint_matches both (ha (by simp [hk])) t.token).behind
    · rename_i hk
      exact (Stmt.readReturn_matches both (ha (by simp [hk])) inFunction t.token).behind
    · rename_i hk
      have condition := Expr.readCondition_matches both (ha (by simp [hk]))
        .parenAfterWhileExpected .parenAfterWhileConditionExpected rfl rfl
      refine condition.behind.andThen fun condition c₁ c₁' h₁ h₁' hc₁ => ?_
      exact (Stmt.read_matches inFunction hc₁).behind.map _
    · rename_i hk
      obtain inner | plain := both.nested
      · exact (Stmt.readBody_matches inner inFunction (ha (by simp [hk]))).behind.map _
      · exact absurd hk (plain _ _ _ _ hc rest).1
    · exact Stmt.readExpression_matches both hc
termination_by (c.left, 1)
decreasing_by
  · exact Prod.Lex.left _ _ h₁
  · exact Prod.Lex.left _ _ h₁
  · exact Prod.Lex.left _ _ (u.further h₂)
  · exact Prod.Lex.left _ _ h₁
  · exact Prod.Lex.left _ _ t.shorter

end

/-- Where the end of a statement makes no difference, whole scripts stay in step. -/
theorem Stmt.readAll_matches (inner : ∀ c c', E c c' → S c c') {c c' : Cursor} (hc : S c c') :
    (Stmt.readAll c).1 = (Stmt.readAll c').1 ∧ S (Stmt.readAll c).2 (Stmt.readAll c').2 := by
  unfold Stmt.readAll
  split
  · rename_i e
    split
    · exact ⟨rfl, hc⟩
    · rename_i e'
      exact absurd (e'.symm.trans ((both.ended hc).1 e)) (List.cons_ne_nil _ _)
  · rename_i t ts e
    split
    · rename_i e'
      exact absurd (e.symm.trans ((both.ended hc).2 e')) (List.cons_ne_nil _ _)
    · rename_i t' ts' e'
      have first := Stmt.readDeclaration_matches both false hc (Cursor.left_pos e)
        (Cursor.left_pos e')
      obtain ⟨stmts, after⟩ := Stmt.readAll_matches inner (inner _ _ first.after)
      exact ⟨by simp only [first.stmt, stmts], after⟩
termination_by c.left
decreasing_by exact Resumed.shorter _

end ScriptLang

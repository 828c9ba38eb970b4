import ScriptLang.Proofs.Grammar.Sound

/-!
# The way of a reader

Reading moves over one token after another and adds reports, and it never does anything else to a
cursor.  So a relation between cursors that such steps keep holds between the cursor at which a
reader starts and the one at which it stops, whether it succeeds or fails.  A `return` outside of
functions is the one thing that is reported although it is read, so that report is set apart: the
readers here never make it.

## Main definitions

* `Cursor.IsWay` — relations between cursors that single steps keep
* `Reading.Along` — a reading that has gone along a relation

## Main results

* `Expr.read_along` — the reader of expressions goes along every way
* `Stmt.readVar_along`, `Stmt.readHead_along`, `Stmt.readClauses_along` — so do the readers of the
  parts of statements
* `Cursor.IsWay.synchronize` — so does the search for the next statement
-/

namespace ScriptLang

/-- A relation between cursors that is kept by each step of a reader that finds no `return`. -/
structure Cursor.IsWay (Q : Cursor → Cursor → Prop) : Prop where
  refl (c : Cursor) : Q c c
  trans {c d e : Cursor} : Q c d → Q d e → Q c e
  step {c : Cursor} {t : Token} {rest : List Token} :
    c.rest = t :: rest → Q c { c with previous := some t, rest }
  report {d : Diagnostic} (c : Cursor) : d.fault ≠ .topLevelReturn → Q c (c.report d)

variable {Q : Cursor → Cursor → Prop}

/-! ### Steps of cursors -/

namespace Cursor.IsWay

variable (way : IsWay Q)
include way

theorem take {c : Cursor} {test : TokenKind → Bool} {t : Taken c} (h : c.take? test = some t) :
    Q c t.after := by
  obtain ⟨-, rest, after⟩ := of_take? h
  rw [after]
  exact way.step rest

theorem reportIf {d : Diagnostic} (c : Cursor) (wrong : Bool) (h : d.fault ≠ .topLevelReturn) :
    Q c (c.reportIf wrong d) := by
  cases wrong with
  | false => exact way.refl c
  | true => exact way.report c h

theorem limit (c : Cursor) (count : Nat) (why : SyntaxFault) (h : why ≠ .topLevelReturn) :
    Q c (c.limit count why) :=
  way.reportIf c _ h

theorem advance (c : Cursor) : Q c c.advance := by
  unfold Cursor.advance
  split
  · exact way.refl c
  · exact way.step ‹_›

theorem seekStatement (c : Cursor) : Q c c.seekStatement := by
  fun_induction Cursor.seekStatement c with
  | case1 | case2 => exact way.refl _
  | case3 c t rest h hn ih => exact way.trans (way.step h) ih

/-- Looking for the next statement only passes over tokens. -/
theorem synchronize (c : Cursor) : Q c c.synchronize :=
  way.trans (way.advance c) (way.seekStatement c.advance)

end Cursor.IsWay

/-! ### Readings -/

namespace Reading

variable {α β : Type} {m n : Nat} {c d : Cursor} {V : α → Prop} {W : β → Prop}

/-- A reading that began at `c` and has gone along `Q`: its value satisfies `V`, and its fault is
no `return`. -/
def Along (Q : Cursor → Cursor → Prop) (c : Cursor) (V : α → Prop) : Reading n α → Prop
  | done value after _ => V value ∧ Q c after
  | fault d after _ => d.fault ≠ .topLevelReturn ∧ Q c after

theorem Along.behind {r : Reading m α} {lt : m < n} (hr : r.Along Q c V) :
    (r.behind lt).Along Q c V := by
  cases r <;> exact hr

theorem Along.map {f : α → β} {r : Reading n α} (hr : r.Along Q c V)
    (hf : ∀ value, V value → W (f value)) : (r.map f).Along Q c W := by
  cases r with
  | done value after shorter => exact ⟨hf value hr.1, hr.2⟩
  | fault d after noLonger => exact hr

section Way

variable (way : Cursor.IsWay Q)
include way

/-- What begins further on the way has gone along all of it. -/
theorem Along.from {r : Reading n α} (hr : r.Along Q d V) (h : Q c d) : r.Along Q c V := by
  cases r with
  | done value after shorter => exact ⟨hr.1, way.trans h hr.2⟩
  | fault diagnostic after noLonger => exact ⟨hr.1, way.trans h hr.2⟩

theorem Along.andThen {r : Reading n α}
    {next : (value : α) → (after : Cursor) → after.left < n → Reading n β} (hr : r.Along Q c V)
    (hn : ∀ value after shorter, V value → (next value after shorter).Along Q after W) :
    (r.andThen next).Along Q c W := by
  cases r with
  | done value after shorter => exact (hn value after shorter hr.1).from way hr.2
  | fault diagnostic after noLonger => exact hr

theorem Along.andThenBehind {r : Reading m α} {lt : m < n}
    {next : (value : α) → (after : Cursor) → after.left < m → Reading n β} (hr : r.Along Q c V)
    (hn : ∀ value after shorter, V value → (next value after shorter).Along Q after W) :
    (r.andThenBehind lt next).Along Q c W := by
  cases r with
  | done value after shorter => exact (hn value after shorter hr.1).from way hr.2
  | fault diagnostic after noLonger => exact hr

theorem along_failAt {why : SyntaxFault} (c : Cursor) (h : why ≠ .topLevelReturn) :
    (c.failAt why : Reading c.left α).Along Q c V :=
  ⟨h, way.refl c⟩

/-- A token that is expected is the next one. -/
theorem along_expect {why : SyntaxFault} (c : Cursor) (kind : TokenKind)
    (h : why ≠ .topLevelReturn) :
    (c.expect kind why).Along Q c fun t => c.rest.head? = some t := by
  unfold Cursor.expect
  cases ht : c.take? (· == kind) with
  | none => exact along_failAt way c h
  | some t => exact ⟨by rw [Cursor.rest_of_take? ht, List.head?_cons], way.take ht⟩

end Way

end Reading

/-! ### Expressions -/

open Reading

theorem Cursor.expressionExpected_ne (c : Cursor) : c.expressionExpected ≠ .topLevelReturn := by
  unfold expressionExpected
  repeat' split
  all_goals simp

variable (way : Cursor.IsWay Q)
include way

theorem Expr.assignment_along {n : Nat} (target : Expr) (equals : Token) (value : Expr) (c : Cursor)
    (lt : c.left < n) : (target.assignment equals value c lt).Along Q c fun _ => True := by
  unfold Expr.assignment
  split
  · exact ⟨trivial, way.refl c⟩
  · exact ⟨trivial, way.report c (by simp [Token.diagnose])⟩

-- The induction is the one that makes the readers end, so each proof has its reader's measure.
mutual

theorem Expr.read_along (c : Cursor) : (Expr.read c).Along Q c fun _ => True := by
  rw [Expr.read]
  refine (Expr.readLevel_along (some .disjunction) c).andThen way fun target c₁ h₁ _ => ?_
  cases h : c₁.take? (· == .equal) with
  | none => exact ⟨trivial, way.refl c₁⟩
  | some equals =>
    refine Along.from way ?_ (way.take h)
    refine (Expr.read_along equals.after).behind.andThen way fun value c₂ h₂ _ => ?_
    exact Expr.assignment_along way target equals.token value c₂ h₂
termination_by (c.left, 9)
decreasing_by
  · exact Prod.Lex.right _ (by decide)
  · exact Prod.Lex.left _ _ (equals.further h₁)

theorem Expr.readLevel_along (level : Option Level) (c : Cursor) :
    (Expr.readLevel level c).Along Q c fun _ => True := by
  cases level with
  | none =>
    rw [Expr.readLevel]
    exact Expr.readPrefixed_along c
  | some l =>
    rw [Expr.readLevel]
    refine (Expr.readLevel_along l.tighter? c).andThen way fun left c₁ h₁ _ => ?_
    exact Expr.readOperators_along l left c₁ c.left h₁
termination_by (c.left, 2 + Level.rank? level)
decreasing_by
  · exact Prod.Lex.right _ (by omega)
  · exact Prod.Lex.right _ (Nat.add_lt_add_left (Level.rank?_tighter? l) 2)
  · exact Prod.Lex.left _ _ h₁

theorem Expr.readOperators_along (l : Level) (left : Expr) (c : Cursor) (bound : Nat)
    (lt : c.left < bound) : (Expr.readOperators l left c bound lt).Along Q c fun _ => True := by
  rw [Expr.readOperators]
  cases h : c.take? l.has with
  | none => exact ⟨trivial, way.refl c⟩
  | some op =>
    refine Along.from way ?_ (way.take h)
    refine (Expr.readLevel_along l.tighter? op.after).behind.andThenBehind way
      fun right c₁ h₁ _ => ?_
    exact Expr.readOperators_along l (l.node op.token left right) c₁ bound _
termination_by (c.left, 0)
decreasing_by
  · exact Prod.Lex.left _ _ op.shorter
  · exact Prod.Lex.left _ _ h₁

theorem Expr.readPrefixed_along (c : Cursor) : (Expr.readPrefixed c).Along Q c fun _ => True := by
  rw [Expr.readPrefixed]
  cases h : c.take? (fun kind => kind == .bang || kind == .minus) with
  | some op =>
    refine Along.from way ?_ (way.take h)
    exact (Expr.readPrefixed_along op.after).behind.map fun _ _ => trivial
  | none =>
    refine (Expr.readPrimary_along c).andThen way fun callee c₁ h₁ _ => ?_
    exact Expr.readCalls_along callee c₁ c.left h₁
termination_by (c.left, 1)
decreasing_by
  · exact Prod.Lex.right _ (by decide)
  · exact Prod.Lex.left _ _ h₁
  · exact Prod.Lex.left _ _ op.shorter

theorem Expr.readCalls_along (callee : Expr) (c : Cursor) (bound : Nat) (lt : c.left < bound) :
    (Expr.readCalls callee c bound lt).Along Q c fun _ => True := by
  rw [Expr.readCalls]
  cases h : c.take? (· == .leftParen) with
  | none => exact ⟨trivial, way.refl c⟩
  | some opening =>
    refine Along.from way ?_ (way.take h)
    refine Along.andThenBehind (V := fun _ => True) way (.behind ?_) fun args c₁ h₁ _ => ?_
    · cases hc : opening.after.take? (· == .rightParen) with
      | some closing => exact ⟨trivial, way.take hc⟩
      | none => exact Expr.readArguments_along 0 opening.after
    · exact Expr.readCalls_along (.call callee args.2 args.1) c₁ bound _
termination_by (c.left, 0)
decreasing_by
  · exact Prod.Lex.left _ _ opening.shorter
  · exact Prod.Lex.left _ _ h₁

theorem Expr.readArguments_along (count : Nat) (c : Cursor) :
    (Expr.readArguments count c).Along Q c fun _ => True := by
  rw [Expr.readArguments]
  refine Along.from way ?_ (way.limit c count .tooManyArguments (by simp))
  refine (Expr.read_along _).andThen way fun arg c₁ h₁ _ => ?_
  cases h : c₁.take? (· == .comma) with
  | some comma =>
    refine Along.from way ?_ (way.take h)
    exact (Expr.readArguments_along (count + 1) comma.after).behind.map fun _ _ => trivial
  | none => exact (along_expect way c₁ _ (by simp)).behind.map fun _ _ => trivial
termination_by (c.left, 10)
decreasing_by
  · exact Prod.Lex.right _ (by decide)
  · exact Prod.Lex.left _ _ (comma.further h₁)

theorem Expr.readPrimary_along (c : Cursor) : (Expr.readPrimary c).Along Q c fun _ => True := by
  rw [Expr.readPrimary]
  cases h : c.take? (· == .leftParen) with
  | some opening =>
    refine Along.from way ?_ (way.take h)
    refine (Expr.read_along opening.after).behind.andThen way fun inner c₁ h₁ _ => ?_
    exact (along_expect way c₁ _ (by simp)).behind.map fun _ _ => trivial
  | none =>
    dsimp only
    split
    · exact ⟨trivial, way.take ‹_›⟩
    -- Whatever is expected instead, it is an expression.
    · exact along_failAt way c c.expressionExpected_ne
termination_by (c.left, 0)
decreasing_by exact Prod.Lex.left _ _ opening.shorter

end

/-! ### Parts of statements -/

section Parts

variable (why : SyntaxFault)

theorem Expr.readUntil_along (closing : TokenKind) (c : Cursor) (h : why ≠ .topLevelReturn) :
    (Expr.readUntil closing why c).Along Q c fun _ => True := by
  unfold Expr.readUntil
  cases ht : c.take? (· == closing) with
  | some t => exact ⟨trivial, way.take ht⟩
  | none =>
    refine (Expr.read_along way c).andThen way fun expr c₁ h₁ _ => ?_
    exact (along_expect way c₁ closing h).behind.map fun _ _ => trivial

theorem Expr.readThen_along (closing : TokenKind) (c : Cursor) (h : why ≠ .topLevelReturn) :
    (Expr.readThen closing why c).Along Q c fun _ => True := by
  unfold Expr.readThen
  refine (Expr.read_along way c).andThen way fun expr c₁ h₁ _ => ?_
  exact (along_expect way c₁ closing h).behind.map fun _ _ => trivial

theorem Expr.readCondition_along (opening closing : SyntaxFault) (c : Cursor)
    (h : opening ≠ .topLevelReturn) (h' : closing ≠ .topLevelReturn) :
    (Expr.readCondition opening closing c).Along Q c fun _ => True := by
  unfold Expr.readCondition
  refine (along_expect way c .leftParen h).andThen way fun _ c₁ h₁ _ => ?_
  exact (Expr.readThen_along way closing .rightParen c₁ h').behind

end Parts

omit way

/-- Whether a statement is one that can start a `for` loop. -/
def Stmt.IsInitialiser : Stmt → Prop
  | .var .. | .expression _ => True
  | _ => False

include way

theorem Stmt.readExpression_along (c : Cursor) :
    (Stmt.readExpression c).Along Q c Stmt.IsInitialiser :=
  (Expr.readThen_along way _ .semicolon c (by simp)).map fun _ _ => trivial

theorem Stmt.readPrint_along (keyword : Token) (c : Cursor) :
    (Stmt.readPrint keyword c).Along Q c fun stmt => ∃ e, stmt = .print keyword e :=
  (Expr.readThen_along way _ .semicolon c (by simp)).map fun e _ => ⟨e, rfl⟩

theorem Stmt.readVar_along (c : Cursor) : (Stmt.readVar c).Along Q c Stmt.IsInitialiser := by
  have expected : c.variableExpected ≠ .topLevelReturn := by
    unfold Cursor.variableExpected
    split <;> simp
  unfold Stmt.readVar
  refine (along_expect way c .ident expected).andThen way fun ident c₁ h₁ _ => ?_
  split
  · exact (along_failAt way c₁ (by simp)).behind
  · cases h : c₁.take? (· == .equal) with
    | some equals =>
      refine Along.from way ?_ (way.take h)
      have init := Expr.readThen_along way .semicolonAfterVariableExpected .semicolon equals.after
        (by simp)
      exact init.behind.map fun _ _ => trivial
    | none => exact (along_expect way c₁ .semicolon (by simp)).behind.map fun _ _ => trivial

theorem Stmt.readParams_along (count : Nat) (c : Cursor) :
    (Stmt.readParams count c).Along Q c fun _ => True := by
  rw [Stmt.readParams]
  refine Along.from way ?_ (way.limit c count .tooManyParameters (by simp))
  refine (along_expect way _ .ident (by simp)).andThen way fun param c₁ h₁ _ => ?_
  cases h : c₁.take? (· == .comma) with
  | some comma =>
    refine Along.from way ?_ (way.take h)
    exact (Stmt.readParams_along (count + 1) comma.after).behind.map fun _ _ => trivial
  | none => exact (along_expect way c₁ .rightParen (by simp)).behind.map fun _ _ => trivial
termination_by c.left
decreasing_by exact comma.further h₁

/-- The name of a function is the first token of its head. -/
theorem Stmt.readHead_along (c : Cursor) :
    (Stmt.readHead c).Along Q c fun head => c.rest.head? = some head.1 := by
  unfold Stmt.readHead
  refine (along_expect way c .ident (by simp)).andThen way fun ident c₁ h₁ first => ?_
  refine (along_expect way c₁ .leftParen (by simp)).behind.andThen way fun _ c₂ h₂ _ => ?_
  refine Along.andThen (V := fun _ => True) way (.behind ?_) fun params c₃ h₃ _ => ?_
  · cases h : c₂.take? (· == .rightParen) with
    | some closing => exact ⟨trivial, way.take h⟩
    | none => exact Stmt.readParams_along way 0 c₂
  · exact (along_expect way c₃ .leftBrace (by simp)).behind.map fun _ _ => first

theorem Stmt.readClauses_along (c : Cursor) :
    (Stmt.readClauses c).Along Q c fun clauses => ∀ init ∈ clauses.1, init.IsInitialiser := by
  unfold Stmt.readClauses
  refine (along_expect way c .leftParen (by simp)).andThen way fun _ c₁ h₁ _ => ?_
  refine Along.andThen (V := fun init => ∀ stmt ∈ init, stmt.IsInitialiser) way (.behind ?_)
    fun init c₂ h₂ isInit => ?_
  · have some {stmt : Stmt} (h : stmt.IsInitialiser) : ∀ s ∈ some stmt, s.IsInitialiser :=
      fun _ same => Option.some.inj same ▸ h
    split
    · exact ⟨by simp, way.take ‹_›⟩
    · refine Along.from way ?_ (way.take ‹_›)
      exact (Stmt.readVar_along way _).behind.map fun _ => some
    · exact (Stmt.readExpression_along way c₁).map fun _ => some
  · refine (Expr.readUntil_along way _ .semicolon c₂ (by simp)).behind.andThen way
      fun condition c₃ h₃ _ => ?_
    exact (Expr.readUntil_along way _ .rightParen c₃ (by simp)).behind.map fun _ _ => isInit

end ScriptLang

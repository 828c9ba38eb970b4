import Mathlib
import ScriptLang.Proofs.Bounds
import ScriptLang.Proofs.Recovery
import ScriptLang.Scan

/-!
# Where reading goes on after a fault

A declaration fails at one token, and the fault points at it.  Reading goes on at the next boundary:
in front of a word that begins a statement, behind a semicolon, or at the end.  The token of the
fault itself is never a boundary, whatever it is.  So if it is a word that begins a statement, that
word is lost, and reading goes on at the first boundary behind it; in all other cases nothing that
begins a statement is passed over.

## Main definitions

* `Reading.Points` — a reading whose fault is about the token at which it has stopped
* `Boundary` — where a statement can be taken up again after a fault

## Main results

* `Stmt.readDeclaration_points` — a declaration that fails does so at the token under the cursor
* `Cursor.StandsAt.seekStatement` — the search stops at the first boundary
* `Stmt.readDeclaration_resumesAt` — where reading goes on after a declaration that fails
* `not_resumesAtFaults` — a word that begins a statement is lost if the fault is at it
-/

namespace ScriptLang

/-! ### Faults at the cursor -/

namespace Reading

variable {α β : Type} {m n : Nat}

/-- The fault, if there is one, is about the token at which the reading has stopped. -/
def Points : Reading n α → Prop
  | done .. => True
  | fault d after _ => ∃ why, d = after.peek.diagnose why

theorem Points.behind {r : Reading m α} {lt : m < n} (hr : r.Points) : (r.behind lt).Points := by
  cases r <;> exact hr

theorem Points.map {f : α → β} {r : Reading n α} (hr : r.Points) : (r.map f).Points := by
  cases r <;> exact hr

theorem Points.andThen {r : Reading n α}
    {next : (value : α) → (after : Cursor) → after.left < n → Reading n β} (hr : r.Points)
    (hn : ∀ value after shorter, (next value after shorter).Points) : (r.andThen next).Points := by
  cases r with
  | done value after shorter => exact hn value after shorter
  | fault d after noLonger => exact hr

theorem Points.andThenBehind {r : Reading m α} {lt : m < n}
    {next : (value : α) → (after : Cursor) → after.left < m → Reading n β} (hr : r.Points)
    (hn : ∀ value after shorter, (next value after shorter).Points) :
    (r.andThenBehind lt next).Points := by
  cases r with
  | done value after shorter => exact hn value after shorter
  | fault d after noLonger => exact hr

theorem points_failAt (c : Cursor) (why : SyntaxFault) :
    (c.failAt why : Reading c.left α).Points :=
  ⟨why, rfl⟩

theorem points_expect (c : Cursor) (kind : TokenKind) (why : SyntaxFault) :
    (c.expect kind why).Points := by
  unfold Cursor.expect
  cases c.take? (· == kind) with
  | none => exact points_failAt c why
  | some t => trivial

end Reading

open Reading

theorem Expr.assignment_points {n : Nat} (target : Expr) (equals : Token) (value : Expr)
    (c : Cursor) (lt : c.left < n) : (target.assignment equals value c lt).Points := by
  -- A target that cannot be assigned to is reported, but it does not stop the reading.
  unfold Expr.assignment
  split <;> trivial

-- The induction is the one that makes the readers end, so each proof has its reader's measure.
mutual

theorem Expr.read_points (c : Cursor) : (Expr.read c).Points := by
  rw [Expr.read]
  refine (Expr.readLevel_points (some .disjunction) c).andThen fun target c₁ h₁ => ?_
  cases c₁.take? (· == .equal) with
  | none => trivial
  | some equals =>
    refine (Expr.read_points equals.after).behind.andThen fun value c₂ h₂ => ?_
    exact Expr.assignment_points target equals.token value c₂ h₂
termination_by (c.left, 9)
decreasing_by
  · exact Prod.Lex.right _ (by decide)
  · exact Prod.Lex.left _ _ (equals.further h₁)

theorem Expr.readLevel_points (level : Option Level) (c : Cursor) :
    (Expr.readLevel level c).Points := by
  cases level with
  | none =>
    rw [Expr.readLevel]
    exact Expr.readPrefixed_points c
  | some l =>
    rw [Expr.readLevel]
    refine (Expr.readLevel_points l.tighter? c).andThen fun left c₁ h₁ => ?_
    exact Expr.readOperators_points l left c₁ c.left h₁
termination_by (c.left, 2 + Level.rank? level)
decreasing_by
  · exact Prod.Lex.right _ (by omega)
  · exact Prod.Lex.right _ (Nat.add_lt_add_left (Level.rank?_tighter? l) 2)
  · exact Prod.Lex.left _ _ h₁

theorem Expr.readOperators_points (l : Level) (left : Expr) (c : Cursor) (bound : Nat)
    (lt : c.left < bound) : (Expr.readOperators l left c bound lt).Points := by
  rw [Expr.readOperators]
  cases c.take? l.has with
  | none => trivial
  | some op =>
    refine (Expr.readLevel_points l.tighter? op.after).behind.andThenBehind fun right c₁ h₁ => ?_
    exact Expr.readOperators_points l (l.node op.token left right) c₁ bound _
termination_by (c.left, 0)
decreasing_by
  · exact Prod.Lex.left _ _ op.shorter
  · exact Prod.Lex.left _ _ h₁

theorem Expr.readPrefixed_points (c : Cursor) : (Expr.readPrefixed c).Points := by
  rw [Expr.readPrefixed]
  cases c.take? (fun kind => kind == .bang || kind == .minus) with
  | some op => exact (Expr.readPrefixed_points op.after).behind.map
  | none =>
    refine (Expr.readPrimary_points c).andThen fun callee c₁ h₁ => ?_
    exact Expr.readCalls_points callee c₁ c.left h₁
termination_by (c.left, 1)
decreasing_by
  · exact Prod.Lex.right _ (by decide)
  · exact Prod.Lex.left _ _ h₁
  · exact Prod.Lex.left _ _ op.shorter

theorem Expr.readCalls_points (callee : Expr) (c : Cursor) (bound : Nat) (lt : c.left < bound) :
    (Expr.readCalls callee c bound lt).Points := by
  rw [Expr.readCalls]
  cases c.take? (· == .leftParen) with
  | none => trivial
  | some opening =>
    refine Points.andThenBehind (.behind ?_) fun args c₁ h₁ => ?_
    · cases opening.after.take? (· == .rightParen) with
      | some closing => trivial
      | none => exact Expr.readArguments_points 0 opening.after
    · exact Expr.readCalls_points (.call callee args.2 args.1) c₁ bound _
termination_by (c.left, 0)
decreasing_by
  · exact Prod.Lex.left _ _ opening.shorter
  · exact Prod.Lex.left _ _ h₁

theorem Expr.readArguments_points (count : Nat) (c : Cursor) :
    (Expr.readArguments count c).Points := by
  rw [Expr.readArguments]
  refine Points.andThen (Expr.read_points (c.limit count .tooManyArguments)) fun arg c₁ h₁ => ?_
  cases c₁.take? (· == .comma) with
  | some comma => exact (Expr.readArguments_points (count + 1) comma.after).behind.map
  | none => exact (points_expect c₁ _ _).behind.map
termination_by (c.left, 10)
decreasing_by
  · exact Prod.Lex.right _ (by decide)
  · exact Prod.Lex.left _ _ (comma.further h₁)

theorem Expr.readPrimary_points (c : Cursor) : (Expr.readPrimary c).Points := by
  rw [Expr.readPrimary]
  cases c.take? (· == .leftParen) with
  | some opening =>
    refine (Expr.read_points opening.after).behind.andThen fun inner c₁ h₁ => ?_
    exact (points_expect c₁ _ _).behind.map
  | none =>
    dsimp only
    split
    · trivial
    · exact points_failAt c c.expressionExpected
termination_by (c.left, 0)
decreasing_by exact Prod.Lex.left _ _ opening.shorter

end

/-! ### Faults in statements -/

section Parts

variable (why : SyntaxFault)

theorem Expr.readUntil_points (closing : TokenKind) (c : Cursor) :
    (Expr.readUntil closing why c).Points := by
  unfold Expr.readUntil
  cases c.take? (· == closing) with
  | some t => trivial
  | none =>
    refine (Expr.read_points c).andThen fun expr c₁ h₁ => ?_
    exact (points_expect c₁ closing why).behind.map

theorem Expr.readThen_points (closing : TokenKind) (c : Cursor) :
    (Expr.readThen closing why c).Points := by
  unfold Expr.readThen
  refine (Expr.read_points c).andThen fun expr c₁ h₁ => ?_
  exact (points_expect c₁ closing why).behind.map

theorem Expr.readCondition_points (opening closing : SyntaxFault) (c : Cursor) :
    (Expr.readCondition opening closing c).Points := by
  unfold Expr.readCondition
  refine (points_expect c .leftParen opening).andThen fun _ c₁ h₁ => ?_
  exact (Expr.readThen_points closing .rightParen c₁).behind

end Parts

theorem Stmt.readExpression_points (c : Cursor) : (Stmt.readExpression c).Points :=
  (Expr.readThen_points _ .semicolon c).map

theorem Stmt.readVar_points (c : Cursor) : (Stmt.readVar c).Points := by
  unfold Stmt.readVar
  refine (points_expect c .ident _).andThen fun ident c₁ h₁ => ?_
  split
  · exact (points_failAt c₁ _).behind
  · cases c₁.take? (· == .equal) with
    | some equals => exact (Expr.readThen_points _ .semicolon equals.after).behind.map
    | none => exact (points_expect c₁ .semicolon _).behind.map

theorem Stmt.readParams_points (count : Nat) (c : Cursor) : (Stmt.readParams count c).Points := by
  rw [Stmt.readParams]
  refine Points.andThen (points_expect (c.limit count .tooManyParameters) .ident _)
    fun param c₁ h₁ => ?_
  cases c₁.take? (· == .comma) with
  | some comma => exact (Stmt.readParams_points (count + 1) comma.after).behind.map
  | none => exact (points_expect c₁ .rightParen _).behind.map
termination_by c.left
decreasing_by exact comma.further h₁

theorem Stmt.readHead_points (c : Cursor) : (Stmt.readHead c).Points := by
  unfold Stmt.readHead
  refine (points_expect c .ident _).andThen fun ident c₁ h₁ => ?_
  refine (points_expect c₁ .leftParen _).behind.andThen fun _ c₂ h₂ => ?_
  refine Points.andThen (.behind ?_) fun params c₃ h₃ => ?_
  · cases c₂.take? (· == .rightParen) with
    | some closing => trivial
    | none => exact Stmt.readParams_points 0 c₂
  · exact (points_expect c₃ .leftBrace _).behind.map

theorem Stmt.readClauses_points (c : Cursor) : (Stmt.readClauses c).Points := by
  unfold Stmt.readClauses
  refine (points_expect c .leftParen _).andThen fun _ c₁ h₁ => ?_
  refine Points.andThen (.behind ?_) fun init c₂ h₂ => ?_
  · split
    · trivial
    · exact (Stmt.readVar_points _).behind.map
    · exact (Stmt.readExpression_points c₁).map
  · refine (Expr.readUntil_points _ .semicolon c₂).behind.andThen fun condition c₃ h₃ => ?_
    exact (Expr.readUntil_points _ .rightParen c₃).behind.map

theorem Stmt.readBody_points (inFunction : Bool) (c : Cursor) :
    (Stmt.readBody inFunction c).Points := by
  rw [Stmt.readBody]
  split
  · exact points_failAt c _
  · -- A declaration in the body that fails has been taken up again, and is no fault of the body.
    cases c.take? (· == .rightBrace) with
    | some closing => trivial
    | none => exact (Stmt.readBody_points inFunction _).behind.map
termination_by c.left
decreasing_by exact Resumed.shorter _

theorem Stmt.readFunction_points (c : Cursor) : (Stmt.readFunction c).Points := by
  rw [Stmt.readFunction]
  refine (Stmt.readHead_points c).andThen fun head c₁ h₁ => ?_
  exact (Stmt.readBody_points true c₁).behind.map

theorem Stmt.read_points (inFunction : Bool) (c : Cursor) : (Stmt.read inFunction c).Points := by
  rw [Stmt.read]
  cases c.take? (fun _ => true) with
  | none => exact Stmt.readExpression_points c
  | some t =>
    simp only
    -- One case for each word that a statement can start with.
    split
    · refine (Stmt.readClauses_points t.after).behind.andThen fun clauses c₁ h₁ => ?_
      exact (Stmt.read_points inFunction c₁).behind.map
    · refine (Expr.readCondition_points _ _ t.after).behind.andThen fun condition c₁ h₁ => ?_
      refine (Stmt.read_points inFunction c₁).behind.andThen fun yes c₂ h₂ => ?_
      cases c₂.take? (· == .elseWord) with
      | none => trivial
      | some other => exact (Stmt.read_points inFunction other.after).behind.map
    · exact (Expr.readThen_points _ .semicolon t.after).map.behind
    · exact Points.behind (Points.map (Expr.readUntil_points _ .semicolon _))
    · refine (Expr.readCondition_points _ _ t.after).behind.andThen fun condition c₁ h₁ => ?_
      exact (Stmt.read_points inFunction c₁).behind.map
    · exact (Stmt.readBody_points inFunction t.after).behind.map
    · exact Stmt.readExpression_points c
termination_by c.left
decreasing_by
  · exact h₁
  · exact h₁
  · exact other.further h₂
  · exact h₁

/-- A declaration is a reading that goes along every path, and whose fault is about the token at
which it has stopped, taken up again where the next statement seems to start. -/
theorem Stmt.readDeclaration_points (inFunction : Bool) (c : Cursor) (pos : 0 < c.left) :
    ∃ r : Reading c.left Stmt, Stmt.readDeclaration inFunction c pos = r.resume pos ∧ r.Points ∧
      ∀ Q, Cursor.IsPath Q → Q c r.after := by
  rw [Stmt.readDeclaration]
  refine ⟨_, rfl, ?_⟩
  cases hf : c.take? (· == .funWord) with
  | some t =>
    refine ⟨(Stmt.readFunction_points t.after).behind, fun Q path => ?_⟩
    rw [after_behind]
    exact path.trans (path.take hf) (Stmt.readFunction_path path t.after)
  | none =>
    cases hv : c.take? (· == .varWord) with
    | some t =>
      refine ⟨(Stmt.readVar_points t.after).behind, fun Q path => ?_⟩
      rw [after_behind]
      exact path.trans (path.take hv) (Stmt.readVar_along path.toIsWay t.after).path
    | none => exact ⟨Stmt.read_points inFunction c, fun Q path => Stmt.read_path path inFunction c⟩

/-! ### Boundaries -/

/-- A statement can be taken up again at place `j` of the tokens after a fault at place `i`. -/
inductive Boundary (tokens : List Token) (i j : Nat) : Prop where
  | word {t : Token} (here : tokens[j]? = some t) (begins : t.kind.beginsStatement = true)
  | semicolon {s : Token} (behind : i < j) (before : tokens[j - 1]? = some s)
      (isSemicolon : s.kind = .semicolon)
  | end {t : Token} (here : tokens[j]? = some t) (isEnd : t.kind = .eof)

/-- At the place of the fault, only a word that begins a statement or the end is a boundary. -/
theorem boundary_self_iff {tokens : List Token} {i : Nat} {t : Token} (here : tokens[i]? = some t) :
    Boundary tokens i i ↔ t.kind.beginsStatement = true ∨ t.kind = .eof := by
  constructor
  · rintro (⟨here', begins⟩ | ⟨behind, -, -⟩ | ⟨here', isEnd⟩)
    · cases here.symm.trans here'
      exact .inl begins
    · exact absurd behind (Nat.lt_irrefl i)
    · cases here.symm.trans here'
      exact .inr isEnd
  · rintro (begins | isEnd)
    · exact .word here begins
    · exact .end here isEnd

/-- Looking for the next statement adds no report. -/
theorem Cursor.reported_synchronize (c : Cursor) : c.synchronize.reported = c.reported := by
  have seek (c : Cursor) : c.seekStatement.reported = c.reported := by
    fun_induction Cursor.seekStatement c with
    | case1 | case2 => rfl
    | case3 c t rest hc go ih => exact ih
  rw [Cursor.synchronize, seek, Cursor.advance]
  split <;> rfl

namespace Cursor.StandsAt

variable {tokens : List Token} {c : Cursor} {i m : Nat} {t : Token} {rest : List Token}

/-- Where nothing is to come, the cursor stands at an end token. -/
theorem of_rest_nil (h : c.StandsAt tokens m) (hc : c.rest = []) :
    ∃ t, tokens[m]? = some t ∧ t.kind = .eof := by
  have left := h.left
  rw [Cursor.left, hc, List.length_nil] at left
  have here : tokens[m]? = some c.last := by
    have within := h.within
    rw [← h.last, show m = firstEnd tokens by omega]
  -- The tokens behind those that are no end tokens start with one that is.
  have first : (tokens.dropWhile (·.kind != .eof)).head? = some c.last := by
    have whole : (tokens.takeWhile (·.kind != .eof) ++
        tokens.dropWhile (·.kind != .eof))[firstEnd tokens]? = some c.last := by
      rw [List.takeWhile_append_dropWhile]
      exact h.last
    rwa [firstEnd, List.getElem?_append_right (Nat.le_refl _), Nat.sub_self,
      ← List.head?_eq_getElem?] at whole
  have stop := List.head?_dropWhile_not (·.kind != TokenKind.eof) tokens
  rw [first] at stop
  exact ⟨c.last, here, by simpa using stop⟩

/-- Where a token is to come, it is the one at the place of the cursor, and no end token. -/
theorem of_rest_cons (h : c.StandsAt tokens m) (hc : c.rest = t :: rest) :
    tokens[m]? = some t ∧ t.kind ≠ .eof := by
  have here := h.peek
  rw [Cursor.peek, hc, List.headD_cons] at here
  refine ⟨here, ?_⟩
  have before : t ∈ tokens.take (firstEnd tokens) := by
    refine List.mem_of_mem_drop (i := m) ?_
    rw [← h.rest, hc]
    exact List.mem_cons_self
  rw [firstEnd, ← List.prefix_iff_eq_take.1 (List.takeWhile_prefix _)] at before
  simpa using List.mem_takeWhile_imp before

theorem previous_eq (h : c.StandsAt tokens m) (pos : 0 < m) : c.previous = tokens[m - 1]? := by
  have inside : m ≤ tokens.length := Nat.le_trans h.within (Nat.le_of_lt h.inside)
  rw [h.previous, List.getLast?_eq_getElem?, List.length_take, Nat.min_eq_left inside,
    List.getElem?_take_of_lt (Nat.sub_lt pos Nat.one_pos)]

/-- The search for a statement stops at the first boundary. -/
theorem seekStatement (h : c.StandsAt tokens m) (behind : i < m) :
    ∃ j, c.seekStatement.StandsAt tokens j ∧ IsLeast {j | m ≤ j ∧ Boundary tokens i j} j := by
  have least {j : Nat} (here : Boundary tokens i j) : IsLeast {k | j ≤ k ∧ Boundary tokens i k} j :=
    ⟨⟨Nat.le_refl j, here⟩, fun k hk => hk.1⟩
  fun_induction Cursor.seekStatement c generalizing m with
  | case1 c hc =>
    obtain ⟨t, here, isEnd⟩ := h.of_rest_nil hc
    exact ⟨m, h, least (.end here isEnd)⟩
  | case2 c t rest hc stop =>
    refine ⟨m, h, least ?_⟩
    obtain isSemicolon | begins := stop
    · rw [h.previous_eq (Nat.zero_lt_of_lt behind), Option.map_eq_some_iff] at isSemicolon
      obtain ⟨s, before, isSemicolon⟩ := isSemicolon
      exact .semicolon behind before isSemicolon
    · exact .word (h.of_rest_cons hc).1 begins
  | case3 c t rest hc go ih =>
    obtain ⟨here, noEnd⟩ := h.of_rest_cons hc
    obtain ⟨noSemicolon, noWord⟩ := not_or.1 go
    obtain ⟨j, stands, ⟨le, boundary⟩, first⟩ := ih (h.step hc) (Nat.lt_succ_of_lt behind)
    refine ⟨j, stands, ⟨Nat.le_of_succ_le le, boundary⟩, fun k hk => ?_⟩
    obtain ⟨passed, other⟩ := hk
    obtain rfl | further := Nat.eq_or_lt_of_le passed
    · -- The token that is passed over is no boundary.
      obtain ⟨here', begins⟩ | ⟨-, before, isSemicolon⟩ | ⟨here', isEnd⟩ := other
      · cases here.symm.trans here'
        exact absurd begins noWord
      · rw [h.previous_eq (Nat.zero_lt_of_lt behind), before] at noSemicolon
        exact absurd (congrArg some isSemicolon) noSemicolon
      · cases here.symm.trans here'
        exact absurd isEnd noEnd
    · exact first ⟨further, other⟩

/-- After a fault at the cursor, reading goes on at the first boundary from the fault on, unless the
token of the fault is a word that begins a statement: then it goes on at the first boundary behind
that word. -/
theorem synchronize (h : c.StandsAt tokens i) :
    ∃ j, c.synchronize.StandsAt tokens j ∧
      (c.peek.kind.beginsStatement = false → IsLeast {j | i ≤ j ∧ Boundary tokens i j} j) ∧
      (c.peek.kind.beginsStatement = true → IsLeast {j | i < j ∧ Boundary tokens i j} j) := by
  rw [Cursor.synchronize]
  cases hc : c.rest with
  | nil =>
    obtain ⟨t, here, isEnd⟩ := h.of_rest_nil hc
    have stays : c.advance.seekStatement = c := by
      rw [Cursor.advance, hc]
      exact seekStatement_nil hc
    have atEnd : c.peek = t := Option.some.inj (h.peek.symm.trans here)
    rw [stays, atEnd]
    refine ⟨i, h, fun _ => ⟨⟨Nat.le_refl i, .end here isEnd⟩, fun k hk => hk.1⟩, fun begins => ?_⟩
    rw [isEnd] at begins
    cases begins
  | cons t rest =>
    obtain ⟨here, noEnd⟩ := h.of_rest_cons hc
    have atCursor : c.peek = t := Option.some.inj (h.peek.symm.trans here)
    rw [advance_cons hc, atCursor]
    obtain ⟨j, stands, ⟨behind, boundary⟩, first⟩ := (h.step hc).seekStatement (Nat.lt_succ_self i)
    refine ⟨j, stands, fun other => ⟨⟨Nat.le_of_succ_le behind, boundary⟩, fun k hk => ?_⟩,
      fun _ => ⟨⟨behind, boundary⟩, first⟩⟩
    -- The token of the fault has been skipped, which makes no difference: it is no boundary.
    obtain rfl | further := Nat.eq_or_lt_of_le hk.1
    · obtain begins | isEnd := (boundary_self_iff here).1 hk.2
      · rw [other] at begins
        cases begins
      · exact absurd isEnd noEnd
    · exact first ⟨further, hk.2⟩

end Cursor.StandsAt

/-! ### Declarations that fail -/

/-- A declaration that fails does so at one token, about which it reports, and reading goes on at
the first boundary from there on.  But a word that begins a statement is lost if the fault is at it:
then reading goes on at the first boundary behind the word. -/
theorem Stmt.readDeclaration_resumesAt {tokens : List Token} {c : Cursor} {k : Nat}
    (h : c.StandsAt tokens k) (inFunction : Bool) (pos : 0 < c.left)
    (failed : (Stmt.readDeclaration inFunction c pos).stmt = none) :
    ∃ i j t why, k ≤ i ∧ tokens[i]? = some t ∧
      (Stmt.readDeclaration inFunction c pos).after.reported.getLast? = some (t.diagnose why) ∧
      (Stmt.readDeclaration inFunction c pos).after.StandsAt tokens j ∧
      (t.kind.beginsStatement = false → IsLeast {j | i ≤ j ∧ Boundary tokens i j} j) ∧
      (t.kind.beginsStatement = true → IsLeast {j | i < j ∧ Boundary tokens i j} j) := by
  obtain ⟨r, hr, points, path⟩ := Stmt.readDeclaration_points inFunction c pos
  rw [hr] at failed ⊢
  cases r with
  | done stmt after shorter => cases failed
  | fault d after noLonger =>
    obtain ⟨why, rfl⟩ := points
    obtain ⟨i, le, stands⟩ := path _ (Cursor.isPath_advances tokens) k h
    obtain ⟨j, stands', atOnce, later⟩ := (stands.report (after.peek.diagnose why)).synchronize
    refine ⟨i, j, after.peek, why, le, stands.peek, ?_, stands', atOnce, later⟩
    have kept : (after.report (after.peek.diagnose why)).synchronize.reported =
        after.reported ++ [after.peek.diagnose why] := Cursor.reported_synchronize _
    rw [resume, kept, List.getLast?_concat]

/-- The tokens of `print a` and of `print b;` on the next line. -/
def unfinished : List Token :=
  [⟨.printWord, "print", none, 1, ⟨0, 5⟩⟩, ⟨.ident, "a", none, 1, ⟨6, 7⟩⟩,
    ⟨.printWord, "print", none, 2, ⟨8, 13⟩⟩, ⟨.ident, "b", none, 2, ⟨14, 15⟩⟩,
    ⟨.semicolon, ";", none, 2, ⟨15, 16⟩⟩, ⟨.eof, "", none, 2, ⟨16, 16⟩⟩]

/-- The start of these tokens. -/
def atUnfinished : Cursor :=
  ⟨none, unfinished.take 5, ⟨.eof, "", none, 2, ⟨16, 16⟩⟩, []⟩

theorem standsAt_unfinished : atUnfinished.StandsAt unfinished 0 :=
  ⟨Nat.zero_le _, rfl, rfl, rfl⟩

theorem readDeclaration_unfinished :
    (Stmt.readDeclaration false atUnfinished (by decide)).stmt = none := by
  cbv

/-- The first statement fails at the second `print`. -/
theorem resumesAt_unfinished :
    ∃ i j t why, 0 ≤ i ∧ unfinished[i]? = some t ∧
      (Stmt.readDeclaration false atUnfinished (by decide)).after.reported.getLast? =
        some (t.diagnose why) ∧
      (Stmt.readDeclaration false atUnfinished (by decide)).after.StandsAt unfinished j ∧
      (t.kind.beginsStatement = false → IsLeast {j | i ≤ j ∧ Boundary unfinished i j} j) ∧
      (t.kind.beginsStatement = true → IsLeast {j | i < j ∧ Boundary unfinished i j} j) :=
  Stmt.readDeclaration_resumesAt standsAt_unfinished false _ readDeclaration_unfinished

/-- After every declaration that fails, reading goes on at the first boundary from the fault on,
even if the fault is at a word that begins a statement. -/
def ResumesAtFaults (tokens : List Token) : Prop :=
  ∀ (c : Cursor) (k : Nat) (inFunction : Bool) (pos : 0 < c.left), c.StandsAt tokens k →
    (Stmt.readDeclaration inFunction c pos).stmt = none →
    ∀ i t why, tokens[i]? = some t →
      (Stmt.readDeclaration inFunction c pos).after.reported.getLast? = some (t.diagnose why) →
      ∃ j, (Stmt.readDeclaration inFunction c pos).after.StandsAt tokens j ∧
        IsLeast {j | i ≤ j ∧ Boundary tokens i j} j

/-- Not every text is read that way.  Behind a `print` statement without its semicolon, the `print`
of the next statement is lost, and with it the whole of that statement. -/
theorem not_resumesAtFaults :
    ¬ ResumesAtFaults (scan "print a\nprint b;").tokens ∧
      (Script.ofTokens (scan "print a\nprint b;").tokens).stmts = [] := by
  have tokens : (scan "print a\nprint b;").tokens = unfinished := by decide +kernel
  have reported : (Stmt.readDeclaration false atUnfinished (by decide)).after.reported.getLast? =
      some (Token.diagnose ⟨.printWord, "print", none, 2, ⟨8, 13⟩⟩
        .semicolonAfterPrintExpected) := by
    cbv
  have left : (Stmt.readDeclaration false atUnfinished (by decide)).after.left = 0 := by cbv
  rw [tokens]
  constructor
  · intro all
    obtain ⟨j, stands, least⟩ := all atUnfinished 0 false (by decide) standsAt_unfinished
      readDeclaration_unfinished 2 _ _ rfl reported
    -- The word `print` at place 2 would do, but nothing is left of the text.
    have word : Boundary unfinished 2 2 := .word rfl rfl
    have first : j ≤ 2 := least.2 ⟨Nat.le_refl 2, word⟩
    have ended : firstEnd unfinished = 5 := rfl
    have rest := stands.left
    omega
  · cbv

end ScriptLang

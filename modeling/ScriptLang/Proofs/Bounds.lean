import Mathlib.Data.List.TakeWhile
import Mathlib.Logic.Function.Iterate
import ScriptLang.Proofs.Passage

/-!
# Readers stay within their tokens

A cursor that belongs to a list of tokens stands at a place in it, at the first end token or before
it: what it holds as the token just read, the tokens to come and the end token are the ones at that
place.  Every reader that starts at such a cursor stops at one, at the same place or further on,
whatever the tokens are and whether it succeeds or fails.  A declaration always stops further on,
and reports something if it leaves no statement; so reading a script comes to the end after no more
declarations than there are tokens.

## Main definitions

* `Cursor.IsPath` — relations between cursors that every step of a reader keeps
* `Cursor.StandsAt` — the cursor is at a place in a list of tokens
* `Reader` — all readers, and where they stop

## Main results

* `Reader.path` — every reader goes along every path
* `Reader.standsAt` — no reader goes back, or beyond the first end token
* `Stmt.readDeclaration_advances` — a declaration takes a token, and reports what it leaves out
* `Script.ofTokens_bounds` — reading a list of tokens ends at its first end token
-/

namespace ScriptLang

/-! ### Paths -/

/-- A relation between cursors that every step of a reader keeps, whatever is reported. -/
structure Cursor.IsPath (Q : Cursor → Cursor → Prop) : Prop extends Cursor.IsWay Q where
  reportAny (c : Cursor) (d : Diagnostic) : Q c (c.report d)

/-- The cursor at which a reading has stopped. -/
def Reading.after {α : Type} {n : Nat} : Reading n α → Cursor
  | done _ after _ => after
  | fault _ after _ => after

namespace Reading

variable {α β : Type} {m n : Nat} {Q : Cursor → Cursor → Prop} {c d : Cursor}

@[simp] theorem after_behind {r : Reading m α} {lt : m < n} : (r.behind lt).after = r.after := by
  cases r <;> rfl

@[simp] theorem after_map {f : α → β} {r : Reading n α} : (r.map f).after = r.after := by
  cases r <;> rfl

/-- A reading that goes on after another one goes along a path if both do. -/
theorem path_andThen (path : Cursor.IsPath Q) {r : Reading n α}
    {next : (value : α) → (after : Cursor) → after.left < n → Reading n β} (hr : Q c r.after)
    (hn : ∀ value after lt, Q after (next value after lt).after) : Q c (r.andThen next).after := by
  cases r with
  | done value after shorter => exact path.trans hr (hn value after shorter)
  | fault diagnostic after noLonger => exact hr

theorem Along.path {V : α → Prop} {r : Reading n α} (hr : r.Along Q c V) : Q c r.after := by
  cases r <;> exact hr.2

/-- A fault is reported before the next statement is looked for. -/
theorem path_resume (path : Cursor.IsPath Q) {r : Reading c.left Stmt} {pos : 0 < c.left}
    (hr : Q c r.after) : Q c (r.resume pos).after := by
  cases r with
  | done stmt after shorter => exact hr
  | fault diagnostic after noLonger =>
    have reported := path.trans hr (path.reportAny after diagnostic)
    exact path.trans reported (path.synchronize _)

end Reading

open Reading

section Statements

variable {Q : Cursor → Cursor → Prop} (path : Cursor.IsPath Q)
include path

/-- A `return` goes on even where it is reported. -/
theorem Stmt.readReturn_path (inFunction : Bool) (keyword : Token) (c : Cursor) :
    Q c (Stmt.readReturn inFunction keyword c).after := by
  have reported : Q c (c.reportIf (!inFunction) (keyword.diagnose .topLevelReturn)) := by
    cases inFunction with
    | false => exact path.reportAny c _
    | true => exact path.refl c
  have value := Expr.readUntil_along path.toIsWay .semicolonAfterReturnExpected .semicolon
    (c.reportIf (!inFunction) (keyword.diagnose .topLevelReturn)) (by simp)
  have whole : (Stmt.readReturn inFunction keyword c).Along Q c fun _ => True :=
    (value.from path.toIsWay reported).map fun _ _ => trivial
  exact whole.path

mutual

/-- A declaration is a reading that goes along the path, taken up again where the next statement
seems to start. -/
theorem Stmt.readDeclaration_resumes (inFunction : Bool) (c : Cursor) (pos : 0 < c.left) :
    ∃ r : Reading c.left Stmt, Stmt.readDeclaration inFunction c pos = r.resume pos ∧
      Q c r.after := by
  rw [Stmt.readDeclaration]
  refine ⟨_, rfl, ?_⟩
  cases hf : c.take? (· == .funWord) with
  | some t =>
    simp only [after_behind]
    exact path.trans (path.take hf) (Stmt.readFunction_path t.after)
  | none =>
    cases hv : c.take? (· == .varWord) with
    | some t =>
      simp only [after_behind]
      exact path.trans (path.take hv) (Stmt.readVar_along path.toIsWay t.after).path
    | none => exact Stmt.read_path inFunction c
termination_by (c.left, 2)
decreasing_by
  · exact Prod.Lex.right _ (by decide)
  · exact Prod.Lex.left _ _ t.shorter

theorem Stmt.readFunction_path (c : Cursor) : Q c (Stmt.readFunction c).after := by
  rw [Stmt.readFunction]
  refine path_andThen path (Stmt.readHead_along path.toIsWay c).path fun head c₁ h₁ => ?_
  rw [after_map, after_behind]
  exact Stmt.readBody_path true c₁
termination_by (c.left, 1)
decreasing_by exact Prod.Lex.left _ _ h₁

theorem Stmt.readBody_path (inFunction : Bool) (c : Cursor) :
    Q c (Stmt.readBody inFunction c).after := by
  rw [Stmt.readBody]
  split
  · exact path.refl c
  · rename_i h
    cases ht : c.take? (· == .rightBrace) with
    | some closing => exact path.take ht
    | none =>
      obtain ⟨r, hr, along⟩ := Stmt.readDeclaration_resumes inFunction c (Cursor.left_pos h)
      have first : Q c (Stmt.readDeclaration inFunction c (Cursor.left_pos h)).after :=
        hr ▸ path_resume path along
      have later := Stmt.readBody_path inFunction
        (Stmt.readDeclaration inFunction c (Cursor.left_pos h)).after
      simp only [after_map, after_behind]
      exact path.trans first later
termination_by (c.left, 3)
decreasing_by
  · exact Prod.Lex.right _ (by decide)
  · exact Prod.Lex.left _ _ (Resumed.shorter _)

theorem Stmt.read_path (inFunction : Bool) (c : Cursor) : Q c (Stmt.read inFunction c).after := by
  have way := path.toIsWay
  rw [Stmt.read]
  cases ht : c.take? (fun _ => true) with
  | none => exact (Stmt.readExpression_along way c).path
  | some t =>
    have taken := way.take ht
    simp only
    -- One case for each word that a statement can start with.
    split
    · refine path_andThen path ?_ fun clauses c₁ h₁ => ?_
      · rw [after_behind]
        exact path.trans taken (Stmt.readClauses_along way t.after).path
      · rw [after_map, after_behind]
        exact Stmt.read_path inFunction c₁
    · refine path_andThen path ?_ fun condition c₁ h₁ => path_andThen path ?_ fun yes c₂ h₂ => ?_
      · rw [after_behind]
        exact path.trans taken
          (Expr.readCondition_along way _ _ t.after (by simp) (by simp)).path
      · rw [after_behind]
        exact Stmt.read_path inFunction c₁
      · cases he : c₂.take? (· == .elseWord) with
        | none => exact path.refl c₂
        | some other =>
          simp only [after_map, after_behind]
          exact path.trans (way.take he) (Stmt.read_path inFunction other.after)
    · rw [after_behind]
      exact path.trans taken (Stmt.readPrint_along way t.token t.after).path
    · rw [after_behind]
      exact path.trans taken (Stmt.readReturn_path path inFunction t.token t.after)
    · refine path_andThen path ?_ fun condition c₁ h₁ => ?_
      · rw [after_behind]
        exact path.trans taken
          (Expr.readCondition_along way _ _ t.after (by simp) (by simp)).path
      · rw [after_map, after_behind]
        exact Stmt.read_path inFunction c₁
    · rw [after_map, after_behind]
      exact path.trans taken (Stmt.readBody_path inFunction t.after)
    · exact (Stmt.readExpression_along way c).path
termination_by (c.left, 1)
decreasing_by
  · exact Prod.Lex.left _ _ h₁
  · exact Prod.Lex.left _ _ h₁
  · exact Prod.Lex.left _ _ (other.further h₂)
  · exact Prod.Lex.left _ _ h₁
  · exact Prod.Lex.left _ _ t.shorter

end

theorem Stmt.readDeclaration_path (inFunction : Bool) (c : Cursor) (pos : 0 < c.left) :
    Q c (Stmt.readDeclaration inFunction c pos).after := by
  obtain ⟨r, hr, along⟩ := Stmt.readDeclaration_resumes path inFunction c pos
  rw [hr]
  exact path_resume path along

theorem Stmt.readAll_path (c : Cursor) : Q c (Stmt.readAll c).2 := by
  rw [Stmt.readAll]
  split
  · exact path.refl c
  · rename_i h
    have first := Stmt.readDeclaration_path path false c (Cursor.left_pos h)
    exact path.trans first (Stmt.readAll_path _)
termination_by c.left
decreasing_by exact Resumed.shorter _

end Statements

/-- The readers, and what each of them is given besides a cursor. -/
inductive Reader where
  | advance
  | takeIf (test : TokenKind → Bool)
  | expect (kind : TokenKind) (why : SyntaxFault)
  | synchronize
  | expression
  | level (level : Option Level)
  | operators (l : Level) (left : Expr)
  | prefixed
  | calls (callee : Expr)
  | arguments (count : Nat)
  | primary
  | expressionStatement
  | print (keyword : Token)
  | ret (inFunction : Bool) (keyword : Token)
  | var
  | params (count : Nat)
  | head
  | clauses
  | statement (inFunction : Bool)
  | body (inFunction : Bool)
  | function
  | declaration (inFunction : Bool)
  | script

/-- Where a reader that starts at `c` stops, whether it succeeds or fails. -/
def Reader.stop (r : Reader) (c : Cursor) : Cursor :=
  match r with
  | .advance => c.advance
  | .takeIf test => ((c.take? test).map Cursor.Taken.after).getD c
  | .expect kind why => (c.expect kind why).after
  | .synchronize => c.synchronize
  | .expression => (Expr.read c).after
  | .level l => (Expr.readLevel l c).after
  | .operators l left => (Expr.readOperators l left c (c.left + 1) (Nat.lt_succ_self _)).after
  | .prefixed => (Expr.readPrefixed c).after
  | .calls callee => (Expr.readCalls callee c (c.left + 1) (Nat.lt_succ_self _)).after
  | .arguments count => (Expr.readArguments count c).after
  | .primary => (Expr.readPrimary c).after
  | .expressionStatement => (Stmt.readExpression c).after
  | .print keyword => (Stmt.readPrint keyword c).after
  | .ret inFunction keyword => (Stmt.readReturn inFunction keyword c).after
  | .var => (Stmt.readVar c).after
  | .params count => (Stmt.readParams count c).after
  | .head => (Stmt.readHead c).after
  | .clauses => (Stmt.readClauses c).after
  | .statement inFunction => (Stmt.read inFunction c).after
  | .body inFunction => (Stmt.readBody inFunction c).after
  | .function => (Stmt.readFunction c).after
  | .declaration inFunction =>
    -- Nobody asks for a declaration at the end.
    if pos : 0 < c.left then (Stmt.readDeclaration inFunction c pos).after else c
  | .script => (Stmt.readAll c).2

/-- Every reader goes along every path. -/
theorem Reader.path {Q : Cursor → Cursor → Prop} (path : Cursor.IsPath Q) (r : Reader)
    (c : Cursor) : Q c (r.stop c) := by
  have way := path.toIsWay
  cases r with
  | advance => exact way.advance c
  | takeIf test =>
    cases h : c.take? test with
    | none =>
      simp only [stop, h, Option.map_none, Option.getD_none]
      exact path.refl c
    | some t =>
      simp only [stop, h, Option.map_some, Option.getD_some]
      exact way.take h
  | expect kind why =>
    simp only [stop, Cursor.expect]
    cases h : c.take? (· == kind) with
    | none => exact path.refl c
    | some t => exact way.take h
  | synchronize => exact way.synchronize c
  | expression => exact (Expr.read_along way c).path
  | level l => exact (Expr.readLevel_along way l c).path
  | operators l left => exact (Expr.readOperators_along way l left c _ _).path
  | prefixed => exact (Expr.readPrefixed_along way c).path
  | calls callee => exact (Expr.readCalls_along way callee c _ _).path
  | arguments count => exact (Expr.readArguments_along way count c).path
  | primary => exact (Expr.readPrimary_along way c).path
  | expressionStatement => exact (Stmt.readExpression_along way c).path
  | print keyword => exact (Stmt.readPrint_along way keyword c).path
  | ret inFunction keyword => exact Stmt.readReturn_path path inFunction keyword c
  | var => exact (Stmt.readVar_along way c).path
  | params count => exact (Stmt.readParams_along way count c).path
  | head => exact (Stmt.readHead_along way c).path
  | clauses => exact (Stmt.readClauses_along way c).path
  | statement inFunction => exact Stmt.read_path path inFunction c
  | body inFunction => exact Stmt.readBody_path path inFunction c
  | function => exact Stmt.readFunction_path path c
  | declaration inFunction =>
    by_cases pos : 0 < c.left
    · simp only [stop, pos, dif_pos]
      exact Stmt.readDeclaration_path path inFunction c pos
    · simp only [stop, pos, dif_neg, not_false_iff]
      exact path.refl c
  | script => exact Stmt.readAll_path path c

/-! ### Places in a list of tokens -/

/-- The place of the first end token; behind the last token if there is none. -/
def firstEnd (tokens : List Token) : Nat :=
  (tokens.takeWhile (·.kind != .eof)).length

/-- The cursor is at place `i` of a list of tokens. -/
structure Cursor.StandsAt (tokens : List Token) (i : Nat) (c : Cursor) : Prop where
  within : i ≤ firstEnd tokens
  previous : c.previous = (tokens.take i).getLast?
  rest : c.rest = (tokens.take (firstEnd tokens)).drop i
  last : tokens[firstEnd tokens]? = some c.last

section FirstEnd

variable {before more : List Token} {last : Token} (inner : ∀ t ∈ before, t.kind ≠ .eof)
  (isLast : last.kind = .eof)

theorem exists_firstEnd {tokens : List Token} (closed : ∃ last ∈ tokens, last.kind = .eof) :
    ∃ before last more, tokens = before ++ last :: more ∧ (∀ t ∈ before, t.kind ≠ .eof) ∧
      last.kind = .eof := by
  obtain ⟨last, found⟩ : ∃ last, tokens.find? (·.kind == .eof) = some last := by
    rw [← Option.isSome_iff_exists, List.find?_isSome]
    simpa using closed
  obtain ⟨isLast, before, more, rfl, inner⟩ := List.find?_eq_some_iff_append.1 found
  exact ⟨before, last, more, rfl, by simpa using inner, by simpa using isLast⟩

include inner isLast

theorem firstEnd_append : firstEnd (before ++ last :: more) = before.length := by
  have inner : ∀ t ∈ before, (t.kind != .eof) = true := by simpa using inner
  simp [firstEnd, List.takeWhile_append_of_pos inner, isLast]

/-- The tokens behind the first end token do not count. -/
theorem Cursor.start?_append_cons :
    start? (before ++ last :: more) = some ⟨none, before, last, []⟩ := by
  have inner : ∀ t ∈ before, (t.kind != .eof) = true := by simpa using inner
  simp [start?, List.takeWhile_append_of_pos inner, List.dropWhile_append_of_pos inner, isLast]

end FirstEnd

namespace Cursor

variable {tokens : List Token} {i j : Nat} {c d : Cursor}

theorem StandsAt.inside (h : c.StandsAt tokens i) : firstEnd tokens < tokens.length :=
  (List.getElem?_eq_some_iff.1 h.last).1

theorem StandsAt.left (h : c.StandsAt tokens i) : c.left = firstEnd tokens - i := by
  have inside := h.inside
  rw [Cursor.left, h.rest, List.length_drop, List.length_take]
  omega

/-- The token at the cursor is the one at its place; so is every token that a reader looks at. -/
theorem StandsAt.peek (h : c.StandsAt tokens i) : tokens[i]? = some c.peek := by
  have within := h.within
  have inside := h.inside
  rw [Cursor.peek, h.rest]
  by_cases ended : i = firstEnd tokens
  · subst ended
    simpa using h.last
  · have lt : i < firstEnd tokens := by omega
    have more : (tokens.take (firstEnd tokens)).drop i =
        tokens[i] :: (tokens.take (firstEnd tokens)).drop (i + 1) := by
      rw [List.drop_eq_getElem_cons (by simp; omega)]
      simp
    simp [more]

theorem StandsAt.step {t : Token} {rest : List Token} (h : c.StandsAt tokens i)
    (hc : c.rest = t :: rest) :
    ({ c with previous := some t, rest } : Cursor).StandsAt tokens (i + 1) := by
  have inside := h.inside
  have pos : 0 < c.left := by simp [Cursor.left, hc]
  have lt : i < firstEnd tokens := by
    have left := h.left
    omega
  have more := h.rest
  rw [hc, List.drop_eq_getElem_cons (by simp; omega)] at more
  simp only [List.getElem_take, List.cons.injEq] at more
  refine ⟨lt, ?_, more.2, h.last⟩
  rw [List.take_succ_eq_append_getElem (by omega), List.getLast?_concat, more.1]

theorem StandsAt.report (h : c.StandsAt tokens i) (d : Diagnostic) :
    (c.report d).StandsAt tokens i :=
  ⟨h.within, h.previous, h.rest, h.last⟩

/-- Reading starts at the first token. -/
theorem standsAt_start? (closed : ∃ last ∈ tokens, last.kind = .eof) :
    ∃ c, start? tokens = some c ∧ c.StandsAt tokens 0 := by
  obtain ⟨before, last, more, rfl, inner, isLast⟩ := exists_firstEnd closed
  refine ⟨_, start?_append_cons inner isLast, Nat.zero_le _, rfl, ?_, ?_⟩
  · simp [firstEnd_append inner isLast]
  · simp [firstEnd_append inner isLast]

/-- From `c` to `d`, the cursor has not gone back. -/
def Advances (tokens : List Token) (c d : Cursor) : Prop :=
  ∀ i, c.StandsAt tokens i → ∃ j, i ≤ j ∧ d.StandsAt tokens j

theorem isPath_advances (tokens : List Token) : IsPath (Advances tokens) where
  refl c i h := ⟨i, Nat.le_refl i, h⟩
  trans h h' i hi := by
    obtain ⟨j, le, hj⟩ := h i hi
    obtain ⟨k, le', hk⟩ := h' j hj
    exact ⟨k, Nat.le_trans le le', hk⟩
  step hc i h := ⟨i + 1, Nat.le_succ i, h.step hc⟩
  report c _ i h := ⟨i, Nat.le_refl i, h.report _⟩
  reportAny c d i h := ⟨i, Nat.le_refl i, h.report d⟩

theorem isPath_reported : IsPath fun c d => c.reported <+: d.reported where
  refl _ := List.prefix_rfl
  trans h h' := h.trans h'
  step _ := List.prefix_rfl
  report _ _ := List.prefix_append _ _
  reportAny _ _ := List.prefix_append _ _

end Cursor

/-! ### What readers do to the place -/

section Place

variable {tokens : List Token} {i : Nat} {c : Cursor}

/-- No reader goes back, or beyond the first end token. -/
theorem Reader.standsAt (r : Reader) (h : c.StandsAt tokens i) :
    ∃ j, i ≤ j ∧ (r.stop c).StandsAt tokens j :=
  r.path (Cursor.isPath_advances tokens) c i h

/-- A declaration that leaves no statement has reported why. -/
theorem Stmt.readDeclaration_reports (inFunction : Bool) (pos : 0 < c.left)
    (none : (Stmt.readDeclaration inFunction c pos).stmt = none) :
    c.reported.length < (Stmt.readDeclaration inFunction c pos).after.reported.length := by
  obtain ⟨r, hr, along⟩ :=
    Stmt.readDeclaration_resumes Cursor.isPath_reported inFunction c pos
  rw [hr] at none ⊢
  cases r with
  | done stmt after shorter => simp [resume] at none
  | fault d after noLonger =>
    have kept : (after.report d).reported <+: (after.report d).synchronize.reported :=
      Cursor.isPath_reported.synchronize _
    have before : c.reported.length ≤ after.reported.length := along.length_le
    have more : after.reported.length < (after.report d).reported.length := by
      simp [Cursor.report]
    exact Nat.lt_of_le_of_lt before (Nat.lt_of_lt_of_le more kept.length_le)

/-- A declaration takes at least one token, whether it succeeds or fails. -/
theorem Stmt.readDeclaration_advances (inFunction : Bool) (pos : 0 < c.left)
    (h : c.StandsAt tokens i) :
    ∃ j, i < j ∧ (Stmt.readDeclaration inFunction c pos).after.StandsAt tokens j := by
  have path := Stmt.readDeclaration_path (Cursor.isPath_advances tokens) inFunction c pos
  obtain ⟨j, le, hj⟩ := path i h
  have shorter := (Stmt.readDeclaration inFunction c pos).shorter
  have left := h.left
  have left' := hj.left
  exact ⟨j, by omega, hj⟩

/-- Reading all declarations comes to the end. -/
theorem Stmt.rest_readAll (c : Cursor) : (Stmt.readAll c).2.rest = [] := by
  rw [Stmt.readAll]
  split
  · assumption
  · exact Stmt.rest_readAll _
termination_by c.left
decreasing_by exact Resumed.shorter _

/-- One declaration after another comes to where reading all of them stops, after no more of them
than there are tokens to come. -/
theorem Stmt.readAll_iterate {n : Nat} (c : Cursor) (enough : c.left ≤ n) :
    (Stmt.readAll c).2 = (Reader.declaration false).stop^[n] c := by
  induction n generalizing c with
  | zero =>
    have ended : c.rest = [] := List.length_eq_zero_iff.1 (Nat.le_zero.1 enough)
    rw [Stmt.readAll]
    split
    · rfl
    · simp_all
  | succ n ih =>
    rw [Function.iterate_succ_apply]
    by_cases pos : 0 < c.left
    · have shorter := (Stmt.readDeclaration false c pos).shorter
      rw [← ih _ (by simp only [Reader.stop, pos, dif_pos]; omega), Stmt.readAll]
      split
      · simp_all [Cursor.left]
      · simp only [Reader.stop, pos, dif_pos]
    · rw [← ih _ (by simp only [Reader.stop, pos, dif_neg, not_false_iff]; omega)]
      simp only [Reader.stop, pos, dif_neg, not_false_iff]

end Place

/-- Where reading starts is settled by the tokens up to the first end token. -/
theorem Cursor.start?_take (tokens : List Token) :
    start? (tokens.take (firstEnd tokens + 1)) = start? tokens := by
  by_cases closed : ∃ last ∈ tokens, last.kind = .eof
  · obtain ⟨before, last, more, rfl, inner, isLast⟩ := exists_firstEnd closed
    rw [firstEnd_append inner isLast, start?_append_cons inner isLast,
      List.take_length_add_append]
    exact start?_append inner isLast
  · -- Without an end token, nothing is cut off.
    have all : tokens.takeWhile (·.kind != .eof) = tokens :=
      List.takeWhile_eq_self_iff.2 fun t ht => by
        have other : t.kind ≠ .eof := fun isEnd => closed ⟨t, ht, isEnd⟩
        simpa using other
    rw [List.take_of_length_le]
    rw [firstEnd, all]
    exact Nat.le_succ _

/-- Reading stays within its tokens, whatever they are, as long as the last of them is an end token:
every token that is looked at is one of them; no reader goes back or beyond the first end token;
each declaration takes a token, and reports what it leaves out; after no more declarations than
there are tokens before the first end token, reading a script stops there; and no token behind it
has a say in the results. -/
theorem Script.ofTokens_bounds {tokens : List Token}
    (closed : ∀ last ∈ tokens.getLast?, last.kind = .eof) :
    (∀ (c : Cursor) i, c.StandsAt tokens i → tokens[i]? = some c.peek) ∧
      (∀ (r : Reader) c i, c.StandsAt tokens i → ∃ j, i ≤ j ∧ (r.stop c).StandsAt tokens j) ∧
      (∀ inFunction c i (pos : 0 < c.left), c.StandsAt tokens i →
        ∃ j, i < j ∧ (Stmt.readDeclaration inFunction c pos).after.StandsAt tokens j ∧
          ∃ new, (Stmt.readDeclaration inFunction c pos).after.reported = c.reported ++ new ∧
            ((Stmt.readDeclaration inFunction c pos).stmt = none → new ≠ [])) ∧
      (tokens = [] → Script.ofTokens tokens = ⟨[], []⟩ ∧ Expr.ofTokens tokens = (none, [])) ∧
      (tokens ≠ [] → ∃ c, Cursor.start? tokens = some c ∧ c.StandsAt tokens 0 ∧
        (Stmt.readAll c).2.StandsAt tokens (firstEnd tokens) ∧
        (Stmt.readAll c).2 = (Reader.declaration false).stop^[firstEnd tokens] c) ∧
      ∀ tokens', tokens'.take (firstEnd tokens' + 1) = tokens.take (firstEnd tokens + 1) →
        Script.ofTokens tokens' = Script.ofTokens tokens ∧
          Expr.ofTokens tokens' = Expr.ofTokens tokens := by
  refine ⟨fun c i h => h.peek, fun r c i h => r.standsAt h, fun inFunction c i pos h => ?_, ?_,
    fun nonempty => ?_, fun tokens' same => ?_⟩
  · obtain ⟨j, lt, hj⟩ := Stmt.readDeclaration_advances inFunction pos h
    obtain ⟨new, more⟩ := Stmt.readDeclaration_path Cursor.isPath_reported inFunction c pos
    refine ⟨j, lt, hj, new, more.symm, ?_⟩
    -- A declaration that leaves no statement has reported why.
    rintro none rfl
    have reports := Stmt.readDeclaration_reports inFunction pos none
    simp [← more] at reports
  · rintro rfl
    exact ⟨rfl, rfl⟩
  · have hasEnd : ∃ last ∈ tokens, last.kind = .eof :=
      ⟨tokens.getLast nonempty, List.getLast_mem nonempty,
        closed _ (List.getLast?_eq_some_getLast nonempty)⟩
    obtain ⟨c, start, h⟩ := Cursor.standsAt_start? hasEnd
    obtain ⟨j, -, hj⟩ := Reader.script.standsAt h
    have ended : (Stmt.readAll c).2.left = 0 := by
      rw [Cursor.left, Stmt.rest_readAll]
      rfl
    -- A cursor with nothing left stands at the first end token.
    have atEnd : j = firstEnd tokens := by
      have left := hj.left
      have within := hj.within
      simp only [Reader.stop] at left
      omega
    refine ⟨c, start, h, atEnd ▸ hj, Stmt.readAll_iterate c ?_⟩
    rw [h.left]
    exact Nat.sub_le _ _
  · have same : Cursor.start? tokens' = Cursor.start? tokens := by
      rw [← Cursor.start?_take tokens', same, Cursor.start?_take]
    rw [Script.ofTokens, Script.ofTokens, Expr.ofTokens, Expr.ofTokens, same]
    exact ⟨rfl, rfl⟩

/-- A brace that closes nothing, an end token, and two more tokens. -/
def strayBrace : List Token :=
  [⟨.rightBrace, "\x7d", none, 1, ⟨0, 1⟩⟩, ⟨.eof, "", none, 1, ⟨1, 1⟩⟩,
    ⟨.semicolon, ";", none, 1, ⟨1, 2⟩⟩, ⟨.eof, "", none, 1, ⟨2, 2⟩⟩]

/-- Reading stops at the first end token behind the brace, and does not see the second one. -/
theorem Script.ofTokens_strayBrace :
    (∀ last ∈ strayBrace.getLast?, last.kind = .eof) ∧
      (∃ c, Cursor.start? strayBrace = some c ∧ c.StandsAt strayBrace 0 ∧
        (Stmt.readAll c).2.StandsAt strayBrace 1 ∧
        (Stmt.readAll c).2 = (Reader.declaration false).stop c) ∧
      Script.ofTokens (strayBrace.take 2) = Script.ofTokens strayBrace := by
  have closed : ∀ last ∈ strayBrace.getLast?, last.kind = .eof := by decide
  have whole := Script.ofTokens_bounds closed
  exact ⟨closed, whole.2.2.2.2.1 (by decide), (whole.2.2.2.2.2 (strayBrace.take 2) (by decide)).1⟩

end ScriptLang

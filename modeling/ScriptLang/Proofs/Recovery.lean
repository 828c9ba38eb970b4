import Mathlib.Data.List.Forall2
import ScriptLang.Proofs.SideBySide

/-!
# Errors stay where they are

Tokens without braces and `for` loops that end with a semicolon are read by themselves: whatever is
wrong with them, no reader takes a token behind them, and the search for the next statement stops
there at the latest.  What comes behind them is read as if it stood alone.  The one difference is in
wording, where its very first token should be an expression and is not: a text that starts there
says so.

## Main definitions

* `Cursor.Within` — two cursors in the same tokens, behind which one of them has others to come
* `Cursor.Behind` — two cursors in the same tokens, before which one of them has read others
* `Diagnostic.continued` — a report as it is worded behind other statements

## Main results

* `Cursor.inStep_within`, `Cursor.inStep_behind` — both pairs stay in step
* `Script.ofTokens_append_statements` — a script in two parts is read part by part
-/

namespace ScriptLang

namespace Cursor

/-- Cursors with the same token to come take it, or do not, together. -/
theorem take?_both {c c' : Cursor} {t : Token} {rest rest' : List Token} (hc : c.rest = t :: rest)
    (hc' : c'.rest = t :: rest') (test : TokenKind → Bool) :
    c.take? test = none ∧ c'.take? test = none ∨
      ∃ s s', c.take? test = some s ∧ c'.take? test = some s' ∧ s.token = t ∧ s'.token = t ∧
        s.after = { c with previous := some t, rest } ∧
        s'.after = { c' with previous := some t, rest := rest' } := by
  cases h : c.take? test with
  | none =>
    have fails := take?_eq_none_iff.1 h t rest hc
    refine .inl ⟨rfl, take?_eq_none_iff.2 fun u us hu => ?_⟩
    rw [hc'] at hu
    cases hu
    exact fails
  | some s =>
    obtain ⟨passes, hs, after⟩ := of_take? h
    rw [hc] at hs
    obtain ⟨rfl, rfl⟩ := List.cons.inj hs
    cases h' : c'.take? test with
    | none =>
      have fails := take?_eq_none_iff.1 h' _ _ hc'
      rw [passes] at fails
      contradiction
    | some s' =>
      obtain ⟨-, hs', after'⟩ := of_take? h'
      rw [hc'] at hs'
      obtain ⟨ht, rfl⟩ := List.cons.inj hs'
      exact .inr ⟨s, s', rfl, rfl, rfl, ht.symm, after, ht ▸ after'⟩

theorem seekStatement_nil {c : Cursor} (hc : c.rest = []) : c.seekStatement = c := by
  rw [seekStatement]
  split
  · rfl
  · simp_all

theorem seekStatement_cons {c : Cursor} {t : Token} {rest : List Token} (hc : c.rest = t :: rest) :
    c.seekStatement =
      if c.previous.map Token.kind = some .semicolon ∨ t.kind.beginsStatement then c
      else seekStatement { c with previous := some t, rest } := by
  rw [seekStatement]
  split
  · simp_all
  · rename_i u us hu
    rw [hc] at hu
    obtain ⟨rfl, rfl⟩ := List.cons.inj hu
    rfl

theorem advance_cons {c : Cursor} {t : Token} {rest : List Token} (hc : c.rest = t :: rest) :
    c.advance = { c with previous := some t, rest } := by
  unfold advance
  rw [hc]

/-! ### The first part -/

/-- Both cursors are in the same tokens, which a semicolon ends; behind it, `c` has others to
come. -/
structure Within (behind : List Token) (last : Token) (c c' : Cursor) : Prop where
  rest : c.rest = c'.rest ++ behind
  last : c.last = last
  previous : c.previous = c'.previous
  reported : c.reported = c'.reported
  plain : ∀ t ∈ c'.rest, t.kind ≠ .leftBrace ∧ t.kind ≠ .forWord
  closed : (c'.previous.toList ++ c'.rest).getLast?.map Token.kind = some .semicolon

section Within

variable {behind rest : List Token} {c c' : Cursor} {t last : Token}

theorem Within.rest_cons (h : c.Within behind last c') (hc : c'.rest = t :: rest) :
    c.rest = t :: (rest ++ behind) := by
  rw [h.rest, hc]
  rfl

theorem Within.step (h : c.Within behind last c') (hc : c'.rest = t :: rest) :
    ({ c with previous := some t, rest := rest ++ behind } : Cursor).Within behind last
      { c' with previous := some t, rest } := by
  refine ⟨rfl, h.last, rfl, h.reported, fun u hu => h.plain u (by simp [hc, hu]), ?_⟩
  have closed := h.closed
  rw [hc] at closed
  cases hp : c'.previous <;> simpa [hp] using closed

/-- The last of the tokens is the semicolon. -/
theorem Within.ends_of_rest_eq_nil (h : c.Within behind last c') (ended : c'.rest = []) :
    ∃ s, c.previous = some s ∧ s.kind = .semicolon := by
  have closed := h.closed
  rw [ended, List.append_nil] at closed
  rw [h.previous]
  cases hp : c'.previous with
  | none => simp [hp] at closed
  | some s => exact ⟨s, rfl, by simpa [hp] using closed⟩

/-- Behind anything else there are more of the tokens. -/
theorem Within.rest_ne_nil (h : c.Within behind last c') (ht : c'.previous = some t)
    (other : t.kind ≠ .semicolon) : c'.rest ≠ [] := by
  intro ended
  obtain ⟨s, hs, isSemicolon⟩ := h.ends_of_rest_eq_nil ended
  rw [h.previous, ht] at hs
  cases hs
  exact other isSemicolon

/-- The search for a statement does not go beyond the last semicolon. -/
theorem Within.seekStatement (h : c.Within behind last c') :
    c.seekStatement.Within behind last c'.seekStatement := by
  obtain ⟨previous', rest', last', reported'⟩ := c'
  induction rest' generalizing c previous' with
  | nil =>
    obtain ⟨s, hs, isSemicolon⟩ := h.ends_of_rest_eq_nil rfl
    have stays : c.seekStatement = c := by
      cases hb : c.rest with
      | nil => exact seekStatement_nil hb
      | cons t rest => simp [seekStatement_cons hb, hs, isSemicolon]
    rw [stays, seekStatement_nil rfl]
    exact h
  | cons t rest' ih =>
    have hc' : (⟨previous', t :: rest', last', reported'⟩ : Cursor).rest = t :: rest' := rfl
    rw [seekStatement_cons (h.rest_cons hc'), seekStatement_cons hc', h.previous]
    split
    · exact h
    · exact ih _ (h.step rfl)

/-- Inside a statement, the two cursors see the same; so they stay in step, up to the last
semicolon. -/
theorem inStep_within (noElse : ∀ t ∈ behind.head?, t.kind ≠ .elseWord) :
    InStep (fun c c' => c.Within behind last c' ∧ c'.rest ≠ []) (Within behind last) Eq where
  peek := by
    rintro c c' ⟨h, more⟩
    obtain ⟨t, rest, hc⟩ := List.exists_cons_of_ne_nil more
    rw [peek, peek, h.rest_cons hc, hc]
    rfl
  take := by
    rintro c c' ⟨h, more⟩ test
    obtain ⟨t, rest, hc⟩ := List.exists_cons_of_ne_nil more
    obtain none | ⟨s, s', hs, hs', token, token', after, after'⟩ :=
      take?_both (h.rest_cons hc) hc test
    · exact .inl none
    · have step := h.step hc
      rw [← after, ← after'] at step
      refine .inr ⟨s, s', hs, hs', token.trans token'.symm, step, fun other => ⟨step, ?_⟩⟩
      exact step.rest_ne_nil (by rw [after', token]) other
  takeElse := by
    intro c c' h
    by_cases ended : c'.rest = []
    · -- What comes behind the tokens is no `else`.
      refine .inl ⟨take?_eq_none_iff.2 fun t rest hc => ?_, take?_eq_none_iff.2 fun t rest hc => ?_⟩
      · rw [h.rest, ended, List.nil_append] at hc
        have other := noElse t (by simp [hc])
        simpa using other
      · rw [ended] at hc
        contradiction
    · obtain ⟨t, rest, hc⟩ := List.exists_cons_of_ne_nil ended
      obtain none | ⟨s, s', hs, hs', token, token', after, after'⟩ :=
        take?_both (h.rest_cons hc) hc (· == .elseWord)
      · exact .inl none
      · have step := h.step hc
        rw [← after, ← after'] at step
        have isElse : t.kind = .elseWord := by
          have passes := (of_take? hs).1
          simpa [token] using passes
        refine .inr ⟨s, s', hs, hs', step, step.rest_ne_nil (by rw [after']) ?_⟩
        simp [isElse]
  report := by
    rintro c c' d d' ⟨h, more⟩ rfl
    refine ⟨⟨h.rest, h.last, h.previous, ?_, h.plain, h.closed⟩, more⟩
    rw [Cursor.report, Cursor.report, h.reported]
  diagnose _ _ _ := rfl
  expected := by
    rintro c c' ⟨h, more⟩
    obtain ⟨t, rest, hc⟩ := List.exists_cons_of_ne_nil more
    rw [expressionExpected, expressionExpected, peek, peek, h.rest_cons hc, hc, h.previous]
    rfl
  synchronize := by
    rintro c c' ⟨h, more⟩
    obtain ⟨t, rest, hc⟩ := List.exists_cons_of_ne_nil more
    rw [synchronize, synchronize, advance_cons (h.rest_cons hc), advance_cons hc]
    exact (h.step hc).seekStatement
  ended := by
    rintro c c' ⟨h, more⟩
    simp [h.rest, more]
  nested := .inr fun c c' t rest h hc => by
    obtain ⟨h, more⟩ := h
    obtain ⟨u, us, hu⟩ := List.exists_cons_of_ne_nil more
    rw [h.rest_cons hu] at hc
    obtain ⟨rfl, -⟩ := List.cons.inj hc
    exact h.plain u (by simp [hu])

end Within

end Cursor

theorem Stmt.readAll_nil {c : Cursor} (hc : c.rest = []) : Stmt.readAll c = ([], c) := by
  rw [Stmt.readAll]
  split
  · rfl
  · simp_all

theorem Stmt.readAll_cons {c : Cursor} (pos : 0 < c.left) :
    Stmt.readAll c =
      ((Stmt.readDeclaration false c pos).stmt.toList ++
          (Stmt.readAll (Stmt.readDeclaration false c pos).after).1,
        (Stmt.readAll (Stmt.readDeclaration false c pos).after).2) := by
  rw [Stmt.readAll]
  split
  · rename_i ended
    simp [Cursor.left, ended] at pos
  · rfl

/-- The first part is read to its end, and then what is behind it. -/
theorem Cursor.Within.readAll {behind : List Token} {last : Token} {c c' : Cursor}
    (noElse : ∀ t ∈ behind.head?, t.kind ≠ .elseWord) (h : c.Within behind last c') :
    ∃ d : Cursor, d.rest = behind ∧ d.last = last ∧
      (∃ s, d.previous = some s ∧ s.kind = .semicolon) ∧
      d.reported = (Stmt.readAll c').2.reported ∧
      Stmt.readAll c = ((Stmt.readAll c').1 ++ (Stmt.readAll d).1, (Stmt.readAll d).2) := by
  by_cases ended : c'.rest = []
  · refine ⟨c, ?_, h.last, h.ends_of_rest_eq_nil ended, ?_, ?_⟩
    · rw [h.rest, ended, List.nil_append]
    · rw [Stmt.readAll_nil ended, h.reported]
    · rw [Stmt.readAll_nil ended, List.nil_append]
  · have pos' : 0 < c'.left := List.length_pos_iff.2 ended
    have pos : 0 < c.left := by
      rw [Cursor.left, h.rest, List.length_append]
      exact Nat.add_pos_left pos' _
    have first :=
      Stmt.readDeclaration_matches (Cursor.inStep_within noElse) false ⟨h, ended⟩ pos pos'
    obtain ⟨d, rest, hlast, previous, reported, later⟩ := first.after.readAll noElse
    refine ⟨d, rest, hlast, previous, ?_, ?_⟩
    · rw [Stmt.readAll_cons pos', reported]
    · rw [Stmt.readAll_cons pos, Stmt.readAll_cons pos', later, first.stmt, List.append_assoc]
termination_by c'.left
decreasing_by exact Resumed.shorter _

/-! ### The second part -/

/-- The fault as it is worded where something has been read before. -/
def SyntaxFault.continued : SyntaxFault → SyntaxFault
  | .expressionExpectedAtStart found => .expressionExpectedBefore found
  | why => why

/-- The report as it is worded where something has been read before. -/
def Diagnostic.continued (d : Diagnostic) : Diagnostic :=
  { d with fault := d.fault.continued }

/-- The report `d` is `d'`, except at the very first token: a missing expression there is worded as
such only if nothing has been read before. -/
inductive Diagnostic.Continued (first : Token) : Diagnostic → Diagnostic → Prop where
  | same {d : Diagnostic} (h : d.fault.atStart = false) : Continued first d d
  | start : Continued first (first.diagnose (.expressionExpectedBefore first.lexeme))
      (first.diagnose (.expressionExpectedAtStart first.lexeme))

theorem Diagnostic.Continued.eq {first : Token} {d d' : Diagnostic} (h : d.Continued first d') :
    d = d'.continued := by
  cases h with
  | same h =>
    obtain ⟨fault, line, place, span⟩ := d
    cases fault <;> first | rfl | contradiction
  | start => rfl

theorem Diagnostic.Continued.about {first : Token} {d d' : Diagnostic} (h : d.Continued first d')
    (atStart : d'.fault.atStart = true) :
    d' = first.diagnose (.expressionExpectedAtStart first.lexeme) := by
  cases h with
  | same h =>
    rw [h] at atStart
    contradiction
  | start => rfl

/-- Reports that belong together one by one: those of the first list are worded anew, and only the
first token's can differ. -/
theorem Diagnostic.eq_map_continued {first : Token} {ds ds' : List Diagnostic}
    (pairs : List.Forall₂ (Diagnostic.Continued first) ds ds') :
    ds = ds'.map Diagnostic.continued ∧
      ∀ d ∈ ds', d.fault.atStart = true →
        d = first.diagnose (.expressionExpectedAtStart first.lexeme) := by
  induction pairs with
  | nil => exact ⟨rfl, nofun⟩
  | cons h _ ih =>
    refine ⟨by rw [List.map_cons, h.eq, ih.1], ?_⟩
    rw [List.forall_mem_cons]
    exact ⟨h.about, ih.2⟩

namespace Cursor

/-- Both cursors are in the same tokens, of which `first` is the first one; before them, `c` has
read others, up to a semicolon, and reported some faults. -/
structure Behind (first : Token) (before : List Diagnostic) (c c' : Cursor) : Prop where
  rest : c.rest = c'.rest
  last : c.last = c'.last
  reported : ∃ later, c.reported = before ++ later ∧
    List.Forall₂ (Diagnostic.Continued first) later c'.reported
  previous : (∃ t, c.previous = some t ∧ c'.previous = some t) ∨
    c'.previous = none ∧ (∃ s, c.previous = some s ∧ s.kind = .semicolon) ∧
      ∃ more, c'.rest = first :: more

section Behind

variable {first t : Token} {before : List Diagnostic} {c c' : Cursor} {rest : List Token}

theorem Behind.step (h : c.Behind first before c') (t : Token) (rest : List Token) :
    ({ c with previous := some t, rest } : Cursor).Behind first before
      { c' with previous := some t, rest } :=
  ⟨rfl, h.last, h.reported, .inl ⟨t, rfl, rfl⟩⟩

theorem Behind.peek_eq (h : c.Behind first before c') : c.peek = c'.peek := by
  rw [peek, peek, h.rest, h.last]

/-- Once something has been read on both sides, the search for a statement is the same. -/
theorem Behind.seekStatement (h : c.Behind first before c') (same : c.previous = c'.previous) :
    c.seekStatement.Behind first before c'.seekStatement := by
  obtain ⟨previous', rest', last', reported'⟩ := c'
  induction rest' generalizing c previous' with
  | nil =>
    rw [seekStatement_nil h.rest, seekStatement_nil rfl]
    exact h
  | cons t rest' ih =>
    have hc' : (⟨previous', t :: rest', last', reported'⟩ : Cursor).rest = t :: rest' := rfl
    rw [seekStatement_cons h.rest, seekStatement_cons hc', same]
    split
    · exact h
    · exact ih _ (h.step t rest') rfl

theorem Behind.synchronize (h : c.Behind first before c') :
    c.synchronize.Behind first before c'.synchronize := by
  rw [Cursor.synchronize, Cursor.synchronize]
  cases hc' : c'.rest with
  | nil =>
    have hc : c.rest = [] := h.rest.trans hc'
    have same : c.previous = c'.previous := by
      obtain ⟨t, hp, hp'⟩ | ⟨-, -, more, cons⟩ := h.previous
      · rw [hp, hp']
      · rw [hc'] at cons
        contradiction
    -- At the end of the tokens, going on does not move the cursor.
    have stays (d : Cursor) (hd : d.rest = []) : d.advance = d := by
      unfold Cursor.advance
      rw [hd]
    rw [stays c hc, stays c' hc']
    exact h.seekStatement same
  | cons t rest =>
    rw [advance_cons (h.rest.trans hc'), advance_cons hc']
    exact (h.step t rest).seekStatement rfl

/-- What was read before is asked for at the first token only. -/
theorem Behind.expected (h : c.Behind first before c') :
    (c.peek.diagnose c.expressionExpected).Continued first
      (c'.peek.diagnose c'.expressionExpected) := by
  obtain ⟨t, hp, hp'⟩ | ⟨hp', ⟨s, hp, isSemicolon⟩, more, hc'⟩ := h.previous
  · have same : c.expressionExpected = c'.expressionExpected := by
      rw [expressionExpected, expressionExpected, hp, hp', h.peek_eq]
    have other : c'.expressionExpected.atStart = false := by
      unfold expressionExpected
      rw [hp']
      dsimp only
      split
      · rfl
      · split <;> rfl
    rw [h.peek_eq, same]
    exact .same other
  · have here : c'.peek = first := by
      rw [peek, hc']
      rfl
    have expected : c.expressionExpected = .expressionExpectedBefore first.lexeme := by
      rw [expressionExpected, hp, h.peek_eq, here]
      simp [isSemicolon, TokenKind.isArithmetic]
    have expected' : c'.expressionExpected = .expressionExpectedAtStart first.lexeme := by
      rw [expressionExpected, hp', here]
    rw [h.peek_eq, here, expected, expected']
    exact .start

theorem Behind.take (h : c.Behind first before c') (test : TokenKind → Bool) :
    c.take? test = none ∧ c'.take? test = none ∨
      ∃ s s', c.take? test = some s ∧ c'.take? test = some s' ∧ s.token = s'.token ∧
        s.after.Behind first before s'.after := by
  cases hc' : c'.rest with
  | nil =>
    refine .inl ⟨take?_eq_none_iff.2 fun t rest ht => ?_, take?_eq_none_iff.2 fun t rest ht => ?_⟩
    · rw [h.rest, hc'] at ht
      contradiction
    · rw [hc'] at ht
      contradiction
  | cons t rest =>
    obtain none | ⟨s, s', hs, hs', token, token', after, after'⟩ :=
      take?_both (h.rest.trans hc') hc' test
    · exact .inl none
    · have step := h.step t rest
      rw [← after, ← after'] at step
      exact .inr ⟨s, s', hs, hs', token.trans token'.symm, step⟩

/-- In the same tokens, the two cursors stay in step, whatever was read before. -/
theorem inStep_behind (first : Token) (before : List Diagnostic) :
    InStep (Behind first before) (Behind first before) (Diagnostic.Continued first) where
  peek h := h.peek_eq
  take h test := by
    obtain none | ⟨s, s', hs, hs', token, after⟩ := h.take test
    · exact .inl none
    · exact .inr ⟨s, s', hs, hs', token, after, fun _ => after⟩
  takeElse h := by
    obtain none | ⟨s, s', hs, hs', -, after⟩ := h.take (· == .elseWord)
    · exact .inl none
    · exact .inr ⟨s, s', hs, hs', after⟩
  report := by
    intro c c' d d' h hd
    obtain ⟨later, reported, pairs⟩ := h.reported
    refine ⟨h.rest, h.last, ⟨later ++ [d], ?_, ?_⟩, h.previous⟩
    · rw [Cursor.report, reported, List.append_assoc]
    · exact List.rel_append pairs (.cons hd .nil)
  diagnose _ _ h := .same h
  expected h := h.expected
  synchronize h := h.synchronize
  ended h := by rw [h.rest]
  nested := .inl fun _ _ h => h

end Behind

end Cursor

/-! ### Both parts -/

/-- What comes behind a semicolon is read as if it stood alone. -/
theorem Stmt.readAll_behind {d : Cursor} {s : Token} (previous : d.previous = some s)
    (isSemicolon : s.kind = .semicolon) :
    (Stmt.readAll d).1 = (Stmt.readAll ⟨none, d.rest, d.last, []⟩).1 ∧
      (Stmt.readAll d).2.reported = d.reported ++
        (Stmt.readAll ⟨none, d.rest, d.last, []⟩).2.reported.map Diagnostic.continued ∧
      ∀ r ∈ (Stmt.readAll ⟨none, d.rest, d.last, []⟩).2.reported, r.fault.atStart = true →
        ∃ first ∈ d.rest.head?, r = first.diagnose (.expressionExpectedAtStart first.lexeme) := by
  -- With nothing to come there is no first token that could be worded anew.
  cases hd : d.rest with
  | nil =>
    have alone : Stmt.readAll ⟨none, [], d.last, []⟩ = ([], ⟨none, [], d.last, []⟩) :=
      Stmt.readAll_nil rfl
    simp [Stmt.readAll_nil hd, alone]
  | cons first more =>
    have start : d.Behind first d.reported ⟨none, first :: more, d.last, []⟩ :=
      ⟨hd, rfl, ⟨[], by simp, .nil⟩, .inr ⟨rfl, ⟨s, previous, isSemicolon⟩, more, rfl⟩⟩
    obtain ⟨stmts, after⟩ := Stmt.readAll_matches (Cursor.inStep_behind first d.reported)
      (fun _ _ h => h) start
    obtain ⟨later, reported, pairs⟩ := after.reported
    obtain ⟨worded, about⟩ := Diagnostic.eq_map_continued pairs
    refine ⟨stmts, by rw [reported, worded], fun r hr atStart => ⟨first, rfl, ?_⟩⟩
    exact about r hr atStart

/-- Tokens `A` that end with a semicolon, without braces and `for` loops, and tokens `B` behind them
are read one after the other, whatever is wrong with either: the statements are those of `A` and
those of `B`, and so are the faults, but for the wording of a missing expression at the first token
of `B`. -/
theorem Script.ofTokens_append_statements {A B : List Token} {lastA last : Token}
    (ends : A.getLast?.map Token.kind = some .semicolon)
    (plain : ∀ t ∈ A, t.kind ≠ .leftBrace ∧ t.kind ≠ .forWord ∧ t.kind ≠ .eof)
    (inner : ∀ t ∈ B, t.kind ≠ .eof) (noElse : ∀ t ∈ B.head?, t.kind ≠ .elseWord)
    (isLastA : lastA.kind = .eof) (isLast : last.kind = .eof) :
    Script.ofTokens (A ++ B ++ [last]) =
        ⟨(Script.ofTokens (A ++ [lastA])).stmts ++ (Script.ofTokens (B ++ [last])).stmts,
          (Script.ofTokens (A ++ [lastA])).diagnostics ++
            (Script.ofTokens (B ++ [last])).diagnostics.map Diagnostic.continued⟩ ∧
      ∀ r ∈ (Script.ofTokens (B ++ [last])).diagnostics, r.fault.atStart = true →
        ∃ first ∈ B.head?, r = first.diagnose (.expressionExpectedAtStart first.lexeme) := by
  have innerA : ∀ t ∈ A, t.kind ≠ .eof := fun t ht => (plain t ht).2.2
  have innerAll : ∀ t ∈ A ++ B, t.kind ≠ .eof := by
    intro t ht
    obtain ht | ht := List.mem_append.1 ht
    · exact innerA t ht
    · exact inner t ht
  have start : Cursor.Within B last ⟨none, A ++ B, last, []⟩ ⟨none, A, lastA, []⟩ :=
    ⟨rfl, rfl, rfl, rfl, fun t ht => ⟨(plain t ht).1, (plain t ht).2.1⟩, ends⟩
  obtain ⟨d, rest, hlast, ⟨s, previous, isSemicolon⟩, reported, whole⟩ := start.readAll noElse
  obtain ⟨stmts, faults, about⟩ := Stmt.readAll_behind previous isSemicolon
  rw [rest, hlast] at stmts faults about
  rw [Script.ofTokens_append innerAll isLast, Script.ofTokens_append innerA isLastA,
    Script.ofTokens_append inner isLast]
  refine ⟨?_, about⟩
  rw [whole, stmts, faults, reported]

/-- The tokens of `var 1; print a;`. -/
def numbered : List Token :=
  [⟨.varWord, "var", none, 1, ⟨0, 3⟩⟩, ⟨.number, "1", none, 1, ⟨4, 5⟩⟩,
    ⟨.semicolon, ";", none, 1, ⟨5, 6⟩⟩, ⟨.printWord, "print", none, 1, ⟨7, 12⟩⟩,
    ⟨.ident, "a", none, 1, ⟨13, 14⟩⟩, ⟨.semicolon, ";", none, 1, ⟨14, 15⟩⟩]

/-- The tokens of `) b;` on the next line. -/
def unopened : List Token :=
  [⟨.rightParen, ")", none, 2, ⟨16, 17⟩⟩, ⟨.ident, "b", none, 2, ⟨18, 19⟩⟩,
    ⟨.semicolon, ";", none, 2, ⟨19, 20⟩⟩]

/-- A variable named by a number, and behind it a parenthesis that closes nothing. -/
theorem Script.ofTokens_numbered_unopened :
    numbered.getLast?.map Token.kind = some .semicolon ∧
      (∀ t ∈ numbered, t.kind ≠ .leftBrace ∧ t.kind ≠ .forWord ∧ t.kind ≠ .eof) ∧
      (∀ t ∈ unopened, t.kind ≠ .eof) ∧ (∀ t ∈ unopened.head?, t.kind ≠ .elseWord) ∧
      Script.ofTokens (numbered ++ unopened ++ [⟨.eof, "", none, 2, ⟨20, 20⟩⟩]) =
        ⟨(Script.ofTokens (numbered ++ [⟨.eof, "", none, 1, ⟨15, 15⟩⟩])).stmts ++
            (Script.ofTokens (unopened ++ [⟨.eof, "", none, 2, ⟨20, 20⟩⟩])).stmts,
          (Script.ofTokens (numbered ++ [⟨.eof, "", none, 1, ⟨15, 15⟩⟩])).diagnostics ++
            (Script.ofTokens (unopened ++ [⟨.eof, "", none, 2, ⟨20, 20⟩⟩])).diagnostics.map
              Diagnostic.continued⟩ := by
  have ends : numbered.getLast?.map Token.kind = some .semicolon := rfl
  have plain : ∀ t ∈ numbered, t.kind ≠ .leftBrace ∧ t.kind ≠ .forWord ∧ t.kind ≠ .eof := by
    decide
  have inner : ∀ t ∈ unopened, t.kind ≠ .eof := by decide
  have noElse : ∀ t ∈ unopened.head?, t.kind ≠ .elseWord := by decide
  have isLastA : (⟨.eof, "", none, 1, ⟨15, 15⟩⟩ : Token).kind = .eof := rfl
  have isLast : (⟨.eof, "", none, 2, ⟨20, 20⟩⟩ : Token).kind = .eof := rfl
  have whole := Script.ofTokens_append_statements ends plain inner noElse isLastA isLast
  exact ⟨ends, plain, inner, noElse, whole.1⟩

end ScriptLang

import Mathlib
import ScriptLang.Proofs.AtRest
import ScriptLang.Proofs.Execution
import ScriptLang.Proofs.Likeness.Read
import ScriptLang.Proofs.Scan

/-!
# Places of errors

Every error points into the text that was run.  A fault in the characters is on the line where the
faulty characters start, and a fault in the grammar is at a token.  The tree is made of tokens of
the text and of nothing else, and so are the functions that come out of it, so an error at run time
is at a token of the text too, wherever the function was called from.

## Main definitions

* `Diagnostic.Within` — reports about characters of a text
* `Diagnostic.AtToken` — reports about a token of a text
* `RunError.About` — errors that point into a text

## Main results

* `Script.stmtsOf_alike` — all tokens of a tree are tokens of its text
* `Session.errors_about` — all errors of a text point into it
-/

namespace ScriptLang

/-! ### Faults in the characters -/

/-- A report about some characters of a text, and about the line on which they start. -/
structure Diagnostic.Within (text : List Char) (d : Diagnostic) : Prop where
  start_lt_stop : d.span.start < d.span.stop
  stop_le : d.span.stop ≤ text.length
  line : d.line = 1 + (text.take d.span.start).count '\n'

/-- Escapes are reported where they stand in the body. -/
theorem lt_of_mem_unknownEscapes {offset : Nat} {body : List Char} {escape : Nat × Char}
    (h : escape ∈ unknownEscapes offset body) :
    offset < escape.1 ∧ escape.1 < offset + body.length := by
  fun_induction unknownEscapes offset body with
  | case1 => cases h
  | case2 offset c rest unknown ih =>
    rw [List.length_cons, List.length_cons]
    obtain rfl | h := List.mem_cons.1 h
    · omega
    · have := ih h
      omega
  | case3 offset c rest known ih =>
    have := ih h
    rw [List.length_cons, List.length_cons]
    omega
  | case4 offset c rest single ih =>
    have := ih h
    rw [List.length_cons]
    omega

namespace Piece

variable {p : Position} {piece : Piece} {d : Diagnostic}

theorem faultAt_of_mem_escapeFaults {body : List Char}
    (h : d ∈ diagnostics.escapeFaults p body) :
    ∃ length fault, 0 < length ∧ length ≤ body.length ∧ d = faultAt p length fault := by
  obtain ⟨⟨length, c⟩, mem, rfl⟩ := List.mem_map.1 h
  have bounds := lt_of_mem_unknownEscapes mem
  dsimp only at bounds
  exact ⟨length, _, by omega, by omega, rfl⟩

/-- The faults of a piece are about characters at its start. -/
theorem faultAt_of_mem_diagnostics (h : d ∈ piece.diagnostics p) :
    ∃ length fault, 0 < length ∧ length ≤ piece.text.length ∧ d = faultAt p length fault := by
  cases piece with
  | blank c | comment body | symbol kind text | number whole fraction | word text => cases h
  | stray c =>
    obtain rfl := List.mem_singleton.1 h
    exact ⟨1, _, Nat.one_pos, Nat.le_refl 1, rfl⟩
  | string body =>
    obtain ⟨length, fault, pos, le, rfl⟩ := faultAt_of_mem_escapeFaults h
    refine ⟨length, fault, pos, ?_, rfl⟩
    rw [text, List.cons_append, List.length_cons, List.length_append]
    omega
  | openString body =>
    obtain h | h := List.mem_append.1 h
    · obtain ⟨length, fault, pos, le, rfl⟩ := faultAt_of_mem_escapeFaults h
      exact ⟨length, fault, pos, Nat.le_succ_of_le le, rfl⟩
    · obtain rfl := List.mem_singleton.1 h
      exact ⟨_, _, Nat.succ_pos _, Nat.le_refl _, rfl⟩

end Piece

/-- Faults of pieces behind a text are about characters of the whole. -/
theorem within_of_mem_scanPieces (before : List Char) {ps : List Piece} {d : Diagnostic}
    (h : d ∈ (scanPieces (Position.after {} before) ps).diagnostics) :
    d.Within (before ++ ps.flatMap Piece.text) := by
  induction ps generalizing before with
  | nil => cases h
  | cons piece rest ih =>
    rw [List.flatMap_cons]
    obtain h | h := List.mem_append.1 h
    · obtain ⟨length, fault, pos, le, rfl⟩ := Piece.faultAt_of_mem_diagnostics h
      refine ⟨?_, ?_, ?_⟩
      · exact Nat.lt_add_of_pos_right pos
      · simp only [Piece.faultAt, Position.after, List.length_append]
        omega
      · simp [Piece.faultAt, Position.after]
    · rw [← Position.after_append] at h
      rw [← List.append_assoc]
      exact ih _ h

/-- Faults in the characters of a text are about characters of the text. -/
theorem within_of_mem_scan {source : String} {d : Diagnostic}
    (h : d ∈ (scan source).diagnostics) : d.Within source.toList := by
  have within := within_of_mem_scanPieces [] h
  rwa [flatMap_text_pieces, List.nil_append] at within

/-! ### Faults in the grammar -/

/-- A report about a token of a text: it says where the token stands. -/
def Diagnostic.AtToken (source : String) (d : Diagnostic) : Prop :=
  ∃ t ∈ (scan source).tokens, d.line = t.line ∧ d.span = t.span ∧ d.place = t.place

/-- The tokens of a text stand for themselves, and no other tokens for anything. -/
def Token.From (source : String) (t t' : Token) : Prop :=
  t = t' ∧ t ∈ (scan source).tokens

namespace Token.From

variable {source : String}

theorem alike {t t' : Token} (h : From source t t') : t.Alike t' := by
  obtain ⟨rfl, _⟩ := h
  exact ⟨rfl, rfl, rfl⟩

theorem inner (source : String) :
    List.Forall₂ (From source) (scanInner source) (scanInner source) := by
  refine List.forall₂_same.2 fun t ht => ⟨rfl, ?_⟩
  rw [tokens_scan]
  exact List.mem_append_left _ ht

theorem last (source : String) : From source (scanEnd source) (scanEnd source) := by
  refine ⟨rfl, ?_⟩
  rw [tokens_scan]
  exact List.mem_append_right _ (List.mem_singleton_self _)

/-- What is reported at tokens of a text is reported where they stand. -/
theorem atToken {ds : List Diagnostic} (h : List.Forall₂ (Diagnostic.Alike (From source)) ds ds) :
    ∀ d ∈ ds, d.AtToken source := by
  intro d hd
  obtain ⟨t, t', fault, ⟨_, mem⟩, rfl, _⟩ := List.forall₂_same.1 h d hd
  exact ⟨t, mem, rfl, rfl, rfl⟩

end Token.From

/-- A script is read from the tokens of its text and from nothing else. -/
theorem Script.ofTokens_from (source : String) :
    Stmt.AllAlike (Token.From source) (ofTokens (scan source).tokens).stmts
        (ofTokens (scan source).tokens).stmts ∧
      List.Forall₂ (Diagnostic.Alike (Token.From source))
        (ofTokens (scan source).tokens).diagnostics
        (ofTokens (scan source).tokens).diagnostics := by
  have script := ofTokens_alike Token.From.alike (Token.From.inner source) (Token.From.last source)
    (fun _ => kind_ne_eof_of_mem_scanInner) rfl
  rwa [← tokens_scan] at script

/-- So is a single expression. -/
theorem Expr.ofTokens_from (source : String) :
    Expr.OptionAlike (Token.From source) (ofTokens (scan source).tokens).1
        (ofTokens (scan source).tokens).1 ∧
      List.Forall₂ (Diagnostic.Alike (Token.From source)) (ofTokens (scan source).tokens).2
        (ofTokens (scan source).tokens).2 := by
  have expr := ofTokens_alike Token.From.alike (Token.From.inner source) (Token.From.last source)
    (fun _ => kind_ne_eof_of_mem_scanInner) rfl
  rwa [← tokens_scan] at expr

/-- All tokens of the statements of a text are tokens of the text. -/
theorem Script.stmtsOf_alike (source : String) :
    Stmt.AllAlike (Token.From source) (stmtsOf source) (stmtsOf source) :=
  (ofTokens_from source).1

/-! ### Errors at run time -/

namespace Session

variable {P : Nat → Token → Prop} {s : Session}

/-- An action that comes across certain tokens only can only fail at such tokens. -/
theorem AtRest.failsAt (rest : s.AtRest) (sub : ∀ u t, u < s.units → P u t) {α : Type}
    {R : α → α → Prop} {a : Action α} (follows : (s.itself P).Follows 0 R a a) :
    (a.on s.scopes).Ends fun p => ∀ e, p.1 = .error (.error e) → ∃ u, P u e.token := by
  have ends := ((follows (rest.start sub)).mono_stop fun _ h => h.1).ends
  refine ends.mono ?_
  rintro ⟨result, t⟩ ⟨⟨result', t'⟩, outcome, _⟩ e rfl
  cases outcome with
  | error h =>
    cases h with
    | error h =>
      obtain ⟨_, u, _, _, _, known⟩ := h
      exact ⟨u, known⟩

end Session

/-- The errors that a text can end with, where `grammar` are the faults in its grammar: all its
faults at once, or an error at one of its tokens. -/
inductive RunError.About (source : String) (grammar : List Diagnostic) : RunError → Prop where
  | syntaxErrors : About source grammar (.syntaxErrors ((scan source).diagnostics ++ grammar))
  | runtime {e : RuntimeError} (h : e.token ∈ (scan source).tokens) :
      About source grammar (.runtime e)
  /-- This is about the output and not about the text. -/
  | output (why : IoError) : About source grammar (.output why)
  | outOfFuel : About source grammar .outOfFuel

/-- Where an action only fails at tokens of a text, its errors point into the text. -/
theorem RunError.about_mapError {source : String} {grammar : List Diagnostic} {α : Type}
    {result : Except Stop α}
    (h : ∀ e, result = .error (.error e) → e.token ∈ (scan source).tokens) :
    ∀ e, result.mapError ofStop = .error e → e.About source grammar := by
  rintro e failed
  cases result with
  | ok x => cases failed
  | error stop =>
    cases failed
    cases stop with
    | error e => exact .runtime (h e rfl)
    | outOfFuel => exact .outOfFuel

namespace Session

variable {source : String}

/-- The statements of a text, in a new session, can only fail at tokens of the text. -/
theorem runStmts_about (fuel : Nat) (source : String) :
    ((runStmts fuel (Script.stmtsOf source)).on start).Ends fun p =>
      ∀ e, p.1 = .error e → e.About source (Script.ofTokens (scan source).tokens).diagnostics := by
  let K := start.itself fun _ t => t ∈ (scan source).tokens
  have stmts : Stmt.AllAlike (K.tokens.token 0 0) (Script.stmtsOf source)
      (Script.stmtsOf source) :=
    (Script.stmtsOf_alike source).mono fun _ _ h => ⟨rfl, h⟩
  have itself : K.Follows 0 (Flow.Alike K.tokens) (execAll fuel 0 (Script.stmtsOf source))
      (execAll fuel 0 (Script.stmtsOf source)) :=
    (K.agree (.inl rfl)).execAll (atRest_start.visible 0) stmts
  rw [on_runStmts, Dialogue.ends_bind]
  refine (atRest_start.failsAt (fun _ _ lt => absurd lt (Nat.not_lt_zero _)) itself).mono ?_
  rintro ⟨result, t⟩ failsAt
  refine RunError.about_mapError fun e stopped => ?_
  cases result with
  | ok flow => cases stopped
  | error stop =>
    cases stopped
    exact (failsAt e rfl).choose_spec

/-- In a new session, whatever a script ends with points into its text. -/
theorem run_about (fuel : Nat) (listings : Listings) (source : String) :
    ((run fuel listings source).on start).Ends fun p =>
      ∀ e, p.1 = .error e → e.About source (Script.ofTokens (scan source).tokens).diagnostics := by
  refine run_ends_of fuel listings ?_ ?_ ?_ fun _ => runStmts_about fuel source
  · rintro _ e failed
    cases failed
    exact .syntaxErrors
  · rintro why e failed
    cases failed
    exact .output why
  · rintro why t _ e failed
    cases failed
    exact .output why

/-- So does whatever a single expression ends with. -/
theorem evalExpression_about (fuel : Nat) (source : String) :
    ((evalExpression fuel source).on start).Ends fun p =>
      ∀ e, p.1 = .error e → e.About source (Expr.ofTokens (scan source).tokens).2 := by
  let K := start.itself fun _ t => t ∈ (scan source).tokens
  have tokens := (Expr.ofTokens_from source).1
  dsimp only [evalExpression]
  split
  · rename_i e read _
    rw [read] at tokens
    cases tokens with
    | some alike =>
      have itself : K.Follows 0 (Value.Alike K.tokens) (eval fuel 0 e) (eval fuel 0 e) :=
        (K.agree (.inl rfl)).eval (atRest_start.visible 0) (alike.mono fun _ _ h => ⟨rfl, h⟩)
      rw [SessionM.on_bind, on_nextUnit, Dialogue.done_bind]
      simp only [on_perform]
      rw [Dialogue.ends_bind]
      refine (atRest_start.failsAt (fun _ _ lt => absurd lt (Nat.not_lt_zero _)) itself).mono ?_
      rintro ⟨result, t⟩ failsAt
      exact RunError.about_mapError fun e stopped => (failsAt e stopped).choose_spec
  · rintro e failed
    cases failed
    exact .syntaxErrors

/-- All errors point into the text that was run.  Faults in its characters have a span inside it
and the line on which that starts, and faults in its grammar stand at one of its tokens.  These are
the faults that are reported, and an error at run time is at one of the tokens. -/
theorem errors_about (fuel : Nat) (listings : Listings) (source : String) :
    (∀ d ∈ (scan source).diagnostics, d.Within source.toList) ∧
    (∀ d ∈ (Script.ofTokens (scan source).tokens).diagnostics, d.AtToken source) ∧
    (∀ d ∈ (Expr.ofTokens (scan source).tokens).2, d.AtToken source) ∧
    (((run fuel listings source).on start).Ends fun p =>
      ∀ e, p.1 = .error e → e.About source (Script.ofTokens (scan source).tokens).diagnostics) ∧
    ((evalExpression fuel source).on start).Ends fun p =>
      ∀ e, p.1 = .error e → e.About source (Expr.ofTokens (scan source).tokens).2 :=
  ⟨fun _ => within_of_mem_scan, Token.From.atToken (Script.ofTokens_from source).2,
    Token.From.atToken (Expr.ofTokens_from source).2, run_about fuel listings source,
    evalExpression_about fuel source⟩

/-- A script that calls what is no function, on its second line. -/
def calling : String :=
  "// nothing\nnil();"

theorem run_calling :
    (((run 9 {} calling).on start).run {}).1.1 =
      .error (.runtime ⟨⟨.rightParen, ")", none, 2, ⟨15, 16⟩⟩, .notCallable⟩) := by
  have faultless : Faultless calling := ⟨by cbv, by cbv⟩
  have stmts : Script.stmtsOf calling =
      [.expression (.call (.constant .nil) ⟨.rightParen, ")", none, 2, ⟨15, 16⟩⟩ [])] := by
    unfold calling
    cbv
  rw [run_run faultless, stmts]
  rfl

/-- Its error is at the closing parenthesis, which is a token of the text. -/
theorem errors_about_calling :
    ∃ e, (((run 9 {} calling).on start).run {}).1.1 = .error (.runtime e) ∧
      e.token ∈ (scan calling).tokens := by
  obtain ⟨_, _, _, about, _⟩ := errors_about 9 {} calling
  cases about.run {} _ run_calling with
  | runtime h => exact ⟨_, run_calling, h⟩

end Session

end ScriptLang

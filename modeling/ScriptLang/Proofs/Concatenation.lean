import Mathlib
import ScriptLang.Proofs.AtRest
import ScriptLang.Proofs.Execution
import ScriptLang.Proofs.Grammar.Complete
import ScriptLang.Proofs.Places
import ScriptLang.Proofs.Returns

/-!
# Scripts in pieces

A script can be run in pieces.  Two texts, one behind the other with a line break between them, do
what the two texts do when they are run one after the other in one session.  Only the tokens of the
second text stand further on in the whole.

## Main definitions

* `Correspondence.joined` — which tokens of the pieces are which tokens of the whole
* `Session.EndAlike` — ends of runs that cannot be told apart but for tokens

## Main results

* `Script.stmtsOf_append_newline` — the statements of the whole are those of the pieces
* `Session.run_append_newline` — the whole runs as the pieces do
-/

namespace ScriptLang

/-! ### The statements of the whole -/

theorem Token.alike_behind (first : String) (t : Token) : t.Alike (t.behind first) :=
  ⟨rfl, rfl, rfl⟩

theorem Faultless.program {source : String} (faultless : Faultless source) :
    Grammar.Program True (scanInner source) (Script.stmtsOf source) := by
  have read := faultless.read
  unfold Script.stmtsOf
  rw [tokens_scan] at read ⊢
  exact Script.ofTokens_sound (fun _ => kind_ne_eof_of_mem_scanInner) rfl read

/-- The statements of a script without a fault end normally or fail, because no `return` stands
outside of functions. -/
theorem ExecutesTo.normal_or_failed {source : String} (faultless : Faultless source) {u : Nat}
    {s : Scopes} {w : World} {p : (Except Stop Flow × Scopes) × World}
    (h : ExecutesTo u (Script.stmtsOf source) s w p) :
    p.1.1 = .ok .normal ∨ ∃ e, p.1.1 = .error (.error e) := by
  obtain ⟨fuel, run, ended⟩ := h
  obtain ⟨⟨result, t⟩, w'⟩ := p
  cases result with
  | ok flow =>
    left
    have yields := execAll_normal fuel u faultless.program.returns
    have normal := (yields s).run w flow (by rw [run])
    exact congrArg Except.ok normal
  | error stop =>
    right
    cases stop with
    | error e => exact ⟨e, rfl⟩
    | outOfFuel => exact absurd rfl ended

/-- There is nothing wrong with the whole if there is nothing wrong with the pieces.  Its statements
are those of the first piece and, with tokens that stand further on, those of the second. -/
theorem Script.stmtsOf_append_newline {first second : String} (hfirst : Faultless first)
    (hsecond : Faultless second) :
    Faultless (first ++ "\n" ++ second) ∧
      ∃ later, stmtsOf (first ++ "\n" ++ second) = stmtsOf first ++ later ∧
        Stmt.AllAlike (fun t t' => t ∈ (scan second).tokens ∧ t' = t.behind first)
          (stmtsOf second) later := by
  have same : ∀ {t t' : Token}, t ∈ (scan second).tokens ∧ t' = t.behind first → t.Alike t' := by
    rintro t _ ⟨_, rfl⟩
    exact t.alike_behind first
  -- The tokens of the second piece, read on their own where they stand in the whole.
  let moved := (scanInner second).map (Token.behind first)
  let script := ofTokens (moved ++ [(scanEnd second).behind first])
  have inner : ∀ t ∈ moved, t.kind ≠ .eof := by
    intro t ht
    obtain ⟨u, hu, rfl⟩ := List.mem_map.1 ht
    rw [← (u.alike_behind first).kind]
    exact kind_ne_eof_of_mem_scanInner hu
  have read := hsecond.read
  rw [tokens_scan] at read same
  have stands : List.Forall₂ (fun t t' => t ∈ scanInner second ++ [scanEnd second] ∧
      t' = t.behind first) (scanInner second) moved := by
    rw [List.forall₂_map_right_iff, List.forall₂_same]
    exact fun t ht => ⟨List.mem_append_left _ ht, rfl⟩
  obtain ⟨stmts, reports⟩ := ofTokens_alike same stands
    ⟨List.mem_append_right _ (List.mem_singleton_self _), rfl⟩
    (fun _ => kind_ne_eof_of_mem_scanInner) rfl
  rw [read, List.forall₂_nil_left_iff] at reports
  have program : Grammar.Program True (scanInner (first ++ "\n" ++ second))
      (stmtsOf first ++ script.stmts) := by
    rw [scanInner_append_newline]
    exact hfirst.program.append (ofTokens_sound inner rfl reports)
  have whole : ofTokens (scan (first ++ "\n" ++ second)).tokens =
      ⟨stmtsOf first ++ script.stmts, []⟩ := by
    rw [tokens_scan]
    exact ofTokens_complete (fun _ => kind_ne_eof_of_mem_scanInner) rfl program
  refine ⟨⟨?_, ?_⟩, script.stmts, ?_, ?_⟩
  · exact diagnostics_scan_append_newline hfirst.scan hsecond.scan
  · rw [whole]
  · rw [stmtsOf, whole]
  · rw [stmtsOf, tokens_scan]
    exact stmts

/-! ### Tokens of the whole -/

/-- Tokens of the units before unit `n`, and those of a text that is unit `n`. -/
def Token.KnownBy (n : Nat) (source : String) (u : Nat) (t : Token) : Prop :=
  u < n ∨ u = n ∧ t ∈ (scan source).tokens

/-- Tokens of the pieces, which are units `n` and `n + 1`, and tokens of the whole, which is unit
`n`: up to the end of the first piece they are the same, and those of the second piece stand further
on in the whole. -/
def Token.Joined (n : Nat) (first second : String) (u u' : Nat) (t t' : Token) : Prop :=
  (Correspondence.diagonal (KnownBy n first)).token u u' t t' ∨
    u = n + 1 ∧ u' = n ∧ t ∈ (scan second).tokens ∧ t' = t.behind first

namespace Token.Joined

variable {n : Nat} {first second : String} {u u' v v' : Nat} {a a' b b' : Token}

theorem kind_eq (h : Joined n first second u u' a a') : a.kind = a'.kind := by
  obtain h | ⟨-, -, -, rfl⟩ := h
  · exact (Correspondence.diagonal _).kind_eq h
  · rfl

theorem lexeme_eq (h : Joined n first second u u' a a') : a.lexeme = a'.lexeme := by
  obtain h | ⟨-, -, -, rfl⟩ := h
  · exact (Correspondence.diagonal _).lexeme_eq h
  · rfl

/-- No token of the second piece stands in the whole where one of the first piece stands. -/
theorem apart (b : Token)
    (h : (Correspondence.diagonal (KnownBy n first)).token u u' a a') :
    u ≠ n + 1 ∧ ¬(u' = n ∧ a'.span = (b.behind first).span) := by
  obtain ⟨rfl, rfl, known⟩ := h
  obtain lt | ⟨rfl, mem⟩ := known
  · exact ⟨by omega, fun same => by omega⟩
  · refine ⟨by omega, fun same => ?_⟩
    have stop := stop_le_of_mem_scan mem
    rw [same.2, Token.behind, Token.moved] at stop
    dsimp only at stop
    omega

theorem place_iff (h : Joined n first second u u' a a') (g : Joined n first second v v' b b') :
    u = v ∧ a.span = b.span ↔ u' = v' ∧ a'.span = b'.span := by
  obtain h | ⟨rfl, rfl, -, rfl⟩ := h <;> obtain g | ⟨rfl, rfl, -, rfl⟩ := g
  · exact (Correspondence.diagonal _).place_iff h g
  · obtain ⟨ne, disjoint⟩ := apart b h
    exact ⟨fun same => absurd same.1 ne, fun same => absurd same disjoint⟩
  · obtain ⟨ne, disjoint⟩ := apart a g
    exact ⟨fun same => absurd same.1.symm ne,
      fun same => absurd ⟨same.1.symm, same.2.symm⟩ disjoint⟩
  · obtain ⟨_, _, _, _, _, _⟩ := a
    obtain ⟨_, _, _, _, _, _⟩ := b
    simp [Token.behind, Token.moved]

end Token.Joined

/-- Which tokens of the pieces are which tokens of the whole. -/
def Correspondence.joined (n : Nat) (first second : String) : Correspondence where
  token := Token.Joined n first second
  kind_eq := Token.Joined.kind_eq
  lexeme_eq := Token.Joined.lexeme_eq
  place_iff := Token.Joined.place_iff

/-! ### Ends of runs -/

/-- Scripts that end in the same way: without an error, or with errors that are alike. -/
inductive RunError.EndAlike (C : Correspondence) :
    Except RunError Unit → Except RunError Unit → Prop where
  | ok : EndAlike C (.ok ()) (.ok ())
  | runtime {e e' : RuntimeError} (h : e.Alike C e') :
      EndAlike C (.error (.runtime e)) (.error (.runtime e'))
  | output (why : IoError) : EndAlike C (.error (.output why)) (.error (.output why))

namespace Session

/-- Two runs that end in the same way, with the same world and with globals that are alike. -/
structure EndAlike (C : Correspondence) (p p' : (Except RunError Unit × Session) × World) :
    Prop where
  outcome : RunError.EndAlike C p.1.1 p'.1.1
  globals : Bindings.Alike C p.1.2.scopes.globals p'.1.2.scopes.globals
  depth : p.1.2.scopes.depth = p'.1.2.scopes.depth
  world : p.2 = p'.2

/-- Statements that end alike make scripts that end alike. -/
theorem close_alike {K : Comparison} (start : K.start = K.start') {k u u' : Nat}
    {r r' : Except Stop Flow} {t t' : Scopes} {w : World}
    (outcome : K.Outcome (Flow.Alike K.tokens) r r') (frames : K.Alike k t t')
    (ended : r ≠ .error .outOfFuel) :
    EndAlike K.tokens (close u ((r, t), w)) (close u' ((r', t'), w)) := by
  have depth : t.depth = t'.depth := by
    rw [Scopes.depth, Scopes.depth, frames.size, frames.size', start]
  cases outcome with
  | ok _ =>
    refine ⟨?_, frames.globals, depth, rfl⟩
    simp only [close]
    cases (w.answer .flush).1 with
    | ok _ => exact .ok
    | error why => exact .output why
  | error he =>
    cases he with
    | error he => exact ⟨.runtime he, frames.globals, depth, rfl⟩
    | outOfFuel => exact absurd rfl ended

/-- Where a script without a fault ends without an error, its statements end normally. -/
theorem RunsTo.normal {source : String} (faultless : Faultless source) {s s' : Session}
    {w w' : World} (h : s.RunsTo {} source w ((.ok (), s'), w')) :
    ExecutesTo s.units (Script.stmtsOf source) s.scopes w ((.ok .normal, s'.scopes), w') ∧
      s'.units = s.units + 1 := by
  obtain ⟨⟨⟨result, t⟩, w''⟩, executes, closed⟩ := (runsTo_iff faultless).1 h
  obtain rfl | ⟨e, rfl⟩ : result = .ok .normal ∨ ∃ e, result = .error (.error e) :=
    executes.normal_or_failed faultless
  · simp only [close, Prod.mk.injEq] at closed
    obtain ⟨⟨-, rfl⟩, rfl⟩ := closed
    exact ⟨executes, rfl⟩
  · simp [close] at closed

variable {first second : String} {s : Session} {w w' : World} {t : Scopes}

/-- The rest of the whole compared with the second piece, from the end of the first piece on. -/
def afterFirst (s : Session) (first second : String) (t : Scopes) : Comparison :=
  ⟨.joined s.units first second, t, t, False⟩

/-- Where the first piece ends, only its tokens and those of earlier units are known. -/
theorem AtRest.afterFirst (rest : s.AtRest) (second : String)
    (normal : ExecutesTo s.units (Script.stmtsOf first) s.scopes w ((.ok .normal, t), w')) :
    (s.afterFirst first second t).Alike 0 t t ∧ (s.afterFirst first second t).Visible 0 := by
  let K := s.itself (Token.KnownBy s.units first)
  have stmts : Stmt.AllAlike (K.tokens.token s.units s.units) (Script.stmtsOf first)
      (Script.stmtsOf first) :=
    (Script.stmtsOf_alike first).mono fun _ _ h => ⟨rfl, h.1, .inr ⟨rfl, h.2⟩⟩
  have start : K.Alike 0 s.scopes s.scopes := rest.start fun _ _ h => .inl h
  obtain ⟨r', t', again, -, frames⟩ := normal.alike id start (rest.visible 0) stmts
  cases normal.unique again
  have wider : ∀ u u' a a', K.tokens.token u u' a a' →
      (Correspondence.joined s.units first second).token u u' a a' :=
    fun _ _ _ _ => Or.inl
  have globals : Bindings.Alike (.joined s.units first second) t.globals t.globals :=
    frames.globals.mono wider
  have single : t.frames.size = 1 := frames.size.trans rest.outermost
  exact ⟨Comparison.Alike.start (K := s.afterFirst first second t) globals, .inr ⟨single, single⟩⟩

/-- Running a script in pieces agrees with running it whole.  Take two texts with nothing wrong in
them, one behind the other with a line break between them.  If the first one fails at run time, the
whole fails in the same way, with the same session and the same world.  If it succeeds, the whole
ends exactly if the second one, run behind the first one, ends, and with the same world and the same
outcome and globals: only the tokens of the second text stand further on in the whole. -/
theorem run_append_newline (hfirst : Faultless first) (hsecond : Faultless second)
    (rest : s.AtRest) (w : World) :
    (∀ e s₁ w₁, s.RunsTo {} first w ((.error (.runtime e), s₁), w₁) →
      s.RunsTo {} (first ++ "\n" ++ second) w ((.error (.runtime e), s₁), w₁)) ∧
    ∀ s₁ w₁, s.RunsTo {} first w ((.ok (), s₁), w₁) →
      (∀ p, s₁.RunsTo {} second w₁ p → ∃ p', s.RunsTo {} (first ++ "\n" ++ second) w p' ∧
        EndAlike (.joined s.units first second) p p') ∧
      ∀ p', s.RunsTo {} (first ++ "\n" ++ second) w p' → ∃ p, s₁.RunsTo {} second w₁ p ∧
        EndAlike (.joined s.units first second) p p' := by
  obtain ⟨hwhole, later, stmts, alike⟩ := Script.stmtsOf_append_newline hfirst hsecond
  refine ⟨fun e s₁ w₁ failed => ?_, fun s₁ w₁ succeeded => ?_⟩
  · obtain ⟨executes, closed⟩ := failed.failed hfirst
    refine (runsTo_iff hwhole).2 ⟨_, ?_, closed⟩
    rw [stmts]
    exact executesTo_append.2 (.inr ⟨executes, nofun⟩)
  · obtain ⟨normal, units⟩ := succeeded.normal hfirst
    obtain ⟨frames, visible⟩ := rest.afterFirst second normal
    let K := s.afterFirst first second s₁.scopes
    have hlater : Stmt.AllAlike (K.tokens.token s₁.units s.units) (Script.stmtsOf second) later :=
      alike.mono fun _ _ h => .inr ⟨units, rfl, h⟩
    constructor
    · intro p hp
      obtain ⟨⟨⟨r, t⟩, w₂⟩, executes, rfl⟩ := (runsTo_iff hsecond).1 hp
      obtain ⟨r', t', executes', outcome, frames'⟩ := executes.alike id frames visible hlater
      refine ⟨close s.units ((r', t'), w₂), (runsTo_iff hwhole).2 ⟨_, ?_, rfl⟩, ?_⟩
      · rw [stmts]
        exact (executesTo_append_of_normal normal).2 executes'
      · exact close_alike rfl outcome frames' executes.ended
    · intro p' hp'
      obtain ⟨⟨⟨r', t'⟩, w₂⟩, executes', rfl⟩ := (runsTo_iff hwhole).1 hp'
      rw [stmts, executesTo_append_of_normal normal] at executes'
      obtain ⟨r, t, executes, outcome, frames'⟩ := executes'.alike_back id frames visible hlater
      refine ⟨close s₁.units ((r, t), w₂), (runsTo_iff hsecond).2 ⟨_, executes, rfl⟩, ?_⟩
      exact close_alike rfl outcome frames' executes.ended

/-- A session whose first unit has declared `a`. -/
def declared : Session :=
  ⟨start.scopes.insert "a" .nil start.scopes.newest, 1⟩

theorem read_declaring :
    Faultless "var a;" ∧ Script.stmtsOf "var a;" = [.var ⟨.ident, "a", none, 1, ⟨4, 5⟩⟩ none] := by
  have tokens : (scan "var a;").tokens =
      [⟨.varWord, "var", none, 1, ⟨0, 3⟩⟩, ⟨.ident, "a", none, 1, ⟨4, 5⟩⟩,
        ⟨.semicolon, ";", none, 1, ⟨5, 6⟩⟩, ⟨.eof, "", none, 1, ⟨6, 6⟩⟩] := by
    decide +kernel
  have script : Script.ofTokens (scan "var a;").tokens =
      ⟨[.var ⟨.ident, "a", none, 1, ⟨4, 5⟩⟩ none], []⟩ := by
    rw [tokens]
    cbv
  refine ⟨⟨by decide +kernel, ?_⟩, ?_⟩
  · rw [script]
  · rw [Script.stmtsOf, script]

theorem read_printing :
    Faultless "print a;" ∧ Script.stmtsOf "print a;" =
      [.print ⟨.printWord, "print", none, 1, ⟨0, 5⟩⟩
        (.name ⟨.ident, "a", none, 1, ⟨6, 7⟩⟩)] := by
  have tokens : (scan "print a;").tokens =
      [⟨.printWord, "print", none, 1, ⟨0, 5⟩⟩, ⟨.ident, "a", none, 1, ⟨6, 7⟩⟩,
        ⟨.semicolon, ";", none, 1, ⟨7, 8⟩⟩, ⟨.eof, "", none, 1, ⟨8, 8⟩⟩] := by
    decide +kernel
  have script : Script.ofTokens (scan "print a;").tokens =
      ⟨[.print ⟨.printWord, "print", none, 1, ⟨0, 5⟩⟩ (.name ⟨.ident, "a", none, 1, ⟨6, 7⟩⟩)],
        []⟩ := by
    rw [tokens]
    cbv
  refine ⟨⟨by decide +kernel, ?_⟩, ?_⟩
  · rw [script]
  · rw [Script.stmtsOf, script]

theorem runsTo_declaring : start.RunsTo {} "var a;" {} ((.ok (), declared), {}) := by
  obtain ⟨faultless, stmts⟩ := read_declaring
  have executes : ExecutesTo 0 (Script.stmtsOf "var a;") start.scopes {}
      ((.ok .normal, declared.scopes), {}) := by
    refine ExecutesTo.of_ok 2 ?_
    rw [stmts]
    rfl
  exact (runsTo_iff faultless).2 ⟨_, executes, rfl⟩

theorem runsTo_printing :
    declared.RunsTo {} "print a;" {}
      ((.ok (), { declared with units := 2 }), { written := (Text.encode "無\n").toArray }) := by
  obtain ⟨faultless, stmts⟩ := read_printing
  have read : declared.scopes.get ⟨.ident, "a", none, 1, ⟨6, 7⟩⟩ declared.scopes.newest =
      .ok .nil := by
    rw [Scopes.get, Scopes.find?, Scopes.resolve?_of_binds rfl]
    rfl
  have executes : ExecutesTo 1 (Script.stmtsOf "print a;") declared.scopes {}
      ((.ok .normal, declared.scopes), { written := (Text.encode "無\n").toArray }) := by
    refine ExecutesTo.of_ok 3 ?_
    rw [stmts]
    simp only [execAll, exec, eval, Action.on_bind, Action.on_read, read]
    simp [Except.mapError, World.answer, World.write, Value.text]
  exact (runsTo_iff faultless).2 ⟨_, executes, rfl⟩

/-- Because `var a;` succeeds in a new session and `print a;` then prints `nil`, so does the script
of both lines. -/
theorem run_append_newline_print :
    ∃ s', start.RunsTo {} ("var a;" ++ "\n" ++ "print a;") {}
      ((.ok (), s'), { written := (Text.encode "無\n").toArray }) := by
  have pieces := run_append_newline read_declaring.1 read_printing.1 atRest_start {}
  obtain ⟨⟨⟨r, s'⟩, w'⟩, whole, outcome, -, -, world⟩ :=
    (pieces.2 _ _ runsTo_declaring).1 _ runsTo_printing
  cases outcome
  cases world
  exact ⟨s', whole⟩

end Session

end ScriptLang

import ScriptLang.Proofs.Fuel
import ScriptLang.Proofs.Session

/-!
# Runs that end

Fuel is there to make runs end.  A run that ends for another reason does so with any larger amount
of it, so the way in which statements end can be told without naming an amount.

## Main definitions

* `ExecutesTo` — with enough fuel, statements end in some way
* `Session.RunsTo` — with enough fuel, a script ends in some way

## Main results

* `executesTo_append` — statements behind others go on where these end
* `ExecutesTo.alike`, `ExecutesTo.alike_back` — statements that are alike end alike
* `Session.runsTo_iff` — a script without a fault ends as its statements do
-/

namespace ScriptLang

variable {u u' : Nat} {stmts stmts' : List Stmt} {s s' : Scopes} {w : World}
  {p q : (Except Stop Flow × Scopes) × World}

/-- With enough fuel the statements, started with some frames in some world, end in this way. -/
def ExecutesTo (u : Nat) (stmts : List Stmt) (s : Scopes) (w : World)
    (p : (Except Stop Flow × Scopes) × World) : Prop :=
  ∃ fuel, ((execAll fuel u stmts).on s).run w = p ∧ p.1.1 ≠ .error .outOfFuel

namespace ExecutesTo

theorem ended (h : ExecutesTo u stmts s w p) : p.1.1 ≠ .error .outOfFuel :=
  h.choose_spec.2

theorem of_ok (n : Nat) {flow : Flow} {t : Scopes} {w' : World}
    (run : ((execAll n u stmts).on s).run w = ((.ok flow, t), w')) :
    ExecutesTo u stmts s w ((.ok flow, t), w') :=
  ⟨n, run, nofun⟩

/-- From some amount of fuel on, the statements end as they do. -/
theorem eventually (h : ExecutesTo u stmts s w p) :
    ∃ n, ∀ m, n ≤ m → ((execAll m u stmts).on s).run w = p := by
  obtain ⟨n, rfl, ended⟩ := h
  exact ⟨n, fun m le => execAll_fuel le ended⟩

/-- There is one way in which statements end. -/
theorem unique (h : ExecutesTo u stmts s w p) (h' : ExecutesTo u stmts s w q) : p = q := by
  obtain ⟨n, hn⟩ := h.eventually
  obtain ⟨m, hm⟩ := h'.eventually
  rw [← hn (max n m) (Nat.le_max_left ..), ← hm (max n m) (Nat.le_max_right ..)]

end ExecutesTo

/-! ### One list of statements behind another -/

/-- Statements behind others run unless these fail or return. -/
theorem execAll_append (n u : Nat) (first second : List Stmt) :
    execAll (n + 1 + first.length) u (first ++ second) = (do
      match ← execAll (n + 1 + first.length) u first with
      | .returned value => return .returned value
      | .normal => execAll (n + 1) u second) := by
  induction first with
  | nil => exact (pure_bind _ _).symm
  | cons stmt first ih =>
    rw [List.cons_append, List.length_cons, ← Nat.add_assoc, execAll, execAll, bind_assoc]
    congr 1
    funext flow
    cases flow with
    | returned value => exact (pure_bind _ _).symm
    | normal => exact ih

/-- Where the statements of a list end normally the statements behind them go on, and everywhere
else they are left out. -/
theorem executesTo_append {first second : List Stmt} :
    ExecutesTo u (first ++ second) s w p ↔
      (∃ t w', ExecutesTo u first s w ((.ok .normal, t), w') ∧ ExecutesTo u second t w' p) ∨
        ExecutesTo u first s w p ∧ p.1.1 ≠ .ok .normal := by
  constructor
  · rintro ⟨n, rfl, ended⟩
    -- With so much fuel, some is left for the second list.
    have le : n ≤ n + 1 + first.length := by omega
    have run := execAll_fuel le ended
    rw [← run] at ended ⊢
    clear run
    rw [execAll_append, Action.on_bind, Dialogue.run_bind] at ended ⊢
    generalize run : ((execAll (n + 1 + first.length) u first).on s).run w = end₁ at ended ⊢
    obtain ⟨⟨result, t⟩, w'⟩ := end₁
    cases result with
    | error e => exact .inr ⟨⟨_, run, ended⟩, nofun⟩
    | ok flow =>
      cases flow with
      | returned value => exact .inr ⟨⟨_, run, ended⟩, nofun⟩
      | normal => exact .inl ⟨t, w', .of_ok _ run, ⟨_, rfl, ended⟩⟩
  · rintro (⟨t, w', hfirst, hsecond⟩ | ⟨hfirst, abnormal⟩)
    · obtain ⟨n, hn⟩ := hfirst.eventually
      obtain ⟨m, hm⟩ := hsecond.eventually
      refine ⟨max n m + 1 + first.length, ?_, hsecond.ended⟩
      rw [execAll_append, Action.on_bind, Dialogue.run_bind, hn _ (by omega)]
      exact hm _ (by omega)
    · obtain ⟨n, hn⟩ := hfirst.eventually
      refine ⟨n + 1 + first.length, ?_, hfirst.ended⟩
      rw [execAll_append, Action.on_bind, Dialogue.run_bind, hn _ (by omega)]
      obtain ⟨⟨result, t⟩, w'⟩ := p
      cases result with
      | error e => rfl
      | ok flow =>
        cases flow with
        | returned value => rfl
        | normal => exact absurd rfl abnormal

/-- Behind statements that end normally, others run as if they had been started there. -/
theorem executesTo_append_of_normal {first second : List Stmt} {t : Scopes} {w' : World}
    (h : ExecutesTo u first s w ((.ok .normal, t), w')) :
    ExecutesTo u (first ++ second) s w p ↔ ExecutesTo u second t w' p := by
  rw [executesTo_append]
  constructor
  · rintro (⟨t', w'', hfirst, hsecond⟩ | ⟨hfirst, abnormal⟩)
    · cases h.unique hfirst
      exact hsecond
    · cases h.unique hfirst
      exact absurd rfl abnormal
  · intro hsecond
    exact .inl ⟨t, w', h, hsecond⟩

/-! ### Statements that are alike -/

theorem Comparison.Outcome.outOfFuel_iff {K : Comparison} {α α' : Type} {R : α → α' → Prop}
    {r : Except Stop α} {r' : Except Stop α'} (h : K.Outcome R r r') :
    r = .error .outOfFuel ↔ r' = .error .outOfFuel := by
  cases h with
  | ok h => exact ⟨nofun, nofun⟩
  | error he =>
    cases he with
    | error he => exact ⟨nofun, nofun⟩
    | outOfFuel => exact ⟨fun _ => rfl, fun _ => rfl⟩

section Alike

variable {K : Comparison} {k : Nat} (strict : ¬K.lenient) (hs : K.Alike k s s')
  (visible : K.Visible k) (hstmts : Stmt.AllAlike (K.tokens.token u u') stmts stmts')
include strict hs visible hstmts

/-- With every amount of fuel, statements that are alike lead to ends that are alike. -/
theorem execAll_run_alike (n : Nat) (w : World) :
    K.Outcome (Flow.Alike K.tokens) (((execAll n u stmts).on s).run w).1.1
        (((execAll n u' stmts').on s').run w).1.1 ∧
      K.Alike k (((execAll n u stmts).on s).run w).1.2 (((execAll n u' stmts').on s').run w).1.2 ∧
      (((execAll n u stmts).on s).run w).2 = (((execAll n u' stmts').on s').run w).2 := by
  have follows := (K.agree (.inl (Eq.refl n))).execAll visible hstmts hs
  obtain ⟨lenient, _⟩ | ⟨⟨outcome, frames⟩, world⟩ := follows.run w
  · exact absurd lenient strict
  · exact ⟨outcome, frames, world⟩

theorem ExecutesTo.alike (h : ExecutesTo u stmts s w p) :
    ∃ r t, ExecutesTo u' stmts' s' w ((r, t), p.2) ∧
      K.Outcome (Flow.Alike K.tokens) p.1.1 r ∧ K.Alike k p.1.2 t := by
  obtain ⟨n, rfl, ended⟩ := h
  obtain ⟨outcome, frames, world⟩ := execAll_run_alike strict hs visible hstmts n w
  refine ⟨_, _, ⟨n, Prod.ext rfl world.symm, ?_⟩, outcome, frames⟩
  exact fun stopped => ended (outcome.outOfFuel_iff.2 stopped)

theorem ExecutesTo.alike_back (h : ExecutesTo u' stmts' s' w p) :
    ∃ r t, ExecutesTo u stmts s w ((r, t), p.2) ∧
      K.Outcome (Flow.Alike K.tokens) r p.1.1 ∧ K.Alike k t p.1.2 := by
  obtain ⟨n, rfl, ended⟩ := h
  obtain ⟨outcome, frames, world⟩ := execAll_run_alike strict hs visible hstmts n w
  refine ⟨_, _, ⟨n, Prod.ext rfl world, ?_⟩, outcome, frames⟩
  exact fun stopped => ended (outcome.outOfFuel_iff.1 stopped)

end Alike

/-! ### Scripts -/

/-- The statements of a source text. -/
abbrev Script.stmtsOf (source : String) : List Stmt :=
  (Script.ofTokens (scan source).tokens).stmts

namespace Session

/-- How a unit ends whose statements have ended: its output is passed on unless they failed, and the
frames stay open for the next unit. -/
def close (units : Nat) :
    (Except Stop Flow × Scopes) × World → (Except RunError Unit × Session) × World
  | ((.ok _, t), w) => (((w.answer .flush).1.mapError .output, ⟨t, units + 1⟩), w)
  | ((.error e, t), w) => ((.error (.ofStop e), ⟨t, units + 1⟩), w)

/-- With enough fuel the script, run in a session and some world, ends in this way. -/
def RunsTo (s : Session) (listings : Listings) (source : String) (w : World)
    (p : (Except RunError Unit × Session) × World) : Prop :=
  ∃ fuel, ((run fuel listings source).on s).run w = p ∧ p.1.1 ≠ .error .outOfFuel

theorem close_outOfFuel_iff (units : Nat) (p : (Except Stop Flow × Scopes) × World) :
    (close units p).1.1 = .error .outOfFuel ↔ p.1.1 = .error .outOfFuel := by
  obtain ⟨⟨result, t⟩, w⟩ := p
  cases result with
  | ok flow =>
    simp only [close]
    cases (w.answer .flush).1 <;> simp [Except.mapError]
  | error e => cases e <;> simp [close, RunError.ofStop]

variable {source : String}

theorem run_run (faultless : Faultless source) (fuel : Nat) (s : Session) (w : World) :
    ((run fuel {} source).on s).run w =
      close s.units (((execAll fuel s.units (Script.stmtsOf source)).on s.scopes).run w) := by
  rw [on_run faultless, on_runStmts]
  simp only [Dialogue.run_bind]
  generalize ((execAll fuel s.units (Script.stmtsOf source)).on s.scopes).run w = p
  obtain ⟨⟨result, t⟩, w'⟩ := p
  cases result <;> rfl

/-- A script without a fault ends as its statements do. -/
theorem runsTo_iff (faultless : Faultless source) {s : Session} {w : World}
    {p : (Except RunError Unit × Session) × World} :
    s.RunsTo {} source w p ↔
      ∃ q, ExecutesTo s.units (Script.stmtsOf source) s.scopes w q ∧ close s.units q = p := by
  constructor
  · rintro ⟨fuel, run, ended⟩
    rw [run_run faultless] at run
    subst run
    exact ⟨_, ⟨fuel, rfl, fun stopped => ended ((close_outOfFuel_iff ..).2 stopped)⟩, rfl⟩
  · rintro ⟨_, ⟨fuel, rfl, ended⟩, rfl⟩
    refine ⟨fuel, run_run faultless fuel s w, fun stopped => ended ?_⟩
    exact (close_outOfFuel_iff ..).1 stopped

/-- Where a script without a fault fails at run time, its statements fail. -/
theorem RunsTo.failed (faultless : Faultless source) {s s' : Session} {w w' : World}
    {e : RuntimeError} (h : s.RunsTo {} source w ((.error (.runtime e), s'), w')) :
    ExecutesTo s.units (Script.stmtsOf source) s.scopes w
        ((.error (.error e), s'.scopes), w') ∧
      close s.units ((.error (.error e), s'.scopes), w') =
        ((.error (.runtime e), s'), w') := by
  obtain ⟨⟨⟨result, t⟩, w''⟩, executes, closed⟩ := (runsTo_iff faultless).1 h
  cases result with
  | ok flow =>
    have outcome := congrArg (fun p => p.1.1) closed
    dsimp only [close] at outcome
    generalize (w''.answer .flush).1 = answer at outcome
    cases answer <;> cases outcome
  | error stop =>
    cases stop with
    | outOfFuel => exact absurd rfl executes.ended
    | error e' =>
      cases closed
      exact ⟨executes, rfl⟩

/-- There is one way in which a script without a fault ends. -/
theorem RunsTo.unique (faultless : Faultless source) {s : Session} {w : World}
    {p p' : (Except RunError Unit × Session) × World} (h : s.RunsTo {} source w p)
    (h' : s.RunsTo {} source w p') : p = p' := by
  obtain ⟨q, executes, rfl⟩ := (runsTo_iff faultless).1 h
  obtain ⟨q', executes', rfl⟩ := (runsTo_iff faultless).1 h'
  rw [executes.unique executes']

end Session

end ScriptLang

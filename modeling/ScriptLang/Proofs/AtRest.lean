import ScriptLang.Proofs.Likeness.Eval
import ScriptLang.Proofs.Session

/-!
# Sessions at rest

Between two units no block and no function is open, and every function that has a name was declared
in a unit that has been run.  A new session is like this, and whatever a host does with a session
leaves it like this, whether it succeeds or fails.

## Main definitions

* `Correspondence.diagonal` — tokens of some kind, which stand for themselves
* `Value.MadeBefore` — values that are no functions of later units
* `Session.AtRest` — sessions between two units

## Main results

* `Session.atRest_start` — a new session is at rest
* `Session.AtRest.run`, `Session.AtRest.evalExpression`, `Session.AtRest.callFunction`,
  `Session.AtRest.insert` — sessions stay at rest
-/

namespace ScriptLang

/-- Some tokens stand for themselves, and no others for anything. -/
def Correspondence.diagonal (P : Nat → Token → Prop) : Correspondence where
  token u u' t t' := u = u' ∧ t = t' ∧ P u t
  kind_eq h := by rw [h.2.1]
  lexeme_eq h := by rw [h.2.1]
  place_iff h h' := by rw [h.1, h.2.1, h'.1, h'.2.1]

/-! ### Values of earlier units -/

/-- Whether a value is anything but a function of unit `n` or of a later one. -/
def Value.MadeBefore (n : Nat) : Value → Prop
  | .callable (.user f) => f.unit < n
  | _ => True

variable {n : Nat} {P : Nat → Token → Prop}

theorem Value.MadeBefore.alike {v : Value} (h : v.MadeBefore n) (sub : ∀ u t, u < n → P u t) :
    v.Alike (.diagonal P) v := by
  cases v with
  | callable f =>
    cases f with
    | builtin b => exact .callable (.builtin b)
    | user f =>
      have stands : ∀ t, (Correspondence.diagonal P).token f.unit f.unit t t :=
        fun t => ⟨rfl, rfl, sub _ t h⟩
      refine .callable (.user ⟨stands _, ?_, .refl stands _⟩)
      exact List.forall₂_same.2 fun t _ => stands t
  | nil | bool | number | string => exact IsPlain.alike trivial

theorem Value.Alike.madeBefore {v v' : Value} (h : v.Alike (.diagonal P) v')
    (bound : ∀ u t, P u t → u < n) : v.MadeBefore n := by
  cases h with
  | callable h =>
    cases h with
    | builtin b => trivial
    | user h => exact bound _ _ h.ident.2.2
  | nil | bool | number | string => trivial

theorem Bindings.alike_of_madeBefore {b : Bindings} (h : ∀ p ∈ b, p.2.MadeBefore n)
    (sub : ∀ u t, u < n → P u t) : Bindings.Alike (.diagonal P) b b :=
  List.forall₂_same.2 fun p hp => ⟨rfl, (h p hp).alike sub⟩

theorem Bindings.Alike.madeBefore {b b' : Bindings} (h : Bindings.Alike (.diagonal P) b b')
    (bound : ∀ u t, P u t → u < n) : ∀ p ∈ b, p.2.MadeBefore n := by
  induction h with
  | nil => exact nofun
  | cons hp _ ih => exact List.forall_mem_cons.2 ⟨hp.2.madeBefore bound, ih⟩

/-! ### Sessions -/

namespace Session

/-- Between two units: nothing but the oldest frame is open, and what is bound there was made
before. -/
structure AtRest (s : Session) : Prop where
  outermost : s.scopes.depth = 1
  earlier : ∀ p ∈ s.scopes.globals, p.2.MadeBefore s.units

theorem atRest_start : start.AtRest := by
  refine ⟨rfl, fun p hp => ?_⟩
  obtain ⟨b, _, rfl⟩ := List.mem_map.1 hp
  trivial

/-- A run compared with itself from the frames of a session on. -/
def itself (s : Session) (P : Nat → Token → Prop) : Comparison :=
  ⟨.diagonal P, s.scopes, s.scopes, False⟩

variable {s : Session}

theorem AtRest.visible (rest : s.AtRest) (k : Nat) : (s.itself P).Visible k :=
  .inr ⟨rest.outermost, rest.outermost⟩

theorem AtRest.start (rest : s.AtRest) (sub : ∀ u t, u < s.units → P u t) :
    (s.itself P).Alike 0 s.scopes s.scopes := by
  have globals : Bindings.Alike (.diagonal P) s.scopes.globals s.scopes.globals :=
    Bindings.alike_of_madeBefore rest.earlier sub
  exact Comparison.Alike.start (K := s.itself P) globals

/-- Frames that hold functions of units before `n` only make a session that is at rest. -/
theorem AtRest.of_alike (rest : s.AtRest) (bound : ∀ u t, P u t → u < n) {t t' : Scopes}
    (frames : (s.itself P).Alike 0 t t') : AtRest ⟨t, n⟩ := by
  refine ⟨?_, frames.globals.madeBefore bound⟩
  rw [Scopes.depth, frames.size]
  exact rest.outermost

/-- An action that comes across tokens of units before `n` only leaves the session at rest. -/
theorem AtRest.ends (rest : s.AtRest) (sub : ∀ u t, u < s.units → P u t)
    (bound : ∀ u t, P u t → u < n) {α : Type} {R : α → α → Prop} {a : Action α}
    (follows : (s.itself P).Follows 0 R a a) : (a.on s.scopes).Ends fun p => AtRest ⟨p.2, n⟩ := by
  have ends := ((follows (rest.start sub)).mono_stop fun _ h => h.1).ends
  exact ends.mono fun _ ⟨_, _, frames⟩ => rest.of_alike bound frames

end Session

/-! ### Steps of sessions -/

/-- Whatever the host answers, a session at rest is at rest afterwards. -/
def SessionM.Keeps {α : Type} (m : SessionM α) : Prop :=
  ∀ s, s.AtRest → (m.on s).Ends fun p => p.2.AtRest

/-- The functions that the statements of a unit declare belong to the unit. -/
theorem SessionM.Keeps.runStmts (fuel : Nat) (stmts : List Stmt) :
    (Session.runStmts fuel stmts).Keeps := by
  intro s rest
  let K := s.itself fun u _ => u < s.units + 1
  have itself : K.Follows 0 (Flow.Alike K.tokens) (execAll fuel s.units stmts)
      (execAll fuel s.units stmts) :=
    (K.agree (.inl rfl)).execAll (rest.visible 0)
      (.refl (fun _ => ⟨rfl, rfl, Nat.lt_succ_self _⟩) stmts)
  rw [Session.on_runStmts, Dialogue.ends_bind]
  exact rest.ends (fun _ _ h => Nat.lt_succ_of_lt h) (fun _ _ h => h) itself

namespace Session.AtRest

variable {s : Session} (rest : s.AtRest)
include rest

/-- A script leaves a session at rest, however it ends. -/
theorem run (fuel : Nat) (listings : Listings) (source : String) :
    ((Session.run fuel listings source).on s).Ends fun p => p.2.AtRest :=
  run_ends_of fuel listings (fun _ => rest) (fun _ => rest) (fun _ _ h => h)
    fun _ => SessionM.Keeps.runStmts fuel _ s rest

/-- So does a single expression. -/
theorem evalExpression (fuel : Nat) (source : String) :
    ((Session.evalExpression fuel source).on s).Ends fun p => p.2.AtRest := by
  let K := s.itself fun u _ => u < s.units + 1
  have itself (e : Expr) : K.Follows 0 (Value.Alike K.tokens) (eval fuel s.units e)
      (eval fuel s.units e) :=
    (K.agree (.inl rfl)).eval (rest.visible 0) (.refl (fun _ => ⟨rfl, rfl, Nat.lt_succ_self _⟩) e)
  dsimp only [Session.evalExpression]
  split
  · rename_i e _ _
    rw [SessionM.on_bind, on_nextUnit, Dialogue.done_bind]
    simp only [on_perform]
    rw [Dialogue.ends_bind]
    exact rest.ends (fun _ _ h => Nat.lt_succ_of_lt h) (fun _ _ h => h) (itself e)
  · exact rest

/-- So does a call from outside, of a function that the session has made. -/
theorem callFunction (fuel : Nat) {f : Callable} (hf : (Value.callable f).MadeBefore s.units)
    {args : List Value} (ha : ∀ v ∈ args, v.MadeBefore s.units) (paren : Token) :
    ((Session.callFunction fuel f args paren).on s).Ends fun p => p.2.AtRest := by
  unfold Session.callFunction
  rw [on_perform, Dialogue.ends_bind]
  cases f with
  | builtin b =>
    cases fuel with
    | zero => exact rest
    | succ fuel =>
      rw [call, Action.on_callBuiltin]
      exact Dialogue.ends_behind fun _ => rest
  | user f =>
    let K := s.itself fun u _ => u < s.units
    have made : (Value.callable (.user f)).Alike K.tokens (.callable (.user f)) :=
      hf.alike fun _ _ h => h
    have margs : Value.AllAlike K.tokens args args :=
      List.forall₂_same.2 fun v hv => (ha v hv).alike fun _ _ h => h
    have token : K.tokens.token f.unit f.unit paren paren := ⟨rfl, rfl, hf⟩
    cases made with
    | callable hf =>
      exact rest.ends (fun _ _ h => h) (fun _ _ h => h) ((K.agree (.inl rfl)).call hf margs token)

/-- So does binding a name from outside to a value that the session has made. -/
theorem insert (name : String) {value : Value} (hv : value.MadeBefore s.units) :
    (s.insert name value).AtRest := by
  let K := s.itself fun u _ => u < s.units
  have place : K.Place s.scopes.oldest s.scopes.oldest := .oldest
  have frames : K.Alike 0 (s.insert name value).scopes (s.insert name value).scopes :=
    (rest.start fun _ _ h => h).modify place fun hb => hb.put name (hv.alike fun _ _ h => h)
  exact rest.of_alike (fun _ _ h => h) frames

end Session.AtRest

end ScriptLang

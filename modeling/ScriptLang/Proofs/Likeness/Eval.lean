import ScriptLang.Proofs.Action
import ScriptLang.Proofs.Likeness.Scopes

/-!
# Evaluation of trees that are alike

Trees that are alike are run alike: with the same answers of the host they ask the same, leave
frames that are alike, and end with results that are alike.  The runs may differ in the tokens of
the trees, in the numbers of the units, in the frames that were open at the start, other than the
globals, and, if the comparison is lenient, in their fuel.

## Main definitions

* `Comparison.Outcome` — results of actions that are alike
* `Comparison.Follows` — two actions that end alike wherever they start alike
* `Comparison.Agree` — the evaluator with some fuel follows the evaluator with some other fuel

## Main results

* `Comparison.agree` — the evaluator follows itself, with the same fuel or with more
-/

namespace ScriptLang

/-- Runs that stop for the same reason. -/
inductive Stop.Alike (C : Correspondence) : Stop → Stop → Prop where
  | error {e e' : RuntimeError} (h : e.Alike C e') : Stop.Alike C (.error e) (.error e')
  | outOfFuel : Stop.Alike C .outOfFuel .outOfFuel

/-- Statements that end in the same way. -/
inductive Flow.Alike (C : Correspondence) : Flow → Flow → Prop where
  | normal : Flow.Alike C .normal .normal
  | returned {v v' : Value} (h : v.Alike C v') : Flow.Alike C (.returned v) (.returned v')

namespace Comparison

variable {α α' β β' : Type}

/-! ### Actions -/

/-- Related results, or reasons to stop that are alike. -/
inductive Outcome (K : Comparison) (R : α → α' → Prop) : Except Stop α → Except Stop α' → Prop where
  | ok {x : α} {x' : α'} (h : R x x') : Outcome K R (.ok x) (.ok x')
  | error {e e' : Stop} (h : Stop.Alike K.tokens e e') : Outcome K R (.error e) (.error e')

/-- Started with frames that are alike, `k` frames after the start, the actions end with related
outcomes and with frames that are alike. -/
def Follows (K : Comparison) (k : Nat) (R : α → α' → Prop) (a : Action α) (a' : Action α') : Prop :=
  ∀ ⦃s s' : Scopes⦄, K.Alike k s s' →
    (a.on s).Follows (fun p => K.lenient ∧ p.1 = .error .outOfFuel)
      (fun p p' => K.Outcome R p.1 p'.1 ∧ K.Alike k p.2 p'.2) (a'.on s')

variable {K : Comparison} {k : Nat} {R : α → α' → Prop} {S : β → β' → Prop}

namespace Follows

theorem pure {x : α} {x' : α'} (h : R x x') :
    K.Follows k R (Pure.pure x : Action α) (Pure.pure x') :=
  fun _ _ hs => .done ⟨.ok h, hs⟩

theorem bind {a : Action α} {a' : Action α'} {f : α → Action β} {f' : α' → Action β'}
    (h : K.Follows k R a a') (next : ∀ x x', R x x' → K.Follows k S (f x) (f' x')) :
    K.Follows k S (a >>= f) (a' >>= f') := by
  intro s s' hs
  rw [Action.on_bind, Action.on_bind]
  refine (h hs).bind ?_ ?_
  · rintro ⟨result, t⟩ ⟨result', t'⟩ ⟨hr, ht⟩
    cases hr with
    | ok hx => exact next _ _ hx ht
    | error he => exact .done ⟨.error he, ht⟩
  · rintro ⟨result, t⟩ ⟨lenient, hr⟩
    cases hr
    exact ⟨_, ⟨lenient, rfl⟩, rfl⟩

/-- Without fuel the first run stops, and the second one either stops too or does not matter. -/
theorem exhausted {a' : Action α'} (h : K.lenient ∨ a' = throw .outOfFuel) :
    K.Follows k R (throw .outOfFuel : Action α) a' := by
  intro s s' hs
  obtain lenient | rfl := h
  · exact .stop ⟨lenient, rfl⟩
  · exact .done ⟨.error .outOfFuel, hs⟩

theorem fail {u u' : Nat} {t t' : Token} (fault : RuntimeFault) (ht : K.tokens.token u u' t t') :
    K.Follows k R (Action.fail t fault : Action α) (Action.fail t' fault) :=
  fun _ _ hs => .done ⟨.error (.error ⟨rfl, u, u', ht⟩), hs⟩

theorem request (r : Request) : K.Follows k Eq (Action.request r) (Action.request r) :=
  fun _ _ hs => .ask fun _ => .done ⟨.ok rfl, hs⟩

theorem read {u u' : Nat} {ident ident' : Token} (visible : K.Visible k)
    (ht : K.tokens.token u u' ident ident') :
    K.Follows k (Value.Alike K.tokens) (Action.read ident) (Action.read ident') := by
  intro s s' hs
  rw [Action.on_read, Action.on_read]
  refine .done ⟨?_, hs⟩
  have found := hs.resolve? ident.lexeme (hs.newest visible)
  simp only [Scopes.get, Scopes.find?, ← K.tokens.lexeme_eq ht]
  generalize s.resolve? ident.lexeme s.newest = j at found ⊢
  generalize s'.resolve? ident.lexeme s'.newest = j' at found ⊢
  cases found with
  | none => exact .error (.error ⟨rfl, u, u', ht⟩)
  | some place =>
    have value := (hs.frameAlike place).bindings.find? ident.lexeme
    simp only [Option.bind_some]
    generalize (s.bindings _).find? ident.lexeme = v at value ⊢
    generalize (s'.bindings _).find? ident.lexeme = v' at value ⊢
    cases value with
    | none => exact .error (.error ⟨rfl, u, u', ht⟩)
    | some hv => exact .ok hv

theorem assign {u u' : Nat} {ident ident' : Token} {v v' : Value} (visible : K.Visible k)
    (ht : K.tokens.token u u' ident ident') (hv : v.Alike K.tokens v') :
    K.Follows k Eq (Action.assign ident v) (Action.assign ident' v') := by
  intro s s' hs
  rw [Action.on_assign, Action.on_assign]
  have found := hs.resolve? ident.lexeme (hs.newest visible)
  simp only [Scopes.assign, ← K.tokens.lexeme_eq ht]
  generalize s.resolve? ident.lexeme s.newest = j at found ⊢
  generalize s'.resolve? ident.lexeme s'.newest = j' at found ⊢
  cases found with
  | none => exact .done ⟨.error (.error ⟨rfl, u, u', ht⟩), hs⟩
  | some place => exact .done ⟨.ok rfl, hs.modify place fun hb => hb.put _ hv⟩

theorem define {u u' : Nat} {ident ident' : Token} {v v' : Value} (visible : K.Visible k)
    (ht : K.tokens.token u u' ident ident') (hv : v.Alike K.tokens v') :
    K.Follows k Eq (Action.define ident v) (Action.define ident' v') := by
  intro s s' hs
  rw [Action.on_define, Action.on_define]
  have place := hs.newest visible
  simp only [Scopes.define, ← K.tokens.lexeme_eq ht,
    (hs.frameAlike place).bindings.binds_eq ident.lexeme]
  split
  · exact .done ⟨.error (.error ⟨rfl, u, u', ht⟩), hs⟩
  · exact .done ⟨.ok rfl, hs.modify place fun hb => hb.put _ hv⟩

/-- What runs in a frame of its own is compared one frame further after the start. -/
theorem within {a : Action α} {a' : Action α'} {enter enter' : Scopes → Scopes}
    (place : ∀ {s s'}, K.Alike k s s' → K.Alike (k + 1) (enter s) (enter' s'))
    (h : K.Follows (k + 1) R a a') :
    K.Follows k R (Action.within enter a) (Action.within enter' a') := by
  intro s s' hs
  refine (h (place hs)).bind ?_ ?_
  · rintro ⟨result, t⟩ ⟨result', t'⟩ ⟨hr, ht⟩
    exact .done ⟨hr, ht.pop⟩
  · rintro ⟨result, t⟩ ⟨lenient, hr⟩
    exact ⟨(result, t.pop), ⟨lenient, hr⟩, rfl⟩

theorem inBlock {a : Action α} {a' : Action α'} (visible : K.Visible k)
    (h : K.Follows (k + 1) R a a') : K.Follows k R (Action.inBlock a) (Action.inBlock a') :=
  within (fun hs => hs.push (hs.newest visible)) h

/-- The frame of a call is linked to the globals, so it does not matter which frame is the newest
when the call is made. -/
theorem inCall {a : Action α} {a' : Action α'} (h : K.Follows (k + 1) R a a') :
    K.Follows k R (Action.inCall a) (Action.inCall a') :=
  within (fun hs => hs.push .oldest) h

theorem ofResult {u u' : Nat} {t t' : Token} {result : Except RuntimeFault Value}
    (ht : K.tokens.token u u' t t') (plain : Proper Value.IsPlain result) :
    K.Follows k (Value.Alike K.tokens) (Action.ofResult t result) (Action.ofResult t' result) := by
  cases result with
  | ok v => exact pure plain.alike
  | error fault => exact fail fault ht

theorem callBuiltin {u u' : Nat} {paren paren' : Token} (b : Builtin) {args args' : List Value}
    (ha : Value.AllAlike K.tokens args args') (ht : K.tokens.token u u' paren paren') :
    K.Follows k (Value.Alike K.tokens) (callBuiltin b args paren)
      (callBuiltin b args' paren') := by
  intro s s' hs
  rw [Action.on_callBuiltin, Action.on_callBuiltin, b.run_alike ha]
  have same : Dialogue.Follows (fun _ => False) (fun r r' => r = r' ∧ Proper Value.IsPlain r)
      (b.run args') (b.run args') :=
    .refl ((b.run_proper args').mono fun _ h => ⟨rfl, h⟩)
  refine same.bind ?_ fun _ never => never.elim
  rintro result _ ⟨rfl, plain⟩
  cases result with
  | ok v => exact .done ⟨.ok plain.alike, hs⟩
  | error fault => exact .done ⟨.error (.error ⟨rfl, u, u', ht⟩), hs⟩

theorem bindParams {u u' : Nat} {params params' : List Token} {args args' : List Value}
    (visible : K.Visible k) (hp : List.Forall₂ (K.tokens.token u u') params params')
    (ha : Value.AllAlike K.tokens args args') :
    K.Follows k Eq (bindParams params args) (bindParams params' args') := by
  induction hp generalizing args args' with
  | nil => exact pure rfl
  | cons ht _ ih =>
    cases ha with
    | nil => exact pure rfl
    | cons hv ha => exact (define visible ht hv).bind fun _ _ _ => ih ha

end Follows

/-! ### The evaluator -/

/-- The evaluator with fuel `n` is followed by the evaluator with fuel `m`, from any point on. -/
structure Agree (K : Comparison) (n m : Nat) : Prop where
  exec : ∀ {k u u' : Nat} {stmt stmt' : Stmt}, K.Visible k →
    Stmt.Alike (K.tokens.token u u') stmt stmt' →
    K.Follows k (Flow.Alike K.tokens) (exec n u stmt) (exec m u' stmt')
  execAll : ∀ {k u u' : Nat} {stmts stmts' : List Stmt}, K.Visible k →
    Stmt.AllAlike (K.tokens.token u u') stmts stmts' →
    K.Follows k (Flow.Alike K.tokens) (execAll n u stmts) (execAll m u' stmts')
  eval : ∀ {k u u' : Nat} {e e' : Expr}, K.Visible k → Expr.Alike (K.tokens.token u u') e e' →
    K.Follows k (Value.Alike K.tokens) (eval n u e) (eval m u' e')
  evalAll : ∀ {k u u' : Nat} {es es' : List Expr}, K.Visible k →
    Expr.AllAlike (K.tokens.token u u') es es' →
    K.Follows k (Value.AllAlike K.tokens) (evalAll n u es) (evalAll m u' es')
  /-- A call may be made from anywhere, whether the newest frames stand for each other or not. -/
  call : ∀ {k u u' : Nat} {f f' : Callable} {args args' : List Value} {paren paren' : Token},
    f.Alike K.tokens f' → Value.AllAlike K.tokens args args' →
    K.tokens.token u u' paren paren' →
    K.Follows k (Value.Alike K.tokens) (call n f args paren) (call m f' args' paren')

namespace Agree

variable {n m : Nat}

theorem zero (h : K.lenient ∨ m = 0) : K.Agree 0 m := by
  refine ⟨fun _ _ => ?_, fun _ _ => ?_, fun _ _ => ?_, fun _ _ => ?_, fun _ _ _ => ?_⟩
  all_goals
    refine .exhausted (h.imp_right fun zero => ?_)
    subst zero
    rfl

variable (h : K.Agree n m)
include h

theorem exec_succ {u u' : Nat} {stmt stmt' : Stmt} (visible : K.Visible k)
    (alike : Stmt.Alike (K.tokens.token u u') stmt stmt') :
    K.Follows k (Flow.Alike K.tokens) (ScriptLang.exec (n + 1) u stmt)
      (ScriptLang.exec (m + 1) u' stmt') := by
  cases alike with
  | expression he => exact (h.eval visible he).bind fun _ _ _ => .pure .normal
  | print ht he =>
    refine (h.eval visible he).bind fun v v' hv => ?_
    rw [hv.text_eq]
    refine (Follows.request _).bind fun answer _ same => ?_
    subst same
    cases answer with
    | ok _ => exact .pure .normal
    | error why => exact .fail _ ht
  | var ht hi =>
    cases hi with
    | none => exact (Follows.define visible ht .nil).bind fun _ _ _ => .pure .normal
    | some he =>
      refine (h.eval visible he).bind fun v v' hv => ?_
      exact (Follows.define visible ht hv).bind fun _ _ _ => .pure .normal
  | block hb => exact .inBlock visible (h.execAll (.inl k.succ_pos) hb)
  | branch hc hy =>
    refine (h.eval visible hc).bind fun v v' hv => ?_
    rw [hv.isTruthy_eq]
    split
    · exact h.exec visible hy
    · exact .pure .normal
  | branchElse hc hy hn =>
    refine (h.eval visible hc).bind fun v v' hv => ?_
    rw [hv.isTruthy_eq]
    split
    · exact h.exec visible hy
    · exact h.exec visible hn
  | loop hc hb =>
    refine (h.eval visible hc).bind fun v v' hv => ?_
    rw [hv.isTruthy_eq]
    split
    · refine (h.exec visible hb).bind fun flow flow' hf => ?_
      cases hf with
      | returned hv => exact .pure (.returned hv)
      | normal => exact h.exec visible (.loop hc hb)
    · exact .pure .normal
  | function ht hp hb =>
    have made : Value.Alike K.tokens (.callable (.user ⟨u, _, _, _⟩))
        (.callable (.user ⟨u', _, _, _⟩)) := .callable (.user ⟨ht, hp, hb⟩)
    exact (Follows.define visible ht made).bind fun _ _ _ => .pure .normal
  | ret ht hv =>
    cases hv with
    | none => exact .pure (.returned .nil)
    | some he => exact (h.eval visible he).bind fun v v' hv => .pure (.returned hv)

theorem execAll_succ {u u' : Nat} {stmts stmts' : List Stmt} (visible : K.Visible k)
    (alike : Stmt.AllAlike (K.tokens.token u u') stmts stmts') :
    K.Follows k (Flow.Alike K.tokens) (ScriptLang.execAll (n + 1) u stmts)
      (ScriptLang.execAll (m + 1) u' stmts') := by
  cases alike with
  | nil => exact .pure .normal
  | cons hs later =>
    refine (h.exec visible hs).bind fun flow flow' hf => ?_
    cases hf with
    | returned hv => exact .pure (.returned hv)
    | normal => exact h.execAll visible later

theorem eval_succ {u u' : Nat} {e e' : Expr} (visible : K.Visible k)
    (alike : Expr.Alike (K.tokens.token u u') e e') :
    K.Follows k (Value.Alike K.tokens) (ScriptLang.eval (n + 1) u e)
      (ScriptLang.eval (m + 1) u' e') := by
  cases alike with
  | constant c => exact .pure (Value.isPlain_ofConstant c).alike
  | group he => exact h.eval visible he
  | unary ht he =>
    refine (h.eval visible he).bind fun v v' hv => ?_
    rw [applyUnary_alike (K.tokens.kind_eq ht) hv]
    exact .ofResult ht (applyUnary_proper _ _)
  | binary ht hl hr =>
    refine (h.eval visible hl).bind fun v v' hv => ?_
    refine (h.eval visible hr).bind fun w w' hw => ?_
    rw [applyBinary_alike (K.tokens.kind_eq ht) (K.tokens.lexeme_eq ht) hv hw]
    exact .ofResult ht (applyBinary_proper _ _ _)
  | logical ht hl hr =>
    refine (h.eval visible hl).bind fun v v' hv => ?_
    rw [decidedBy_alike (K.tokens.kind_eq ht) hv]
    split
    · exact .pure hv
    · exact h.eval visible hr
  | name ht => exact .read visible ht
  | assign ht he =>
    refine (h.eval visible he).bind fun v v' hv => ?_
    exact (Follows.assign visible ht hv).bind fun _ _ _ => .pure hv
  | call he ht ha =>
    refine (h.eval visible he).bind fun v v' hv => ?_
    cases hv with
    | callable hf =>
      refine (h.evalAll visible ha).bind fun args args' hargs => ?_
      rw [hargs.length_eq, hf.arity_eq]
      split
      · exact h.call hf hargs ht
      · exact .fail _ ht
    | _ => exact .fail _ ht

theorem evalAll_succ {u u' : Nat} {es es' : List Expr} (visible : K.Visible k)
    (alike : Expr.AllAlike (K.tokens.token u u') es es') :
    K.Follows k (Value.AllAlike K.tokens) (ScriptLang.evalAll (n + 1) u es)
      (ScriptLang.evalAll (m + 1) u' es') := by
  cases alike with
  | nil => exact .pure .nil
  | cons he later =>
    refine (h.eval visible he).bind fun v v' hv => ?_
    exact (h.evalAll visible later).bind fun vs vs' hvs => .pure (.cons hv hvs)

theorem call_succ {u u' : Nat} {f f' : Callable} {args args' : List Value} {paren paren' : Token}
    (hf : f.Alike K.tokens f') (ha : Value.AllAlike K.tokens args args')
    (ht : K.tokens.token u u' paren paren') :
    K.Follows k (Value.Alike K.tokens) (ScriptLang.call (n + 1) f args paren)
      (ScriptLang.call (m + 1) f' args' paren') := by
  cases hf with
  | builtin b => exact .callBuiltin b ha ht
  | user hf =>
    have visible : K.Visible (k + 1) := .inl k.succ_pos
    refine .inCall ((Follows.bindParams visible hf.params ha).bind fun _ _ _ => ?_)
    refine (h.execAll visible hf.body).bind fun flow flow' hflow => ?_
    cases hflow with
    | returned hv => exact .pure hv
    | normal => exact .pure .nil

/-- One more step on both sides. -/
theorem succ : K.Agree (n + 1) (m + 1) where
  exec := h.exec_succ
  execAll := h.execAll_succ
  eval := h.eval_succ
  evalAll := h.evalAll_succ
  call := h.call_succ

end Agree

/-- The evaluator follows itself, with the same fuel or, in a lenient comparison, with more. -/
theorem agree (K : Comparison) {n m : Nat} (h : n = m ∨ K.lenient ∧ n ≤ m) : K.Agree n m := by
  induction n generalizing m with
  | zero =>
    refine .zero ?_
    obtain rfl | ⟨lenient, _⟩ := h
    · exact .inr rfl
    · exact .inl lenient
  | succ n ih =>
    cases m with
    | zero => omega
    | succ m =>
      refine (ih ?_).succ
      obtain same | ⟨lenient, le⟩ := h
      · exact .inl (Nat.succ.inj same)
      · exact .inr ⟨lenient, Nat.le_of_succ_le_succ le⟩

/-! ### Equal results -/

theorem Outcome.eq {R : α → α → Prop} {r r' : Except Stop α} (h : K.Outcome R r r')
    (same : K.tokens = .identity) (eq : ∀ x x', R x x' → x = x') : r = r' := by
  cases h with
  | ok hx => rw [eq _ _ hx]
  | error he =>
    cases he with
    | outOfFuel => rfl
    | error he =>
      rw [same] at he
      rw [he.eq]

end Comparison

theorem Flow.Alike.eq {f f' : Flow} (h : Flow.Alike .identity f f') : f = f' := by
  cases h with
  | normal => rfl
  | returned hv => rw [hv.eq]

end ScriptLang

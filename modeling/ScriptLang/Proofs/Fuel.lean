import ScriptLang.Proofs.Likeness.Eval

/-!
# More fuel

A run that ends for another reason than that its fuel is used up ends in the same way with more
fuel.

## Main definitions

* `Action.ExtendedBy` — an action goes on at most where another one is out of fuel
* `Action.SameEnds` — two computations that cannot be told apart but for the fuel they need

## Main results

* `Action.SameEnds.run` — computations that cannot be told apart lead to the same ends
* `exec_extendedBy`, `execAll_extendedBy`, `eval_extendedBy`, `call_extendedBy` — with more fuel the
  evaluator does the same, and goes on where it was out of fuel
* `execAll_fuel` — more fuel does not change a run that ends
-/

namespace ScriptLang

variable {α : Type}

/-- Whether an action, started with some frames in some world, ends before its fuel is used up. -/
def Action.EndsIn (a : Action α) (s : Scopes) (w : World) : Prop :=
  ((a.on s).run w).1.1 ≠ .error .outOfFuel

namespace Action

variable {β : Type} {a a' b : Action α}

/-- The second action asks what the first one asks and ends in the same way, up to where the first
one is out of fuel. -/
def ExtendedBy (a b : Action α) : Prop :=
  ∀ s, (a.on s).Follows (fun p => p.1 = .error .outOfFuel) Eq (b.on s)

namespace ExtendedBy

theorem refl (a : Action α) : a.ExtendedBy a :=
  fun _ => .refl (Dialogue.ends_of_forall fun _ => rfl)

theorem trans (h : a.ExtendedBy a') (h' : a'.ExtendedBy b) : a.ExtendedBy b :=
  fun s => (h s).trans (h' s)

theorem exhausted (b : Action α) : ExtendedBy (throw .outOfFuel) b :=
  fun _ => .stop rfl

theorem bind {f f' : α → Action β} (h : a.ExtendedBy a') (next : ∀ x, (f x).ExtendedBy (f' x)) :
    (a >>= f).ExtendedBy (a' >>= f') := by
  intro s
  rw [on_bind, on_bind]
  refine (h s).bind ?_ ?_
  · rintro ⟨result, t⟩ _ rfl
    cases result with
    | ok x => exact next x t
    | error e => exact .done rfl
  · rintro ⟨result, t⟩ stopped
    cases stopped
    exact ⟨_, rfl, rfl⟩

theorem inBlock (h : a.ExtendedBy a') : (inBlock a).ExtendedBy (Action.inBlock a') := by
  intro s
  rw [on_inBlock, on_inBlock]
  refine (h _).bind ?_ ?_
  · rintro p _ rfl
    exact .done rfl
  · rintro ⟨result, t⟩ stopped
    exact ⟨(result, t.pop), stopped, rfl⟩

/-- What follows an action from everywhere, up to equality, goes on where the action is out of
fuel. -/
theorem of_follows {R : α → α → Prop} (h : ∀ k, (Comparison.identical True).Follows k R a a')
    (eq : ∀ x x', R x x' → x = x') : a.ExtendedBy a' := by
  intro s
  have follows := h _ (Comparison.identical_alike_refl s)
  refine (follows.mono ?_).mono_stop fun p stopped => stopped.2
  rintro p p' ⟨outcome, frames⟩
  exact Prod.ext (outcome.eq rfl eq) frames.eq

/-- An action that has ended is the same with more fuel, whatever it is asked from. -/
theorem run {s : Scopes} {w : World} (h : a.ExtendedBy b) (ended : a.EndsIn s w) :
    (b.on s).run w = (a.on s).run w := by
  rcases (h s).run w with stopped | ⟨same, world⟩
  · exact absurd stopped ended
  · exact (Prod.ext same world).symm

end ExtendedBy

/-- What the first computation does with some amount of fuel the second one does with some other
amount, and the other way round: they ask their host the same, and end in the same way or not at
all. -/
structure SameEnds (a b : Nat → Action α) : Prop where
  there : ∀ n, ∃ m, (a n).ExtendedBy (b m)
  back : ∀ n, ∃ m, (b n).ExtendedBy (a m)

/-- With a host in memory, computations that cannot be told apart lead to the same results, the same
frames and the same state of the host. -/
theorem SameEnds.run {a b : Nat → Action α} (h : SameEnds a b) (s : Scopes) (w : World)
    (p : (Except Stop α × Scopes) × World) (ended : p.1.1 ≠ .error .outOfFuel) :
    (∃ n, ((a n).on s).run w = p) ↔ ∃ m, ((b m).on s).run w = p := by
  constructor
  · rintro ⟨n, rfl⟩
    obtain ⟨m, extended⟩ := h.there n
    exact ⟨m, extended.run ended⟩
  · rintro ⟨n, rfl⟩
    obtain ⟨m, extended⟩ := h.back n
    exact ⟨m, extended.run ended⟩

end Action

/-! ### The evaluator -/

variable {n m : Nat} {s : Scopes} {w : World}

theorem exec_extendedBy (le : n ≤ m) (u : Nat) (stmt : Stmt) :
    (exec n u stmt).ExtendedBy (exec m u stmt) :=
  .of_follows (fun _ => (Comparison.agree _ (.inr ⟨trivial, le⟩)).exec
    Comparison.identical_visible (.refl (fun _ => ⟨rfl, rfl⟩) stmt)) fun _ _ h => h.eq

theorem execAll_extendedBy (le : n ≤ m) (u : Nat) (stmts : List Stmt) :
    (execAll n u stmts).ExtendedBy (execAll m u stmts) :=
  .of_follows (fun _ => (Comparison.agree _ (.inr ⟨trivial, le⟩)).execAll
    Comparison.identical_visible (.refl (fun _ => ⟨rfl, rfl⟩) stmts)) fun _ _ h => h.eq

theorem eval_extendedBy (le : n ≤ m) (u : Nat) (e : Expr) :
    (eval n u e).ExtendedBy (eval m u e) :=
  .of_follows (fun _ => (Comparison.agree _ (.inr ⟨trivial, le⟩)).eval
    Comparison.identical_visible (.refl (fun _ => ⟨rfl, rfl⟩) e)) fun _ _ h => h.eq

theorem call_extendedBy (le : n ≤ m) (f : Callable) (args : List Value) (paren : Token) :
    (call n f args paren).ExtendedBy (call m f args paren) :=
  .of_follows (fun _ => (Comparison.agree _ (.inr ⟨trivial, le⟩)).call
    (.refl f) (Value.AllAlike.refl args) (Correspondence.identity_token 0 paren)) fun _ _ h => h.eq

/-- More fuel does not change a run that ends. -/
theorem execAll_fuel (le : n ≤ m) {u : Nat} {stmts : List Stmt}
    (ended : (execAll n u stmts).EndsIn s w) :
    ((execAll m u stmts).on s).run w = ((execAll n u stmts).on s).run w :=
  (execAll_extendedBy le u stmts).run ended

end ScriptLang

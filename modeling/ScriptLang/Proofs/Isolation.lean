import ScriptLang.Proofs.Likeness.Eval

/-!
# Calls are isolated

The body of a function runs in a frame linked to the globals, wherever the call is made.  So a call
neither changes nor sees any other frame that was open before it, whatever functions it calls in
turn, and however it ends.

## Main results

* `call_isolated` — a call changes no frame but the globals, and depends on no frame but the globals
-/

namespace ScriptLang

/-- A call leaves all frames but the globals as they were, whatever the host answers and however the
call ends.  It asks the same, ends in the same way and leaves the same globals wherever else it is
made with the same globals. -/
theorem call_isolated (fuel : Nat) (f : Callable) (args : List Value) (paren : Token)
    {s t : Scopes} (same : s.globals = t.globals) :
    ((call fuel f args paren).on s).Ends (fun p =>
        p.2.depth = s.depth ∧ ∀ i, 0 < i → p.2.frames[i]? = s.frames[i]?) ∧
      (fun p => (p.1, p.2.globals)) <$> (call fuel f args paren).on s =
        (fun p => (p.1, p.2.globals)) <$> (call fuel f args paren).on t := by
  -- The two calls are compared from these frames on, of which only the globals are in sight.
  let K : Comparison := ⟨.identity, s, t, False⟩
  have alike : Bindings.Alike .identity s.globals t.globals := same ▸ .refl s.globals
  have start : K.Alike 0 s t := Comparison.Alike.start (K := K) alike
  have follows := ((K.agree (.inl (Eq.refl fuel))).call (.refl f) (Value.AllAlike.refl args)
    (Correspondence.identity_token 0 paren) start).mono_stop fun _ h => h.1
  refine ⟨?_, ?_⟩
  · refine follows.ends.mono fun p ⟨p', _, hs⟩ => ⟨hs.size, fun i pos => ?_⟩
    by_cases old : i < s.frames.size
    · exact hs.kept pos old
    · have closed : p.2.frames.size ≤ i := hs.size ▸ Nat.not_lt.1 old
      rw [Array.getElem?_eq_none closed, Array.getElem?_eq_none (Nat.not_lt.1 old)]
  · refine (follows.mono fun p p' ⟨hr, hs⟩ => ?_).map_eq
    have result : p.1 = p'.1 := hr.eq rfl fun _ _ h => h.eq
    have globals : p.2.globals = p'.2.globals := Bindings.Alike.eq hs.globals
    rw [result, globals]

/-- The function `fun peek() { return local; }`, which names a variable that it does not declare. -/
def UserFunction.peek : UserFunction where
  unit := 0
  decl.ident := ⟨.ident, "peek", none, 1, ⟨4, 8⟩⟩
  decl.params := []
  decl.body := [.ret ⟨.returnWord, "return", none, 1, ⟨13, 19⟩⟩
    (some (.name ⟨.ident, "local", none, 1, ⟨20, 25⟩⟩))]

/-- The frames in a block that binds `local`, which the globals do not. -/
def Scopes.withLocal : Scopes :=
  ((ofBindings []).push (ofBindings []).oldest).insert "local" .nil ⟨1, by decide⟩

/-- In a block that binds `local` the call of `peek` fails as it does outside of all blocks. -/
theorem call_isolated_peek :
    Scopes.withLocal.globals = (Scopes.ofBindings []).globals ∧
      (fun p => (p.1, p.2.globals)) <$>
          (call 9 (.user .peek) [] ⟨.rightParen, ")", none, 2, ⟨35, 36⟩⟩).on .withLocal =
        .done (.error (.error ⟨⟨.ident, "local", none, 1, ⟨20, 25⟩⟩, .undefinedVariable "local"⟩),
          []) := by
  have same : Scopes.withLocal.globals = (Scopes.ofBindings []).globals := rfl
  refine ⟨same, (call_isolated 9 (.user .peek) [] _ same).2.trans ?_⟩
  have unbound : ((Scopes.ofBindings []).push (Scopes.ofBindings []).oldest).resolve? "local"
      ((Scopes.ofBindings []).push (Scopes.ofBindings []).oldest).newest = none := by
    rw [Scopes.resolve?_of_enclosing (p := 0) rfl rfl, Scopes.resolve?_of_last rfl rfl]
  simp only [call, Action.on_inCall, UserFunction.peek, bindParams, execAll, exec, eval]
  simp [Scopes.get, Scopes.find?, unbound]
  rfl

end ScriptLang

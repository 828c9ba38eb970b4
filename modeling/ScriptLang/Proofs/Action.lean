import ScriptLang.Eval
import ScriptLang.Proofs.Dialogue

/-!
# Actions as dialogues

An action, started with some open frames, is a dialogue that ends with a result and the frames then
open.  Every way to put actions together is said here in terms of these dialogues, so that nothing
else has to look into the layers that actions are made of.

## Main definitions

* `Action.on` — the dialogue of an action that starts with some open frames
-/

namespace ScriptLang

namespace Action

variable {α β : Type}

/-- The dialogue of an action: from the frames at its start to its result and the frames at its
end. -/
def on (a : Action α) (s : Scopes) : Dialogue (Except Stop α × Scopes) :=
  a.run.run s

theorem ext {a b : Action α} (h : ∀ s, a.on s = b.on s) : a = b :=
  funext h

@[simp] theorem on_pure (x : α) (s : Scopes) : (pure x : Action α).on s = .done (.ok x, s) := rfl

@[simp] theorem on_throw (e : Stop) (s : Scopes) :
    (throw e : Action α).on s = .done (.error e, s) := rfl

theorem on_bind (a : Action α) (f : α → Action β) (s : Scopes) :
    (a >>= f).on s = a.on s >>= fun p =>
      match p.1 with
      | .ok x => (f x).on p.2
      | .error e => .done (.error e, p.2) := by
  simp only [on, ExceptT.run_bind, StateT.run_bind]
  congr 1
  funext p
  rcases p with ⟨_ | _, _⟩ <;> rfl

@[simp] theorem on_fail (token : Token) (fault : RuntimeFault) (s : Scopes) :
    (fail token fault : Action α).on s = .done (.error (.error ⟨token, fault⟩), s) := rfl

@[simp] theorem on_request (r : Request) (s : Scopes) :
    (request r).on s = .ask r fun answer => .done (.ok answer, s) := rfl

@[simp] theorem on_read (ident : Token) (s : Scopes) :
    (read ident).on s = .done ((s.get ident s.newest).mapError .error, s) := by
  simp only [read, on, ExceptT.run_mk, StateT.run]
  split <;> rename_i h <;> rw [h] <;> rfl

@[simp] theorem on_assign (ident : Token) (value : Value) (s : Scopes) :
    (assign ident value).on s =
      .done ((s.assign ident value s.newest).1.mapError .error,
        (s.assign ident value s.newest).2) := rfl

@[simp] theorem on_define (ident : Token) (value : Value) (s : Scopes) :
    (define ident value).on s =
      .done ((s.define ident value s.newest).1.mapError .error,
        (s.define ident value s.newest).2) := rfl

@[simp] theorem on_inBlock (body : Action α) (s : Scopes) :
    (inBlock body).on s = body.on (s.push s.newest) >>= fun p => .done (p.1, p.2.pop) := rfl

@[simp] theorem on_inCall (body : Action α) (s : Scopes) :
    (inCall body).on s = body.on (s.push s.oldest) >>= fun p => .done (p.1, p.2.pop) := rfl

@[simp] theorem on_callBuiltin (b : Builtin) (args : List Value) (paren : Token) (s : Scopes) :
    (callBuiltin b args paren).on s = b.run args >>= fun result =>
      .done (result.mapError fun fault => .error ⟨paren, fault⟩, s) := by
  simp only [callBuiltin, on, ExceptT.run_mk, StateT.run]
  congr 1
  funext result
  cases result <;> rfl

@[simp] theorem on_ofResult (token : Token) (result : Except RuntimeFault α) (s : Scopes) :
    (ofResult token result).on s =
      .done (result.mapError fun fault => .error ⟨token, fault⟩, s) := by
  cases result <;> rfl

end Action

end ScriptLang

import ScriptLang.Proofs.Likeness
import ScriptLang.Proofs.Results

/-!
# Values alike

Two runs of similar texts come across similar values.  Functions remember the declaration that they
were made from, and thereby tokens and the number of a unit, so values of two runs can be alike
without being equal.  Nothing that a script can find out about a value tells such values apart.

## Main definitions

* `Correspondence` — which tokens of two runs stand for each other
* `Value.Alike`, `RuntimeError.Alike` — values and errors that differ in such tokens only

## Main results

* `Value.Alike.beq_eq`, `applyBinary_alike` — operators do not tell values alike apart
* `Builtin.run_alike` — built-in functions do not either
-/

namespace ScriptLang

/-- Which tokens of the units of one run stand for which tokens of the units of another one.  Tokens
that stand for each other say the same, and one place stands for one place. -/
structure Correspondence where
  token : (unit unit' : Nat) → Token → Token → Prop
  kind_eq : ∀ {u u' : Nat} {t t' : Token}, token u u' t t' → t.kind = t'.kind
  lexeme_eq : ∀ {u u' : Nat} {t t' : Token}, token u u' t t' → t.lexeme = t'.lexeme
  place_iff : ∀ {u u' v v' : Nat} {a a' b b' : Token}, token u u' a a' → token v v' b b' →
    ((u = v ∧ a.span = b.span) ↔ (u' = v' ∧ a'.span = b'.span))

/-- Every token stands for itself. -/
def Correspondence.identity : Correspondence where
  token u u' t t' := u = u' ∧ t = t'
  kind_eq h := by rw [h.2]
  lexeme_eq h := by rw [h.2]
  place_iff h h' := by rw [h.1, h.2, h'.1, h'.2]

theorem Correspondence.identity_token (u : Nat) (t : Token) : identity.token u u t t :=
  ⟨rfl, rfl⟩

variable {C : Correspondence}

/-! ### Values -/

/-- Functions whose declarations differ only in tokens that stand for each other. -/
structure UserFunction.Alike (C : Correspondence) (f f' : UserFunction) : Prop where
  ident : C.token f.unit f'.unit f.decl.ident f'.decl.ident
  params : List.Forall₂ (C.token f.unit f'.unit) f.decl.params f'.decl.params
  body : Stmt.AllAlike (C.token f.unit f'.unit) f.decl.body f'.decl.body

/-- The same built-in function, or declared functions that are alike. -/
inductive Callable.Alike (C : Correspondence) : Callable → Callable → Prop where
  | builtin (b : Builtin) : Callable.Alike C (.builtin b) (.builtin b)
  | user {f f' : UserFunction} (h : f.Alike C f') : Callable.Alike C (.user f) (.user f')

/-- Equal values, or functions that are alike. -/
inductive Value.Alike (C : Correspondence) : Value → Value → Prop where
  | nil : Value.Alike C .nil .nil
  | bool (b : Bool) : Value.Alike C (.bool b) (.bool b)
  | number (x : Float) : Value.Alike C (.number x) (.number x)
  | string (s : String) : Value.Alike C (.string s) (.string s)
  | callable {f f' : Callable} (h : f.Alike C f') : Value.Alike C (.callable f) (.callable f')

/-- Lists of values that are alike one by one. -/
abbrev Value.AllAlike (C : Correspondence) : List Value → List Value → Prop :=
  List.Forall₂ (Value.Alike C)

/-- Errors with one fault, at tokens that stand for each other. -/
def RuntimeError.Alike (C : Correspondence) (e e' : RuntimeError) : Prop :=
  e.fault = e'.fault ∧ ∃ u u', C.token u u' e.token e'.token

theorem Callable.Alike.arity_eq {f f' : Callable} (h : f.Alike C f') : f.arity = f'.arity := by
  cases h with
  | builtin b => rfl
  | user h => exact h.params.length_eq

theorem Callable.Alike.text_eq {f f' : Callable} (h : f.Alike C f') : f.text = f'.text := by
  cases h with
  | builtin b => rfl
  | user h => rw [Callable.text, Callable.text, C.lexeme_eq h.ident]

/-- Functions that are alike are the same as functions that are alike. -/
theorem Callable.Alike.same_eq {f f' g g' : Callable} (hf : f.Alike C f') (hg : g.Alike C g') :
    f.same g = f'.same g' := by
  cases hf with
  | builtin a =>
    cases hg with
    | builtin b => rfl
    | user hg => rfl
  | user hf =>
    cases hg with
    | builtin b => rfl
    | user hg =>
      have place := C.place_iff hf.ident hg.ident
      simp only [Callable.same, UserFunction.same]
      rw [Bool.eq_iff_iff]
      simpa using place

namespace Value

theorem IsPlain.alike {v : Value} (h : v.IsPlain) : v.Alike C v := by
  cases v with
  | nil => exact .nil
  | bool b => exact .bool b
  | number x => exact .number x
  | string s => exact .string s
  | callable f => exact h.elim

namespace Alike

variable {v v' w w' : Value}

theorem text_eq (h : v.Alike C v') : v.text = v'.text := by
  cases h with
  | callable h => exact h.text_eq
  | _ => rfl

theorem isTruthy_eq (h : v.Alike C v') : v.isTruthy = v'.isTruthy := by
  cases h <;> rfl

/-- Values that are alike are equal to values that are alike. -/
theorem beq_eq (h : v.Alike C v') (h' : w.Alike C w') : (v == w) = (v' == w') := by
  cases h with
  | callable h =>
    cases h' with
    | callable h' => exact h.same_eq h'
    | _ => rfl
  | _ => cases h' <;> rfl

end Alike

end Value

/-! ### Wider correspondences -/

section Mono

variable {C' : Correspondence} (sub : ∀ u u' t t', C.token u u' t t' → C'.token u u' t t')
include sub

theorem Value.Alike.mono {v v' : Value} (h : v.Alike C v') : v.Alike C' v' := by
  cases h with
  | callable h =>
    cases h with
    | builtin b => exact .callable (.builtin b)
    | user h =>
      refine .callable (.user ⟨sub _ _ _ _ h.ident, ?_, h.body.mono fun _ _ => sub _ _ _ _⟩)
      exact h.params.imp fun _ _ => sub _ _ _ _
  | nil => exact .nil
  | bool b => exact .bool b
  | number x => exact .number x
  | string s => exact .string s

end Mono

/-! ### Equal values -/

theorem Callable.Alike.refl (f : Callable) : f.Alike .identity f := by
  cases f with
  | builtin b => exact .builtin b
  | user f =>
    refine .user ⟨⟨rfl, rfl⟩, ?_, ?_⟩
    · exact List.forall₂_same.2 fun t _ => ⟨rfl, rfl⟩
    · exact .refl (fun _ => ⟨rfl, rfl⟩) _

theorem Value.Alike.refl (v : Value) : v.Alike .identity v := by
  cases v with
  | callable f => exact .callable (.refl f)
  | nil | bool | number | string => exact IsPlain.alike trivial

theorem Value.AllAlike.refl (vs : List Value) : AllAlike .identity vs vs :=
  List.forall₂_same.2 fun v _ => .refl v

theorem UserFunction.Alike.eq {f f' : UserFunction} (h : f.Alike .identity f') : f = f' := by
  obtain ⟨unit, ident, params, body⟩ := f
  obtain ⟨unit', ident', params', body'⟩ := f'
  obtain ⟨⟨hunit, hident⟩, hparams, hbody⟩ := h
  have eq : ∀ t t', Correspondence.identity.token unit unit' t t' → t = t' := fun _ _ h => h.2
  have params_eq : params = params' := by
    have := hparams.imp eq
    rwa [List.forall₂_eq_eq_eq] at this
  have body_eq : body = body' := (hbody.mono eq).eq
  subst hunit hident params_eq body_eq
  rfl

/-- Values that are alike with equal tokens are equal. -/
theorem Value.Alike.eq {v v' : Value} (h : v.Alike .identity v') : v = v' := by
  cases h with
  | callable h =>
    cases h with
    | builtin b => rfl
    | user h => rw [h.eq]
  | _ => rfl

theorem RuntimeError.Alike.eq {e e' : RuntimeError} (h : e.Alike .identity e') : e = e' := by
  obtain ⟨token, fault⟩ := e
  obtain ⟨token', fault'⟩ := e'
  obtain ⟨hfault, _, _, _, htoken⟩ := h
  subst hfault htoken
  rfl

/-! ### Operators -/

theorem addend?_alike {v v' : Value} (h : v.Alike C v') : addend? v = addend? v' := by
  cases h <;> rfl

/-- An operator has one value for operands that are alike. -/
theorem applyBinary_alike {op op' : Token} {l l' r r' : Value} (hk : op.kind = op'.kind)
    (hx : op.lexeme = op'.lexeme) (hl : l.Alike C l') (hr : r.Alike C r') :
    applyBinary op l r = applyBinary op' l' r' := by
  simp only [applyBinary, bne, hl.beq_eq hr, hl.text_eq, hr.text_eq, addend?_alike hl,
    addend?_alike hr, hk, hx]
  cases hl with
  | number x => cases hr <;> rfl
  | _ => rfl

theorem applyUnary_alike {op op' : Token} {v v' : Value} (hk : op.kind = op'.kind)
    (h : v.Alike C v') : applyUnary op v = applyUnary op' v' := by
  simp only [applyUnary, h.isTruthy_eq, hk]
  cases h <;> rfl

theorem decidedBy_alike {op op' : Token} {v v' : Value} (hk : op.kind = op'.kind)
    (h : v.Alike C v') : decidedBy op v = decidedBy op' v' := by
  simp only [decidedBy, h.isTruthy_eq, hk]

/-! ### Built-in functions -/

namespace Value.AllAlike

variable {args args' : List Value}

/-- An argument on one side has its counterpart on the other. -/
theorem getElem? (h : AllAlike C args args') (i : Nat) :
    (args[i]? = none ∧ args'[i]? = none) ∨
      ∃ v v', args[i]? = some v ∧ args'[i]? = some v' ∧ v.Alike C v' := by
  induction h generalizing i with
  | nil => exact .inl ⟨rfl, rfl⟩
  | cons hv _ ih =>
    cases i with
    | zero => exact .inr ⟨_, _, rfl, rfl, hv⟩
    | succ i => simpa using ih i

theorem string_eq (h : AllAlike C args args') (i : Nat) (fault : RuntimeFault) :
    Arguments.string args i fault = Arguments.string args' i fault := by
  unfold Arguments.string
  obtain ⟨hv, hv'⟩ | ⟨v, v', hv, hv', alike⟩ := h.getElem? i
  · rw [hv, hv']
  · rw [hv, hv']
    cases alike <;> rfl

theorem integer_eq (h : AllAlike C args args') (i : Nat) (fault : RuntimeFault) :
    Arguments.integer args i fault = Arguments.integer args' i fault := by
  unfold Arguments.integer
  obtain ⟨hv, hv'⟩ | ⟨v, v', hv, hv', alike⟩ := h.getElem? i
  · rw [hv, hv']
  · rw [hv, hv']
    cases alike <;> rfl

theorem flag_eq (h : AllAlike C args args') (i : Nat) (fault : RuntimeFault) :
    Arguments.flag args i fault = Arguments.flag args' i fault := by
  unfold Arguments.flag
  obtain ⟨hv, hv'⟩ | ⟨v, v', hv, hv', alike⟩ := h.getElem? i
  · rw [hv, hv']
  · rw [hv, hv']
    cases alike <;> rfl

end Value.AllAlike

/-- A built-in function does the same for arguments that are alike. -/
theorem Builtin.run_alike (b : Builtin) {args args' : List Value}
    (h : Value.AllAlike C args args') : b.run args = b.run args' := by
  cases b with
  | clock => rfl
  | input =>
    cases h with
    | nil => rfl
    | cons hv _ =>
      simp only [run, runInput, List.head?_cons, Option.map_some]
      rw [hv.text_eq]
  | substring => simp only [run, runSubstring, h.string_eq, h.integer_eq]
  | len | floor | isInt | toInt | wait =>
    simp only [run, runLen, runFloor, runIsInt, runToInt, pauseOf]
    cases h with
    | nil => rfl
    | cons hv _ => cases hv <;> rfl
  | toLower => simp only [run, runToLower, h.string_eq]
  | replace => simp only [run, runReplace, h.string_eq]
  | random => simp only [run, rangeOf, h.integer_eq]
  | readFile => simp only [run, h.string_eq]
  | writeFile => simp only [run, h.string_eq, h.flag_eq]
  | fileExists => simp only [run, h.string_eq]
  | executeCommand => simp only [run, h.string_eq, h.flag_eq]

end ScriptLang

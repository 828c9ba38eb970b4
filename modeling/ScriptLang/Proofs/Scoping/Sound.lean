import Mathlib
import ScriptLang.Proofs.Grammar.Sound
import ScriptLang.Proofs.Results
import ScriptLang.Proofs.Scan
import ScriptLang.Proofs.Scoping
import ScriptLang.Proofs.Session

/-!
# Scripts that keep to the scoping rules

A script that keeps to the scoping rules never fails because of a name.  While it runs, every
visible name is bound on the way outwards from the newest frame, and every function that is stored
anywhere keeps to the rules with the globals bound so far.  Names only come to the newest frame and
never go, so both stay true from one step to the next.

## Main definitions

* `Scopes.Sees` — a name is bound on the way outwards from a frame
* `Scopes.Safe` — all stored functions keep to the scoping rules
* `Scopes.Ready` — statements that keep to the rules can run
* `Action.Ensures` — what holds after an action that does not fail because of a name

## Main results

* `Session.run_wellScoped` — a script that keeps to the scoping rules never fails because of a name
-/

namespace ScriptLang

/-! ### What frames bind -/

namespace Scopes

/-- A name is bound in the frame with a number. -/
def BindsAt (s : Scopes) (i : Nat) (x : String) : Prop :=
  ∃ f, s.frames[i]? = some f ∧ f.bindings.binds x = true

/-- A name is bound in the frame with a number or on the way outwards from it. -/
inductive Sees (s : Scopes) (x : String) : Nat → Prop where
  | here {i : Nat} (h : s.BindsAt i x) : Sees s x i
  | outer {i p : Nat} {f : Frame} (hf : s.frames[i]? = some f) (link : f.enclosing = some p)
      (h : Sees s x p) : Sees s x i

variable {D : List String} {s t : Scopes} {x : String} {i : Nat}

theorem bindsAt_iff {j : s.Id} : s.BindsAt j x ↔ (s.bindings j).binds x = true := by
  unfold BindsAt
  rw [getElem?_id]
  simp

theorem Gains.bindsAt (h : s.Gains D t) (hx : s.BindsAt i x) : t.BindsAt i x := by
  obtain ⟨f, hf, bound⟩ := hx
  have frame := h.frame i
  rw [hf] at frame
  generalize ht : t.frames[i]? = g at frame
  cases frame with
  | some gains => exact ⟨_, ht, gains.kept bound⟩

theorem Gains.bindsAt_newest (h : s.Gains D t) (hx : t.BindsAt t.newest x) :
    s.BindsAt s.newest x ∨ x ∈ D := by
  obtain ⟨f, hf, bound⟩ := hx
  have frame := h.frame s.newest
  have newest : t.newest.val = s.newest.val := by simp only [newest_val, h.size]
  rw [← newest, hf, newest, if_pos (by rw [newest_val, Nat.sub_add_cancel s.pos])] at frame
  generalize hs : s.frames[s.newest.val]? = g at frame
  cases frame with
  | some gains => exact (gains.new bound).imp_left fun hg => ⟨_, hs, hg⟩

/-- No other frame than the newest one binds a new name. -/
theorem Gains.of_bindsAt (h : s.Gains D t) (hx : t.BindsAt i x) :
    s.BindsAt i x ∨ i = s.newest.val ∧ x ∈ D := by
  obtain ⟨g, hg, bound⟩ := hx
  have frame := h.frame i
  rw [hg] at frame
  generalize hf : s.frames[i]? = f at frame
  cases frame with
  | some gains =>
    by_cases newest : i + 1 = s.frames.size
    · rw [if_pos newest] at gains
      refine (gains.new bound).imp (fun old => ⟨_, hf, old⟩) fun mem => ⟨?_, mem⟩
      rw [newest_val]
      omega
    · rw [if_neg newest] at gains
      exact (gains.new bound).imp (fun old => ⟨_, hf, old⟩) fun mem => nomatch mem

/-- What gains no name binds the names that were bound before, frame by frame. -/
theorem Gains.bindsAt_iff (h : s.Gains [] t) : t.BindsAt i x ↔ s.BindsAt i x := by
  constructor
  · intro bound
    exact (h.of_bindsAt bound).resolve_right fun new => nomatch new.2
  · exact h.bindsAt

theorem Gains.sees (h : s.Gains D t) (hx : s.Sees x i) : t.Sees x i := by
  induction hx with
  | here bound => exact .here (h.bindsAt bound)
  | @outer i p f hf link _ ih =>
    have frame := h.frame i
    rw [hf] at frame
    generalize ht : t.frames[i]? = g at frame
    cases frame with
    | some gains => exact .outer ht (gains.enclosing.trans link) ih

theorem BindsAt.push (h : s.BindsAt i x) (j : s.Id) : (s.push j).BindsAt i x := by
  obtain ⟨f, hf, bound⟩ := h
  have lt := (Array.getElem?_eq_some_iff.1 hf).1
  exact ⟨f, by rw [getElem?_push, if_neg (Nat.ne_of_lt lt), hf], bound⟩

theorem Sees.push (h : s.Sees x i) (j : s.Id) : (s.push j).Sees x i := by
  induction h with
  | here bound => exact .here (bound.push j)
  | outer hf link _ ih =>
    have lt := (Array.getElem?_eq_some_iff.1 hf).1
    exact .outer (by rw [getElem?_push, if_neg (Nat.ne_of_lt lt), hf]) link ih

/-- A new frame sees what the frame around it sees. -/
theorem Sees.push_newest {j : s.Id} (h : s.Sees x j) : (s.push j).Sees x (s.push j).newest := by
  have top : (s.push j).frames[(s.push j).newest.val]? = some ⟨[], some j⟩ := by
    rw [getElem?_push, if_pos]
    rw [newest_val, size_push, Nat.add_sub_cancel]
  exact .outer top rfl (h.push j)

theorem not_bindsAt_push_newest (j : s.Id) : ¬ (s.push j).BindsAt (s.push j).newest x := by
  rintro ⟨f, hf, bound⟩
  rw [newest_val, size_push, Nat.add_sub_cancel, getElem?_push, if_pos rfl] at hf
  cases hf
  cases bound

/-- What a frame sees is found from there. -/
theorem Sees.resolve? {i : s.Id} (h : s.Sees x i) : ∃ j, s.resolve? x i = some j := by
  generalize hn : i.val = n at h
  induction h generalizing i with
  | here bound =>
    subst hn
    exact ⟨i, resolve?_of_binds (bindsAt_iff.1 bound)⟩
  | outer hf link _ ih =>
    subst hn
    rw [getElem?_id, Option.some.injEq] at hf
    subst hf
    cases hb : (s.bindings i).binds x with
    | true => exact ⟨i, resolve?_of_binds hb⟩
    | false =>
      rw [resolve?_of_enclosing hb link]
      exact ih rfl

end Scopes

/-! ### Stored functions -/

/-- A function keeps to the scoping rules with globals that have been bound. -/
def UserFunction.Safe (s : Scopes) (f : UserFunction) : Prop :=
  ∃ globals : List String, (∀ x ∈ globals, s.BindsAt s.oldest x) ∧
    (f.decl.params.map Token.lexeme ++ Stmt.allDeclare f.decl.body).Nodup ∧
    Stmt.AllScoped globals (f.decl.params.map Token.lexeme ++ globals) f.decl.body ∧
    Stmt.AllTidy f.decl.body

/-- A value that is a declared function keeps to the scoping rules. -/
def Value.Safe (s : Scopes) : Value → Prop
  | .callable (.user f) => f.Safe s
  | _ => True

/-- All declared functions that are stored keep to the scoping rules. -/
def Scopes.Safe (s : Scopes) : Prop :=
  ∀ ⦃i : Nat⦄ ⦃f : Frame⦄, s.frames[i]? = some f →
    ∀ ⦃x : String⦄ ⦃v : Value⦄, f.bindings.find? x = some v → v.Safe s

theorem Value.IsPlain.safe {v : Value} (h : v.IsPlain) (s : Scopes) : v.Safe s := by
  cases v with
  | callable f => exact h.elim
  | _ => trivial

/-- More globals make no function unsafe. -/
theorem Value.Safe.mono {s t : Scopes} {v : Value} (h : v.Safe s)
    (sub : ∀ x, s.BindsAt s.oldest x → t.BindsAt t.oldest x) : v.Safe t := by
  cases v with
  | callable f =>
    cases f with
    | builtin b => trivial
    | user f =>
      obtain ⟨globals, bound, rest⟩ := h
      exact ⟨globals, fun x hx => sub x (bound x hx), rest⟩
  | _ => trivial

namespace Scopes

variable {D : List String} {s t : Scopes}

theorem Gains.safe {v : Value} (h : s.Gains D t) (hv : v.Safe s) : v.Safe t :=
  hv.mono fun _ => h.bindsAt

theorem Safe.insert (h : s.Safe) {name : String} {value : Value} {j : s.Id}
    (gains : s.Gains D (s.insert name value j)) (hv : value.Safe (s.insert name value j)) :
    (s.insert name value j).Safe := by
  intro i f hf x v hx
  rw [Scopes.insert, getElem?_modify] at hf
  by_cases here : j.val = i
  · rw [if_pos here, ← here, getElem?_id, Option.map_some, Option.some.injEq] at hf
    subst hf
    dsimp only at hx
    by_cases same : x = name
    · subst same
      rw [Bindings.find?_put_self, Option.some.injEq] at hx
      exact hx ▸ hv
    · rw [Bindings.find?_put_of_ne _ _ same] at hx
      exact gains.safe (h (getElem?_id s j) hx)
  · rw [if_neg here] at hf
    exact gains.safe (h hf hx)

theorem bindsAt_oldest_push {x : String} {j : s.Id} :
    (s.push j).BindsAt (s.push j).oldest x ↔ s.BindsAt s.oldest x := by
  unfold BindsAt
  rw [getElem?_push, if_neg]
  · rfl
  · exact Nat.ne_of_lt s.pos

theorem Safe.push (h : s.Safe) (j : s.Id) : (s.push j).Safe := by
  intro i f hf x v hx
  rw [getElem?_push] at hf
  by_cases top : i = s.frames.size
  · rw [if_pos top] at hf
    cases hf
    cases hx
  · rw [if_neg top] at hf
    exact (h hf hx).mono fun _ => bindsAt_oldest_push.2

theorem bindsAt_oldest_pop (more : 1 < s.frames.size) {x : String} :
    s.pop.BindsAt s.pop.oldest x ↔ s.BindsAt s.oldest x := by
  unfold BindsAt
  rw [getElem?_pop more, if_pos]
  · rfl
  · exact Nat.sub_pos_of_lt more

theorem Safe.pop (h : s.Safe) (more : 1 < s.frames.size) : s.pop.Safe := by
  intro i f hf x v hx
  rw [getElem?_pop more] at hf
  split at hf
  · exact (h hf hx).mono fun _ => (bindsAt_oldest_pop more).2
  · cases hf

end Scopes

/-! ### Actions that do not fail because of a name -/

/-- Whether a run has stopped because of a name. -/
def Stop.IsAboutName : Stop → Prop
  | .error e => e.fault.IsAboutName
  | .outOfFuel => False

/-- Either something holds of the result and the frames at the end, or there is no result, but not
because of a name. -/
def Settled {α : Type} (Q : α → Scopes → Prop) (p : Except Stop α × Scopes) : Prop :=
  match p.1 with
  | .ok x => Q x p.2
  | .error stop => ¬ stop.IsAboutName

/-- Started with some frames, an action does not fail because of a name, and if it has a result,
something holds of the result and the frames at the end. -/
def Action.Ensures {α : Type} (a : Action α) (s : Scopes) (Q : α → Scopes → Prop) : Prop :=
  (a.on s).Ends (Settled Q)

namespace Action.Ensures

variable {α β : Type} {a : Action α} {s : Scopes} {P Q : α → Scopes → Prop}

theorem mono (h : a.Ensures s P) (sub : ∀ x t, P x t → Q x t) : a.Ensures s Q := by
  refine Dialogue.Ends.mono h ?_
  rintro ⟨_ | _, t⟩ hp
  · exact hp
  · exact sub _ _ hp

theorem pure {x : α} (h : Q x s) : (Pure.pure x : Action α).Ensures s Q := h

theorem bind {R : β → Scopes → Prop} {f : α → Action β} (h : a.Ensures s P)
    (next : ∀ x t, P x t → (f x).Ensures t R) : (a >>= f).Ensures s R := by
  unfold Ensures
  rw [on_bind, Dialogue.ends_bind]
  refine Dialogue.Ends.mono h ?_
  rintro ⟨result, t⟩ hp
  cases result with
  | ok x => exact next x t hp
  | error e => exact hp

/-- What an action binds is known beside what it ensures. -/
theorem gaining {D : List String} (h : a.Ensures s P) (gains : a.Gains D) :
    a.Ensures s fun x t => P x t ∧ s.Gains D t := by
  refine (Dialogue.Ends.and h (gains s)).mono ?_
  rintro ⟨_ | _, t⟩ ⟨hp, hg⟩
  · exact hp
  · exact ⟨hp, hg⟩

theorem fail {token : Token} {fault : RuntimeFault} (h : ¬ fault.IsAboutName) :
    (Action.fail token fault : Action α).Ensures s Q := h

theorem request {r : Request} {R : r.Answer → Scopes → Prop} (h : ∀ answer, R answer s) :
    (Action.request r).Ensures s R := h

theorem ofResult {token : Token} {result : Except RuntimeFault α} {R : α → Prop}
    (h : Proper R result) (sub : ∀ x, R x → Q x s) :
    (Action.ofResult token result).Ensures s Q := by
  cases result with
  | ok x => exact sub x h
  | error fault => exact h

theorem read {ident : Token} (safe : s.Safe) (sees : s.Sees ident.lexeme s.newest) :
    (Action.read ident).Ensures s fun v t => t.Safe ∧ v.Safe t := by
  obtain ⟨j, found⟩ := sees.resolve?
  obtain ⟨v, hv⟩ := Option.isSome_iff_exists.1 (Scopes.binds_of_resolve? found)
  unfold Ensures
  rw [on_read, Scopes.get, Scopes.find?, found, Option.bind_some, hv]
  exact ⟨safe, safe (s.getElem?_id j) hv⟩

theorem assign {ident : Token} {v : Value} (safe : s.Safe) (sees : s.Sees ident.lexeme s.newest)
    (hv : v.Safe s) : (Action.assign ident v).Ensures s fun _ t => t.Safe ∧ v.Safe t := by
  obtain ⟨j, found⟩ := sees.resolve?
  have gains : s.Gains [] (s.insert ident.lexeme v j) :=
    .insert v (.inl (Scopes.binds_of_resolve? found))
  unfold Ensures
  rw [on_assign, Scopes.assign, found]
  exact ⟨safe.insert gains (gains.safe hv), gains.safe hv⟩

/-- A declaration succeeds if its name is not bound in the newest frame, where it is then. -/
theorem define {ident : Token} {v : Value} (safe : s.Safe)
    (fresh : ¬ s.BindsAt s.newest ident.lexeme)
    (hv : ∀ t : Scopes, s.Gains [ident.lexeme] t → t.BindsAt t.newest ident.lexeme → v.Safe t) :
    (Action.define ident v).Ensures s fun _ t => t.Safe ∧ t.BindsAt t.newest ident.lexeme := by
  have gains : s.Gains [ident.lexeme] (s.insert ident.lexeme v s.newest) :=
    .insert v (.inr ⟨rfl, List.mem_singleton_self _⟩)
  have bound : (s.insert ident.lexeme v s.newest).BindsAt
      (s.insert ident.lexeme v s.newest).newest ident.lexeme := by
    rw [Scopes.newest_val, gains.size, ← Scopes.newest_val, Scopes.BindsAt, Scopes.insert,
      Scopes.getElem?_modify, if_pos rfl, Scopes.getElem?_id]
    exact ⟨_, rfl, (Bindings.binds_put ..).2 (.inl rfl)⟩
  unfold Ensures
  rw [on_define, Scopes.define, if_neg fun h => fresh (Scopes.bindsAt_iff.2 h)]
  exact ⟨safe.insert gains (hv _ gains bound), bound⟩

end Action.Ensures

/-! ### Ready to run -/

/-- Statements that keep to the rules with these globals and visible names can run: the names are
there, and stored functions keep to the rules as well. -/
structure Scopes.Ready (globals visible : List String) (s : Scopes) : Prop where
  safe : s.Safe
  globals : ∀ x ∈ globals, s.BindsAt s.oldest x
  visible : ∀ x ∈ visible, s.Sees x s.newest

/-- None of the names is bound in the newest frame. -/
def Scopes.Fresh (names : List String) (s : Scopes) : Prop :=
  ∀ x ∈ names, ¬ s.BindsAt s.newest x

/-- A statement that does not return has bound the names in the newest frame, and what a statement
returns is safe. -/
def Flow.Leaves (names : List String) (s : Scopes) : Flow → Prop
  | .normal => ∀ x ∈ names, s.BindsAt s.newest x
  | .returned v => v.Safe s

namespace Scopes

variable {D E globals visible : List String} {s t : Scopes}

theorem Gains.newest (h : s.Gains D t) : t.newest.val = s.newest.val := by
  simp only [newest_val, h.size]

namespace Ready

/-- What runs without changing more than values and newest names leaves everything ready. -/
theorem gains (h : s.Ready globals visible) (gains : s.Gains D t) (safe : t.Safe) :
    t.Ready globals visible where
  safe := safe
  globals x hx := gains.bindsAt (h.globals x hx)
  visible x hx := gains.newest ▸ gains.sees (h.visible x hx)

theorem mono (h : s.Ready globals visible) (sub : ∀ x ∈ E, x ∈ visible) : s.Ready globals E :=
  ⟨h.safe, h.globals, fun x hx => h.visible x (sub x hx)⟩

/-- Names bound in the newest frame are visible. -/
theorem declared (h : s.Ready globals visible) (bound : ∀ x ∈ D, s.BindsAt s.newest x) :
    s.Ready globals (D ++ visible) := by
  refine ⟨h.safe, h.globals, fun x hx => ?_⟩
  obtain hx | hx := List.mem_append.1 hx
  · exact .here (bound x hx)
  · exact h.visible x hx

theorem inBlock (h : s.Ready globals visible) : (s.push s.newest).Ready globals visible where
  safe := h.safe.push _
  globals x hx := bindsAt_oldest_push.2 (h.globals x hx)
  visible x hx := (h.visible x hx).push_newest

/-- In the frame of a call the globals are visible. -/
theorem inCall (safe : s.Safe) (bound : ∀ x ∈ globals, s.BindsAt s.oldest x) :
    (s.push s.oldest).Ready globals globals where
  safe := safe.push _
  globals x hx := bindsAt_oldest_push.2 (bound x hx)
  visible x hx := (Sees.here (bound x hx)).push_newest

end Ready

theorem fresh_push (names : List String) (j : s.Id) : (s.push j).Fresh names :=
  fun _ _ => not_bindsAt_push_newest j

/-- Names that have not been gained are as fresh as before. -/
theorem Fresh.gains (h : s.Fresh E) (gains : s.Gains D t) (apart : ∀ x ∈ D, ∀ y ∈ E, x ≠ y) :
    t.Fresh E := by
  intro x hx bound
  obtain old | new := gains.bindsAt_newest bound
  · exact h x hx old
  · exact apart x new x hx rfl

end Scopes

namespace Action.Ensures

variable {α : Type} {a : Action α} {s : Scopes} {D : List String} {S : α → Scopes → Prop}

/-- What runs in a frame of its own leaves behind what does not depend on that frame. -/
theorem within {j : s.Id} (h : a.Ensures (s.push j) fun x t => t.Safe ∧ S x t) (gains : a.Gains D)
    (close : ∀ x t, 1 < t.frames.size → S x t → S x t.pop) :
    (Action.within (fun _ => s.push j) a).Ensures s fun x t => t.Safe ∧ S x t := by
  unfold Ensures Action.within
  refine Dialogue.ends_bind.2 (Dialogue.Ends.mono (h.gaining gains) ?_)
  rintro ⟨result, t⟩ ht
  cases result with
  | error e => exact ht
  | ok x =>
    obtain ⟨⟨safe, hx⟩, grown⟩ := ht
    have more : 1 < t.frames.size := by
      rw [grown.size, Scopes.size_push]
      exact Nat.succ_lt_succ s.pos
    exact ⟨safe.pop more, close x t more hx⟩

/-- Parameters of different names can be created in a new frame, and are visible then. -/
theorem bindParams {params : List Token} {args : List Value} {globals visible : List String}
    (ready : s.Ready globals visible) (fresh : s.Fresh (params.map Token.lexeme))
    (distinct : (params.map Token.lexeme).Nodup) (safe : ∀ v ∈ args, v.Safe s)
    (length : args.length = params.length) :
    (bindParams params args).Ensures s fun _ t =>
      t.Ready globals (params.map Token.lexeme ++ visible) := by
  induction params generalizing args s visible with
  | nil => exact Ensures.pure ready
  | cons param params ih =>
    cases args with
    | nil => cases length
    | cons arg args =>
      rw [List.map_cons, List.nodup_cons] at distinct
      have name : param.lexeme ∈ (param :: params).map Token.lexeme := List.mem_cons_self ..
      have first := (Ensures.define ready.safe (fresh _ name) fun t gains _ =>
        gains.safe (safe arg (List.mem_cons_self ..))).gaining
          (Action.Gains.define param arg (List.mem_singleton_self _))
      refine first.bind fun _ t ⟨⟨hsafe, bound⟩, gains⟩ => ?_
      have visible' : t.Ready globals ([param.lexeme] ++ visible) :=
        (ready.gains gains hsafe).declared fun x hx => List.mem_singleton.1 hx ▸ bound
      have fresh' : t.Fresh (params.map Token.lexeme) := by
        refine Scopes.Fresh.gains (fun x hx => fresh x (List.mem_cons_of_mem _ hx)) gains ?_
        rintro x hx y hy rfl
        exact distinct.1 (List.mem_singleton.1 hx ▸ hy)
      refine (ih visible' fresh' distinct.2 (fun v hv => gains.safe (safe v ?_)) ?_).mono ?_
      · exact List.mem_cons_of_mem _ hv
      · exact Nat.succ.inj length
      · intro _ t' ready'
        refine ready'.mono fun x hx => ?_
        rw [List.map_cons, List.cons_append, List.mem_cons, List.mem_append] at hx
        obtain rfl | hx | hx := hx
        · simp
        · simp [hx]
        · simp [hx]

end Action.Ensures

/-! ### The evaluator -/

/-- With some fuel the evaluator does not fail because of a name, where the scoping rules are kept
to, and stores nothing but functions that keep to them. -/
structure KeepsRules (n : Nat) : Prop where
  exec : ∀ {u : Nat} {globals visible : List String} {stmt : Stmt} {s : Scopes}, stmt.Tidy →
    stmt.Scoped globals visible → s.Ready globals visible → s.Fresh stmt.declares →
    (exec n u stmt).Ensures s fun flow t => t.Safe ∧ flow.Leaves stmt.declares t
  execAll : ∀ {u : Nat} {globals visible : List String} {stmts : List Stmt} {s : Scopes},
    Stmt.AllTidy stmts → Stmt.AllScoped globals visible stmts → s.Ready globals visible →
    s.Fresh (Stmt.allDeclare stmts) → (Stmt.allDeclare stmts).Nodup →
    (execAll n u stmts).Ensures s fun flow t => t.Safe ∧ flow.Leaves [] t
  eval : ∀ {u : Nat} {globals visible : List String} {e : Expr} {s : Scopes}, e.Scoped visible →
    s.Ready globals visible → (eval n u e).Ensures s fun v t => t.Safe ∧ v.Safe t
  evalAll : ∀ {u : Nat} {globals visible : List String} {es : List Expr} {s : Scopes},
    Expr.allUse es ⊆ visible → s.Ready globals visible →
    (evalAll n u es).Ensures s fun vs t => t.Safe ∧ ∀ v ∈ vs, v.Safe t
  call : ∀ {f : Callable} {args : List Value} {paren : Token} {s : Scopes}, s.Safe →
    (Value.callable f).Safe s → (∀ v ∈ args, v.Safe s) → args.length = f.arity →
    (call n f args paren).Ensures s fun v t => t.Safe ∧ v.Safe t

namespace KeepsRules

theorem outOfFuel {α : Type} {s : Scopes} {Q : α → Scopes → Prop} :
    (throw .outOfFuel : Action α).Ensures s Q := not_false

theorem zero : KeepsRules 0 where
  exec _ _ _ _ := outOfFuel
  execAll _ _ _ _ _ := outOfFuel
  eval _ _ := outOfFuel
  evalAll _ _ := outOfFuel
  call _ _ _ _ := outOfFuel

variable {n : Nat} (h : KeepsRules n) {globals visible : List String} {s : Scopes}
include h

/-- An expression is evaluated where everything is ready, and everything is ready afterwards. -/
theorem eval_ready {u : Nat} {e : Expr} (scope : e.Scoped visible)
    (ready : s.Ready globals visible) :
    (ScriptLang.eval n u e).Ensures s fun v t =>
      (t.Ready globals visible ∧ v.Safe t) ∧ s.Gains [] t := by
  refine ((h.eval scope ready).gaining (eval_gains n u e)).mono ?_
  rintro v t ⟨⟨safe, hv⟩, gains⟩
  exact ⟨⟨ready.gains gains safe, hv⟩, gains⟩

theorem eval_succ {u : Nat} {e : Expr} (scope : e.Scoped visible)
    (ready : s.Ready globals visible) :
    (ScriptLang.eval (n + 1) u e).Ensures s fun v t => t.Safe ∧ v.Safe t := by
  cases e with
  | constant c => exact Action.Ensures.pure ⟨ready.safe, (Value.isPlain_ofConstant c).safe s⟩
  | group inner => exact h.eval scope ready
  | name ident => exact .read ready.safe (ready.visible _ (scope (List.mem_singleton_self _)))
  | assign ident value =>
    obtain ⟨hident, hvalue⟩ := List.cons_subset.1 scope
    refine (h.eval_ready hvalue ready).bind fun v t ⟨⟨ready', hv⟩, _⟩ => ?_
    exact (Action.Ensures.assign ready'.safe (ready'.visible _ hident) hv).bind
      fun _ _ ht => Action.Ensures.pure ht
  | logical op left right =>
    obtain ⟨hl, hr⟩ := List.append_subset.1 scope
    refine (h.eval_ready hl ready).bind fun v t ⟨⟨ready', hv⟩, _⟩ => ?_
    split
    · exact Action.Ensures.pure ⟨ready'.safe, hv⟩
    · exact h.eval hr ready'
  | unary op operand =>
    have scope' : operand.Scoped visible := scope
    refine (h.eval scope' ready).bind fun v t ⟨safe, _⟩ => ?_
    exact .ofResult (applyUnary_proper op v) fun w plain => ⟨safe, plain.safe t⟩
  | binary op left right =>
    obtain ⟨hl, hr⟩ := List.append_subset.1 scope
    refine (h.eval_ready hl ready).bind fun v t ⟨⟨ready', _⟩, _⟩ => ?_
    refine (h.eval hr ready').bind fun w t' ⟨safe, _⟩ => ?_
    exact .ofResult (applyBinary_proper op v w) fun _ plain => ⟨safe, plain.safe t'⟩
  | call callee paren args =>
    obtain ⟨hc, ha⟩ := List.append_subset.1 scope
    refine (h.eval_ready hc ready).bind fun v t ⟨⟨ready', hv⟩, _⟩ => ?_
    cases v with
    | callable f =>
      refine ((h.evalAll ha ready').gaining ((bindsDeclared n).evalAll u args)).bind ?_
      rintro vs t' ⟨⟨safe, hvs⟩, gains⟩
      split
      · exact h.call safe (gains.safe hv) hvs ‹_›
      · exact .fail not_false
    | _ => exact .fail not_false

theorem evalAll_succ {u : Nat} {es : List Expr} (scope : Expr.allUse es ⊆ visible)
    (ready : s.Ready globals visible) :
    (ScriptLang.evalAll (n + 1) u es).Ensures s fun vs t => t.Safe ∧ ∀ v ∈ vs, v.Safe t := by
  cases es with
  | nil => exact Action.Ensures.pure ⟨ready.safe, fun _ hv => nomatch hv⟩
  | cons e later =>
    obtain ⟨he, hlater⟩ := List.append_subset.1 scope
    refine (h.eval_ready he ready).bind fun v t ⟨⟨ready', hv⟩, _⟩ => ?_
    refine ((h.evalAll hlater ready').gaining ((bindsDeclared n).evalAll u later)).bind ?_
    rintro vs t' ⟨⟨safe, hvs⟩, gains⟩
    refine Action.Ensures.pure ⟨safe, fun w hw => ?_⟩
    obtain rfl | hw := List.mem_cons.1 hw
    · exact gains.safe hv
    · exact hvs w hw

theorem call_succ {f : Callable} {args : List Value} {paren : Token} (safe : s.Safe)
    (hf : (Value.callable f).Safe s) (ha : ∀ v ∈ args, v.Safe s) (length : args.length = f.arity) :
    (ScriptLang.call (n + 1) f args paren).Ensures s fun v t => t.Safe ∧ v.Safe t := by
  cases f with
  | builtin b =>
    unfold Action.Ensures
    refine (Action.on_callBuiltin b args paren s).symm ▸ Dialogue.ends_bind.2 ?_
    refine (b.run_proper args).mono fun result proper => ?_
    cases result with
    | ok v => exact ⟨safe, proper.safe s⟩
    | error fault => exact proper
  | user f =>
    obtain ⟨globals, bound, distinct, scope, tidy⟩ := hf
    have ready := Scopes.Ready.inCall safe bound
    have fresh := Scopes.fresh_push (f.decl.params.map Token.lexeme ++ Stmt.allDeclare f.decl.body)
      s.oldest
    obtain ⟨params, body, apart⟩ := List.nodup_append.1 distinct
    have args_safe : ∀ v ∈ args, v.Safe (s.push s.oldest) := fun v hv =>
      (ha v hv).mono fun _ => Scopes.bindsAt_oldest_push.2
    refine .within ?_ ((bindsDeclared n).callBody f args) fun v t more hv =>
      hv.mono fun _ => (Scopes.bindsAt_oldest_pop more).2
    have bind := (Action.Ensures.bindParams ready (fun x hx => fresh x (List.mem_append_left _ hx))
      params args_safe length).gaining (Action.Gains.bindParams f.decl.params args)
    refine bind.bind fun _ t ⟨ready', grown⟩ => ?_
    have fresh' : t.Fresh (Stmt.allDeclare f.decl.body) :=
      Scopes.Fresh.gains (fun x hx => fresh x (List.mem_append_right _ hx)) grown apart
    refine (h.execAll tidy scope ready' fresh' body).bind fun flow t' ⟨safe', hflow⟩ => ?_
    cases flow with
    | returned v => exact Action.Ensures.pure ⟨safe', hflow⟩
    | normal => exact Action.Ensures.pure ⟨safe', trivial⟩

theorem execAll_succ {u : Nat} {stmts : List Stmt} (tidy : Stmt.AllTidy stmts)
    (scope : Stmt.AllScoped globals visible stmts) (ready : s.Ready globals visible)
    (fresh : s.Fresh (Stmt.allDeclare stmts)) (distinct : (Stmt.allDeclare stmts).Nodup) :
    (ScriptLang.execAll (n + 1) u stmts).Ensures s fun flow t => t.Safe ∧ flow.Leaves [] t := by
  cases stmts with
  | nil => exact Action.Ensures.pure ⟨ready.safe, fun _ hx => nomatch hx⟩
  | cons stmt later =>
    obtain ⟨_, hlater, apart⟩ := List.nodup_append.1 distinct
    have first := (h.exec (u := u) tidy.1 scope.1 ready fun x hx =>
      fresh x (List.mem_append_left _ hx)).gaining (exec_gains n u stmt)
    refine first.bind fun flow t ⟨⟨safe, hflow⟩, gains⟩ => ?_
    cases flow with
    | returned v => exact Action.Ensures.pure ⟨safe, hflow⟩
    | normal =>
      have fresh' : t.Fresh (Stmt.allDeclare later) :=
        Scopes.Fresh.gains (fun x hx => fresh x (List.mem_append_right _ hx)) gains apart
      exact h.execAll tidy.2 scope.2 ((ready.gains gains safe).declared hflow) fresh' hlater

theorem exec_succ {u : Nat} {stmt : Stmt} (tidy : stmt.Tidy) (scope : stmt.Scoped globals visible)
    (ready : s.Ready globals visible) (fresh : s.Fresh stmt.declares) :
    (ScriptLang.exec (n + 1) u stmt).Ensures s fun flow t =>
      t.Safe ∧ flow.Leaves stmt.declares t := by
  cases stmt with
  | expression e =>
    have scope' : e.Scoped visible := scope
    refine (h.eval scope' ready).bind fun v t ⟨safe, _⟩ => ?_
    exact Action.Ensures.pure ⟨safe, fun _ hx => nomatch hx⟩
  | print word e =>
    have scope' : e.Scoped visible := scope
    refine (h.eval scope' ready).bind fun v t ⟨safe, _⟩ => ?_
    refine Action.Ensures.bind (P := fun _ t' => t'.Safe)
      (Action.Ensures.request fun _ => safe) fun answer t' safe' => ?_
    cases answer with
    | ok _ => exact Action.Ensures.pure ⟨safe', fun _ hx => nomatch hx⟩
    | error why => exact .fail not_false
  | var ident init =>
    have unbound := fresh _ (List.mem_singleton_self _)
    cases init with
    | none =>
      refine (Action.Ensures.define (v := .nil) ready.safe unbound fun _ _ _ => trivial).bind ?_
      rintro _ t ⟨safe, bound⟩
      exact Action.Ensures.pure ⟨safe, fun x hx => List.mem_singleton.1 hx ▸ bound⟩
    | some e =>
      refine (h.eval_ready (scope e rfl) ready).bind fun v t ⟨⟨ready', hv⟩, gains⟩ => ?_
      have unbound' := Scopes.Fresh.gains fresh gains (fun _ hx => nomatch hx) _
        (List.mem_singleton_self _)
      refine (Action.Ensures.define ready'.safe unbound' fun _ gains' _ => gains'.safe hv).bind ?_
      rintro _ t' ⟨safe, bound⟩
      exact Action.Ensures.pure ⟨safe, fun x hx => List.mem_singleton.1 hx ▸ bound⟩
  | block body =>
    refine .within ?_ (execAll_gains n u body) fun flow t more hflow => ?_
    · exact h.execAll tidy scope.2 ready.inBlock (Scopes.fresh_push _ _) scope.1
    · cases flow with
      | normal => exact fun _ hx => nomatch hx
      | returned v => exact Value.Safe.mono hflow fun _ => (Scopes.bindsAt_oldest_pop more).2
  | branch condition yes no =>
    cases no with
    | none =>
      refine (h.eval_ready scope.1 ready).bind fun v t ⟨⟨ready', _⟩, gains⟩ => ?_
      have fresh' := Scopes.Fresh.gains fresh gains (fun _ hx => nomatch hx)
      split
      · exact h.exec tidy.2 scope.2 ready' fresh'
      · refine Action.Ensures.pure ⟨ready'.safe, fun x hx => ?_⟩
        rw [Stmt.declares, tidy.1] at hx
        cases hx
    | some no =>
      refine (h.eval_ready scope.1 ready).bind fun v t ⟨⟨ready', _⟩, gains⟩ => ?_
      have none : (Stmt.branch condition yes (some no)).declares = [] := by
        rw [Stmt.declares, tidy.1.1, tidy.2.1, List.append_nil]
      rw [none]
      split
      · exact tidy.1.1 ▸ h.exec tidy.1.2 scope.2.1 ready' (tidy.1.1 ▸ fun _ hx => nomatch hx)
      · exact tidy.2.1 ▸ h.exec tidy.2.2 scope.2.2 ready' (tidy.2.1 ▸ fun _ hx => nomatch hx)
  | loop condition body =>
    have none : (Stmt.loop condition body).declares = [] := tidy.1
    refine (h.eval_ready scope.1 ready).bind fun v t ⟨⟨ready', _⟩, gains⟩ => ?_
    have fresh' := Scopes.Fresh.gains fresh gains (fun _ hx => nomatch hx)
    split
    · have turn := (h.exec (u := u) tidy.2 scope.2 ready' fresh').gaining (exec_gains n u body)
      refine turn.bind fun flow t' ⟨⟨safe, hflow⟩, gains'⟩ => ?_
      cases flow with
      | returned v => exact Action.Ensures.pure ⟨safe, hflow⟩
      | normal =>
        exact h.exec tidy scope (ready'.gains gains' safe) (none ▸ fun _ hx => nomatch hx)
    · refine Action.Ensures.pure ⟨ready'.safe, fun x hx => ?_⟩
      rw [none] at hx
      cases hx
  | function ident params body =>
    have unbound := fresh _ (List.mem_singleton_self _)
    have made (t : Scopes) (gains : s.Gains [ident.lexeme] t) :
        Value.Safe t (.callable (.user ⟨u, ident, params, body⟩)) :=
      ⟨globals, fun x hx => gains.bindsAt (ready.globals x hx), scope.1, scope.2, tidy⟩
    refine (Action.Ensures.define ready.safe unbound fun t gains _ => made t gains).bind ?_
    rintro _ t ⟨safe, bound⟩
    exact Action.Ensures.pure ⟨safe, fun x hx => List.mem_singleton.1 hx ▸ bound⟩
  | ret word value =>
    cases value with
    | none => exact Action.Ensures.pure ⟨ready.safe, trivial⟩
    | some e =>
      refine (h.eval (scope e rfl) ready).bind fun v t ⟨safe, hv⟩ => ?_
      exact Action.Ensures.pure ⟨safe, hv⟩

/-- One more step. -/
theorem succ : KeepsRules (n + 1) :=
  ⟨h.exec_succ, h.execAll_succ, h.eval_succ, h.evalAll_succ, h.call_succ⟩

end KeepsRules

/-- Where the scoping rules are kept to, the evaluator does not fail because of a name. -/
theorem keepsRules (n : Nat) : KeepsRules n := by
  induction n with
  | zero => exact .zero
  | succ n ih => exact ih.succ

/-! ### The top level -/

/-- At the top level a function may use its own name, which is a global once it is declared. -/
theorem exec_top {n u : Nat} {globals : List String} {stmt : Stmt} {s : Scopes}
    (single : s.frames.size = 1) (tidy : stmt.Tidy)
    (scope : stmt.Scoped (stmt.ownName ++ globals) globals) (ready : s.Ready globals globals)
    (fresh : s.Fresh stmt.declares) :
    (exec n u stmt).Ensures s fun flow t => t.Safe ∧ flow.Leaves stmt.declares t := by
  cases stmt with
  | function ident params body =>
    cases n with
    | zero => exact KeepsRules.outOfFuel
    | succ n =>
      have unbound := fresh _ (List.mem_singleton_self _)
      have made (t : Scopes) (gains : s.Gains [ident.lexeme] t)
          (bound : t.BindsAt t.newest ident.lexeme) :
          Value.Safe t (.callable (.user ⟨u, ident, params, body⟩)) := by
        refine ⟨ident.lexeme :: globals, fun x hx => ?_, scope.1, scope.2, tidy⟩
        have oldest : t.newest = t.oldest :=
          Scopes.newest_eq_oldest (gains.size.trans single)
        obtain rfl | hx := List.mem_cons.1 hx
        · exact oldest ▸ bound
        · exact gains.bindsAt (ready.globals x hx)
      refine (Action.Ensures.define ready.safe unbound made).bind ?_
      rintro _ t ⟨safe, bound⟩
      exact Action.Ensures.pure ⟨safe, fun x hx => List.mem_singleton.1 hx ▸ bound⟩
  | _ => exact (keepsRules n).exec tidy scope ready fresh

/-- The statements of a script that keeps to the rules do not fail because of a name. -/
theorem execAll_top {n u : Nat} {globals : List String} {stmts : List Stmt} {s : Scopes}
    (single : s.frames.size = 1) (tidy : Stmt.AllTidy stmts)
    (scope : Stmt.TopScoped globals stmts) (ready : s.Ready globals globals)
    (fresh : s.Fresh (Stmt.allDeclare stmts)) (distinct : (Stmt.allDeclare stmts).Nodup) :
    (execAll n u stmts).Ensures s fun _ t => t.Safe := by
  induction stmts generalizing n globals s with
  | nil =>
    cases n with
    | zero => exact KeepsRules.outOfFuel
    | succ n => exact Action.Ensures.pure ready.safe
  | cons stmt later ih =>
    cases n with
    | zero => exact KeepsRules.outOfFuel
    | succ n =>
      obtain ⟨_, hlater, apart⟩ := List.nodup_append.1 distinct
      have first := (exec_top (n := n) (u := u) single tidy.1 scope.1 ready fun x hx =>
        fresh x (List.mem_append_left _ hx)).gaining (exec_gains n u stmt)
      refine first.bind fun flow t ⟨⟨safe, hflow⟩, gains⟩ => ?_
      cases flow with
      | returned v => exact Action.Ensures.pure safe
      | normal =>
        have single' : t.frames.size = 1 := gains.size.trans single
        have oldest : t.newest = t.oldest := Scopes.newest_eq_oldest single'
        have ready' : t.Ready (stmt.declares ++ globals) (stmt.declares ++ globals) := by
          refine ⟨safe, fun x hx => ?_, ((ready.gains gains safe).declared hflow).visible⟩
          obtain hx | hx := List.mem_append.1 hx
          · exact oldest ▸ hflow x hx
          · exact gains.bindsAt (ready.globals x hx)
        have fresh' : t.Fresh (Stmt.allDeclare later) :=
          Scopes.Fresh.gains (fun x hx => fresh x (List.mem_append_right _ hx)) gains apart
        exact ih single' tidy.2 scope.2 ready' fresh' hlater

/-! ### Sessions -/

/-- Faults of the kinds that are about names are those about names. -/
theorem RuntimeFault.kind_ne_of_not_isAboutName {fault : RuntimeFault} (h : ¬ fault.IsAboutName) :
    fault.kind ≠ .undefinedVariable ∧ fault.kind ≠ .redefinition := by
  cases fault with
  | undefinedVariable name | redefinition name => exact absurd trivial h
  | _ => exact ⟨nofun, nofun⟩

namespace Session

theorem start_single : start.scopes.frames.size = 1 := rfl

/-- At the start of a session exactly the built-in functions are bound. -/
theorem start_binds {x : String} :
    start.scopes.BindsAt start.scopes.oldest x ↔ x ∈ Builtin.names := by
  rw [Scopes.bindsAt_iff]
  constructor
  · intro bound
    obtain ⟨v, hv⟩ := Option.isSome_iff_exists.1 bound
    obtain ⟨b, hb, pair⟩ := List.mem_map.1 (Bindings.mem_of_find? hv)
    exact List.mem_map.2 ⟨b, hb, congrArg Prod.fst pair⟩
  · intro mem
    have all : ∀ name ∈ Builtin.names,
        (start.scopes.bindings start.scopes.oldest).binds name = true := by decide
    exact all x mem

/-- At the start of a session the built-in functions are ready to be used. -/
theorem start_ready : start.scopes.Ready Builtin.names Builtin.names where
  safe i f hf x v hv := by
    obtain rfl : i = 0 := Nat.lt_one_iff.1 (Array.getElem?_eq_some_iff.1 hf).1
    cases hf
    obtain ⟨b, _, pair⟩ := List.mem_map.1 (Bindings.mem_of_find? hv)
    cases pair
    trivial
  globals _ hx := start_binds.2 hx
  visible _ hx := .here (start_binds.2 hx)

/-- A script that keeps to the scoping rules never fails because of a name: run in a new session,
with any listings and any answers of the host, it does not end with a runtime error about an
undefined variable or about a variable that is defined already. -/
theorem run_wellScoped {source : String} (faultless : Faultless source)
    (scope : WellScoped (Script.ofTokens (scan source).tokens).stmts) (fuel : Nat)
    (listings : Listings) :
    ((run fuel listings source).on start).Ends fun p =>
      ∀ e, p.1 = .error (.runtime e) →
        e.kind ≠ .undefinedVariable ∧ e.kind ≠ .redefinition := by
  refine run_ends faultless fuel listings ?_ ?_
  · intro why t e he
    cases he
  rw [on_runStmts, Dialogue.ends_bind]
  obtain ⟨distinct, _, apart⟩ := List.nodup_append.1 scope.distinct
  have tidy : Stmt.AllTidy (Script.ofTokens (scan source).tokens).stmts := by
    have read := faultless.read
    rw [tokens_scan] at read ⊢
    exact (Script.ofTokens_sound (fun _ => kind_ne_eof_of_mem_scanInner) rfl read).tidy
  have fresh : start.scopes.Fresh (Stmt.allDeclare (Script.ofTokens (scan source).tokens).stmts) :=
    fun x hx bound => apart x hx x (start_binds.1 bound) rfl
  have sound := execAll_top (n := fuel) (u := start.units) (s := start.scopes) start_single tidy
    scope.visible start_ready fresh distinct
  refine Dialogue.Ends.mono sound ?_
  rintro ⟨result, t⟩ ht e he
  cases result with
  | ok flow => cases he
  | error stop =>
    cases stop with
    | outOfFuel => cases he
    | error e' =>
      cases he
      exact RuntimeFault.kind_ne_of_not_isAboutName ht

/-- A script whose function uses an earlier variable and its own name, and declares a variable in
every turn of a loop. -/
def waiting : String :=
  "var end; fun wait4(t) \x7b while (t < end) \x7b var t = end; \x7d wait4(t); \x7d wait4(end);"

/-- The script keeps to the scoping rules, so it never fails because of a name. -/
theorem run_waiting :
    ((run 99 {} waiting).on start).Ends fun p =>
      ∀ e, p.1 = .error (.runtime e) →
        e.kind ≠ .undefinedVariable ∧ e.kind ≠ .redefinition := by
  have faultless : Faultless waiting := ⟨by cbv, by cbv⟩
  have scope : WellScoped (Script.ofTokens (scan waiting).tokens).stmts :=
    of_decide_eq_true (by cbv)
  exact run_wellScoped faultless scope 99 {}

end Session

end ScriptLang

import ScriptLang.Proofs.Action
import ScriptLang.Proofs.Frames

/-!
# Names that a run binds

Only declarations bind names, and they bind them in the newest frame.  Whatever is evaluated or run,
and however it ends, the frames open before are still open and linked as before, and all of them
but the newest one bind the same names.

## Main definitions

* `Stmt.declares` — the names that a statement may bind
* `Scopes.Gains` — the same open frames, with more names in the newest one

## Main results

* `exec_gains`, `execAll_gains` — statements bind no more than they declare
* `eval_gains`, `call_gains` — expressions and calls bind nothing
-/

namespace ScriptLang

/-- The names that a statement may bind in the frame in which it runs. -/
def Stmt.declares : Stmt → List String
  | .var ident _ | .function ident _ _ => [ident.lexeme]
  | .branch _ yes none => yes.declares
  | .branch _ yes (some no) => yes.declares ++ no.declares
  | .loop _ body => body.declares
  | .expression _ | .print .. | .block _ | .ret .. => []

/-- The names that statements may bind in the frame in which they run. -/
def Stmt.allDeclare (stmts : List Stmt) : List String :=
  stmts.flatMap Stmt.declares

@[simp] theorem Stmt.allDeclare_cons (stmt : Stmt) (later : List Stmt) :
    allDeclare (stmt :: later) = stmt.declares ++ allDeclare later := rfl

theorem Bindings.binds_put (b : Bindings) (name : String) (value : Value) (x : String) :
    (b.put name value).binds x = true ↔ x = name ∨ b.binds x = true := by
  unfold Bindings.binds
  by_cases h : x = name
  · subst h
    simp
  · simp [find?_put_of_ne b value h, h]

/-! ### Frames with more names -/

/-- The same frame, with names of `D` bound beside those that were bound before. -/
structure Frame.Gains (D : List String) (f f' : Frame) : Prop where
  enclosing : f'.enclosing = f.enclosing
  kept : ∀ {x : String}, f.bindings.binds x = true → f'.bindings.binds x = true
  new : ∀ {x : String}, f'.bindings.binds x = true → f.bindings.binds x = true ∨ x ∈ D

namespace Frame.Gains

variable {D E : List String} {f g h : Frame}

theorem refl (D : List String) (f : Frame) : f.Gains D f :=
  ⟨rfl, id, .inl⟩

theorem mono (gains : f.Gains D g) (sub : ∀ x ∈ D, x ∈ E) : f.Gains E g :=
  ⟨gains.enclosing, gains.kept, fun hx => (gains.new hx).imp_right (sub _)⟩

theorem trans (first : f.Gains D g) (second : g.Gains D h) : f.Gains D h where
  enclosing := second.enclosing.trans first.enclosing
  kept hx := second.kept (first.kept hx)
  new hx := (second.new hx).elim first.new .inr

end Frame.Gains

/-- The same open frames, of which the newest one alone binds more names, namely some of `D`. -/
structure Scopes.Gains (D : List String) (s t : Scopes) : Prop where
  size : t.frames.size = s.frames.size
  frame : ∀ i : Nat, Option.Rel (Frame.Gains (if i + 1 = s.frames.size then D else []))
    s.frames[i]? t.frames[i]?

namespace Scopes.Gains

variable {D E : List String} {s t u : Scopes}

theorem refl (D : List String) (s : Scopes) : s.Gains D s := by
  refine ⟨rfl, fun i => ?_⟩
  cases s.frames[i]? with
  | none => exact .none
  | some f => exact .some (.refl _ f)

theorem mono (gains : s.Gains D t) (sub : ∀ x ∈ D, x ∈ E) : s.Gains E t := by
  refine ⟨gains.size, fun i => ?_⟩
  have frame := gains.frame i
  generalize s.frames[i]? = f at frame ⊢
  generalize t.frames[i]? = g at frame ⊢
  cases frame with
  | none => exact .none
  | some h =>
    refine .some (h.mono fun x hx => ?_)
    split at hx
    · rw [if_pos ‹_›]
      exact sub x hx
    · cases hx

theorem weaken (gains : s.Gains [] t) : s.Gains D t :=
  gains.mono fun _ hx => nomatch hx

theorem trans (first : s.Gains D t) (second : t.Gains D u) : s.Gains D u := by
  refine ⟨second.size.trans first.size, fun i => ?_⟩
  have frame := first.frame i
  have frame' := second.frame i
  rw [first.size] at frame'
  generalize s.frames[i]? = f at frame ⊢
  generalize t.frames[i]? = g at frame frame'
  generalize u.frames[i]? = h at frame' ⊢
  cases frame with
  | none =>
    cases frame'
    exact .none
  | some h₁ =>
    cases frame' with
    | some h₂ => exact .some (h₁.trans h₂)

/-- What a frame of its own gains is gone when it is closed. -/
theorem pop {i : s.Id} (gains : (s.push i).Gains D t) : s.Gains [] t.pop := by
  have size := gains.size
  rw [Scopes.size_push] at size
  have pos := s.pos
  have more : 1 < t.frames.size := by omega
  refine ⟨by rw [Scopes.size_pop more, size, Nat.add_sub_cancel], fun j => ?_⟩
  have frame := gains.frame j
  rw [Scopes.size_push, Scopes.getElem?_push] at frame
  rw [Scopes.getElem?_pop more, size, Nat.add_sub_cancel]
  by_cases old : j < s.frames.size
  · rw [if_neg (by omega), if_neg (by omega)] at frame
    rw [if_pos old, ite_self]
    exact frame
  · rw [if_neg old, Array.getElem?_eq_none (Nat.not_lt.1 old)]
    exact .none

/-- A name may be given a value where it is bound, and names of `D` also in the newest frame. -/
theorem insert {name : String} {j : s.Id} (value : Value)
    (h : (s.bindings j).binds name = true ∨ j = s.newest ∧ name ∈ D) :
    s.Gains D (s.insert name value j) := by
  refine ⟨Scopes.size_modify .., fun i => ?_⟩
  rw [Scopes.insert, Scopes.getElem?_modify]
  by_cases here : j.val = i
  · subst here
    rw [if_pos rfl, Scopes.getElem?_id]
    refine .some ⟨rfl, fun hx => (Bindings.binds_put ..).2 (.inr hx), fun hx => ?_⟩
    obtain rfl | hx := (Bindings.binds_put ..).1 hx
    · obtain bound | ⟨rfl, mem⟩ := h
      · exact .inl bound
      · rw [if_pos (by rw [Scopes.newest_val, Nat.sub_add_cancel s.pos])]
        exact .inr mem
    · exact .inl hx
  · rw [if_neg here]
    exact (refl D s).frame i

end Scopes.Gains

/-! ### Actions -/

/-- However the action ends, the newest frame alone binds more names than before, some of `D`. -/
def Action.Gains {α : Type} (D : List String) (a : Action α) : Prop :=
  ∀ s, (a.on s).Ends fun p => s.Gains D p.2

namespace Action.Gains

variable {α β : Type} {D E : List String} {a : Action α}

theorem mono (h : a.Gains D) (sub : ∀ x ∈ D, x ∈ E) : a.Gains E :=
  fun s => (h s).mono fun _ hp => hp.mono sub

theorem weaken (h : a.Gains []) : a.Gains D :=
  fun s => (h s).mono fun _ hp => hp.weaken

/-- What leaves the frames as they are binds nothing. -/
theorem of_done (h : ∀ s, ∃ r, a.on s = .done (r, s)) : a.Gains D := by
  intro s
  obtain ⟨r, hr⟩ := h s
  rw [hr]
  exact .refl D s

theorem pure (x : α) : (Pure.pure x : Action α).Gains D :=
  fun s => .refl D s

theorem throw (e : Stop) : (MonadExcept.throw e : Action α).Gains D :=
  fun s => .refl D s

theorem bind {f : α → Action β} (h : a.Gains D) (next : ∀ x, (f x).Gains D) :
    (a >>= f).Gains D := by
  intro s
  rw [Action.on_bind, Dialogue.ends_bind]
  refine (h s).mono ?_
  rintro ⟨result, t⟩ hst
  cases result with
  | ok x => exact (next x t).mono fun _ htu => hst.trans htu
  | error e => exact hst

theorem request (r : Request) : (Action.request r).Gains D :=
  fun s _ => .refl D s

theorem assign (ident : Token) (value : Value) : (Action.assign ident value).Gains D := by
  intro s
  rw [Action.on_assign, Scopes.assign]
  split
  · rename_i j found
    exact .insert value (.inl (Scopes.binds_of_resolve? found))
  · exact .refl D s

theorem define (ident : Token) (value : Value) (mem : ident.lexeme ∈ D) :
    (Action.define ident value).Gains D := by
  intro s
  rw [Action.on_define, Scopes.define]
  split
  · exact .refl D s
  · exact .insert value (.inr ⟨rfl, mem⟩)

theorem inBlock (h : a.Gains E) : (Action.inBlock a).Gains D := by
  intro s
  rw [Action.on_inBlock, Dialogue.ends_bind]
  exact (h _).mono fun _ hp => hp.pop.weaken

theorem inCall (h : a.Gains E) : (Action.inCall a).Gains D := by
  intro s
  rw [Action.on_inCall, Dialogue.ends_bind]
  exact (h _).mono fun _ hp => hp.pop.weaken

theorem callBuiltin (b : Builtin) (args : List Value) (paren : Token) :
    (callBuiltin b args paren).Gains D := by
  intro s
  rw [Action.on_callBuiltin]
  exact Dialogue.ends_behind fun _ => .refl D s

theorem bindParams (params : List Token) (args : List Value) :
    (bindParams params args).Gains (params.map Token.lexeme) := by
  induction params generalizing args with
  | nil => exact pure ()
  | cons param params ih =>
    cases args with
    | nil => exact pure ()
    | cons arg args =>
      refine (define param arg (List.mem_cons_self ..)).bind fun _ => ?_
      exact (ih args).mono fun _ hx => List.mem_cons_of_mem _ hx

end Action.Gains

/-! ### The evaluator -/

/-- With some fuel the evaluator binds no more than what is declared. -/
structure BindsDeclared (n : Nat) : Prop where
  exec : ∀ (u : Nat) (stmt : Stmt), (exec n u stmt).Gains stmt.declares
  execAll : ∀ (u : Nat) (stmts : List Stmt), (execAll n u stmts).Gains (Stmt.allDeclare stmts)
  eval : ∀ (u : Nat) (e : Expr), (eval n u e).Gains []
  evalAll : ∀ (u : Nat) (es : List Expr), (evalAll n u es).Gains []
  call : ∀ (f : Callable) (args : List Value) (paren : Token), (call n f args paren).Gains []

namespace BindsDeclared

theorem zero : BindsDeclared 0 where
  exec _ _ := .throw .outOfFuel
  execAll _ _ := .throw .outOfFuel
  eval _ _ := .throw .outOfFuel
  evalAll _ _ := .throw .outOfFuel
  call _ _ _ := .throw .outOfFuel

variable {n : Nat} (h : BindsDeclared n)
include h

theorem exec_succ (u : Nat) (stmt : Stmt) :
    (ScriptLang.exec (n + 1) u stmt).Gains stmt.declares := by
  cases stmt with
  | expression e => exact (h.eval u e).bind fun _ => .pure _
  | print word e =>
    refine (h.eval u e).bind fun v => (Action.Gains.request _).bind fun answer => ?_
    cases answer with
    | ok _ => exact .pure _
    | error why => exact .throw _
  | var ident init =>
    have mem : ident.lexeme ∈ (Stmt.var ident init).declares := List.mem_singleton_self _
    cases init with
    | none => exact (Action.Gains.define ident _ mem).bind fun _ => .pure _
    | some e =>
      refine (h.eval u e).weaken.bind fun v => ?_
      exact (Action.Gains.define ident v mem).bind fun _ => .pure _
  | block body => exact .inBlock (h.execAll u body)
  | branch condition yes no =>
    refine (h.eval u condition).weaken.bind fun v => ?_
    cases no with
    | none =>
      split
      · exact h.exec u yes
      · exact .pure _
    | some no =>
      split
      · exact (h.exec u yes).mono fun _ => List.mem_append_left _
      · exact (h.exec u no).mono fun _ => List.mem_append_right _
  | loop condition body =>
    refine (h.eval u condition).weaken.bind fun v => ?_
    split
    · refine (h.exec u body).bind fun flow => ?_
      cases flow with
      | returned v => exact .pure _
      | normal => exact h.exec u (.loop condition body)
    · exact .pure _
  | function ident params body =>
    have mem : ident.lexeme ∈ (Stmt.function ident params body).declares :=
      List.mem_singleton_self _
    exact (Action.Gains.define ident _ mem).bind fun _ => .pure _
  | ret word value =>
    cases value with
    | none => exact .pure _
    | some e => exact (h.eval u e).bind fun v => .pure _

theorem execAll_succ (u : Nat) (stmts : List Stmt) :
    (ScriptLang.execAll (n + 1) u stmts).Gains (Stmt.allDeclare stmts) := by
  cases stmts with
  | nil => exact .pure _
  | cons stmt later =>
    refine ((h.exec u stmt).mono fun _ => List.mem_append_left _).bind fun flow => ?_
    cases flow with
    | returned v => exact .pure _
    | normal => exact (h.execAll u later).mono fun _ => List.mem_append_right _

theorem eval_succ (u : Nat) (e : Expr) : (ScriptLang.eval (n + 1) u e).Gains [] := by
  cases e with
  | constant c => exact .pure _
  | group inner => exact h.eval u inner
  | name ident => exact .of_done fun s => ⟨_, Action.on_read ident s⟩
  | assign ident value =>
    exact (h.eval u value).bind fun v => (Action.Gains.assign ident v).bind fun _ => .pure _
  | logical op left right =>
    refine (h.eval u left).bind fun v => ?_
    split
    · exact .pure _
    · exact h.eval u right
  | unary op operand =>
    exact (h.eval u operand).bind fun v => .of_done fun s => ⟨_, Action.on_ofResult op _ s⟩
  | binary op left right =>
    exact (h.eval u left).bind fun v => (h.eval u right).bind fun w =>
      .of_done fun s => ⟨_, Action.on_ofResult op _ s⟩
  | call callee paren args =>
    refine (h.eval u callee).bind fun v => ?_
    cases v with
    | callable f =>
      refine (h.evalAll u args).bind fun vs => ?_
      split
      · exact h.call f vs paren
      · exact .throw _
    | _ => exact .throw _

theorem evalAll_succ (u : Nat) (es : List Expr) : (ScriptLang.evalAll (n + 1) u es).Gains [] := by
  cases es with
  | nil => exact .pure _
  | cons e later =>
    exact (h.eval u e).bind fun v => (h.evalAll u later).bind fun vs => .pure _

/-- What the body of a function declares goes into the frame of the call, like the parameters. -/
theorem callBody (f : UserFunction) (args : List Value) :
    (do
      bindParams f.decl.params args
      match ← ScriptLang.execAll n f.unit f.decl.body with
      | .returned value => return value
      | .normal => return .nil : Action Value).Gains
        (f.decl.params.map Token.lexeme ++ Stmt.allDeclare f.decl.body) := by
  refine ((Action.Gains.bindParams f.decl.params args).mono fun _ =>
    List.mem_append_left _).bind fun _ => ?_
  refine ((h.execAll f.unit f.decl.body).mono fun _ => List.mem_append_right _).bind
    fun flow => ?_
  cases flow with
  | returned v => exact .pure _
  | normal => exact .pure _

theorem call_succ (f : Callable) (args : List Value) (paren : Token) :
    (ScriptLang.call (n + 1) f args paren).Gains [] := by
  cases f with
  | builtin b => exact .callBuiltin b args paren
  | user f => exact .inCall (h.callBody f args)

/-- One more step. -/
theorem succ : BindsDeclared (n + 1) :=
  ⟨h.exec_succ, h.execAll_succ, h.eval_succ, h.evalAll_succ, h.call_succ⟩

end BindsDeclared

/-- The evaluator binds no more than what is declared, and that in the newest frame only. -/
theorem bindsDeclared (n : Nat) : BindsDeclared n := by
  induction n with
  | zero => exact .zero
  | succ n ih => exact ih.succ

theorem exec_gains (n u : Nat) (stmt : Stmt) : (exec n u stmt).Gains stmt.declares :=
  (bindsDeclared n).exec u stmt

theorem execAll_gains (n u : Nat) (stmts : List Stmt) :
    (execAll n u stmts).Gains (Stmt.allDeclare stmts) :=
  (bindsDeclared n).execAll u stmts

theorem eval_gains (n u : Nat) (e : Expr) : (eval n u e).Gains [] :=
  (bindsDeclared n).eval u e

theorem call_gains (n : Nat) (f : Callable) (args : List Value) (paren : Token) :
    (call n f args paren).Gains [] :=
  (bindsDeclared n).call f args paren

end ScriptLang

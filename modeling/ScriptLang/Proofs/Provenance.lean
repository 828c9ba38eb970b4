import Mathlib
import ScriptLang.Proofs.Functions
import ScriptLang.Proofs.Restoring
import ScriptLang.Proofs.Results

/-!
# Where functions come from

Executing a declaration makes a function, and nothing else does.  Functions are then copied: they
are bound to names, passed as arguments and returned, and whoever calls one executes the
declarations in its body, which belong to the unit of the function.  So the functions that a piece
of work comes across are those that it was given and those that were made on its way.

## Main definitions

* `Value.Among`, `Scopes.Among` — no declared functions but certain ones
* `Provenance` — pieces of work that are done, what their units declare, and what they make
* `Provenance.Fits` — a piece of work that has been given nothing but what was made

## Main results

* `mayEnd_function` — what executing a declaration comes to
* `Provenance.Fits.keeps` — a piece of work leaves and yields nothing but what was made
* `Provenance.Fits.reflTransGen` — nor is any piece of work given anything else that it turns to
-/

namespace ScriptLang

/-! ### Values and frames with certain functions -/

/-- Whether a value is no declared function, or one that satisfies `M`. -/
def Value.Among (M : UserFunction → Prop) : Value → Prop
  | .callable (.user f) => M f
  | _ => True

/-- Whether some open frame has a name for a value. -/
def Scopes.Holds (s : Scopes) (v : Value) : Prop :=
  ∃ (i : Nat) (f : Frame) (x : String), s.frames[i]? = some f ∧ f.bindings.find? x = some v

/-- Whether no name means a declared function but one that satisfies `M`. -/
def Scopes.Among (M : UserFunction → Prop) (s : Scopes) : Prop :=
  ∀ v, s.Holds v → v.Among M

/-- The same for the value with which a statement returns, if it does. -/
def Flow.Among (M : UserFunction → Prop) : Flow → Prop
  | .normal => True
  | .returned v => v.Among M

variable {M N : UserFunction → Prop}

theorem Value.IsPlain.among {v : Value} (h : v.IsPlain) : v.Among M := by
  cases v with
  | callable f => exact h.elim
  | nil | bool | number | string => trivial

theorem Value.among_builtin (b : Builtin) : (Value.callable (.builtin b)).Among M :=
  trivial

theorem Value.Among.mono {v : Value} (h : v.Among M) (sub : ∀ f, M f → N f) : v.Among N := by
  cases v with
  | callable f =>
    cases f with
    | builtin b => exact among_builtin b
    | user f => exact sub f h
  | nil | bool | number | string => trivial

namespace Scopes

variable {s : Scopes} {v w : Value}

theorem Among.mono (h : s.Among M) (sub : ∀ f, M f → N f) : s.Among N :=
  fun v hv => (h v hv).mono sub

theorem holds_of_find? {x : String} {i : s.Id} (h : s.find? x i = some v) : s.Holds v := by
  obtain ⟨j, -, found⟩ := Option.bind_eq_some_iff.1 h
  exact ⟨j, _, x, s.getElem?_id j, found⟩

theorem holds_of_get {ident : Token} {i : s.Id} (h : s.get ident i = .ok v) : s.Holds v := by
  unfold get at h
  split at h
  · cases h
    exact holds_of_find? ‹_›
  · cases h

theorem holds_ofBindings {b : Bindings} (h : (ofBindings b).Holds v) :
    ∃ x, b.find? x = some v := by
  obtain ⟨i, f, x, frame, found⟩ := h
  rw [ofBindings, Array.getElem?_singleton] at frame
  split at frame
  · cases frame
    exact ⟨x, found⟩
  · cases frame

theorem holds_of_push {i : s.Id} (h : (s.push i).Holds v) : s.Holds v := by
  obtain ⟨j, f, x, frame, found⟩ := h
  rw [getElem?_push] at frame
  split at frame
  · cases frame
    cases found
  · exact ⟨j, f, x, frame, found⟩

theorem holds_of_pop (h : s.pop.Holds v) : s.Holds v := by
  by_cases more : 1 < s.frames.size
  · obtain ⟨j, f, x, frame, found⟩ := h
    rw [getElem?_pop more] at frame
    split at frame
    · exact ⟨j, f, x, frame, found⟩
    · cases frame
  · rwa [pop, dif_neg more] at h

theorem holds_of_insert {name : String} {j : s.Id} (h : (s.insert name w j).Holds v) :
    v = w ∨ s.Holds v := by
  obtain ⟨i, f, x, frame, found⟩ := h
  rw [insert, getElem?_modify] at frame
  split at frame
  · obtain ⟨old, kept, rfl⟩ := Option.map_eq_some_iff.1 frame
    by_cases same : x = name
    · subst same
      rw [Bindings.find?_put_self, Option.some.injEq] at found
      exact .inl found.symm
    · rw [Bindings.find?_put_of_ne _ _ same] at found
      exact .inr ⟨i, old, x, kept, found⟩
  · exact .inr ⟨i, f, x, frame, found⟩

theorem Among.push (h : s.Among M) (i : s.Id) : (s.push i).Among M :=
  fun v hv => h v (holds_of_push hv)

theorem Among.pop (h : s.Among M) : s.pop.Among M :=
  fun v hv => h v (holds_of_pop hv)

theorem Among.insert (h : s.Among M) (hw : w.Among M) (name : String) (j : s.Id) :
    (s.insert name w j).Among M := by
  intro v hv
  obtain rfl | hv := holds_of_insert hv
  · exact hw
  · exact h v hv

end Scopes

/-! ### Actions -/

/-- Started with some frames, the action leaves no names for declared functions that do not satisfy
`M`, and its result satisfies `P`. -/
def Action.Keeps {α : Type} (M : UserFunction → Prop) (P : α → Prop) (a : Action α) (s : Scopes) :
    Prop :=
  (a.on s).Ends fun p => p.2.Among M ∧ ∀ x, p.1 = .ok x → P x

namespace Action.Keeps

variable {α β : Type} {P : α → Prop} {Q : β → Prop} {a : Action α} {s : Scopes}

theorem pure {x : α} (among : s.Among M) (h : P x) : (Pure.pure x : Action α).Keeps M P s := by
  refine ⟨among, fun y hy => ?_⟩
  cases hy
  exact h

theorem throw (e : Stop) (among : s.Among M) : (MonadExcept.throw e : Action α).Keeps M P s := by
  refine ⟨among, fun y hy => ?_⟩
  cases hy

/-- What goes on behind an action begins at one of its ends. -/
theorem bind {f : α → Action β} (h : a.Keeps M P s)
    (next : ∀ x t, (a.on s).MayEnd (.ok x, t) → P x → t.Among M → (f x).Keeps M Q t) :
    (a >>= f).Keeps M Q s := by
  unfold Keeps
  rw [on_bind, Dialogue.ends_bind]
  refine (h.and (Dialogue.ends_mayEnd _)).mono ?_
  rintro ⟨result, t⟩ ⟨⟨among, value⟩, ends⟩
  cases result with
  | ok x => exact next x t ends (value x rfl) among
  | error e =>
    refine ⟨among, fun y hy => ?_⟩
    cases hy

theorem request (r : Request) (among : s.Among M) :
    (Action.request r).Keeps M (fun _ => True) s :=
  fun _ => ⟨among, fun _ _ => trivial⟩

theorem read (ident : Token) (among : s.Among M) :
    (Action.read ident).Keeps M (Value.Among M) s := by
  unfold Keeps
  rw [on_read]
  refine ⟨among, fun v hv => ?_⟩
  cases got : s.get ident s.newest with
  | ok w =>
    rw [got] at hv
    cases hv
    exact among _ (Scopes.holds_of_get got)
  | error e =>
    rw [got] at hv
    cases hv

theorem assign (ident : Token) {v : Value} (among : s.Among M) (hv : v.Among M) :
    (Action.assign ident v).Keeps M (fun _ => True) s := by
  unfold Keeps
  rw [on_assign, Scopes.assign]
  refine ⟨?_, fun _ _ => trivial⟩
  split
  · exact among.insert hv _ _
  · exact among

theorem define (ident : Token) {v : Value} (among : s.Among M)
    (hv : (s.bindings s.newest).binds ident.lexeme = false → v.Among M) :
    (Action.define ident v).Keeps M (fun _ => True) s := by
  unfold Keeps
  rw [on_define, Scopes.define]
  refine ⟨?_, fun _ _ => trivial⟩
  split
  · exact among
  · exact among.insert (hv (Bool.eq_false_iff.2 ‹_›)) _ _

theorem inBlock (h : a.Keeps M P (s.push s.newest)) : (Action.inBlock a).Keeps M P s := by
  unfold Keeps
  rw [on_inBlock, Dialogue.ends_bind]
  exact h.mono fun _ hp => ⟨hp.1.pop, hp.2⟩

theorem inCall (h : a.Keeps M P (s.push s.oldest)) : (Action.inCall a).Keeps M P s := by
  unfold Keeps
  rw [on_inCall, Dialogue.ends_bind]
  exact h.mono fun _ hp => ⟨hp.1.pop, hp.2⟩

theorem ofResult (token : Token) {result : Except RuntimeFault α} (among : s.Among M)
    (h : ∀ x, result = .ok x → P x) : (Action.ofResult token result).Keeps M P s := by
  unfold Keeps
  rw [on_ofResult]
  refine ⟨among, fun x hx => ?_⟩
  cases result with
  | ok y =>
    cases hx
    exact h _ rfl
  | error fault => cases hx

theorem callBuiltin (b : Builtin) (args : List Value) (paren : Token) (among : s.Among M) :
    (ScriptLang.callBuiltin b args paren).Keeps M (Value.Among M) s := by
  unfold Keeps
  rw [on_callBuiltin, Dialogue.ends_bind]
  refine (b.run_proper args).mono fun result proper => ⟨among, fun v hv => ?_⟩
  cases result with
  | ok w =>
    cases hv
    exact Value.IsPlain.among proper
  | error fault => cases hv

theorem bindParams (params : List Token) {args : List Value} (among : s.Among M)
    (given : ∀ v ∈ args, v.Among M) :
    (ScriptLang.bindParams params args).Keeps M (fun _ => True) s := by
  induction params generalizing args s with
  | nil => exact pure among trivial
  | cons param params ih =>
    cases args with
    | nil => exact pure among trivial
    | cons arg args =>
      obtain ⟨first, later⟩ := List.forall_mem_cons.1 given
      exact (define param among fun _ => first).bind fun _ t _ _ among => ih among later

end Action.Keeps

/-! ### Executing a declaration -/

/-- Executing a declaration ends normally if its name is free, and then the name means the function
that was made. -/
theorem mayEnd_function {n u : Nat} {decl : FunDecl} {s t : Scopes} :
    ((exec n u (.function decl.ident decl.params decl.body)).on s).MayEnd (.ok .normal, t) ↔
      n ≠ 0 ∧ (s.bindings s.newest).binds decl.ident.lexeme = false ∧
        t = s.insert decl.ident.lexeme (.callable (.user ⟨u, decl⟩)) s.newest := by
  cases n with
  | zero => simp [exec]
  | succ n =>
    simp only [exec, Action.on_bind, Action.on_define, Scopes.define, Dialogue.done_bind]
    cases (s.bindings s.newest).binds decl.ident.lexeme with
    | true => simp [Except.mapError]
    | false => simp [Except.mapError]

/-- A name that has been bound in the newest frame has its value there. -/
theorem Scopes.get_insert_newest (s : Scopes) (ident : Token) (v : Value) :
    (s.insert ident.lexeme v s.newest).get ident (s.insert ident.lexeme v s.newest).newest =
      .ok v := by
  have frame := (s.insert ident.lexeme v s.newest).getElem?_id
    (s.insert ident.lexeme v s.newest).newest
  have newest : (s.insert ident.lexeme v s.newest).newest.val = s.newest.val := by
    rw [newest_val, newest_val, insert, size_modify]
  rw [newest, insert, getElem?_modify, if_pos rfl, getElem?_id, Option.map_some,
    Option.some.injEq, Frame.mk.injEq, ← insert] at frame
  have bound := (s.bindings s.newest).find?_put_self ident.lexeme v
  rw [frame.1] at bound
  rw [get, find?, resolve?_of_binds (Option.isSome_iff_exists.2 ⟨v, bound⟩), Option.bind_some,
    bound]

/-- Where a declaration has been executed, its name means the function that was made. -/
theorem get_of_mayEnd_function {n u : Nat} {decl : FunDecl} {s t : Scopes}
    (h : ((exec n u (.function decl.ident decl.params decl.body)).on s).MayEnd (.ok .normal, t)) :
    t.get decl.ident t.newest = .ok (.callable (.user ⟨u, decl⟩)) := by
  obtain ⟨-, -, rfl⟩ := mayEnd_function.1 h
  exact s.get_insert_newest decl.ident _

/-! ### Pieces of work -/

/-- There is less fuel for what a piece of work turns to. -/
theorem Work.Starts.fuel_lt {w w' : Work} (h : w.Starts w') : w'.fuel < w.fuel := by
  cases h <;> exact Nat.lt_succ_self _

/-- What holds of the declarations in the code of a task.  A call has no code of its own. -/
def Task.Declares (D : Nat → FunDecl → Prop) : Task → Prop
  | stmt u s => ∀ d ∈ s.functions, D u d
  | stmts u ss => ∀ d ∈ Stmt.allFunctions ss, D u d
  | expr .. | exprs .. | call .. => True

/-- Whether a task has been given no declared functions but those that satisfy `M`. -/
def Task.Given (M : UserFunction → Prop) : Task → Prop
  | call f args _ => (Value.callable f).Among M ∧ ∀ v ∈ args, v.Among M
  | stmt .. | stmts .. | expr .. | exprs .. => True

/-- Whether what a task comes to is no declared function but one that satisfies `M`. -/
def Task.Yields (M : UserFunction → Prop) : (task : Task) → task.Result → Prop
  | stmt .., flow | stmts .., flow => flow.Among M
  | expr .., v | call .., v => v.Among M
  | exprs .., (vs : List Value) => ∀ v ∈ vs, v.Among M

/-- Pieces of work that are done, what the units declare that they belong to, and the functions that
are made. -/
structure Provenance where
  Done : Work → Prop
  Declared : Nat → FunDecl → Prop
  Made : UserFunction → Prop
  /-- What work turns to is done as well. -/
  turns : ∀ {w w' : Work}, Done w → w.Starts w' → Done w'
  /-- Whoever executes a declaration makes a function. -/
  makes : ∀ {n u : Nat} {decl : FunDecl} {s t : Scopes}, Declared u decl →
    Done ⟨n, .stmt u (.function decl.ident decl.params decl.body), s⟩ →
    ((exec n u (.function decl.ident decl.params decl.body)).on s).MayEnd (.ok .normal, t) →
    Made ⟨u, decl⟩
  known : ∀ {f : UserFunction}, Made f → Declared f.unit f.decl
  /-- A unit declares what is declared in the bodies of its functions. -/
  body : ∀ {u : Nat} {d e : FunDecl}, Declared u d → e ∈ Stmt.allFunctions d.body → Declared u e

namespace Provenance

variable {P : Provenance}

/-- A piece of work that belongs to what is done, and that has been given nothing but what was
made. -/
structure Fits (P : Provenance) (w : Work) : Prop where
  done : P.Done w
  declares : w.task.Declares P.Declared
  given : w.task.Given P.Made
  scopes : w.scopes.Among P.Made

/-- A piece of work leaves and yields nothing but what was made. -/
def Keeps (P : Provenance) (w : Work) : Prop :=
  (w.task.run w.fuel).Keeps P.Made (w.task.Yields P.Made) w.scopes

variable {n u : Nat} {s t : Scopes}

theorem Keeps.stmt {stmt : Stmt} (h : P.Keeps ⟨n, .stmt u stmt, s⟩) :
    (exec n u stmt).Keeps P.Made (Flow.Among P.Made) s := h

theorem Keeps.stmts {stmts : List Stmt} (h : P.Keeps ⟨n, .stmts u stmts, s⟩) :
    (execAll n u stmts).Keeps P.Made (Flow.Among P.Made) s := h

theorem Keeps.expr {e : Expr} (h : P.Keeps ⟨n, .expr u e, s⟩) :
    (eval n u e).Keeps P.Made (Value.Among P.Made) s := h

theorem Keeps.exprs {es : List Expr} (h : P.Keeps ⟨n, .exprs u es, s⟩) :
    (evalAll n u es).Keeps P.Made (fun vs => ∀ v ∈ vs, v.Among P.Made) s := h

theorem Keeps.call {f : Callable} {args : List Value} {paren : Token}
    (h : P.Keeps ⟨n, .call f args paren, s⟩) :
    (ScriptLang.call n f args paren).Keeps P.Made (Value.Among P.Made) s := h

/-! What a piece of work does is what the pieces do that it turns to. -/

theorem Fits.keeps_stmt {stmt : Stmt} (fits : P.Fits ⟨n + 1, .stmt u stmt, s⟩)
    (sub : ∀ w, Work.Starts ⟨n + 1, .stmt u stmt, s⟩ w → P.Keeps w) :
    (exec (n + 1) u stmt).Keeps P.Made (Flow.Among P.Made) s := by
  have among : s.Among P.Made := fits.scopes
  cases stmt with
  | expression e => exact (sub _ .expression).expr.bind fun v t _ _ among => .pure among trivial
  | print word e =>
    refine (sub _ .print).expr.bind fun v t _ _ among => ?_
    refine (Action.Keeps.request _ among).bind fun answer t _ _ among => ?_
    cases answer with
    | ok _ => exact .pure among trivial
    | error why => exact .throw _ among
  | var ident init =>
    cases init with
    | none =>
      exact (Action.Keeps.define (v := .nil) ident among fun _ => trivial).bind fun _ t _ _ among =>
        .pure among trivial
    | some e =>
      refine (sub _ .var).expr.bind fun v t _ hv among => ?_
      exact (Action.Keeps.define ident among fun _ => hv).bind fun _ t _ _ among =>
        .pure among trivial
  | block body => exact .inBlock (sub _ .block).stmts
  | branch condition yes no =>
    refine (sub _ .branch).expr.bind fun v t test _ among => ?_
    cases holds : v.isTruthy with
    | true => exact (sub _ (.yes test holds)).stmt
    | false =>
      cases no with
      | none => exact .pure among trivial
      | some no => exact (sub _ (.no test holds)).stmt
  | loop condition body =>
    refine (sub _ .loop).expr.bind fun v t test _ among => ?_
    cases holds : v.isTruthy with
    | true =>
      refine (sub _ (.turn test holds)).stmt.bind fun flow t' turn returned among => ?_
      cases flow with
      | returned v => exact .pure among returned
      -- What is left to do is the same loop, in the frames that this turn has left.
      | normal => exact (sub _ (.again test holds turn)).stmt
    | false => exact .pure among trivial
  | function ident params body =>
    refine (Action.Keeps.define ident among fun free => ?_).bind fun _ t _ _ among =>
      .pure among trivial
    -- The name is free, so the declaration is executed and the function is made.
    have declared : P.Declared u ⟨ident, params, body⟩ :=
      fits.declares _ (List.mem_cons_self ..)
    exact P.makes declared fits.done (mayEnd_function.2 ⟨Nat.succ_ne_zero n, free, rfl⟩)
  | ret word value =>
    cases value with
    | none => exact .pure among trivial
    | some e => exact (sub _ .ret).expr.bind fun v t _ hv among => .pure among hv

theorem Fits.keeps_stmts {stmts : List Stmt} (fits : P.Fits ⟨n + 1, .stmts u stmts, s⟩)
    (sub : ∀ w, Work.Starts ⟨n + 1, .stmts u stmts, s⟩ w → P.Keeps w) :
    (execAll (n + 1) u stmts).Keeps P.Made (Flow.Among P.Made) s := by
  have among : s.Among P.Made := fits.scopes
  cases stmts with
  | nil => exact .pure among trivial
  | cons stmt later =>
    refine (sub _ .first).stmt.bind fun flow t first returned among => ?_
    cases flow with
    | returned v => exact .pure among returned
    | normal => exact (sub _ (.later first)).stmts

theorem Fits.keeps_expr {e : Expr} (fits : P.Fits ⟨n + 1, .expr u e, s⟩)
    (sub : ∀ w, Work.Starts ⟨n + 1, .expr u e, s⟩ w → P.Keeps w) :
    (eval (n + 1) u e).Keeps P.Made (Value.Among P.Made) s := by
  have among : s.Among P.Made := fits.scopes
  cases e with
  | constant c => exact .pure among (Value.isPlain_ofConstant c).among
  | group inner => exact (sub _ .group).expr
  | name ident => exact .read ident among
  | assign ident e =>
    refine (sub _ .assign).expr.bind fun v t _ hv among => ?_
    exact (Action.Keeps.assign ident among hv).bind fun _ t _ _ among => .pure among hv
  | logical op left right =>
    refine (sub _ .deciding).expr.bind fun v t first hv among => ?_
    cases decided : decidedBy op v with
    | true => exact .pure among hv
    | false => exact (sub _ (.undecided first decided)).expr
  | unary op operand =>
    refine (sub _ .unary).expr.bind fun v t _ _ among => ?_
    refine .ofResult op among fun w hw => ?_
    have proper := applyUnary_proper op v
    rw [hw] at proper
    exact Value.IsPlain.among proper
  | binary op left right =>
    refine (sub _ .left).expr.bind fun v t first _ among => ?_
    refine (sub _ (.right first)).expr.bind fun v' t' _ _ among => ?_
    refine .ofResult op among fun w hw => ?_
    have proper := applyBinary_proper op v v'
    rw [hw] at proper
    exact Value.IsPlain.among proper
  | call callee paren args =>
    refine (sub _ .callee).expr.bind fun v t first _ among => ?_
    cases v with
    | callable f =>
      refine (sub _ (.args first)).exprs.bind fun vs t' second _ among => ?_
      split
      · exact (sub _ (.call first second ‹_›)).call
      · exact .throw _ among
    | nil | bool | number | string => exact .throw _ among

theorem Fits.keeps_exprs {es : List Expr} (fits : P.Fits ⟨n + 1, .exprs u es, s⟩)
    (sub : ∀ w, Work.Starts ⟨n + 1, .exprs u es, s⟩ w → P.Keeps w) :
    (evalAll (n + 1) u es).Keeps P.Made (fun vs => ∀ v ∈ vs, v.Among P.Made) s := by
  have among : s.Among P.Made := fits.scopes
  cases es with
  | nil => exact .pure among fun _ h => (List.not_mem_nil h).elim
  | cons e later =>
    refine (sub _ .firstExpr).expr.bind fun v t first hv among => ?_
    refine (sub _ (.laterExprs first)).exprs.bind fun vs t' _ hvs among => ?_
    exact .pure among (List.forall_mem_cons.2 ⟨hv, hvs⟩)

theorem Fits.keeps_call {f : Callable} {args : List Value} {paren : Token}
    (fits : P.Fits ⟨n + 1, .call f args paren, s⟩)
    (sub : ∀ w, Work.Starts ⟨n + 1, .call f args paren, s⟩ w → P.Keeps w) :
    (ScriptLang.call (n + 1) f args paren).Keeps P.Made (Value.Among P.Made) s := by
  have among : s.Among P.Made := fits.scopes
  cases f with
  | builtin b => exact .callBuiltin b args paren among
  | user f =>
    refine .inCall ?_
    refine (Action.Keeps.bindParams f.decl.params (among.push _) fits.given.2).bind
      fun _ t params _ among => ?_
    refine (sub _ (.body params)).stmts.bind fun flow t' _ returned among => ?_
    cases flow with
    | returned v => exact .pure among returned
    | normal => exact .pure among trivial

/-- A piece of work that fits keeps to what was made if all the pieces do that it turns to. -/
theorem Fits.keeps_of {w : Work} (fits : P.Fits w) (sub : ∀ w', w.Starts w' → P.Keeps w') :
    P.Keeps w := by
  obtain ⟨fuel, task, s⟩ := w
  cases fuel with
  | zero => cases task <;> exact .throw _ fits.scopes
  | succ n =>
    cases task with
    | stmt u stmt => exact fits.keeps_stmt sub
    | stmts u stmts => exact fits.keeps_stmts sub
    | expr u e => exact fits.keeps_expr sub
    | exprs u es => exact fits.keeps_exprs sub
    | call f args paren => exact fits.keeps_call sub

/-- What a piece of work keeps to holds at each of its ends. -/
theorem Keeps.of_mayEnd {w : Work} (h : P.Keeps w) {x : w.task.Result} {t : Scopes}
    (ends : w.dialogue.MayEnd (.ok x, t)) : t.Among P.Made ∧ w.task.Yields P.Made x := by
  obtain ⟨among, yields⟩ := Dialogue.Ends.of_mayEnd (h : w.dialogue.Ends _) ends
  exact ⟨among, yields x rfl⟩

/-- What a piece of work turns to fits as well: it begins in the frames that earlier pieces have
left and is given what they have yielded, and its code is part of the code of the piece or the body
of a function that was made. -/
theorem Fits.starts {w w' : Work} (fits : P.Fits w) (h : w.Starts w')
    (earlier : ∀ v, w.Starts v → P.Fits v → P.Keeps v) : P.Fits w' := by
  have done := P.turns fits.done h
  -- What an earlier piece of the same work has left and come to.
  have evaluated {n u : Nat} {e : Expr} {s t : Scopes} {x : Value} (among : s.Among P.Made)
      (starts : w.Starts ⟨n, .expr u e, s⟩) (ends : ((eval n u e).on s).MayEnd (.ok x, t)) :
      t.Among P.Made ∧ x.Among P.Made :=
    (earlier _ starts ⟨P.turns fits.done starts, trivial, trivial, among⟩).of_mayEnd ends
  have executed {n u : Nat} {stmt : Stmt} {s t : Scopes} {flow : Flow} (among : s.Among P.Made)
      (declares : ∀ d ∈ stmt.functions, P.Declared u d) (starts : w.Starts ⟨n, .stmt u stmt, s⟩)
      (ends : ((exec n u stmt).on s).MayEnd (.ok flow, t)) : t.Among P.Made :=
    ((earlier _ starts ⟨P.turns fits.done starts, declares, trivial, among⟩).of_mayEnd ends).1
  cases h with
  | expression | print | var | ret | branch | loop | group | assign | unary | left | deciding
  | callee | firstExpr => exact ⟨done, trivial, trivial, fits.scopes⟩
  | block => exact ⟨done, fits.declares, trivial, fits.scopes.push _⟩
  | @yes n u e yes no v s t test holds =>
    refine ⟨done, fun d hd => fits.declares d ?_, trivial, (evaluated fits.scopes .branch test).1⟩
    cases no with
    | none => exact hd
    | some no => exact List.mem_append_left _ hd
  | no test =>
    exact ⟨done, fun d hd => fits.declares d (List.mem_append_right _ hd), trivial,
      (evaluated fits.scopes .branch test).1⟩
  | turn test => exact ⟨done, fits.declares, trivial, (evaluated fits.scopes .loop test).1⟩
  | @again n u e body v s t t' test holds turn =>
    have among := (evaluated fits.scopes .loop test).1
    have declares : ∀ d ∈ body.functions, P.Declared u d := fits.declares
    exact ⟨done, fits.declares, trivial, executed among declares (.turn test holds) turn⟩
  | first =>
    exact ⟨done, fun d hd => fits.declares d (List.mem_append_left _ hd), trivial, fits.scopes⟩
  | later first =>
    have declares := fun d hd => fits.declares d (List.mem_append_left _ hd)
    exact ⟨done, fun d hd => fits.declares d (List.mem_append_right _ hd), trivial,
      executed fits.scopes declares .first first⟩
  | right first => exact ⟨done, trivial, trivial, (evaluated fits.scopes .left first).1⟩
  | undecided first => exact ⟨done, trivial, trivial, (evaluated fits.scopes .deciding first).1⟩
  | args first => exact ⟨done, trivial, trivial, (evaluated fits.scopes .callee first).1⟩
  | laterExprs first =>
    exact ⟨done, trivial, trivial, (evaluated fits.scopes .firstExpr first).1⟩
  | call first second arity =>
    obtain ⟨among, callee⟩ := evaluated fits.scopes .callee first
    have listed := earlier _ (.args first)
      ⟨P.turns fits.done (.args first), trivial, trivial, among⟩
    obtain ⟨among, args⟩ := listed.of_mayEnd second
    exact ⟨done, trivial, ⟨callee, args⟩, among⟩
  | @body n f args paren s t params =>
    -- The function was made, so its unit declares what is in its body.
    have bound := Action.Keeps.bindParams f.decl.params (fits.scopes.push s.oldest) fits.given.2
    refine ⟨done, fun d hd => P.body (P.known fits.given.1) hd, trivial, ?_⟩
    exact (Dialogue.Ends.of_mayEnd bound params).1

/-- A piece of work that fits leaves and yields nothing but what was made.  The induction is on the
fuel, of which there is less for all the pieces that the work turns to. -/
theorem Fits.keeps {w : Work} (fits : P.Fits w) : P.Keeps w := by
  induction hn : w.fuel using Nat.strongRecOn generalizing w with
  | ind n ih =>
    have earlier (v : Work) (starts : w.Starts v) (fits : P.Fits v) : P.Keeps v :=
      ih v.fuel (hn ▸ starts.fuel_lt) fits rfl
    exact fits.keeps_of fun v starts => earlier v starts (fits.starts starts earlier)

/-- Whatever a piece of work turns to in the end, it fits. -/
theorem Fits.reflTransGen {w w' : Work} (fits : P.Fits w)
    (h : Relation.ReflTransGen Work.Starts w w') : P.Fits w' := by
  induction h with
  | refl => exact fits
  | tail _ starts ih => exact ih.starts starts fun _ _ fits => fits.keeps

end Provenance

end ScriptLang

import Mathlib
import ScriptLang.Proofs.Output
import ScriptLang.Proofs.Restoring

/-!
# Truncated runs

Where a script cannot write, it stops: nothing catches the error on the way out of blocks, loops,
calls and lists of arguments, and nothing else is done after it.  So with an output that takes only
so many bytes a run is the run with an unbounded output, up to the first write for which there is no
room.  The error says where that write belongs to: to a listing, to a `print`, or to the call of a
built-in function.

## Main definitions

* `Builtin.WriteFails` — what a call comes to that could not write
* `Work.Writes` — the pieces of work that write, and what they come to if they cannot
* `Work.CutOff`, `Action.BreaksOff` — where the evaluator is cut off with too little room
* `Session.listed` — the bytes of the listings of a text
* `Session.Interrupted` — the statements of a script could not write

## Main results

* `Builtin.run_breaksOff` — built-in functions stop where a write fails
* `breakingOff` — so does the evaluator, with an error that says where
* `Session.run_truncated` — a script with an output that takes so many bytes
-/

namespace ScriptLang

open Dialogue (BreaksOff)

/-! ### Built-in functions -/

/-- What a call of a built-in function comes to when what it asks to write cannot be written. -/
inductive Builtin.WriteFails : Builtin → String → IoError → Except RuntimeFault Value → Prop where
  | prompt (text : String) (why : IoError) :
      WriteFails .input text why (.error (.promptFailed why))
  | shown (out : String) (why : IoError) :
      WriteFails .executeCommand (out ++ "\n") why (.error (.outputFailed why))

theorem Builtin.WriteFails.error {b : Builtin} {text : String} {why : IoError}
    {result : Except RuntimeFault Value} (h : b.WriteFails text why result) :
    ∃ fault, result = .error fault := by
  cases h <;> exact ⟨_, rfl⟩

/-- Arguments are checked without a request. -/
theorem Dialogue.BreaksOff.checked {α : Type} {args : Checked α} {body : α → Builtin.Outcome}
    {Q : String → IoError → Except RuntimeFault Value → Prop}
    (next : ∀ a, (body a).BreaksOff Q) : (Builtin.checked args body).BreaksOff Q := by
  cases args with
  | error fault => exact .done _
  | ok a => exact next a

namespace Builtin

theorem readLine_breaksOff : readLine.BreaksOff fun _ _ _ => False := by
  refine .requesting trivial fun answer => ?_
  split
  · exact .done _
  · exact .done _
  · split
    · exact .done _
    · exact .done _

theorem runInput_breaksOff (args : List Value) :
    (runInput args).BreaksOff (WriteFails .input) := by
  refine .write (fun why => ⟨_, rfl, .prompt _ why⟩) ?_
  refine .requesting (r := .flush) trivial fun flushed => ?_
  split
  · exact .done _
  · refine readLine_breaksOff.bind (fun _ _ _ never => never.elim) fun line _ => ?_
    split
    · exact .done _
    · exact .done _
    · exact .done _

theorem showWritten_breaksOff (out err : String) :
    (showWritten out err).BreaksOff fun text why result =>
      (∃ out, text = out ++ "\n") ∧ result = .error (.outputFailed why) := by
  have reporting : (do
      if !Text.allBlank err then Dialogue.request (.report err)
      return .ok () : Dialogue (Except RuntimeFault Unit)).BreaksOff fun text why result =>
        (∃ out, text = out ++ "\n") ∧ result = .error (.outputFailed why) := by
    split
    · exact .requesting trivial fun _ => .done _
    · exact .done _
  unfold showWritten
  dsimp only
  split
  · exact reporting
  · exact .write (fun why => ⟨_, rfl, ⟨out, rfl⟩, rfl⟩) reporting

theorem runExecuteCommand_breaksOff (command : String) (print : Bool) :
    (runExecuteCommand command print).BreaksOff (WriteFails .executeCommand) := by
  unfold runExecuteCommand
  split
  · exact .done _
  · refine .requesting (r := .shell command) trivial fun written => ?_
    dsimp only
    cases print with
    | false => exact .done _
    | true =>
      refine (showWritten_breaksOff _ _).bind ?_ fun shown _ => ?_
      · rintro text why _ ⟨⟨out, rfl⟩, rfl⟩
        exact ⟨_, rfl, .shown out why⟩
      · cases shown <;> exact .done _

theorem runReadFile_breaksOff (path : String) :
    (runReadFile path).BreaksOff (WriteFails .readFile) := by
  refine .requesting trivial fun content => ?_
  split
  · exact .done _
  · split
    · exact .done _
    · exact .done _

theorem runWriteFile_breaksOff (path content : String) (append : Bool) :
    (runWriteFile path content append).BreaksOff (WriteFails .writeFile) := by
  refine .requesting trivial fun written => ?_
  split
  · exact .done _
  · exact .done _

/-- A built-in function that cannot write asks nothing more and fails. -/
theorem run_breaksOff (b : Builtin) (args : List Value) : (b.run args).BreaksOff b.WriteFails := by
  cases b with
  | input => exact runInput_breaksOff args
  | substring | len | floor | isInt | toInt | toLower | replace => exact .done _
  | clock => exact .requesting trivial fun _ => .done _
  | wait => exact .checked fun _ => .requesting trivial fun _ => .done _
  | random => exact .checked fun _ => .requesting trivial fun _ => .done _
  | fileExists => exact .checked fun _ => .requesting trivial fun _ => .done _
  | readFile => exact .checked runReadFile_breaksOff
  | writeFile =>
    exact .checked fun path => .checked fun content => .checked fun append =>
      runWriteFile_breaksOff path content append
  | executeCommand =>
    exact .checked fun command => .checked fun print => runExecuteCommand_breaksOff command print

end Builtin

/-! ### Pieces of work that write -/

/-- With a host in memory, a piece of work asks to write a text when the host is `w'`.  If that
cannot be done, it stops with an error and leaves these globals: a `print` those that it has found
when its operand has a value, and a call of a built-in function those that it has found at its
beginning. -/
inductive Work.Writes : Work → World → String → World → RuntimeError → Bindings → Prop where
  | print {n u : Nat} {keyword : Token} {e : Expr} {v : Value} {s t : Scopes} {w w' : World}
      (operand : ((eval n u e).on s).run w = ((.ok v, t), w')) :
      Writes ⟨n + 1, .stmt u (.print keyword e), s⟩ w (v.text ++ "\n") w'
        ⟨keyword, .outputFailed .brokenPipe⟩ t.globals
  | call {n : Nat} {b : Builtin} {args : List Value} {paren : Token} {s : Scopes} {text : String}
      {next : Except IoError Unit → Builtin.Outcome} {fault : RuntimeFault} {w w' : World}
      (asks : (b.run args).Reaches w (.writing text next) w')
      (fails : b.WriteFails text .brokenPipe (.error fault)) :
      Writes ⟨n + 1, .call (.builtin b) args paren, s⟩ w text w' ⟨paren, fault⟩ s.globals

/-- The error is one of input and output. -/
theorem Work.Writes.io {x : Work} {text : String} {w w' : World} {e : RuntimeError}
    {globals : Bindings} (h : x.Writes w text w' e globals) : e.fault.kind = .io := by
  cases h with
  | print => rfl
  | call _ fails => cases fails <;> rfl

/-- With a host in memory, a dialogue comes to a piece of work, and the host is `w'` then. -/
def Dialogue.ComesTo {α : Type} (d : Dialogue α) (w : World) (x : Work) (w' : World) : Prop :=
  ∃ k, d.Reaches w (x.dialogue >>= k) w'

theorem Dialogue.ComesTo.refl (x : Work) (w : World) : x.dialogue.ComesTo w x w := by
  refine ⟨.done, ?_⟩
  rw [Dialogue.bind_done]
  exact .refl _ w

/-- With room for `n` more bytes, a dialogue on behalf of a piece of work is cut off in a piece of
work to which that one has turned, and which could not write.  This is where the error comes from,
and the globals. -/
def Work.CutOff {α : Type} (x : Work) (d : Dialogue α) (w : World) (n : Nat) (e : RuntimeError)
    (globals : Bindings) : Prop :=
  ∃ text y w₁ w₂, d.CutOff w n text w₂ ∧ Relation.ReflTransGen Work.Starts x y ∧
    d.ComesTo w y w₁ ∧ y.Writes w₁ text w₂ e globals

namespace Work.CutOff

variable {α β : Type} {x y : Work} {d : Dialogue α} {f : α → Dialogue β} {w : World} {n : Nat}
  {e : RuntimeError} {globals : Bindings}

theorem bind {b : β} (h : x.CutOff d w n e globals) (exceeds : n < (d.output w).length)
    (early : f (d.run (w.taking (some n))).1 = .done b) : x.CutOff (d >>= f) w n e globals := by
  obtain ⟨text, y, w₁, w₂, cut, path, ⟨k, reaches⟩, writes⟩ := h
  refine ⟨text, y, w₁, w₂, cut.bind exceeds early, path, ⟨fun r => k r >>= f, ?_⟩, writes⟩
  have behind := reaches.bind f
  rwa [Dialogue.bind_assoc] at behind

theorem behind (unbounded : w.capacity = none) (fits : (d.output w).length ≤ n)
    (h : x.CutOff (f (d.run w).1) (d.run w).2 (n - (d.output w).length) e globals) :
    x.CutOff (d >>= f) w n e globals := by
  obtain ⟨text, y, w₁, w₂, cut, path, ⟨k, reaches⟩, writes⟩ := h
  exact ⟨text, y, w₁, w₂, cut.behind unbounded fits, path, ⟨k, reaches.behind⟩, writes⟩

/-- What another piece of work does is done on behalf of the one that has turned to it. -/
theorem starting (h : y.CutOff d w n e globals) (starts : x.Starts y) :
    x.CutOff d w n e globals := by
  obtain ⟨text, z, w₁, w₂, cut, path, comesTo, writes⟩ := h
  exact ⟨text, z, w₁, w₂, cut, .head starts path, comesTo, writes⟩

end Work.CutOff

/-! ### Printing -/

/-- A `print` whose operand has a value. -/
def printing (keyword : Token) (v : Value) (t : Scopes) : Dialogue (Except Stop Flow × Scopes) :=
  .writing (v.text ++ "\n") fun answer =>
    match answer with
    | .ok _ => .done (.ok .normal, t)
    | .error why => .done (.error (.error ⟨keyword, .outputFailed why⟩), t)

/-- A `print` is its operand, and then a request to write. -/
theorem on_print (n u : Nat) (keyword : Token) (e : Expr) (s : Scopes) :
    (exec (n + 1) u (.print keyword e)).on s = (eval n u e).on s >>= fun p =>
      match p.1 with
      | .ok v => printing keyword v p.2
      | .error stop => .done (.error stop, p.2) := by
  simp only [exec, Action.on_bind]
  congr 1
  funext p
  obtain ⟨stop | v, t⟩ := p
  · rfl
  · refine congrArg (Dialogue.ask _) (funext fun answer => ?_)
    cases answer <;> rfl

theorem printing_cutOff (keyword : Token) (v : Value) (t : Scopes) {w : World} {n : Nat}
    (unbounded : w.capacity = none) (exceeds : n < (Text.encode (v.text ++ "\n")).length) :
    (printing keyword v t).CutOff w n (v.text ++ "\n") w ∧
      ((printing keyword v t).run (w.taking (some n))).1 =
        (.error (.error ⟨keyword, .outputFailed .brokenPipe⟩), t) :=
  Dialogue.CutOff.here unbounded exceeds rfl

/-! ### Actions -/

/-- On behalf of a piece of work, and started with some frames, the action is cut off with an error
if there is not room for all that it writes. -/
def Action.BreaksOff {α : Type} (x : Work) (a : Action α) (s : Scopes) : Prop :=
  ∀ w n, w.capacity = none → n < ((a.on s).output w).length →
    ∃ e t, ((a.on s).run (w.taking (some n))).1 = (.error (.error e), t) ∧
      x.CutOff (a.on s) w n e t.globals

namespace Action.BreaksOff

variable {α β : Type} {x y : Work} {a : Action α} {s : Scopes}

theorem starting (h : a.BreaksOff y s) (starts : x.Starts y) : a.BreaksOff x s := by
  intro w n unbounded exceeds
  obtain ⟨e, t, stopped, cut⟩ := h w n unbounded exceeds
  exact ⟨e, t, stopped, cut.starting starts⟩

/-- What asks nothing is not cut off. -/
theorem of_done {p : Except Stop α × Scopes} (h : a.on s = .done p) : a.BreaksOff x s := by
  intro w n _ exceeds
  rw [h] at exceeds
  exact absurd exceeds (Nat.not_lt_zero n)

theorem pure (v : α) : (Pure.pure v : Action α).BreaksOff x s :=
  of_done rfl

theorem throw (e : Stop) : (MonadExcept.throw e : Action α).BreaksOff x s :=
  of_done rfl

/-- What is behind an action that is cut off is not done. -/
theorem bind_of_exceeds {f : α → Action β} (h : a.BreaksOff x s) {w : World} {n : Nat}
    (unbounded : w.capacity = none) (exceeds : n < ((a.on s).output w).length) :
    ∃ e t, (((a >>= f).on s).run (w.taking (some n))).1 = (.error (.error e), t) ∧
      x.CutOff ((a >>= f).on s) w n e t.globals := by
  obtain ⟨e, t, stopped, cut⟩ := h w n unbounded exceeds
  rw [Action.on_bind]
  refine ⟨e, t, ?_, cut.bind exceeds (b := (.error (.error e), t)) (by rw [stopped])⟩
  rw [Dialogue.run_bind, stopped]
  rfl

theorem bind {f : α → Action β} (h : a.BreaksOff x s)
    (next : ∀ v t, (a.on s).MayEnd (.ok v, t) → (f v).BreaksOff x t) :
    (a >>= f).BreaksOff x s := by
  intro w n unbounded exceeds
  by_cases fits : ((a.on s).output w).length ≤ n
  · have ends := (a.on s).mayEnd_run w
    have unbounded' := Dialogue.capacity_run (a.on s) unbounded
    rw [Action.on_bind] at exceeds ⊢
    rw [Dialogue.output_bind, List.length_append] at exceeds
    rw [Dialogue.run_bind_of_fits unbounded fits]
    generalize first : (a.on s).run w = result at *
    obtain ⟨⟨stop | v, t⟩, w'⟩ := result
    · exact absurd exceeds (Nat.not_lt.2 fits)
    · obtain ⟨e, u, stopped, cut⟩ := next v t ends w' (n - ((a.on s).output w).length) unbounded'
        (Nat.sub_lt_left_of_lt_add fits exceeds)
      refine ⟨e, u, stopped, .behind unbounded fits ?_⟩
      rw [first]
      exact cut
  · exact h.bind_of_exceeds unbounded (Nat.not_le.1 fits)

/-- Frames are closed on the way out, which does not touch the globals. -/
theorem within {b : Action α} {t : Scopes} (h : a.BreaksOff x t)
    (same : b.on s = a.on t >>= fun p => .done (p.1, p.2.pop)) : b.BreaksOff x s := by
  intro w n unbounded exceeds
  rw [same] at exceeds ⊢
  rw [Dialogue.output_bind, Dialogue.output, List.append_nil] at exceeds
  obtain ⟨e, u, stopped, cut⟩ := h w n unbounded exceeds
  refine ⟨e, u.pop, ?_, ?_⟩
  · rw [Dialogue.run_bind, stopped]
    rfl
  · rw [Scopes.globals_pop]
    exact cut.bind exceeds rfl

theorem inBlock (h : a.BreaksOff x (s.push s.newest)) : (Action.inBlock a).BreaksOff x s :=
  within h rfl

theorem inCall (h : a.BreaksOff x (s.push s.oldest)) : (Action.inCall a).BreaksOff x s :=
  within h rfl

theorem bindParams (params : List Token) (args : List Value) :
    (bindParams params args).BreaksOff x s := by
  induction params generalizing args s with
  | nil => exact pure ()
  | cons param params ih =>
    cases args with
    | nil => exact pure ()
    | cons arg args => exact (of_done rfl).bind fun _ t _ => ih args

/-- A `print` is cut off in its operand, or at its own request to write. -/
theorem print {n u : Nat} {keyword : Token} {e : Expr}
    (operand : (eval n u e).BreaksOff ⟨n + 1, .stmt u (.print keyword e), s⟩ s) :
    (exec (n + 1) u (.print keyword e)).BreaksOff ⟨n + 1, .stmt u (.print keyword e), s⟩ s := by
  intro w m unbounded exceeds
  by_cases fits : (((eval n u e).on s).output w).length ≤ m
  · have comesTo : ((exec (n + 1) u (.print keyword e)).on s).ComesTo w
        ⟨n + 1, .stmt u (.print keyword e), s⟩ w := .refl _ w
    have unbounded' := Dialogue.capacity_run ((eval n u e).on s) unbounded
    rw [on_print] at exceeds comesTo ⊢
    rw [Dialogue.output_bind, List.length_append] at exceeds
    rw [Dialogue.run_bind_of_fits unbounded fits]
    generalize value : ((eval n u e).on s).run w = result at *
    obtain ⟨⟨stop | v, t⟩, w'⟩ := result
    · exact absurd exceeds (Nat.not_lt.2 fits)
    · dsimp only at exceeds unbounded' ⊢
      rw [printing, Dialogue.output_writing _ _ unbounded', Dialogue.output, List.append_nil]
        at exceeds
      obtain ⟨cut, failed⟩ := printing_cutOff keyword v t unbounded'
        (n := m - (((eval n u e).on s).output w).length) (by omega)
      refine ⟨_, t, failed, _, _, w, w', .behind unbounded fits ?_, .refl, comesTo, .print value⟩
      rw [value]
      exact cut
  · exact operand.bind_of_exceeds unbounded (Nat.not_le.1 fits)

/-- A call of a built-in function is cut off at its request to write. -/
theorem builtin {n : Nat} (b : Builtin) (args : List Value) (paren : Token) :
    (call (n + 1) (.builtin b) args paren).BreaksOff ⟨n + 1, .call (.builtin b) args paren, s⟩
      s := by
  intro w m unbounded exceeds
  have comesTo : ((callBuiltin b args paren).on s).ComesTo w
      ⟨n + 1, .call (.builtin b) args paren, s⟩ w := .refl _ w
  have onCall : (call (n + 1) (.builtin b) args paren).on s = _ := on_callBuiltin b args paren s
  rw [on_callBuiltin] at comesTo
  rw [onCall] at exceeds ⊢
  rw [Dialogue.output_bind, Dialogue.output, List.append_nil] at exceeds
  obtain ⟨text, w', cut, fails⟩ := (b.run_breaksOff args).cutOff unbounded exceeds
  obtain ⟨fault, failed⟩ := fails.error
  obtain ⟨next, asks, _⟩ := id cut
  rw [failed] at fails
  refine ⟨⟨paren, fault⟩, s, ?_, text, _, w, w', cut.bind exceeds rfl, .refl, comesTo,
    .call asks fails⟩
  rw [Dialogue.run_bind, failed]
  rfl

end Action.BreaksOff

/-! ### The evaluator -/

/-- With some fuel the evaluator stops where a write fails, and the error tells which write it
was. -/
structure BreakingOff (n : Nat) : Prop where
  exec : ∀ (u : Nat) (stmt : Stmt) (s : Scopes),
    (exec n u stmt).BreaksOff ⟨n, .stmt u stmt, s⟩ s
  execAll : ∀ (u : Nat) (stmts : List Stmt) (s : Scopes),
    (execAll n u stmts).BreaksOff ⟨n, .stmts u stmts, s⟩ s
  eval : ∀ (u : Nat) (e : Expr) (s : Scopes),
    (eval n u e).BreaksOff ⟨n, .expr u e, s⟩ s
  evalAll : ∀ (u : Nat) (es : List Expr) (s : Scopes),
    (evalAll n u es).BreaksOff ⟨n, .exprs u es, s⟩ s
  call : ∀ (f : Callable) (args : List Value) (paren : Token) (s : Scopes),
    (call n f args paren).BreaksOff ⟨n, .call f args paren, s⟩ s

namespace BreakingOff

theorem zero : BreakingOff 0 where
  exec _ _ _ := .throw .outOfFuel
  execAll _ _ _ := .throw .outOfFuel
  eval _ _ _ := .throw .outOfFuel
  evalAll _ _ _ := .throw .outOfFuel
  call _ _ _ _ := .throw .outOfFuel

variable {n : Nat} (h : BreakingOff n)
include h

theorem exec_succ (u : Nat) (stmt : Stmt) (s : Scopes) :
    (ScriptLang.exec (n + 1) u stmt).BreaksOff ⟨n + 1, .stmt u stmt, s⟩ s := by
  cases stmt with
  | expression e => exact ((h.eval u e s).starting .expression).bind fun _ t _ => .pure _
  | print word e => exact .print ((h.eval u e s).starting .print)
  | var ident init =>
    cases init with
    | none => exact (Action.BreaksOff.of_done rfl).bind fun _ t _ => .pure _
    | some e =>
      refine ((h.eval u e s).starting .var).bind fun v t _ => ?_
      exact (Action.BreaksOff.of_done rfl).bind fun _ t _ => .pure _
  | block body => exact .inBlock ((h.execAll u body _).starting .block)
  | branch condition yes no =>
    refine ((h.eval u condition s).starting .branch).bind fun v t test => ?_
    split
    · rename_i holds
      exact (h.exec u yes t).starting (.yes test holds)
    · rename_i fails
      cases no with
      | none => exact .pure _
      | some no => exact (h.exec u no t).starting (.no test (Bool.eq_false_iff.2 fails))
  | loop condition body =>
    refine ((h.eval u condition s).starting .loop).bind fun v t test => ?_
    split
    · rename_i holds
      refine ((h.exec u body t).starting (.turn test holds)).bind fun flow t' turn => ?_
      cases flow with
      | returned v => exact .pure _
      | normal => exact (h.exec u (.loop condition body) t').starting (.again test holds turn)
    · exact .pure _
  | function ident params body =>
    exact (Action.BreaksOff.of_done rfl).bind fun _ t _ => .pure _
  | ret word value =>
    cases value with
    | none => exact .pure _
    | some e => exact ((h.eval u e s).starting .ret).bind fun v t _ => .pure _

theorem execAll_succ (u : Nat) (stmts : List Stmt) (s : Scopes) :
    (ScriptLang.execAll (n + 1) u stmts).BreaksOff ⟨n + 1, .stmts u stmts, s⟩ s := by
  cases stmts with
  | nil => exact .pure _
  | cons stmt later =>
    refine ((h.exec u stmt s).starting .first).bind fun flow t first => ?_
    cases flow with
    | returned v => exact .pure _
    | normal => exact (h.execAll u later t).starting (.later first)

theorem eval_succ (u : Nat) (e : Expr) (s : Scopes) :
    (ScriptLang.eval (n + 1) u e).BreaksOff ⟨n + 1, .expr u e, s⟩ s := by
  cases e with
  | constant c => exact .pure _
  | group inner => exact (h.eval u inner s).starting .group
  | name ident => exact .of_done (Action.on_read ident s)
  | assign ident value =>
    refine ((h.eval u value s).starting .assign).bind fun v t _ => ?_
    exact (Action.BreaksOff.of_done rfl).bind fun _ t _ => .pure _
  | logical op left right =>
    refine ((h.eval u left s).starting .deciding).bind fun v t first => ?_
    split
    · exact .pure _
    · rename_i undecided
      exact (h.eval u right t).starting (.undecided first (Bool.eq_false_iff.2 undecided))
  | unary op operand =>
    refine ((h.eval u operand s).starting .unary).bind fun v t _ => ?_
    exact .of_done (Action.on_ofResult op _ t)
  | binary op left right =>
    refine ((h.eval u left s).starting .left).bind fun v t first => ?_
    refine ((h.eval u right t).starting (.right first)).bind fun w t' _ => ?_
    exact .of_done (Action.on_ofResult op _ t')
  | call callee paren args =>
    refine ((h.eval u callee s).starting .callee).bind fun v t first => ?_
    cases v with
    | callable f =>
      refine ((h.evalAll u args t).starting (.args first)).bind fun vs t' second => ?_
      split
      · rename_i arity
        exact (h.call f vs paren t').starting (.call first second arity)
      · exact .throw _
    | _ => exact .throw _

theorem evalAll_succ (u : Nat) (es : List Expr) (s : Scopes) :
    (ScriptLang.evalAll (n + 1) u es).BreaksOff ⟨n + 1, .exprs u es, s⟩ s := by
  cases es with
  | nil => exact .pure _
  | cons e later =>
    refine ((h.eval u e s).starting .firstExpr).bind fun v t first => ?_
    exact ((h.evalAll u later t).starting (.laterExprs first)).bind fun vs t' _ => .pure _

theorem call_succ (f : Callable) (args : List Value) (paren : Token) (s : Scopes) :
    (ScriptLang.call (n + 1) f args paren).BreaksOff ⟨n + 1, .call f args paren, s⟩ s := by
  cases f with
  | builtin b => exact .builtin b args paren
  | user f =>
    refine .inCall ((Action.BreaksOff.bindParams f.decl.params args).bind fun _ t params => ?_)
    refine ((h.execAll f.unit f.decl.body t).starting (.body params)).bind fun flow t' _ => ?_
    cases flow with
    | returned v => exact .pure _
    | normal => exact .pure _

/-- One more step. -/
theorem succ : BreakingOff (n + 1) :=
  ⟨h.exec_succ, h.execAll_succ, h.eval_succ, h.evalAll_succ, h.call_succ⟩

end BreakingOff

/-- The evaluator stops where a write fails. -/
theorem breakingOff (n : Nat) : BreakingOff n := by
  induction n with
  | zero => exact .zero
  | succ n ih => exact ih.succ

/-! ### Listings -/

/-- A step of a session fails where a write fails, and leaves the session as it is. -/
def SessionM.BreaksOff {α : Type} (m : SessionM α) (s : Session) : Prop :=
  (m.on s).BreaksOff fun _ why p => p = (.error (.output why), s)

theorem SessionM.BreaksOff.bind {α β : Type} {m : SessionM α} {f : α → SessionM β} {s : Session}
    (h : m.BreaksOff s) (same : (m.on s).Ends fun p => p.2 = s) (next : ∀ x, (f x).BreaksOff s) :
    (m >>= f).BreaksOff s := by
  unfold BreaksOff
  rw [SessionM.on_bind]
  refine Dialogue.BreaksOff.bind h ?_ ?_
  · rintro text why _ rfl
    exact ⟨_, rfl, rfl⟩
  · rintro ⟨result, t⟩ ends
    obtain rfl := same.of_mayEnd ends
    cases result with
    | ok x => exact next x
    | error e => exact .done _

namespace Session

/-- The bytes of some lines. -/
def bytesOf (lines : List String) : List UInt8 :=
  lines.flatMap fun line => Text.encode (line ++ "\n")

/-- The bytes of the listings of a text: that of its tokens, and that of its tree if the text has no
fault. -/
def listed (listings : Listings) (source : String) : List UInt8 :=
  (if listings.tokens then bytesOf ((scan source).tokens.map Token.describe) else []) ++
    if faultsOf source = [] ∧ listings.tree then
      bytesOf ((Script.ofTokens (scan source).tokens).stmts.map Stmt.render)
    else []

theorem on_writeLines_cons (line : String) (later : List String) (s : Session) :
    (writeLines (line :: later)).on s = Dialogue.writing (line ++ "\n") fun answer =>
      match answer with
      | .ok _ => (writeLines later).on s
      | .error why => .done (.error (.output why), s) := by
  rw [writeLines, SessionM.on_bind, on_write]
  refine congrArg (Dialogue.ask _) (funext fun answer => ?_)
  cases answer <;> rfl

theorem writeLines_breaksOff (lines : List String) (s : Session) :
    (writeLines lines).BreaksOff s := by
  induction lines with
  | nil => exact .done _
  | cons line later ih =>
    unfold SessionM.BreaksOff
    rw [on_writeLines_cons]
    exact .write (fun why => ⟨_, rfl, rfl⟩) ih

theorem writeIf_breaksOff (wanted : Bool) (lines : List String) (s : Session) :
    (writeIf wanted lines).BreaksOff s := by
  cases wanted with
  | false => exact .done _
  | true => exact writeLines_breaksOff lines s

theorem writeIf_same (wanted : Bool) (lines : List String) (s : Session) :
    ((writeIf wanted lines).on s).Ends fun p => p.2 = s := by
  refine (writeIf_ends wanted lines s).mono ?_
  rintro _ (rfl | ⟨why, rfl⟩) <;> rfl

/-- A listing that cannot be written is the end of a script. -/
theorem prepare_breaksOff (listings : Listings) (source : String) (s : Session) :
    (prepare listings source).BreaksOff s := by
  refine (writeIf_breaksOff _ _ s).bind (writeIf_same ..) fun _ => ?_
  unfold rejectIf
  split
  · exact .done _
  · exact (writeIf_breaksOff _ _ s).bind (writeIf_same ..) fun _ => .done _

variable {w : World}

/-- Lines are written one behind the other. -/
theorem output_writeLines (lines : List String) (s : Session) (unbounded : w.capacity = none) :
    ((writeLines lines).on s).output w = bytesOf lines ∧
      (((writeLines lines).on s).run w).1 = (.ok (), s) := by
  induction lines generalizing w with
  | nil => exact ⟨rfl, rfl⟩
  | cons line later ih =>
    obtain ⟨output, result⟩ := ih (w := w.wrote (Text.encode (line ++ "\n"))) unbounded
    rw [on_writeLines_cons, Dialogue.output_writing _ _ unbounded,
      Dialogue.run_writing _ _ unbounded]
    refine ⟨?_, result⟩
    rw [bytesOf, List.flatMap_cons]
    exact congrArg (_ ++ ·) output

theorem output_writeIf (wanted : Bool) (lines : List String) (s : Session)
    (unbounded : w.capacity = none) :
    ((writeIf wanted lines).on s).output w = (if wanted then bytesOf lines else []) ∧
      (((writeIf wanted lines).on s).run w).1 = (.ok (), s) := by
  cases wanted with
  | false => exact ⟨rfl, rfl⟩
  | true => exact output_writeLines lines s unbounded

/-- What is written before the statements of a script run. -/
theorem output_prepare (listings : Listings) (source : String) (s : Session)
    (unbounded : w.capacity = none) :
    ((prepare listings source).on s).output w = listed listings source := by
  obtain ⟨tokens, written⟩ := output_writeIf listings.tokens
    ((scan source).tokens.map Token.describe) s unbounded
  unfold prepare listed
  rw [SessionM.on_bind, Dialogue.output_bind, tokens, written]
  congr 1
  by_cases faultless : faultsOf source = []
  · obtain ⟨tree, written⟩ := output_writeIf listings.tree
      ((Script.ofTokens (scan source).tokens).stmts.map Stmt.render) s
      (Dialogue.capacity_run ((writeIf listings.tokens _).on s) unbounded)
    dsimp only
    rw [rejectIf, if_neg (not_not_intro faultless), pure_bind, SessionM.on_bind,
      Dialogue.output_bind, tree, written]
    simp [faultless, Dialogue.output]
  · dsimp only
    rw [rejectIf, if_pos faultless, if_neg fun h => faultless h.1]
    rfl

/-! ### Scripts -/

/-- With room for `n` more bytes, a dialogue is cut off in its statements.  The error is that of a
`print`, at its keyword, or that of a call of a built-in function, at its closing parenthesis, to
which the statements have turned.  The globals are as this piece of work has found them. -/
def Interrupted (fuel : Nat) (stmts : List Stmt) (s : Session)
    (d : Dialogue (Except RunError Unit × Session)) (w : World) (n : Nat) : Prop :=
  ∃ e t, (d.run (w.taking (some n))).1 = (.error (.runtime e), ⟨t, s.units + 1⟩) ∧
    e.fault.kind = .io ∧ (Work.mk fuel (.stmts s.units stmts) s.scopes).CutOff d w n e t.globals

/-- The statements of a unit run, and then the output is passed on. -/
theorem on_statements (fuel : Nat) (stmts : List Stmt) (s : Session) :
    (do runStmts fuel stmts; request (Dialogue.request .flush) : SessionM Unit).on s =
      (execAll fuel s.units stmts).on s.scopes >>= fun p =>
        match p.1 with
        | .ok _ =>
          .ask .flush fun answer => .done (Except.mapError .output answer, ⟨p.2, s.units + 1⟩)
        | .error stop => .done (.error (.ofStop stop), ⟨p.2, s.units + 1⟩) := by
  rw [SessionM.on_bind, on_runStmts, Dialogue.bind_assoc]
  congr 1
  funext p
  obtain ⟨stop | flow, t⟩ := p
  · rfl
  · exact on_flush _

/-- Statements for which there is too little room are interrupted. -/
theorem statements_interrupted (fuel : Nat) (stmts : List Stmt) (s : Session) {n : Nat}
    (unbounded : w.capacity = none)
    (exceeds : n < (((do runStmts fuel stmts; request (Dialogue.request .flush) :
      SessionM Unit).on s).output w).length) :
    Interrupted fuel stmts s
      ((do runStmts fuel stmts; request (Dialogue.request .flush) : SessionM Unit).on s) w n := by
  rw [on_statements] at exceeds ⊢
  -- Passing on the output writes nothing.
  have exceeds' : n < (((execAll fuel s.units stmts).on s.scopes).output w).length := by
    rw [Dialogue.output_bind, List.length_append] at exceeds
    generalize ((execAll fuel s.units stmts).on s.scopes).run w = result at exceeds
    obtain ⟨⟨stop | flow, t⟩, w'⟩ := result <;> exact exceeds
  obtain ⟨e, t, stopped, cut⟩ :=
    (breakingOff fuel).execAll s.units stmts s.scopes w n unbounded exceeds'
  refine ⟨e, t, ?_, ?_, cut.bind exceeds' (by rw [stopped])⟩
  · rw [Dialogue.run_bind, stopped]
    rfl
  · obtain ⟨_, _, _, _, _, _, _, writes⟩ := cut
    exact writes.io

/-- The listings come first. -/
theorem listed_isPrefix (fuel : Nat) (listings : Listings) (source : String) (s : Session)
    (unbounded : w.capacity = none) :
    listed listings source <+: ((run fuel listings source).on s).output w := by
  rw [run_eq, SessionM.on_bind, Dialogue.output_bind,
    output_prepare listings source s unbounded]
  exact List.prefix_append ..

/-- Without room for the listings, a script ends at once and leaves the session as it is. -/
theorem run_unlisted (fuel : Nat) (listings : Listings) (source : String) (s : Session) {n : Nat}
    (unbounded : w.capacity = none) (exceeds : n < (listed listings source).length) :
    (((run fuel listings source).on s).run (w.taking (some n))).1 =
        (.error (.output .brokenPipe), s) ∧
      ∃ text w', ((run fuel listings source).on s).CutOff w n text w' := by
  rw [← output_prepare listings source s unbounded] at exceeds
  obtain ⟨text, w', cut, failed⟩ :=
    Dialogue.BreaksOff.cutOff (prepare_breaksOff listings source s) unbounded exceeds
  rw [run_eq, SessionM.on_bind]
  refine ⟨?_, text, w', cut.bind exceeds (b := (.error (.output .brokenPipe), s)) (by rw [failed])⟩
  rw [Dialogue.run_bind, failed]
  rfl

/-- With room for the listings, but not for everything, a script is interrupted in its
statements. -/
theorem run_interrupted (fuel : Nat) (listings : Listings) (source : String) (s : Session)
    {n : Nat} (unbounded : w.capacity = none) (room : (listed listings source).length ≤ n)
    (exceeds : n < (((run fuel listings source).on s).output w).length) :
    Interrupted fuel (Script.ofTokens (scan source).tokens).stmts s
      ((run fuel listings source).on s) w n := by
  rw [← output_prepare listings source s unbounded] at room
  rw [run_eq, SessionM.on_bind] at exceeds ⊢
  rw [Dialogue.output_bind, List.length_append] at exceeds
  obtain ⟨prepared, same⟩ := (prepare_ends listings source s).run w
  have unbounded' := Dialogue.capacity_run ((prepare listings source).on s) unbounded
  unfold Interrupted
  rw [Dialogue.run_bind_of_fits unbounded room]
  generalize preparing : ((prepare listings source).on s).run w = result at *
  obtain ⟨⟨result, t⟩, w'⟩ := result
  dsimp only at prepared same exceeds unbounded' ⊢
  subst same
  -- What has not been written yet is left to the statements, so there is no fault in the text.
  cases prepared with
  | faulty h => exact absurd exceeds (Nat.not_lt.2 room)
  | output why => exact absurd exceeds (Nat.not_lt.2 room)
  | faultless h =>
    dsimp only at exceeds ⊢
    obtain ⟨e, t, stopped, io, cut⟩ := statements_interrupted fuel
      (Script.ofTokens (scan source).tokens).stmts _ unbounded'
      (Nat.sub_lt_left_of_lt_add room exceeds)
    refine ⟨e, t, stopped, io, .behind unbounded room ?_⟩
    rw [preparing]
    exact cut

/-- With room for `n` bytes, a script does what it does with an output that takes everything, up to
the first write for which there is no room, and nothing else.  If there is such a write, it is the
end of the script: in a listing with that error alone, and else with an error that says where. -/
theorem run_truncated (fuel : Nat) (listings : Listings) (source : String) (s : Session) (w : World)
    (n : Nat) :
    let d := (run fuel listings source).on s
    let full := d.run (w.taking none)
    let cut := d.run (w.taking (some n))
    ∃ bytes : List UInt8,
      full.2.written = w.written ++ bytes ∧ listed listings source <+: bytes ∧
      (bytes.length ≤ n → cut = (full.1, full.2.taking (some (n - bytes.length)))) ∧
      (n < bytes.length → cut.2.written = w.written ++ bytes.take n ∧
        (n < (listed listings source).length →
          cut.1 = (.error (.output .brokenPipe), s) ∧
            ∃ text w', d.CutOff (w.taking none) n text w') ∧
        ((listed listings source).length ≤ n →
          Interrupted fuel (Script.ofTokens (scan source).tokens).stmts s d (w.taking none)
            n)) := by
  intro d full cut
  have unbounded : (w.taking none).capacity = none := rfl
  refine ⟨d.output (w.taking none), d.written_run unbounded, ?_, d.run_of_fits unbounded, ?_⟩
  · exact listed_isPrefix fuel listings source s unbounded
  · intro exceeds
    by_cases room : (listed listings source).length ≤ n
    · have interrupted := run_interrupted fuel listings source s unbounded room exceeds
      obtain ⟨_, _, _, _, _, _, _, _, cutOff, _⟩ := id interrupted
      exact ⟨cutOff.written, fun h => absurd room (Nat.not_le.2 h), fun _ => interrupted⟩
    · obtain ⟨failed, text, w', cutOff⟩ :=
        run_unlisted fuel listings source s unbounded (Nat.not_le.1 room)
      exact ⟨cutOff.written, fun _ => ⟨failed, text, w', cutOff⟩, fun h => absurd h room⟩

/-- A line of which only the first bytes fit. -/
example :
    let cut := ((run 9 {} "print true;").on start).run { capacity := some 3 }
    cut.1.1 =
        .error (.runtime ⟨⟨.printWord, "print", none, 1, ⟨0, 5⟩⟩, .outputFailed .brokenPipe⟩) ∧
      cut.2.written.toList = Text.encode "tru" := by
  have faultless : Faultless "print true;" := ⟨by cbv, by cbv⟩
  have stmts : Script.stmtsOf "print true;" =
      [.print ⟨.printWord, "print", none, 1, ⟨0, 5⟩⟩ (.constant (.bool true))] := by cbv
  intro cut
  unfold cut
  rw [run_run faultless, stmts]
  exact ⟨rfl, rfl⟩

end Session

end ScriptLang

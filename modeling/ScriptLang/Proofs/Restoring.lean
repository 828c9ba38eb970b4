import Mathlib
import ScriptLang.Proofs.Execution
import ScriptLang.Proofs.Names

/-!
# Frames are restored

Running and evaluating opens frames and closes them again.  However a piece of work ends, the frames
that were open when it began are open and no others, and on the way there none of them is ever
closed.  So a session is outside of all blocks and functions whenever a host turns to it, and from
wherever a name is looked up the way outwards leads to the globals.

## Main definitions

* `Scopes.Extends`, `Scopes.Restored` — frames are still open, or are exactly those still open
* `Work`, `Work.Starts` — what the evaluator is busy with, and what it turns to in between
* `Session.Move`, `Session.Reached` — what a host does, and the sessions that this leads to
* `Scopes.Reached` — the open frames at the start or at the end of some piece of work

## Main results

* `Work.Starts.extends` — a piece of work leaves the frames open while it is busy with another
* `Session.scopes_restored` — frames are restored by whatever is done, and however it ends
-/

namespace ScriptLang

/-! ### Frames that stay open -/

/-- The same frame at a later time: it is linked as before and has lost no name.  A frame that had
been closed, and another one opened in its place, would have lost all of them. -/
structure Frame.Kept (f g : Frame) : Prop where
  enclosing : g.enclosing = f.enclosing
  binds : ∀ {x : String}, f.bindings.binds x = true → g.bindings.binds x = true

/-- The frames of `s` are open in `t`, perhaps with newer ones. -/
def Scopes.Extends (s t : Scopes) : Prop :=
  ∀ (i : Nat) (f : Frame), s.frames[i]? = some f → ∃ g, t.frames[i]? = some g ∧ f.Kept g

/-- The frames of `s` are open in `t`, and the newest one is the newest again. -/
structure Scopes.Restored (s t : Scopes) : Prop where
  kept : s.Extends t
  newest : t.newest.val = s.newest.val

namespace Scopes

variable {s t u : Scopes} {D : List String}

theorem Extends.refl (s : Scopes) : s.Extends s :=
  fun _ f h => ⟨f, h, rfl, id⟩

theorem Extends.trans (first : s.Extends t) (second : t.Extends u) : s.Extends u := by
  intro i f hf
  obtain ⟨g, hg, fg⟩ := first i f hf
  obtain ⟨h, hh, gh⟩ := second i g hg
  exact ⟨h, hh, gh.enclosing.trans fg.enclosing, fun hx => gh.binds (fg.binds hx)⟩

theorem extends_push (s : Scopes) (i : s.Id) : s.Extends (s.push i) := by
  intro j f hf
  have isOpen : j ≠ s.frames.size := by
    rintro rfl
    simp at hf
  exact ⟨f, by rw [getElem?_push, if_neg isOpen, hf], rfl, id⟩

theorem extends_insert (s : Scopes) (name : String) (value : Value) (j : s.Id) :
    s.Extends (s.insert name value j) := by
  intro i f hf
  rw [Scopes.insert, getElem?_modify, hf]
  split
  · exact ⟨_, rfl, rfl, fun hx => (Bindings.binds_put ..).2 (.inr hx)⟩
  · exact ⟨f, rfl, rfl, id⟩

theorem Gains.extends (h : s.Gains D t) : s.Extends t := by
  intro i f hf
  have frame := h.frame i
  rw [hf] at frame
  generalize t.frames[i]? = g at frame ⊢
  cases frame with
  | some gains => exact ⟨_, rfl, gains.enclosing, gains.kept⟩

theorem Gains.restored (h : s.Gains D t) : s.Restored t :=
  ⟨h.extends, by rw [newest_val, newest_val, h.size]⟩

theorem Restored.trans (first : s.Restored t) (second : t.Restored u) : s.Restored u :=
  ⟨first.kept.trans second.kept, second.newest.trans first.newest⟩

theorem Restored.depth (h : s.Restored t) : t.depth = s.depth := by
  have newest := h.newest
  have pos := s.pos
  have pos' := t.pos
  simp only [newest_val] at newest
  unfold Scopes.depth
  omega

/-! ### The way outwards -/

/-- Frame `i` is enclosed by frame `j`. -/
def EnclosedBy (s : Scopes) (i j : Nat) : Prop :=
  ∃ f, s.frames[i]? = some f ∧ f.enclosing = some j

/-- Every frame but the oldest is enclosed by another one. -/
def Linked (s : Scopes) : Prop :=
  ∀ i, 0 < i → i < s.frames.size → ∃ j, s.EnclosedBy i j

theorem EnclosedBy.lt {i j : Nat} (h : s.EnclosedBy i j) : j < i := by
  obtain ⟨f, hf, link⟩ := h
  obtain ⟨lt, rfl⟩ := Array.getElem?_eq_some_iff.1 hf
  exact s.older i lt j link

theorem EnclosedBy.extends {i j : Nat} (h : s.EnclosedBy i j) (kept : s.Extends t) :
    t.EnclosedBy i j := by
  obtain ⟨f, hf, link⟩ := h
  obtain ⟨g, hg, fg⟩ := kept i f hf
  exact ⟨g, hg, fg.enclosing.trans link⟩

/-- As the numbers get smaller with each step, the way outwards ends, and it can only end at the
oldest frame. -/
theorem Linked.outwards (linked : s.Linked) {i : Nat} (isOpen : i < s.frames.size) :
    Relation.ReflTransGen s.EnclosedBy i 0 := by
  induction i using Nat.strongRecOn with
  | ind i ih =>
    obtain rfl | pos := Nat.eq_zero_or_pos i
    · exact .refl
    · obtain ⟨j, link⟩ := linked i pos isOpen
      exact .head link (ih j link.lt (Nat.lt_trans link.lt isOpen))

theorem Linked.of_single (single : s.frames.size = 1) : s.Linked :=
  fun i pos lt => by omega

theorem Linked.push (linked : s.Linked) (i : s.Id) : (s.push i).Linked := by
  intro j pos lt
  rw [size_push] at lt
  by_cases new : j = s.frames.size
  · exact ⟨i, ⟨[], some i⟩, by rw [getElem?_push, if_pos new], rfl⟩
  · obtain ⟨k, link⟩ := linked j pos (by omega)
    exact ⟨k, link.extends (s.extends_push i)⟩

theorem Linked.gains (linked : s.Linked) (h : s.Gains D t) : t.Linked := by
  intro i pos lt
  obtain ⟨j, link⟩ := linked i pos (h.size ▸ lt)
  exact ⟨j, link.extends h.extends⟩

end Scopes

/-! ### Pieces of work -/

/-- What the evaluator can be asked to do. -/
inductive Task where
  | stmt (unit : Nat) (stmt : Stmt)
  | stmts (unit : Nat) (stmts : List Stmt)
  | expr (unit : Nat) (e : Expr)
  | exprs (unit : Nat) (es : List Expr)
  | call (f : Callable) (args : List Value) (paren : Token)

namespace Task

/-- What a task comes to when it does not fail. -/
def Result : Task → Type
  | stmt .. | stmts .. => Flow
  | expr .. | call .. => Value
  | exprs .. => List Value

/-- The evaluator at a task. -/
def run (fuel : Nat) : (task : Task) → Action task.Result
  | stmt u s => exec fuel u s
  | stmts u ss => execAll fuel u ss
  | expr u e => eval fuel u e
  | exprs u es => evalAll fuel u es
  | call f args paren => ScriptLang.call fuel f args paren

end Task

/-- A task, the fuel for it, and the frames that are open when it begins. -/
structure Work where
  fuel : Nat
  task : Task
  scopes : Scopes

namespace Work

/-- A piece of work as a dialogue, from its start to its result and the frames then open. -/
def dialogue (w : Work) : Dialogue (Except Stop w.task.Result × Scopes) :=
  (w.task.run w.fuel).on w.scopes

/-- A piece of work turns to another one, which has to be done first or goes on where others have
ended. -/
inductive Starts : Work → Work → Prop where
  | expression {n u : Nat} {e : Expr} {s : Scopes} :
      Starts ⟨n + 1, .stmt u (.expression e), s⟩ ⟨n, .expr u e, s⟩
  | print {n u : Nat} {word : Token} {e : Expr} {s : Scopes} :
      Starts ⟨n + 1, .stmt u (.print word e), s⟩ ⟨n, .expr u e, s⟩
  | var {n u : Nat} {ident : Token} {e : Expr} {s : Scopes} :
      Starts ⟨n + 1, .stmt u (.var ident (some e)), s⟩ ⟨n, .expr u e, s⟩
  | ret {n u : Nat} {word : Token} {e : Expr} {s : Scopes} :
      Starts ⟨n + 1, .stmt u (.ret word (some e)), s⟩ ⟨n, .expr u e, s⟩
  | block {n u : Nat} {body : List Stmt} {s : Scopes} :
      Starts ⟨n + 1, .stmt u (.block body), s⟩ ⟨n, .stmts u body, s.push s.newest⟩
  | branch {n u : Nat} {e : Expr} {yes : Stmt} {no : Option Stmt} {s : Scopes} :
      Starts ⟨n + 1, .stmt u (.branch e yes no), s⟩ ⟨n, .expr u e, s⟩
  | yes {n u : Nat} {e : Expr} {yes : Stmt} {no : Option Stmt} {v : Value} {s t : Scopes}
      (test : ((eval n u e).on s).MayEnd (.ok v, t)) (holds : v.isTruthy = true) :
      Starts ⟨n + 1, .stmt u (.branch e yes no), s⟩ ⟨n, .stmt u yes, t⟩
  | no {n u : Nat} {e : Expr} {yes no : Stmt} {v : Value} {s t : Scopes}
      (test : ((eval n u e).on s).MayEnd (.ok v, t)) (fails : v.isTruthy = false) :
      Starts ⟨n + 1, .stmt u (.branch e yes (some no)), s⟩ ⟨n, .stmt u no, t⟩
  | loop {n u : Nat} {e : Expr} {body : Stmt} {s : Scopes} :
      Starts ⟨n + 1, .stmt u (.loop e body), s⟩ ⟨n, .expr u e, s⟩
  | turn {n u : Nat} {e : Expr} {body : Stmt} {v : Value} {s t : Scopes}
      (test : ((eval n u e).on s).MayEnd (.ok v, t)) (holds : v.isTruthy = true) :
      Starts ⟨n + 1, .stmt u (.loop e body), s⟩ ⟨n, .stmt u body, t⟩
  | again {n u : Nat} {e : Expr} {body : Stmt} {v : Value} {s t t' : Scopes}
      (test : ((eval n u e).on s).MayEnd (.ok v, t)) (holds : v.isTruthy = true)
      (turn : ((exec n u body).on t).MayEnd (.ok .normal, t')) :
      Starts ⟨n + 1, .stmt u (.loop e body), s⟩ ⟨n, .stmt u (.loop e body), t'⟩
  | first {n u : Nat} {stmt : Stmt} {later : List Stmt} {s : Scopes} :
      Starts ⟨n + 1, .stmts u (stmt :: later), s⟩ ⟨n, .stmt u stmt, s⟩
  | later {n u : Nat} {stmt : Stmt} {later : List Stmt} {s t : Scopes}
      (first : ((exec n u stmt).on s).MayEnd (.ok .normal, t)) :
      Starts ⟨n + 1, .stmts u (stmt :: later), s⟩ ⟨n, .stmts u later, t⟩
  | group {n u : Nat} {e : Expr} {s : Scopes} :
      Starts ⟨n + 1, .expr u (.group e), s⟩ ⟨n, .expr u e, s⟩
  | assign {n u : Nat} {ident : Token} {e : Expr} {s : Scopes} :
      Starts ⟨n + 1, .expr u (.assign ident e), s⟩ ⟨n, .expr u e, s⟩
  | unary {n u : Nat} {op : Token} {e : Expr} {s : Scopes} :
      Starts ⟨n + 1, .expr u (.unary op e), s⟩ ⟨n, .expr u e, s⟩
  | left {n u : Nat} {op : Token} {left right : Expr} {s : Scopes} :
      Starts ⟨n + 1, .expr u (.binary op left right), s⟩ ⟨n, .expr u left, s⟩
  | right {n u : Nat} {op : Token} {left right : Expr} {v : Value} {s t : Scopes}
      (first : ((eval n u left).on s).MayEnd (.ok v, t)) :
      Starts ⟨n + 1, .expr u (.binary op left right), s⟩ ⟨n, .expr u right, t⟩
  | deciding {n u : Nat} {op : Token} {left right : Expr} {s : Scopes} :
      Starts ⟨n + 1, .expr u (.logical op left right), s⟩ ⟨n, .expr u left, s⟩
  | undecided {n u : Nat} {op : Token} {left right : Expr} {v : Value} {s t : Scopes}
      (first : ((eval n u left).on s).MayEnd (.ok v, t)) (undecided : decidedBy op v = false) :
      Starts ⟨n + 1, .expr u (.logical op left right), s⟩ ⟨n, .expr u right, t⟩
  | callee {n u : Nat} {callee : Expr} {paren : Token} {args : List Expr} {s : Scopes} :
      Starts ⟨n + 1, .expr u (.call callee paren args), s⟩ ⟨n, .expr u callee, s⟩
  | args {n u : Nat} {callee : Expr} {paren : Token} {args : List Expr} {f : Callable}
      {s t : Scopes} (first : ((eval n u callee).on s).MayEnd (.ok (.callable f), t)) :
      Starts ⟨n + 1, .expr u (.call callee paren args), s⟩ ⟨n, .exprs u args, t⟩
  | call {n u : Nat} {callee : Expr} {paren : Token} {args : List Expr} {f : Callable}
      {vs : List Value} {s t t' : Scopes}
      (first : ((eval n u callee).on s).MayEnd (.ok (.callable f), t))
      (second : ((evalAll n u args).on t).MayEnd (.ok vs, t')) (arity : vs.length = f.arity) :
      Starts ⟨n + 1, .expr u (.call callee paren args), s⟩ ⟨n, .call f vs paren, t'⟩
  | firstExpr {n u : Nat} {e : Expr} {later : List Expr} {s : Scopes} :
      Starts ⟨n + 1, .exprs u (e :: later), s⟩ ⟨n, .expr u e, s⟩
  | laterExprs {n u : Nat} {e : Expr} {later : List Expr} {v : Value} {s t : Scopes}
      (first : ((eval n u e).on s).MayEnd (.ok v, t)) :
      Starts ⟨n + 1, .exprs u (e :: later), s⟩ ⟨n, .exprs u later, t⟩
  | body {n : Nat} {f : UserFunction} {args : List Value} {paren : Token} {s t : Scopes}
      (params : ((bindParams f.decl.params args).on (s.push s.oldest)).MayEnd (.ok (), t)) :
      Starts ⟨n + 1, .call (.user f) args paren, s⟩ ⟨n, .stmts f.unit f.decl.body, t⟩

/-- A piece of work opens no frame that is left open, and closes none. -/
theorem ends_gains (w : Work) : w.dialogue.Ends fun p => ∃ D, w.scopes.Gains D p.2 := by
  obtain ⟨fuel, task, s⟩ := w
  have binds := bindsDeclared fuel
  cases task with
  | stmt u stmt => exact (binds.exec u stmt s).mono fun _ h => ⟨_, h⟩
  | stmts u stmts => exact (binds.execAll u stmts s).mono fun _ h => ⟨_, h⟩
  | expr u e => exact (binds.eval u e s).mono fun _ h => ⟨_, h⟩
  | exprs u es => exact (binds.evalAll u es s).mono fun _ h => ⟨_, h⟩
  | call f args paren => exact (binds.call f args paren s).mono fun _ h => ⟨_, h⟩

theorem restored (w : Work) : w.dialogue.Ends fun p => w.scopes.Restored p.2 :=
  w.ends_gains.mono fun _ ⟨_, h⟩ => h.restored

variable {w w' : Work}

/-- Work begins in the frames of the work that turns to it, or in one newer frame: that of a block
or of a call. -/
theorem Starts.frames (h : w.Starts w') :
    (∃ D, w.scopes.Gains D w'.scopes) ∨ ∃ i D, (w.scopes.push i).Gains D w'.scopes := by
  have expr {n u : Nat} {e : Expr} {s t : Scopes} {v : Value}
      (ends : ((eval n u e).on s).MayEnd (.ok v, t)) : s.Gains [] t :=
    (eval_gains n u e s).of_mayEnd ends
  have stmt {n u : Nat} {stmt : Stmt} {s t : Scopes} {flow : Flow}
      (ends : ((exec n u stmt).on s).MayEnd (.ok flow, t)) : s.Gains stmt.declares t :=
    (exec_gains n u stmt s).of_mayEnd ends
  cases h with
  | expression | print | var | ret | branch | loop | first | group | assign | unary | left
  | deciding | callee | firstExpr => exact .inl ⟨[], .refl _ _⟩
  | yes test | no test | turn test => exact .inl ⟨_, expr test⟩
  | right first | undecided first | args first | laterExprs first => exact .inl ⟨_, expr first⟩
  | again test _ turn => exact .inl ⟨_, (expr test).weaken.trans (stmt turn)⟩
  | later first => exact .inl ⟨_, stmt first⟩
  | call first second =>
    exact .inl ⟨_, (expr first).trans (((bindsDeclared _).evalAll _ _ _).of_mayEnd second)⟩
  | block => exact .inr ⟨_, [], .refl _ _⟩
  | body params => exact .inr ⟨_, _, (Action.Gains.bindParams _ _ _).of_mayEnd params⟩

theorem Starts.extends (h : w.Starts w') : w.scopes.Extends w'.scopes := by
  obtain ⟨_, gains⟩ | ⟨i, _, gains⟩ := h.frames
  · exact gains.extends
  · exact (w.scopes.extends_push i).trans gains.extends

theorem Starts.linked (h : w.Starts w') (linked : w.scopes.Linked) : w'.scopes.Linked := by
  obtain ⟨_, gains⟩ | ⟨i, _, gains⟩ := h.frames
  · exact linked.gains gains
  · exact (linked.push i).gains gains

/-- While a piece of work is busy with others, one within the other, its frames stay open. -/
theorem extends_of_reflTransGen (h : Relation.ReflTransGen Starts w w') :
    w.scopes.Extends w'.scopes := by
  induction h with
  | refl => exact .refl _
  | tail _ starts ih => exact ih.trans starts.extends

end Work

/-! ### What a host does -/

namespace Session

/-- What a host can do with a session. -/
inductive Move where
  | run (fuel : Nat) (listings : Listings) (source : String)
  | runStmts (fuel : Nat) (stmts : List Stmt)
  | evalExpression (fuel : Nat) (source : String)
  | callFunction (fuel : Nat) (f : Callable) (args : List Value) (paren : Token)
  | insert (name : String) (value : Value)

/-- The step of a session that a move of the host is, whatever it comes to. -/
def Move.step : Move → SessionM Unit
  | run fuel listings source => Session.run fuel listings source
  | runStmts fuel stmts => Session.runStmts fuel stmts
  | evalExpression fuel source => do let _ ← Session.evalExpression fuel source
  | callFunction fuel f args paren => do let _ ← Session.callFunction fuel f args paren
  | insert name value => ExceptT.mk fun s => pure (.ok (), s.insert name value)

/-- The sessions that moves of a host lead to from a new one, each of which may fail. -/
inductive Reached : Session → Prop where
  | start : Reached start
  | move {s t : Session} {result : Except RunError Unit} (h : Reached s) (m : Move)
      (ends : (m.step.on s).MayEnd (result, t)) : Reached t

end Session

namespace Session

/-- A session whose frames have been restored. -/
abbrev FramesRestored (s t : Session) : Prop :=
  s.scopes.Restored t.scopes

theorem FramesRestored.refl (s : Session) : s.FramesRestored s :=
  (Scopes.Gains.refl [] s.scopes).restored

theorem FramesRestored.trans (s t u : Session) (first : s.FramesRestored t)
    (second : t.FramesRestored u) : s.FramesRestored u :=
  Scopes.Restored.trans first second

/-- A session that does a piece of work has its frames restored. -/
theorem perform_leads (fuel : Nat) (task : Task) :
    (perform (task.run fuel)).Leads FramesRestored := by
  intro s
  rw [on_perform, Dialogue.ends_bind]
  exact (Work.mk fuel task s.scopes).restored

theorem nextUnit_leads : nextUnit.Leads FramesRestored :=
  fun s => .refl s

theorem runStmts_leads (fuel : Nat) (stmts : List Stmt) :
    (runStmts fuel stmts).Leads FramesRestored :=
  nextUnit_leads.bind FramesRestored.trans fun unit =>
    (perform_leads fuel (.stmts unit stmts)).bind FramesRestored.trans fun _ s => .refl s

theorem evalExpression_leads (fuel : Nat) (source : String) :
    (evalExpression fuel source).Leads FramesRestored := by
  dsimp only [evalExpression]
  split
  · rename_i e _ _
    exact nextUnit_leads.bind FramesRestored.trans fun unit => perform_leads fuel (.expr unit e)
  · exact fun s => .refl s

/-- Whatever a host does, and whether it succeeds or fails, the frames are restored. -/
theorem Move.leads (m : Move) : m.step.Leads FramesRestored := by
  cases m with
  | run fuel listings source =>
    exact .run .refl (runStmts_leads fuel) listings source
  | runStmts fuel stmts => exact runStmts_leads fuel stmts
  | evalExpression fuel source =>
    exact (evalExpression_leads fuel source).bind .trans fun _ s => .refl s
  | callFunction fuel f args paren =>
    exact (perform_leads fuel (.call f args paren)).bind .trans fun _ s => .refl s
  | insert name value =>
    intro s
    refine ⟨s.scopes.extends_insert name value _, ?_⟩
    rw [Scopes.newest_val, Scopes.newest_val, Session.insert, Scopes.insert, Scopes.size_modify]

/-- A host always finds a session outside of all blocks and functions. -/
theorem Reached.depth_eq_one {s : Session} (h : s.Reached) : s.scopes.depth = 1 := by
  induction h with
  | start => rfl
  | @move s t result _ m ends ih =>
    have restored : s.FramesRestored t := (m.leads s).of_mayEnd ends
    rw [restored.depth, ih]

end Session

/-! ### Reachable frames -/

/-- The pieces of work that a host or another piece of work has the evaluator begin. -/
inductive Work.Underway : Work → Prop where
  | stmts {s : Session} (h : s.Reached) (fuel : Nat) (stmts : List Stmt) :
      Underway ⟨fuel, .stmts s.units stmts, s.scopes⟩
  | expr {s : Session} (h : s.Reached) (fuel : Nat) (e : Expr) :
      Underway ⟨fuel, .expr s.units e, s.scopes⟩
  | call {s : Session} (h : s.Reached) (fuel : Nat) (f : Callable) (args : List Value)
      (paren : Token) : Underway ⟨fuel, .call f args paren, s.scopes⟩
  | within {w w' : Work} (h : w.Underway) (starts : w.Starts w') : Underway w'

/-- The frames that are open at the start or at an end of some piece of work. -/
inductive Scopes.Reached : Scopes → Prop where
  | start {w : Work} (h : w.Underway) : Reached w.scopes
  | ends {w : Work} {result : Except Stop w.task.Result} {t : Scopes} (h : w.Underway)
      (ends : w.dialogue.MayEnd (result, t)) : Reached t

theorem Work.Underway.linked {w : Work} (h : w.Underway) : w.scopes.Linked := by
  induction h with
  | stmts h | expr h | call h => exact .of_single h.depth_eq_one
  | within _ starts ih => exact starts.linked ih

theorem Scopes.Reached.linked {t : Scopes} (h : t.Reached) : t.Linked := by
  cases h with
  | start h => exact h.linked
  | @ends w _ _ h ends =>
    obtain ⟨_, gains⟩ := w.ends_gains.of_mayEnd ends
    exact h.linked.gains gains

namespace Session

/-- Frames are restored.  However a piece of work ends, the frames that were open at its start are
open and no others, and it leaves them open while it is busy with other work; the same holds of
whatever a host does in any session.  So a host, whatever it has done before and however it ended,
finds a session with the globals as its only frame, and from the newest frame the way outwards leads
to the globals at any time, where it ends. -/
theorem scopes_restored :
    (∀ w : Work, w.dialogue.Ends fun p => w.scopes.Restored p.2) ∧
    (∀ w w' : Work, Relation.ReflTransGen Work.Starts w w' → w.scopes.Extends w'.scopes) ∧
    (∀ (m : Move) (s : Session), (m.step.on s).Ends fun p => s.scopes.Restored p.2.scopes) ∧
    (∀ s : Session, s.Reached → s.scopes.newest = s.scopes.oldest) ∧
    ∀ t : Scopes, t.Reached →
      Relation.ReflTransGen t.EnclosedBy t.newest t.oldest ∧ t.enclosing t.oldest = none := by
  refine ⟨Work.restored, fun _ _ => Work.extends_of_reflTransGen, Move.leads, fun s h => ?_,
    fun t h => ⟨?_, t.enclosing_oldest⟩⟩
  · exact Scopes.newest_eq_oldest h.depth_eq_one
  · exact h.linked.outwards t.newest.isLt

/-- A script that fails in the loop of a block. -/
def failing : String :=
  "\x7b while (true) nowhere; \x7d"

theorem run_failing :
    (((run 9 {} failing).on start).run {}).1.1 =
      .error (.runtime ⟨⟨.ident, "nowhere", none, 1, ⟨15, 22⟩⟩, .undefinedVariable "nowhere"⟩) := by
  have faultless : Faultless failing := ⟨by cbv, by cbv⟩
  have stmts : Script.stmtsOf failing = [.block [.loop (.constant (.bool true))
      (.expression (.name ⟨.ident, "nowhere", none, 1, ⟨15, 22⟩⟩))]] := by
    unfold failing
    cbv
  have unbound : (start.scopes.push start.scopes.newest).resolve? "nowhere"
      (start.scopes.push start.scopes.newest).newest = none := by
    rw [Scopes.resolve?_of_enclosing (p := 0) rfl rfl, Scopes.resolve?_of_last rfl rfl]
  rw [run_run faultless, stmts]
  simp [execAll, exec, eval, Action.on_bind, Scopes.get, Scopes.find?, unbound, Value.ofConstant,
    Value.isTruthy, close, RunError.ofStop, Except.mapError]

/-- After that failure a host finds the session outside of the block again. -/
theorem scopes_restored_failing :
    ∃ s e, (((run 9 {} failing).on start).run {}).1 = (.error (.runtime e), s) ∧ s.Reached ∧
      s.scopes.newest = s.scopes.oldest := by
  have ends := Dialogue.mayEnd_run ((run 9 {} failing).on start) {}
  have reached : Reached (((run 9 {} failing).on start).run {}).1.2 :=
    .move .start (.run 9 {} failing) ends
  exact ⟨_, _, Prod.ext run_failing rfl, reached, scopes_restored.2.2.2.1 _ reached⟩

end Session

end ScriptLang

import Mathlib
import ScriptLang.Proofs.Provenance

/-!
# The history of a session

A host makes one move after another, and each of them may have the evaluator begin a piece of work.
A history is the list of these steps, with the session before and after each of them.  The values
that arise in a history are those that its pieces of work come across, at their start or at an end,
and those that have names between two moves.

## Main definitions

* `Session.Step` — a move, what it came to, and the sessions before and after
* `Session.Step.Begins` — the piece of work that a step has the evaluator begin
* `Session.Underway`, `Session.Arises` — the pieces of work and the values of a history
* `Session.Lived` — the histories of a session from its start

## Main results

* `Session.Move.changes` — all that a move can do to a session
* `Session.Lived.pairwise_units` — a number is given to one unit only
-/

namespace ScriptLang

/-! ### Values that work comes across -/

/-- Whether a task is given a value. -/
def Task.Takes (v : Value) : Task → Prop
  | call f args _ => v = .callable f ∨ v ∈ args
  | stmt .. | stmts .. | expr .. | exprs .. => False

/-- Whether a task comes to a value, or to a list with it. -/
def Task.ComesTo (v : Value) : (task : Task) → task.Result → Prop
  | stmt .., flow | stmts .., flow => flow = .returned v
  | expr .., w | call .., w => w = v
  | exprs .., (vs : List Value) => v ∈ vs

/-- A piece of work comes across a value. -/
inductive Work.Meets (w : Work) (v : Value) : Prop where
  /-- Something has the value when the work begins. -/
  | found (h : w.scopes.Holds v)
  | given (h : w.task.Takes v)
  /-- Something has the value where the work may end, be it with a result or not. -/
  | left {result : Except Stop w.task.Result} {t : Scopes} (ends : w.dialogue.MayEnd (result, t))
      (h : t.Holds v)
  | yielded {x : w.task.Result} {t : Scopes} (ends : w.dialogue.MayEnd (.ok x, t))
      (h : w.task.ComesTo v x)

namespace Session

/-! ### Steps -/

/-- A move of a host in some session, and one of the ways in which it may end. -/
structure Step where
  before : Session
  move : Move
  result : Except RunError Unit
  after : Session
  ends : (move.step.on before).MayEnd (result, after)

/-- The statements that a move is to run as a new unit. -/
def Move.stmts : Move → List Stmt
  | run _ _ source => Script.stmtsOf source
  | runStmts _ stmts => stmts
  | evalExpression .. | callFunction .. | insert .. => []

/-- The statements that a step has run as a new unit.  Where no unit has been given a number, none
has been run, be it that the text was faulty or that its listings could not be written. -/
def Step.stmts (x : Step) : List Stmt :=
  if x.after.units = x.before.units then [] else x.move.stmts

/-- The piece of work that a step has the evaluator begin. -/
inductive Step.Begins (x : Step) : Work → Prop where
  | run {fuel : Nat} {listings : Listings} {source : String}
      (move : x.move = .run fuel listings source) (numbered : x.after.units ≠ x.before.units) :
      Begins x ⟨fuel, .stmts x.before.units (Script.stmtsOf source), x.before.scopes⟩
  | runStmts {fuel : Nat} {stmts : List Stmt} (move : x.move = .runStmts fuel stmts)
      (numbered : x.after.units ≠ x.before.units) :
      Begins x ⟨fuel, .stmts x.before.units stmts, x.before.scopes⟩
  | evalExpression {fuel : Nat} {source : String} {e : Expr}
      (move : x.move = .evalExpression fuel source)
      (read : (Expr.ofTokens (scan source).tokens).1 = some e)
      (numbered : x.after.units ≠ x.before.units) :
      Begins x ⟨fuel, .expr x.before.units e, x.before.scopes⟩
  | callFunction {fuel : Nat} {f : Callable} {args : List Value} {paren : Token}
      (move : x.move = .callFunction fuel f args paren) :
      Begins x ⟨fuel, .call f args paren, x.before.scopes⟩

/-! ### What a move does to a session -/

/-- What a move can do to a session: nothing, to bind a name, or to have a piece of work end. -/
inductive Move.Changes (s : Session) : Move → Session → Prop where
  | nothing (m : Move) : Changes s m s
  | insert (name : String) (value : Value) :
      Changes s (.insert name value) (s.insert name value)
  | run {fuel : Nat} {listings : Listings} {source : String} {result : Except Stop Flow}
      {t : Scopes}
      (ends : ((execAll fuel s.units (Script.stmtsOf source)).on s.scopes).MayEnd (result, t)) :
      Changes s (.run fuel listings source) ⟨t, s.units + 1⟩
  | runStmts {fuel : Nat} {stmts : List Stmt} {result : Except Stop Flow} {t : Scopes}
      (ends : ((execAll fuel s.units stmts).on s.scopes).MayEnd (result, t)) :
      Changes s (.runStmts fuel stmts) ⟨t, s.units + 1⟩
  | evalExpression {fuel : Nat} {source : String} {e : Expr} {result : Except Stop Value}
      {t : Scopes} (read : (Expr.ofTokens (scan source).tokens).1 = some e)
      (ends : ((eval fuel s.units e).on s.scopes).MayEnd (result, t)) :
      Changes s (.evalExpression fuel source) ⟨t, s.units + 1⟩
  | callFunction {fuel : Nat} {f : Callable} {args : List Value} {paren : Token}
      {result : Except Stop Value} {t : Scopes}
      (ends : ((call fuel f args paren).on s.scopes).MayEnd (result, t)) :
      Changes s (.callFunction fuel f args paren) ⟨t, s.units⟩

/-- The session behind a step that drops its result. -/
theorem ends_drop {α : Type} {m : SessionM α} {s : Session} {P : Session → Prop}
    (h : (m.on s).Ends fun p => P p.2) :
    ((do let _ ← m : SessionM Unit).on s).Ends fun p => P p.2 := by
  rw [SessionM.on_bind, Dialogue.ends_bind]
  refine h.mono ?_
  rintro ⟨result, t⟩ ht
  cases result with
  | ok x => exact ht
  | error e => exact ht

theorem perform_ends {α : Type} (a : Action α) (s : Session) :
    ((perform a).on s).Ends fun p => p.2.units = s.units ∧
      ∃ result, (a.on s.scopes).MayEnd (result, p.2.scopes) := by
  rw [on_perform, Dialogue.ends_bind]
  exact (Dialogue.ends_mayEnd _).mono fun p h => ⟨rfl, p.1, h⟩

theorem runStmts_ends (fuel : Nat) (stmts : List Stmt) (s : Session) :
    ((runStmts fuel stmts).on s).Ends fun p => p.2.units = s.units + 1 ∧
      ∃ result, ((execAll fuel s.units stmts).on s.scopes).MayEnd (result, p.2.scopes) := by
  rw [on_runStmts, Dialogue.ends_bind]
  exact (Dialogue.ends_mayEnd _).mono fun p h => ⟨rfl, p.1, h⟩

theorem Move.changes (m : Move) (s : Session) :
    (m.step.on s).Ends fun p => m.Changes s p.2 := by
  cases m with
  | run fuel listings source =>
    -- A faulty text and a failed listing leave the session as it was.
    refine run_ends_of fuel listings (fun _ => .nothing _) (fun _ => .nothing _) (fun _ _ h => h) ?_
    intro _
    refine (runStmts_ends fuel _ s).mono ?_
    rintro ⟨result, t, units⟩ ⟨rfl, _, ends⟩
    exact .run ends
  | runStmts fuel stmts =>
    refine (runStmts_ends fuel stmts s).mono ?_
    rintro ⟨result, t, units⟩ ⟨rfl, _, ends⟩
    exact .runStmts ends
  | evalExpression fuel source =>
    refine ends_drop ?_
    dsimp only [Session.evalExpression]
    split
    · rename_i e ds read none
      rw [SessionM.on_bind, on_nextUnit, Dialogue.done_bind]
      refine (perform_ends _ _).mono ?_
      rintro ⟨result, t, units⟩ ⟨rfl, _, ends⟩
      exact .evalExpression read ends
    · exact .nothing _
  | callFunction fuel f args paren =>
    refine ends_drop ((perform_ends _ s).mono ?_)
    rintro ⟨result, t, units⟩ ⟨rfl, _, ends⟩
    exact .callFunction ends
  | insert name value => exact .insert name value

theorem Step.changes (x : Step) : x.move.Changes x.before x.after :=
  (x.move.changes x.before).of_mayEnd x.ends

theorem Move.Changes.units_le {m : Move} {s t : Session} (h : m.Changes s t) :
    s.units ≤ t.units := by
  cases h with
  | nothing | insert | callFunction => exact Nat.le_refl _
  | run | runStmts | evalExpression => exact Nat.le_succ _

theorem Step.units_lt {x : Step} {d : FunDecl} (h : d ∈ Stmt.allFunctions x.stmts) :
    x.before.units < x.after.units := by
  unfold Step.stmts at h
  split at h
  · exact (List.not_mem_nil h).elim
  · exact Nat.lt_of_le_of_ne x.changes.units_le (Ne.symm ‹_›)

/-! ### Histories -/

/-- The pieces of work that the evaluator is busy with in a history. -/
def Underway (h : List Step) (w : Work) : Prop :=
  ∃ x ∈ h, ∃ v, x.Begins v ∧ Relation.ReflTransGen Work.Starts v w

/-- The values that arise in a history. -/
inductive Arises (h : List Step) (v : Value) : Prop where
  | start (holds : start.scopes.Holds v)
  | after {x : Step} (mem : x ∈ h) (holds : x.after.scopes.Holds v)
  | work {w : Work} (underway : Underway h w) (meets : w.Meets v)

/-- Whether a move hands over no declared functions but those that satisfy `M`. -/
def Move.Given (M : UserFunction → Prop) : Move → Prop
  | callFunction _ f args _ => (Value.callable f).Among M ∧ ∀ v ∈ args, v.Among M
  | insert _ value => value.Among M
  | run .. | runStmts .. | evalExpression .. => True

/-- A move that a host can make with what it has.  Declared functions that it hands over have arisen
before, and statements that it runs have been read from a text, be it a faulty one, for this run.
A host that only runs texts makes no other moves. -/
structure Move.Fair (h : List Step) (m : Move) : Prop where
  given : m.Given fun f => Arises h (.callable (.user f))
  read : m.stmts = [] ∨ ∃ source, m.stmts = Script.stmtsOf source

/-- What has been done in a session from its start, from first to last, and the session then. -/
inductive Lived : List Step → Session → Prop where
  | start : Lived [] start
  | step {h : List Step} {s : Session} (lived : Lived h s) (x : Step) (before : x.before = s)
      (fair : x.move.Fair h) : Lived (h ++ [x]) x.after

namespace Lived

variable {h : List Step} {s : Session}

/-- The number of units only grows. -/
theorem units_le (lived : Lived h s) : ∀ x ∈ h, x.after.units ≤ s.units := by
  induction lived with
  | start => exact fun _ hx => (List.not_mem_nil hx).elim
  | step lived x before fair ih =>
    intro y hy
    subst before
    obtain hy | hy := List.mem_append.1 hy
    · exact (ih y hy).trans x.changes.units_le
    · exact List.mem_singleton.1 hy ▸ Nat.le_refl _

theorem pairwise_units (lived : Lived h s) :
    h.Pairwise fun x y => x.after.units ≤ y.before.units := by
  induction lived with
  | start => exact .nil
  | step lived x before fair ih =>
    subst before
    refine List.pairwise_append.2 ⟨ih, List.pairwise_singleton _ x, fun y hy z hz => ?_⟩
    exact List.mem_singleton.1 hz ▸ lived.units_le y hy

/-- So a number tells a unit from all others. -/
theorem eq_of_units_eq (lived : Lived h s) {i j : Nat} {x y : Step} (hi : h[i]? = some x)
    (hj : h[j]? = some y) (hx : x.before.units < x.after.units)
    (hy : y.before.units < y.after.units) (same : x.before.units = y.before.units) : i = j := by
  have ordered := List.pairwise_iff_getElem.1 lived.pairwise_units
  -- The later of two steps begins where the earlier one has already raised the number.
  obtain ⟨ilt, rfl⟩ := List.getElem?_eq_some_iff.1 hi
  obtain ⟨jlt, rfl⟩ := List.getElem?_eq_some_iff.1 hj
  obtain lt | rfl | gt := Nat.lt_trichotomy i j
  · have := ordered i j ilt jlt lt
    omega
  · rfl
  · have := ordered j i jlt ilt gt
    omega

/-- The declarations of a unit have their names in different places. -/
theorem nodup_functions (lived : Lived h s) :
    ∀ x ∈ h, ((Stmt.allFunctions x.stmts).map fun d => d.ident.span).Nodup := by
  induction lived with
  | start => exact fun _ hx => (List.not_mem_nil hx).elim
  | step lived x before fair ih =>
    intro y hy
    obtain hy | hy := List.mem_append.1 hy
    · exact ih y hy
    · obtain rfl := List.mem_singleton.1 hy
      unfold Step.stmts
      split
      · exact List.nodup_nil
      · obtain none | ⟨source, read⟩ := fair.read
        · rw [none]
          exact List.nodup_nil
        · rw [read]
          exact Script.nodup_functions (nodup_span_scan source)

end Lived

end Session

end ScriptLang

import ScriptLang.Proofs.Action
import ScriptLang.Proofs.Grammar

/-!
# Returning

Only a `return` makes the statements behind it be left out.  The grammar has none outside of
functions, so the statements of a script run one after the other until one fails.

## Main definitions

* `Stmt.returns` — the places in a statement from which its function may return
* `Action.Yields` — what holds of every result of an action

## Main results

* `exec_normal`, `execAll_normal` — statements without a `return` do not return
* `Grammar.Program.returns` — a script has no `return` outside of functions
-/

namespace ScriptLang

mutual

/-- The keywords of the `return`s in a statement that are not in the body of a function there. -/
def Stmt.returns : Stmt → List Token
  | .ret keyword _ => [keyword]
  | .block body => Stmt.allReturns body
  | .branch _ yes none => yes.returns
  | .branch _ yes (some no) => yes.returns ++ no.returns
  | .loop _ body => body.returns
  | .expression _ | .print .. | .var .. | .function .. => []

/-- The keywords of the `return`s in statements that are not in the body of a function there. -/
def Stmt.allReturns : List Stmt → List Token
  | [] => []
  | stmt :: later => stmt.returns ++ Stmt.allReturns later

end

/-! ### Results of actions -/

/-- Whatever frames the action starts with, every result satisfies `P`. -/
def Action.Yields {α : Type} (P : α → Prop) (a : Action α) : Prop :=
  ∀ s, (a.on s).Ends fun p => ∀ x, p.1 = .ok x → P x

namespace Action.Yields

variable {α β : Type} {P : α → Prop} {Q : β → Prop} {a : Action α}

theorem pure {x : α} (h : P x) : (Pure.pure x : Action α).Yields P := by
  intro s y hy
  cases hy
  exact h

theorem throw (e : Stop) : (MonadExcept.throw e : Action α).Yields P :=
  fun _ _ h => nomatch h

theorem any (a : Action α) : a.Yields fun _ => True :=
  fun _ => Dialogue.ends_of_forall fun _ _ _ => trivial

theorem bind {f : α → Action β} (h : a.Yields P) (next : ∀ x, P x → (f x).Yields Q) :
    (a >>= f).Yields Q := by
  intro s
  rw [Action.on_bind, Dialogue.ends_bind]
  refine (h s).mono ?_
  rintro ⟨result, t⟩ hx
  cases result with
  | ok x => exact next x (hx x rfl) t
  | error e => exact fun _ h => nomatch h

/-- What comes behind an action settles the results. -/
theorem behind {f : α → Action β} (next : ∀ x, (f x).Yields Q) : (a >>= f).Yields Q :=
  (any a).bind fun x _ => next x

theorem inBlock (h : a.Yields P) : (Action.inBlock a).Yields P := by
  intro s
  rw [Action.on_inBlock, Dialogue.ends_bind]
  exact h _

end Action.Yields

/-! ### Running -/

/-- Statements without a `return` outside of functions do not return, neither one nor many. -/
theorem exec_normal_and (n u : Nat) :
    (∀ stmt : Stmt, stmt.returns = [] → (exec n u stmt).Yields (· = .normal)) ∧
      ∀ stmts, Stmt.allReturns stmts = [] → (execAll n u stmts).Yields (· = .normal) := by
  induction n with
  | zero => exact ⟨fun _ _ => .throw _, fun _ _ => .throw _⟩
  | succ n ih =>
    obtain ⟨one, all⟩ := ih
    refine ⟨fun stmt none => ?_, fun stmts none => ?_⟩
    · cases stmt with
      | expression e => exact .behind fun _ => .pure rfl
      | print word e =>
        refine .behind fun v => .behind fun answer => ?_
        cases answer with
        | ok _ => exact .pure rfl
        | error why => exact .throw _
      | var ident init =>
        cases init with
        | none => exact .behind fun _ => .pure rfl
        | some e => exact .behind fun v => .behind fun _ => .pure rfl
      | block body => exact .inBlock (all body none)
      | branch condition yes no =>
        refine .behind fun v => ?_
        cases no with
        | none =>
          split
          · exact one yes none
          · exact .pure rfl
        | some no =>
          obtain ⟨hy, hn⟩ := List.append_eq_nil_iff.1 none
          split
          · exact one yes hy
          · exact one no hn
      | loop condition body =>
        refine .behind fun v => ?_
        split
        · refine (one body none).bind fun flow normal => ?_
          subst normal
          exact one (.loop condition body) none
        · exact .pure rfl
      | function ident params body => exact .behind fun _ => .pure rfl
      | ret word value => cases none
    · cases stmts with
      | nil => exact .pure rfl
      | cons stmt later =>
        obtain ⟨first, rest⟩ := List.append_eq_nil_iff.1 none
        refine (one stmt first).bind fun flow normal => ?_
        subst normal
        exact all later rest

theorem exec_normal (n u : Nat) {stmt : Stmt} (none : stmt.returns = []) :
    (exec n u stmt).Yields (· = .normal) :=
  (exec_normal_and n u).1 stmt none

theorem execAll_normal (n u : Nat) {stmts : List Stmt} (none : Stmt.allReturns stmts = []) :
    (execAll n u stmts).Yields (· = .normal) :=
  (exec_normal_and n u).2 stmts none

/-! ### Scripts -/

namespace Grammar

theorem Variable.returns {ts rest : List Token} {stmt : Stmt} (h : Variable ts stmt rest) :
    stmt.returns = [] := by
  cases h <;> rfl

theorem Initialiser.returns {ts rest : List Token} {stmt : Stmt}
    (h : Initialiser ts (some stmt) rest) : stmt.returns = [] := by
  cases h with
  | var _ body => exact body.returns
  | expression _ _ => rfl

theorem Clauses.returns {ts rest : List Token} {init : Option Stmt}
    {condition increment : Option Expr} (h : Clauses ts init condition increment rest)
    {body : Stmt} (none : body.returns = []) :
    (forTree init condition increment body).returns = [] := by
  obtain ⟨_, first, _, _⟩ := h
  rw [forTree_eq]
  have step : (Stmt.forLoop .none condition increment body).returns = [] := by
    cases increment with
    | none => exact none
    | some e => exact List.append_eq_nil_iff.2 ⟨none, rfl⟩
  cases init with
  | none => exact step
  | some stmt =>
    have both := List.append_eq_nil_iff.2 ⟨step, rfl⟩
    exact List.append_eq_nil_iff.2 ⟨first.returns, both⟩

variable {nearest : Prop}

mutual

theorem Statement.returns : ∀ {f o : Bool} {ts rest : List Token} {stmt : Stmt},
    Statement nearest f o ts stmt rest → f = false → stmt.returns = []
  | _, _, _, _, _, .expression .., _ => rfl
  | _, _, _, _, _, .print .., _ => rfl
  | _, _, _, _, _, .ret .., h => nomatch h
  | _, _, _, _, _, .block _ body _, h => body.returns h
  | _, _, _, _, _, .branch _ _ second, h => second.returns h
  | _, _, _, _, _, .branchElse _ _ second _ _ third, h =>
    List.append_eq_nil_iff.2 ⟨second.returns h, third.returns h⟩
  | _, _, _, _, _, .loop _ _ second, h => second.returns h
  | _, _, _, _, _, .forLoop _ first second, h => first.returns (second.returns h)

theorem Declaration.returns : ∀ {f : Bool} {ts rest : List Token} {stmt : Stmt},
    Declaration nearest f ts stmt rest → f = false → stmt.returns = []
  | _, _, _, _, .function .., _ => rfl
  | _, _, _, _, .var _ body, _ => body.returns
  | _, _, _, _, .statement inner, h => inner.returns h

theorem Declarations.returns : ∀ {f : Bool} {ts rest : List Token} {stmts : List Stmt},
    Declarations nearest f ts stmts rest → f = false → Stmt.allReturns stmts = []
  | _, _, _, _, .nil, _ => rfl
  | _, _, _, _, .cons first later, h =>
    List.append_eq_nil_iff.2 ⟨first.returns h, later.returns h⟩

end

/-- There is no `return` outside of the functions of a script. -/
theorem Program.returns {ts : List Token} {stmts : List Stmt} (h : Program nearest ts stmts) :
    Stmt.allReturns stmts = [] :=
  Declarations.returns h rfl

end Grammar

end ScriptLang

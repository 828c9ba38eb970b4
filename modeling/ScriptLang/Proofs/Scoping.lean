import ScriptLang.Proofs.Grammar
import ScriptLang.Proofs.Names
import ScriptLang.Session

/-!
# Scoping rules

Which names a text may use where, said without running it.  Outside of functions a name has to be
declared before, in the same list of statements or in one around it.  The body of a function sees
its parameters, what it declares itself, and the globals: the built-in functions and what stands at
the top level before the statement in which the function is declared, and that statement itself if
it declares the function.

## Main definitions

* `Expr.uses` — the names that an expression reads or assigns to
* `Stmt.Scoped` — a statement keeps to the rules, given the names that are visible where it stands
* `WellScoped` — a script keeps to the rules
* `Stmt.Tidy` — branches and loops declare nothing

## Main results

* `Grammar.Program.tidy` — in a script branches and loops declare nothing
-/

namespace ScriptLang

mutual

/-- The names that an expression reads or assigns to. -/
def Expr.uses : Expr → List String
  | .constant _ => []
  | .group inner => inner.uses
  | .unary _ operand => operand.uses
  | .binary _ left right | .logical _ left right => left.uses ++ right.uses
  | .name ident => [ident.lexeme]
  | .assign ident value => ident.lexeme :: value.uses
  | .call callee _ args => callee.uses ++ Expr.allUse args

/-- The names that expressions read or assign to. -/
def Expr.allUse : List Expr → List String
  | [] => []
  | e :: later => e.uses ++ Expr.allUse later

end

/-- An expression uses visible names only. -/
abbrev Expr.Scoped (visible : List String) (e : Expr) : Prop :=
  e.uses ⊆ visible

mutual

/-- A statement keeps to the rules where some names are visible, and some globals can be used in the
bodies of functions.  No block and no function declares a name twice, parameters included. -/
def Stmt.Scoped (globals visible : List String) : Stmt → Prop
  | .expression e | .print _ e => e.Scoped visible
  | .var _ init => ∀ e ∈ init, e.Scoped visible
  | .block body => (Stmt.allDeclare body).Nodup ∧ Stmt.AllScoped globals visible body
  | .branch condition yes none => condition.Scoped visible ∧ yes.Scoped globals visible
  | .branch condition yes (some no) =>
    condition.Scoped visible ∧ yes.Scoped globals visible ∧ no.Scoped globals visible
  | .loop condition body => condition.Scoped visible ∧ body.Scoped globals visible
  | .function _ params body =>
    (params.map Token.lexeme ++ Stmt.allDeclare body).Nodup ∧
      Stmt.AllScoped globals (params.map Token.lexeme ++ globals) body
  | .ret _ value => ∀ e ∈ value, e.Scoped visible

/-- Each statement keeps to the rules, where what the earlier ones declare is visible too. -/
def Stmt.AllScoped (globals visible : List String) : List Stmt → Prop
  | [] => True
  | stmt :: later =>
    stmt.Scoped globals visible ∧ Stmt.AllScoped globals (stmt.declares ++ visible) later

end

/-- The name of a function is visible in its body if it is declared outside of all blocks. -/
def Stmt.ownName : Stmt → List String
  | .function ident _ _ => [ident.lexeme]
  | _ => []

/-- The statements of a script keep to the rules, where some globals have been declared before. -/
def Stmt.TopScoped (globals : List String) : List Stmt → Prop
  | [] => True
  | stmt :: later =>
    stmt.Scoped (stmt.ownName ++ globals) globals ∧
      Stmt.TopScoped (stmt.declares ++ globals) later

/-- The names of the built-in functions. -/
def Builtin.names : List String :=
  Builtin.all.map Builtin.name

/-- A script keeps to the rules: it declares no global twice or under the name of a built-in
function, and uses visible names only. -/
structure WellScoped (stmts : List Stmt) : Prop where
  distinct : (Stmt.allDeclare stmts ++ Builtin.names).Nodup
  visible : Stmt.TopScoped Builtin.names stmts

/-! ### Deciding the rules -/

mutual

/-- Whether a statement keeps to the rules can be found out. -/
def Stmt.decideScoped (globals visible : List String) :
    (stmt : Stmt) → Decidable (stmt.Scoped globals visible)
  | .expression e | .print _ e => inferInstanceAs (Decidable (e.Scoped visible))
  | .var _ init => inferInstanceAs (Decidable (∀ e ∈ init, e.Scoped visible))
  | .block body =>
    have := Stmt.decideAllScoped globals visible body
    inferInstanceAs (Decidable ((Stmt.allDeclare body).Nodup ∧ _))
  | .branch condition yes none =>
    have := yes.decideScoped globals visible
    inferInstanceAs (Decidable (condition.Scoped visible ∧ _))
  | .branch condition yes (some no) =>
    have := yes.decideScoped globals visible
    have := no.decideScoped globals visible
    inferInstanceAs (Decidable (condition.Scoped visible ∧ _ ∧ _))
  | .loop condition body =>
    have := body.decideScoped globals visible
    inferInstanceAs (Decidable (condition.Scoped visible ∧ _))
  | .function _ params body =>
    have := Stmt.decideAllScoped globals (params.map Token.lexeme ++ globals) body
    inferInstanceAs (Decidable ((params.map Token.lexeme ++ Stmt.allDeclare body).Nodup ∧ _))
  | .ret _ value => inferInstanceAs (Decidable (∀ e ∈ value, e.Scoped visible))

/-- Whether statements keep to the rules can be found out. -/
def Stmt.decideAllScoped (globals visible : List String) :
    (stmts : List Stmt) → Decidable (Stmt.AllScoped globals visible stmts)
  | [] => .isTrue trivial
  | stmt :: later =>
    have := stmt.decideScoped globals visible
    have := Stmt.decideAllScoped globals (stmt.declares ++ visible) later
    inferInstanceAs (Decidable (_ ∧ _))

end

instance (globals visible : List String) (stmt : Stmt) :
    Decidable (stmt.Scoped globals visible) :=
  stmt.decideScoped globals visible

/-- Whether the statements of a script keep to the rules can be found out. -/
def Stmt.decideTopScoped (globals : List String) :
    (stmts : List Stmt) → Decidable (Stmt.TopScoped globals stmts)
  | [] => .isTrue trivial
  | stmt :: later =>
    have := Stmt.decideTopScoped (stmt.declares ++ globals) later
    inferInstanceAs (Decidable (stmt.Scoped (stmt.ownName ++ globals) globals ∧ _))

instance (globals : List String) (stmts : List Stmt) : Decidable (Stmt.TopScoped globals stmts) :=
  Stmt.decideTopScoped globals stmts

instance (stmts : List Stmt) : Decidable (WellScoped stmts) :=
  decidable_of_iff (_ ∧ _) ⟨fun h => ⟨h.1, h.2⟩, fun h => ⟨h.distinct, h.visible⟩⟩

/-! ### Branches and loops -/

mutual

/-- Branches and loops declare nothing, at any depth. -/
def Stmt.Tidy : Stmt → Prop
  | .block body | .function _ _ body => Stmt.AllTidy body
  | .branch _ yes none => yes.declares = [] ∧ yes.Tidy
  | .branch _ yes (some no) => (yes.declares = [] ∧ yes.Tidy) ∧ no.declares = [] ∧ no.Tidy
  | .loop _ body => body.declares = [] ∧ body.Tidy
  | .expression _ | .print .. | .var .. | .ret .. => True

/-- Branches and loops declare nothing in any of the statements. -/
def Stmt.AllTidy : List Stmt → Prop
  | [] => True
  | stmt :: later => stmt.Tidy ∧ Stmt.AllTidy later

end

namespace Grammar

theorem Variable.tidy {ts rest : List Token} {stmt : Stmt} (h : Variable ts stmt rest) :
    stmt.Tidy := by
  cases h <;> trivial

theorem Initialiser.tidy {ts rest : List Token} {stmt : Stmt}
    (h : Initialiser ts (some stmt) rest) : stmt.Tidy := by
  cases h with
  | var _ body => exact body.tidy
  | expression _ _ => trivial

theorem Clauses.tidy {ts rest : List Token} {init : Option Stmt} {condition increment : Option Expr}
    (h : Clauses ts init condition increment rest) {body : Stmt} (declares : body.declares = [])
    (tidy : body.Tidy) :
    (forTree init condition increment body).declares = [] ∧
      (forTree init condition increment body).Tidy := by
  obtain ⟨_, first, _, _⟩ := h
  rw [forTree_eq]
  cases init with
  | none =>
    cases increment with
    | none => exact ⟨declares, declares, tidy⟩
    | some e => exact ⟨rfl, rfl, tidy, trivial, trivial⟩
  | some stmt =>
    cases increment with
    | none => exact ⟨rfl, first.tidy, ⟨declares, tidy⟩, trivial⟩
    | some e => exact ⟨rfl, first.tidy, ⟨rfl, tidy, trivial, trivial⟩, trivial⟩

variable {nearest : Prop}

mutual

theorem Statement.tidy : ∀ {f o : Bool} {ts rest : List Token} {stmt : Stmt},
    Statement nearest f o ts stmt rest → stmt.declares = [] ∧ stmt.Tidy
  | _, _, _, _, _, .expression .. => ⟨rfl, trivial⟩
  | _, _, _, _, _, .print .. => ⟨rfl, trivial⟩
  | _, _, _, _, _, .ret .. => ⟨rfl, trivial⟩
  | _, _, _, _, _, .block _ body _ => ⟨rfl, body.tidy⟩
  | _, _, _, _, _, .branch _ _ second => ⟨second.tidy.1, second.tidy⟩
  | _, _, _, _, _, .branchElse _ _ second _ _ third => by
    refine ⟨?_, second.tidy, third.tidy⟩
    rw [Stmt.declares, second.tidy.1, third.tidy.1, List.append_nil]
  | _, _, _, _, _, .loop _ _ second => ⟨second.tidy.1, second.tidy⟩
  | _, _, _, _, _, .forLoop _ first second => first.tidy second.tidy.1 second.tidy.2

theorem Declaration.tidy : ∀ {f : Bool} {ts rest : List Token} {stmt : Stmt},
    Declaration nearest f ts stmt rest → stmt.Tidy
  | _, _, _, _, .function _ _ body _ => body.tidy
  | _, _, _, _, .var _ body => body.tidy
  | _, _, _, _, .statement inner => inner.tidy.2

/-- Only where a list of declarations is expected can anything be declared. -/
theorem Declarations.tidy : ∀ {f : Bool} {ts rest : List Token} {stmts : List Stmt},
    Declarations nearest f ts stmts rest → Stmt.AllTidy stmts
  | _, _, _, _, .nil => trivial
  | _, _, _, _, .cons first later => ⟨first.tidy, later.tidy⟩

end

end Grammar

end ScriptLang

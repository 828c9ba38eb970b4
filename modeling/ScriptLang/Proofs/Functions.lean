import ScriptLang.Proofs.Gathering
import ScriptLang.Proofs.Scan

/-!
# The functions of a script

The declarations of functions in a script, with those in the bodies of others, and be the script
faulty or not, have names that stand in different places.  So the place of its name tells a
declaration from all others of its unit.

## Main definitions

* `Stmt.functions`, `Stmt.allFunctions` — the declarations in statements, in the order of the text

## Main results

* `Stmt.mem_allFunctions_of_body` — what is declared in a body is declared in the statements
* `Script.nodup_functions` — no two declarations of a script have their names in one place
-/

namespace ScriptLang

mutual

/-- The declarations of functions in a statement, in the order of the text.  Those in the body of a
function come behind its own. -/
def Stmt.functions : Stmt → List FunDecl
  | .function ident params body => ⟨ident, params, body⟩ :: Stmt.allFunctions body
  | .block body => Stmt.allFunctions body
  | .branch _ yes none => yes.functions
  | .branch _ yes (some no) => yes.functions ++ no.functions
  | .loop _ body => body.functions
  | .expression _ | .print .. | .var .. | .ret .. => []

/-- The declarations of functions in statements, in the order of the text. -/
def Stmt.allFunctions : List Stmt → List FunDecl
  | [] => []
  | stmt :: later => stmt.functions ++ Stmt.allFunctions later

end

/-! ### Declarations in bodies -/

mutual

theorem Stmt.mem_functions_of_body {d e : FunDecl} (he : e ∈ Stmt.allFunctions d.body) :
    ∀ stmt : Stmt, d ∈ stmt.functions → e ∈ stmt.functions
  | .function ident params body, hd => by
    rw [Stmt.functions, List.mem_cons] at hd ⊢
    obtain rfl | inner := hd
    · exact .inr he
    · exact .inr (Stmt.mem_allFunctions_of_body he body inner)
  | .block body, hd => Stmt.mem_allFunctions_of_body he body hd
  | .branch _ yes none, hd => yes.mem_functions_of_body he hd
  | .branch _ yes (some no), hd => by
    rw [Stmt.functions, List.mem_append] at hd ⊢
    exact hd.imp (yes.mem_functions_of_body he) (no.mem_functions_of_body he)
  | .loop _ body, hd => body.mem_functions_of_body he hd
  | .expression _, hd | .print .., hd | .var .., hd | .ret .., hd => (List.not_mem_nil hd).elim

/-- What is declared in the body of a function is declared where the function is. -/
theorem Stmt.mem_allFunctions_of_body {d e : FunDecl} (he : e ∈ Stmt.allFunctions d.body) :
    ∀ stmts : List Stmt, d ∈ Stmt.allFunctions stmts → e ∈ Stmt.allFunctions stmts
  | [], hd => (List.not_mem_nil hd).elim
  | stmt :: later, hd => by
    rw [Stmt.allFunctions, List.mem_append] at hd ⊢
    exact hd.imp (stmt.mem_functions_of_body he) (Stmt.mem_allFunctions_of_body he later)

end

/-! ### Declarations met while reading -/

/-- Reading from `c` to `d` has met some declarations: their names are tokens that were passed over,
each of them once. -/
def Cursor.MeetsFunctions (c : Cursor) (met : List FunDecl) (d : Cursor) : Prop :=
  ∃ passed, c.rest = passed ++ d.rest ∧ (met.map FunDecl.ident).Sublist passed

namespace Cursor

variable {c d e : Cursor} {first second : List FunDecl}

theorem MeetsFunctions.trans (h : c.MeetsFunctions first d) (h' : d.MeetsFunctions second e) :
    c.MeetsFunctions (first ++ second) e := by
  obtain ⟨passed, rest, names⟩ := h
  obtain ⟨passed', rest', names'⟩ := h'
  refine ⟨passed ++ passed', ?_, ?_⟩
  · rw [rest, rest', List.append_assoc]
  · rw [List.map_append]
    exact names.append names'

theorem isWay_meetsFunctions : IsWay fun c d => c.MeetsFunctions [] d where
  refl _ := ⟨[], rfl, .refl _⟩
  trans h h' := h.trans h'
  step {_ t _} h := ⟨[t], h, List.nil_sublist _⟩
  report _ _ := ⟨[], rfl, .refl _⟩

/-- The name of a function is the first token that is passed over. -/
theorem meetsFunctions_of_head (decl : FunDecl) (name : c.rest.head? = some decl.ident)
    (shorter : d.left < c.left) (h : c.MeetsFunctions [] d) : c.MeetsFunctions [decl] d := by
  obtain ⟨passed, rest, -⟩ := h
  refine ⟨passed, rest, ?_⟩
  cases passed with
  | nil =>
    rw [left, left, rest] at shorter
    exact absurd shorter (Nat.lt_irrefl _)
  | cons t passed =>
    rw [rest, List.cons_append, List.head?_cons, Option.some.injEq] at name
    rw [name]
    exact (List.nil_sublist passed).cons_cons decl.ident

end Cursor

/-- The declarations of functions, met on the way of a reader. -/
def Gathering.functions : Gathering FunDecl where
  one _ := Stmt.functions
  all _ := Stmt.allFunctions
  ofReturn _ _ := []
  ofFunction decl := [decl]
  Meets := Cursor.MeetsFunctions
  all_nil _ := rfl
  all_cons _ _ _ := rfl
  one_expression _ _ := rfl
  one_print _ _ _ := rfl
  one_var _ _ _ := rfl
  one_block _ _ := rfl
  one_branch _ _ _ := rfl
  one_branchElse _ _ _ _ := rfl
  one_loop _ _ _ := rfl
  one_function _ _ _ _ := rfl
  one_ret _ _ _ := rfl
  way := Cursor.isWay_meetsFunctions
  trans := Cursor.MeetsFunctions.trans
  meets_return _ h := Cursor.isWay_meetsFunctions.trans (Cursor.isWay_meetsFunctions.take h)
    ⟨[], rfl, .refl _⟩
  meets_function := Cursor.meetsFunctions_of_head

namespace Script

/-- The names of the declarations of a script are different ones of its tokens. -/
theorem functions_sublist (tokens : List Token) :
    ((Stmt.allFunctions (ofTokens tokens).stmts).map FunDecl.ident).Sublist tokens := by
  unfold ofTokens
  cases h : Cursor.start? tokens with
  | none => exact List.nil_sublist _
  | some c =>
    obtain ⟨met, among, passed, rest, names⟩ := Stmt.readAll_finds .functions c
    have sub := (Cursor.of_start? h).1
    rw [rest] at sub
    exact (among.map _).trans (names.trans ((List.sublist_append_left ..).trans sub))

/-- Where no two tokens stand in the same place, no two declarations have their names in the same
place. -/
theorem nodup_functions {tokens : List Token} (distinct : (tokens.map Token.span).Nodup) :
    ((Stmt.allFunctions (ofTokens tokens).stmts).map fun d => d.ident.span).Nodup := by
  have sub := (functions_sublist tokens).map Token.span
  rw [List.map_map] at sub
  exact distinct.sublist sub

end Script

end ScriptLang

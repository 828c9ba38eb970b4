import ScriptLang.Proofs.Concatenation
import ScriptLang.Proofs.Printed.Proper

/-!
# Trees of source texts

The statements and expressions of a faultless text, whole or as parts of others, and the numbers in
them.

## Main definitions

* `Expr.numbers`, `Stmt.numbers` — the numbers in trees
* `Stmt.ReadFrom`, `Expr.ReadFrom` — the trees that are read from a text without a fault

## Main results

* `Stmt.ReadFrom.proper`, `Expr.ReadFrom.proper` — trees that are read from a text are proper
-/

namespace ScriptLang

/-! ### Numbers in trees -/

mutual

/-- The numbers in an expression, from left to right. -/
def Expr.numbers : Expr → List Float
  | .constant (.number x) => [x]
  | .constant _ | .name _ => []
  | .group e | .unary _ e | .assign _ e => e.numbers
  | .binary _ left right | .logical _ left right => left.numbers ++ right.numbers
  | .call callee _ args => callee.numbers ++ Expr.allNumbers args

/-- The numbers in expressions, one after another. -/
def Expr.allNumbers : List Expr → List Float
  | [] => []
  | e :: rest => e.numbers ++ Expr.allNumbers rest

end

mutual

/-- The numbers in a statement, from left to right. -/
def Stmt.numbers : Stmt → List Float
  | .expression e | .print _ e | .var _ (some e) | .ret _ (some e) => e.numbers
  | .var _ none | .ret _ none => []
  | .block body | .function _ _ body => Stmt.allNumbers body
  | .branch condition yes none => condition.numbers ++ yes.numbers
  | .branch condition yes (some no) => condition.numbers ++ yes.numbers ++ no.numbers
  | .loop condition body => condition.numbers ++ body.numbers

/-- The numbers in statements, one after another. -/
def Stmt.allNumbers : List Stmt → List Float
  | [] => []
  | s :: rest => s.numbers ++ Stmt.allNumbers rest

end

theorem Expr.allNumbers_eq (es : List Expr) : Expr.allNumbers es = es.flatMap Expr.numbers := by
  induction es with
  | nil => rfl
  | cons e es ih => rw [Expr.allNumbers, ih, List.flatMap_cons]

theorem Stmt.allNumbers_eq (ss : List Stmt) : Stmt.allNumbers ss = ss.flatMap Stmt.numbers := by
  induction ss with
  | nil => rfl
  | cons s ss ih => rw [Stmt.allNumbers, ih, List.flatMap_cons]

section Tests

variable {N M : Float → Prop}

/-- What holds of all numbers in a proper expression can be added to the test. -/
theorem Expr.Proper.and {e : Expr} (h : e.Proper N) (all : ∀ x ∈ e.numbers, M x) :
    e.Proper fun x => N x ∧ M x := by
  induction h with
  | @constant value proper =>
    refine .constant fun x number => ⟨proper x number, all x ?_⟩
    subst number
    exact List.mem_singleton_self x
  | group _ ih => exact .group (ih all)
  | unary scanned isOp _ ih => exact .unary scanned isOp (ih all)
  | binary scanned isOp tight _ _ left right =>
    rw [Expr.numbers, List.forall_mem_append] at all
    exact .binary scanned isOp tight (left all.1) (right all.2)
  | logical scanned isOp loose _ _ left right =>
    rw [Expr.numbers, List.forall_mem_append] at all
    exact .logical scanned isOp loose (left all.1) (right all.2)
  | name scanned isIdent => exact .name scanned isIdent
  | assign scanned isIdent _ ih => exact .assign scanned isIdent (ih all)
  | call _ scanned isClosing _ callee args =>
    rw [Expr.numbers, Expr.allNumbers_eq, List.forall_mem_append] at all
    refine .call (callee all.1) scanned isClosing fun arg mem => args arg mem fun x inside => ?_
    exact all.2 x (List.mem_flatMap.2 ⟨arg, mem, inside⟩)

theorem Stmt.Proper.and {s : Stmt} (h : s.Proper N) (all : ∀ x ∈ s.numbers, M x) :
    s.Proper fun x => N x ∧ M x := by
  induction h with
  | expression h => exact .expression (h.and all)
  | print scanned isPrint h => exact .print scanned isPrint (h.and all)
  | @var ident init scanned isIdent h =>
    cases init with
    | none => exact .var scanned isIdent forall_mem_none
    | some e => exact .var scanned isIdent (forall_mem_some ((h e rfl).and all))
  | block _ ih =>
    rw [Stmt.numbers, Stmt.allNumbers_eq] at all
    exact .block fun s mem => ih s mem fun x inside => all x (List.mem_flatMap.2 ⟨s, mem, inside⟩)
  | @branch condition yes no hc _ _ hy hn =>
    cases no with
    | none =>
      rw [Stmt.numbers, List.forall_mem_append] at all
      exact .branch (hc.and all.1) (hy all.2) forall_mem_none
    | some no =>
      rw [Stmt.numbers, List.forall_mem_append, List.forall_mem_append] at all
      exact .branch (hc.and all.1.1) (hy all.1.2) (forall_mem_some (hn no rfl all.2))
  | loop hc _ hb =>
    rw [Stmt.numbers, List.forall_mem_append] at all
    exact .loop (hc.and all.1) (hb all.2)
  | function scanned isIdent hp _ ih =>
    rw [Stmt.numbers, Stmt.allNumbers_eq] at all
    exact .function scanned isIdent hp fun s mem => ih s mem fun x inside =>
      all x (List.mem_flatMap.2 ⟨s, mem, inside⟩)
  | @ret word value scanned isReturn h =>
    cases value with
    | none => exact .ret scanned isReturn forall_mem_none
    | some e => exact .ret scanned isReturn (forall_mem_some ((h e rfl).and all))

end Tests

/-! ### What is read from a text -/

/-- The statements that are read from a text without a fault, at any depth. -/
inductive Stmt.ReadFrom (source : String) : Stmt → Prop where
  | outermost {s : Stmt} (faultless : Faultless source) (mem : s ∈ Script.stmtsOf source) :
      ReadFrom source s
  | inBlock {body : List Stmt} {s : Stmt} (h : ReadFrom source (.block body)) (mem : s ∈ body) :
      ReadFrom source s
  | inFunction {ident : Token} {params : List Token} {body : List Stmt} {s : Stmt}
      (h : ReadFrom source (.function ident params body)) (mem : s ∈ body) : ReadFrom source s
  | yes {condition : Expr} {s : Stmt} {no : Option Stmt}
      (h : ReadFrom source (.branch condition s no)) : ReadFrom source s
  | no {condition : Expr} {yes s : Stmt} (h : ReadFrom source (.branch condition yes (some s))) :
      ReadFrom source s
  | inLoop {condition : Expr} {s : Stmt} (h : ReadFrom source (.loop condition s)) :
      ReadFrom source s

/-- The expressions that are read from a text without a fault: those in its statements, and the text
itself if it is a single expression, at any depth. -/
inductive Expr.ReadFrom (source : String) : Expr → Prop where
  | single {e : Expr} (clean : (scan source).diagnostics = [])
      (read : Expr.ofTokens (scan source).tokens = (some e, [])) : ReadFrom source e
  | expression {e : Expr} (h : Stmt.ReadFrom source (.expression e)) : ReadFrom source e
  | print {word : Token} {e : Expr} (h : Stmt.ReadFrom source (.print word e)) : ReadFrom source e
  | init {ident : Token} {e : Expr} (h : Stmt.ReadFrom source (.var ident (some e))) :
      ReadFrom source e
  | ifCondition {e : Expr} {yes : Stmt} {no : Option Stmt}
      (h : Stmt.ReadFrom source (.branch e yes no)) : ReadFrom source e
  | whileCondition {e : Expr} {body : Stmt} (h : Stmt.ReadFrom source (.loop e body)) :
      ReadFrom source e
  | returned {word : Token} {e : Expr} (h : Stmt.ReadFrom source (.ret word (some e))) :
      ReadFrom source e
  | inGroup {e : Expr} (h : ReadFrom source (.group e)) : ReadFrom source e
  | operand {op : Token} {e : Expr} (h : ReadFrom source (.unary op e)) : ReadFrom source e
  | left {op : Token} {e right : Expr} (h : ReadFrom source (.binary op e right)) :
      ReadFrom source e
  | right {op : Token} {left e : Expr} (h : ReadFrom source (.binary op left e)) :
      ReadFrom source e
  | first {op : Token} {e right : Expr} (h : ReadFrom source (.logical op e right)) :
      ReadFrom source e
  | second {op : Token} {left e : Expr} (h : ReadFrom source (.logical op left e)) :
      ReadFrom source e
  | assigned {ident : Token} {e : Expr} (h : ReadFrom source (.assign ident e)) :
      ReadFrom source e
  | callee {e : Expr} {paren : Token} {args : List Expr}
      (h : ReadFrom source (.call e paren args)) : ReadFrom source e
  | arg {callee e : Expr} {paren : Token} {args : List Expr}
      (h : ReadFrom source (.call callee paren args)) (mem : e ∈ args) : ReadFrom source e

section Reading

variable {source : String}

theorem scanned_of_mem_scanInner : ∀ t ∈ scanInner source, t.Scanned :=
  fun _ mem => .of_mem_scanInner mem

theorem Stmt.ReadFrom.proper {s : Stmt} (h : s.ReadFrom source) : s.Proper IsLiteral := by
  induction h with
  | outermost faultless mem =>
    exact (faultless.program.proper scanned_of_mem_scanInner).1 _ mem
  | inBlock _ mem ih =>
    cases ih with
    | block all => exact all _ mem
  | inFunction _ mem ih =>
    cases ih with
    | function _ _ _ all => exact all _ mem
  | yes _ ih =>
    cases ih with
    | branch _ hy _ => exact hy
  | no _ ih =>
    cases ih with
    | branch _ _ hn => exact hn _ rfl
  | inLoop _ ih =>
    cases ih with
    | loop _ hb => exact hb

theorem Expr.ReadFrom.proper {e : Expr} (h : e.ReadFrom source) : e.Proper IsLiteral := by
  induction h with
  | @single e _ read =>
    rw [tokens_scan] at read
    have derived := (Expr.ofTokens_eq_iff (fun _ => kind_ne_eof_of_mem_scanInner) rfl e).1 read
    exact (derived.proper scanned_of_mem_scanInner).1
  | expression h =>
    cases h.proper with
    | expression h => exact h
  | print h =>
    cases h.proper with
    | print _ _ h => exact h
  | init h =>
    cases h.proper with
    | var _ _ h => exact h _ rfl
  | ifCondition h =>
    cases h.proper with
    | branch hc _ _ => exact hc
  | whileCondition h =>
    cases h.proper with
    | loop hc _ => exact hc
  | returned h =>
    cases h.proper with
    | ret _ _ h => exact h _ rfl
  | inGroup _ ih =>
    cases ih with
    | group h => exact h
  | operand _ ih =>
    cases ih with
    | unary _ _ h => exact h
  | left _ ih =>
    cases ih with
    | binary _ _ _ hl _ => exact hl
  | right _ ih =>
    cases ih with
    | binary _ _ _ _ hr => exact hr
  | first _ ih =>
    cases ih with
    | logical _ _ _ hl _ => exact hl
  | second _ ih =>
    cases ih with
    | logical _ _ _ _ hr => exact hr
  | assigned _ ih =>
    cases ih with
    | assign _ _ h => exact h
  | callee _ ih =>
    cases ih with
    | call h _ _ _ => exact h
  | arg _ mem ih =>
    cases ih with
    | call _ _ _ ha => exact ha _ mem

end Reading

end ScriptLang

import ScriptLang.Proofs.Passage

/-!
# Nodes met while reading

The readers of statements also come past what stands in declarations that turn out to be faulty and
leave no statement.  Nodes of some kind, be it the `return`s or the declarations of functions, are
followed here along this way.  Whatever kind it is, the nodes of what has been read are among those
that have been met, and in the order in which they have been met.

## Main definitions

* `Gathering` — nodes of some kind, and what it is to meet them between two cursors
* `Reading.Finds` — a reading whose nodes are among those that have been met

## Main results

* `Stmt.readDeclaration_finds`, `Stmt.read_finds` — so it is with every reader of statements
* `Stmt.readAll_finds` — and with the reader of scripts
-/

namespace ScriptLang

/-- Nodes of some kind.  Only `return`s and functions are such nodes themselves; in all other
statements they are found in the parts.  Statements may themselves be in a function. -/
structure Gathering (κ : Type) where
  /-- The nodes in a statement. -/
  one : Bool → Stmt → List κ
  /-- The nodes in statements. -/
  all : Bool → List Stmt → List κ
  /-- What a `return` with this keyword is. -/
  ofReturn : Bool → Token → List κ
  /-- What a declaration is, without what is in its body. -/
  ofFunction : FunDecl → List κ
  /-- Reading from one cursor to another has met these nodes. -/
  Meets : Cursor → List κ → Cursor → Prop
  all_nil : ∀ f, all f [] = []
  all_cons : ∀ f stmt later, all f (stmt :: later) = one f stmt ++ all f later
  one_expression : ∀ f e, one f (.expression e) = []
  one_print : ∀ f keyword e, one f (.print keyword e) = []
  one_var : ∀ f ident init, one f (.var ident init) = []
  one_block : ∀ f body, one f (.block body) = all f body
  one_branch : ∀ f e yes, one f (.branch e yes none) = one f yes
  one_branchElse : ∀ f e yes no, one f (.branch e yes (some no)) = one f yes ++ one f no
  one_loop : ∀ f e body, one f (.loop e body) = one f body
  one_function : ∀ f ident params body,
    one f (.function ident params body) = ofFunction ⟨ident, params, body⟩ ++ all true body
  one_ret : ∀ f keyword value, one f (.ret keyword value) = ofReturn f keyword
  /-- Other steps of a reader meet nothing. -/
  way : Cursor.IsWay fun c d => Meets c [] d
  trans : ∀ {c d e first second},
    Meets c first d → Meets d second e → Meets c (first ++ second) e
  /-- Whoever takes the word `return` meets a `return`, and reports it outside of functions. -/
  meets_return : ∀ {c : Cursor} {test : TokenKind → Bool} {t : Cursor.Taken c} (f : Bool),
    c.take? test = some t → Meets c (ofReturn f t.token)
      (t.after.reportIf (!f) (t.token.diagnose .topLevelReturn))
  /-- Whoever has read a name and something behind it may have met the declaration of a function. -/
  meets_function : ∀ {c d : Cursor} (decl : FunDecl), c.rest.head? = some decl.ident →
    d.left < c.left → Meets c [] d → Meets c (ofFunction decl) d

variable {κ : Type}

namespace Gathering

variable (G : Gathering κ)

theorem all_append (f : Bool) (first second : List Stmt) :
    G.all f (first ++ second) = G.all f first ++ G.all f second := by
  induction first with
  | nil => rw [G.all_nil, List.nil_append, List.nil_append]
  | cons stmt first ih =>
    rw [List.cons_append, G.all_cons, G.all_cons, ih, List.append_assoc]

/-- Initialisers hold no node. -/
theorem one_of_isInitialiser (f : Bool) {stmt : Stmt} (h : stmt.IsInitialiser) :
    G.one f stmt = [] := by
  cases stmt with
  | var ident init => exact G.one_var f ident init
  | expression e => exact G.one_expression f e
  | print | block | branch | loop | function | ret => exact h.elim

/-- The initialiser, the condition and the increment of a `for` loop hold no node. -/
theorem one_forLoop (f : Bool) {init : Option Stmt} (isInit : ∀ stmt ∈ init, stmt.IsInitialiser)
    (condition increment : Option Expr) (body : Stmt) :
    G.one f (Stmt.forLoop init condition increment body) = G.one f body := by
  have inner : G.one f (Stmt.forLoop none condition increment body) = G.one f body := by
    cases increment with
    | none => exact G.one_loop f _ body
    | some e =>
      rw [Stmt.forLoop, G.one_loop, G.one_block, G.all_cons, G.all_cons, G.one_expression,
        G.all_nil, List.append_nil, List.append_nil]
  cases init with
  | none => exact inner
  | some stmt =>
    change G.one f (.block [stmt, Stmt.forLoop none condition increment body]) = _
    rw [G.one_block, G.all_cons, G.all_cons, G.all_nil, inner, List.append_nil,
      G.one_of_isInitialiser f (isInit stmt rfl), List.nil_append]

end Gathering

/-! ### Readings -/

namespace Reading

variable {G : Gathering κ} {α β : Type} {m n : Nat} {c d : Cursor} {met : List κ} {V : α → Prop}
  {P S : α → List κ → Prop} {R : β → List κ → Prop}

/-- A reading that began at `c`: its value and the nodes that it has met are related by `P`, and its
fault is none that a `return` is reported with. -/
def Finds (G : Gathering κ) (c : Cursor) (P : α → List κ → Prop) : Reading n α → Prop
  | done value after _ => ∃ met, P value met ∧ G.Meets c met after
  | fault d after _ => d.fault ≠ .topLevelReturn ∧ ∃ met, G.Meets c met after

/-- What has gone along without finding a node has met none. -/
theorem Along.finds {r : Reading n α} (hr : r.Along (fun c d => G.Meets c [] d) c V)
    (hP : ∀ value, V value → P value []) : r.Finds G c P := by
  cases r with
  | done value after shorter => exact ⟨[], hP value hr.1, hr.2⟩
  | fault d after noLonger => exact ⟨hr.1, [], hr.2⟩

/-- What begins behind some nodes has met these too. -/
theorem Finds.from {r : Reading n α} (hr : r.Finds G d P) (h : G.Meets c met d)
    (hP : ∀ value later, P value later → S value (met ++ later)) : r.Finds G c S := by
  cases r with
  | done value after shorter =>
    obtain ⟨later, hv, meets⟩ := hr
    exact ⟨met ++ later, hP value later hv, G.trans h meets⟩
  | fault d after noLonger =>
    obtain ⟨ne, later, meets⟩ := hr
    exact ⟨ne, met ++ later, G.trans h meets⟩

theorem Finds.afterTaken {test : TokenKind → Bool} {t : Cursor.Taken c} {r : Reading n α}
    (hr : r.Finds G t.after P) (h : c.take? test = some t) : r.Finds G c P :=
  hr.from (G.way.take h) fun _ _ hv => hv

theorem Finds.behind {r : Reading m α} {lt : m < n} (hr : r.Finds G c P) :
    (r.behind lt).Finds G c P := by
  cases r <;> exact hr

theorem Finds.map {f : α → β} {r : Reading n α} (hr : r.Finds G c P)
    (hR : ∀ value met, P value met → R (f value) met) : (r.map f).Finds G c R := by
  cases r with
  | done value after shorter =>
    obtain ⟨met, hv, meets⟩ := hr
    exact ⟨met, hR value met hv, meets⟩
  | fault d after noLonger => exact hr

theorem Finds.andThen {r : Reading n α}
    {next : (value : α) → (after : Cursor) → after.left < n → Reading n β} (hr : r.Finds G c P)
    (hn : ∀ value after shorter, (next value after shorter).Finds G after
      fun b later => ∀ met, P value met → R b (met ++ later)) :
    (r.andThen next).Finds G c R := by
  cases r with
  | done value after shorter =>
    obtain ⟨met, hv, meets⟩ := hr
    exact (hn value after shorter).from meets fun b later h => h met hv
  | fault d after noLonger => exact hr

/-- What is read behind something without a node. -/
theorem Along.andThenFinds {r : Reading n α}
    {next : (value : α) → (after : Cursor) → after.left < n → Reading n β}
    (hr : r.Along (fun c d => G.Meets c [] d) c V)
    (hn : ∀ value after shorter, V value → (next value after shorter).Finds G after R) :
    (r.andThen next).Finds G c R := by
  cases r with
  | done value after shorter =>
    exact (hn value after shorter hr.1).from hr.2 fun _ _ h => h
  | fault d after noLonger => exact ⟨hr.1, [], hr.2⟩

end Reading

/-! ### Readers of statements -/

open Cursor Reading

variable (G : Gathering κ)

/-- The nodes of a statement are among those that were met. -/
abbrev Gathering.Among (f : Bool) (stmt : Stmt) (met : List κ) : Prop :=
  (G.one f stmt).Sublist met

/-- The nodes of statements are among those that were met. -/
abbrev Gathering.AllAmong (f : Bool) (stmts : List Stmt) (met : List κ) : Prop :=
  (G.all f stmts).Sublist met

theorem Gathering.among_of_eq {f : Bool} {stmt : Stmt} {met : List κ} (h : G.one f stmt = met) :
    G.Among f stmt met :=
  h ▸ .refl _

theorem Gathering.allAmong_nil (f : Bool) (met : List κ) : G.AllAmong f [] met := by
  rw [AllAmong, G.all_nil]
  exact List.nil_sublist _

theorem Stmt.IsInitialiser.among {stmt : Stmt} (h : stmt.IsInitialiser) (f : Bool) :
    G.Among f stmt [] :=
  G.among_of_eq (G.one_of_isInitialiser f h)

theorem Stmt.readExpression_finds (f : Bool) (c : Cursor) :
    (Stmt.readExpression c).Finds G c (G.Among f) :=
  (Stmt.readExpression_along G.way c).finds fun _ h => h.among G f

theorem Stmt.readReturn_finds (f : Bool) {c : Cursor} {test : TokenKind → Bool}
    {t : Cursor.Taken c} (h : c.take? test = some t) :
    (Stmt.readReturn f t.token t.after).Finds G c (G.Among f) := by
  unfold Stmt.readReturn
  have value := Expr.readUntil_along G.way .semicolonAfterReturnExpected .semicolon
    (t.after.reportIf (!f) (t.token.diagnose .topLevelReturn)) (by simp)
  have none := value.finds (P := fun _ met => met = []) fun _ _ => rfl
  have one := none.from (S := fun _ met => met = G.ofReturn f t.token) (G.meets_return f h)
    fun _ _ later => by rw [later, List.append_nil]
  exact one.map fun value met only => G.among_of_eq ((G.one_ret f t.token value).trans only.symm)

/-- Whoever has read the head of a function and its body has met the function. -/
theorem Reading.Finds.function {f : Bool} {c d : Cursor} {ident : Token} {params : List Token}
    {n : Nat} {r : Reading n (List Stmt)} (hr : r.Finds G d (G.AllAmong true))
    (name : c.rest.head? = some ident) (shorter : d.left < c.left) (head : G.Meets c [] d) :
    (r.map (Stmt.function ident params)).Finds G c (G.Among f) := by
  cases r with
  | done body after lt =>
    obtain ⟨met, among, meets⟩ := hr
    refine ⟨_, ?_, G.trans (G.meets_function ⟨ident, params, body⟩ name shorter head) meets⟩
    rw [Gathering.Among, G.one_function]
    exact .append (.refl _) among
  | fault diagnostic after le =>
    obtain ⟨ne, met, meets⟩ := hr
    exact ⟨ne, _, G.trans head meets⟩

/-- The same for what a declaration leaves, be it a statement or nothing. -/
def Resumed.Finds {c : Cursor} (f : Bool) (x : Resumed c) : Prop :=
  ∃ met, G.AllAmong f x.stmt.toList met ∧ G.Meets c met x.after

/-- A fault leaves no statement, and no node is met on the way to the next one. -/
theorem Reading.Finds.resume {f : Bool} {c : Cursor} {r : Reading c.left Stmt}
    (hr : r.Finds G c (G.Among f)) (pos : 0 < c.left) : (r.resume pos).Finds G f := by
  cases r with
  | done stmt after shorter =>
    obtain ⟨met, among, meets⟩ := hr
    refine ⟨met, ?_, meets⟩
    rwa [Gathering.AllAmong, Reading.resume, Option.toList_some, G.all_cons, G.all_nil,
      List.append_nil]
  | fault d after noLonger =>
    obtain ⟨ne, met, meets⟩ := hr
    -- The fault is reported, but it is not the report of a `return`.
    have skipped := G.way.trans (G.way.report after ne) (G.way.synchronize _)
    exact ⟨met ++ [], G.allAmong_nil f _, G.trans meets skipped⟩

-- The flag is the reader's own: it only changes where the body of a function begins.
mutual

theorem Stmt.readDeclaration_finds (f : Bool) (c : Cursor) (pos : 0 < c.left) :
    (Stmt.readDeclaration f c pos).Finds G f := by
  rw [Stmt.readDeclaration]
  refine Reading.Finds.resume G ?_ pos
  cases h : c.take? (· == .funWord) with
  | some t => exact (Stmt.readFunction_finds f t.after).behind.afterTaken h
  | none =>
    cases h' : c.take? (· == .varWord) with
    | some t =>
      have var := (Stmt.readVar_along G.way t.after).finds (P := G.Among f) fun _ h => h.among G f
      exact var.behind.afterTaken h'
    | none => exact Stmt.read_finds f c
termination_by (c.left, 2)
decreasing_by
  · exact Prod.Lex.right _ (by decide)
  · exact Prod.Lex.left _ _ t.shorter

/-- A function is read in the same way wherever it is declared: its body is inside a function. -/
theorem Stmt.readFunction_finds (f : Bool) (c : Cursor) :
    (Stmt.readFunction c).Finds G c (G.Among f) := by
  rw [Stmt.readFunction]
  have along := Stmt.readHead_along G.way c
  generalize Stmt.readHead c = head at along ⊢
  cases head with
  | fault d after noLonger =>
    obtain ⟨ne, head⟩ := along
    exact ⟨ne, [], head⟩
  | done head c₁ h₁ =>
    obtain ⟨name, way⟩ := along
    exact (Stmt.readBody_finds true c₁).behind.function G name h₁ way
termination_by (c.left, 1)
decreasing_by exact Prod.Lex.left _ _ h₁

theorem Stmt.readBody_finds (f : Bool) (c : Cursor) :
    (Stmt.readBody f c).Finds G c (G.AllAmong f) := by
  rw [Stmt.readBody]
  split
  · exact (along_failAt G.way c (by simp)).finds (V := fun _ => False) fun _ h => h.elim
  · rename_i t us hrest
    cases h : c.take? (· == .rightBrace) with
    | some closing => exact ⟨[], G.allAmong_nil f [], G.way.take h⟩
    | none =>
      -- The first declaration counts even if it left no statement: it may have met a node.
      obtain ⟨met, first, meets⟩ := Stmt.readDeclaration_finds f c (Cursor.left_pos hrest)
      refine ((Stmt.readBody_finds f _).behind.from meets (S := fun stmts met =>
        G.AllAmong f ((Stmt.readDeclaration f c (Cursor.left_pos hrest)).stmt.toList ++ stmts) met)
          fun stmts rest later => ?_).map fun _ _ h => h
      rw [Gathering.AllAmong, G.all_append]
      exact first.append later
termination_by (c.left, 3)
decreasing_by
  · exact Prod.Lex.right _ (by decide)
  · exact Prod.Lex.left _ _ (Resumed.shorter _)

theorem Stmt.read_finds (f : Bool) (c : Cursor) : (Stmt.read f c).Finds G c (G.Among f) := by
  rw [Stmt.read]
  cases h : c.take? (fun _ => true) with
  | none => exact Stmt.readExpression_finds G f c
  | some t =>
    simp only
    split
    · refine Finds.afterTaken ?_ h
      refine (Stmt.readClauses_along G.way t.after).behind.andThenFinds
        fun clauses c₁ h₁ isInit => ?_
      refine (Stmt.read_finds f c₁).behind.map fun body met among => ?_
      rwa [Gathering.Among, G.one_forLoop f isInit]
    · refine Finds.afterTaken ?_ h
      have condition := Expr.readCondition_along G.way .parenAfterIfExpected
        .parenAfterIfConditionExpected t.after (by simp) (by simp)
      refine condition.behind.andThenFinds fun condition c₁ h₁ _ => ?_
      refine (Stmt.read_finds f c₁).behind.andThen fun yes c₂ h₂ => ?_
      cases h' : c₂.take? (· == .elseWord) with
      | none =>
        refine ⟨[], fun met among => ?_, G.way.refl c₂⟩
        rwa [List.append_nil, Gathering.Among, G.one_branch]
      | some other =>
        refine ((Stmt.read_finds f other.after).behind.map
          fun no later second met first => ?_).afterTaken h'
        rw [Gathering.Among, G.one_branchElse]
        exact first.append second
    · have print := (Stmt.readPrint_along G.way t.token t.after).finds (P := G.Among f) ?_
      · exact print.behind.afterTaken h
      · rintro _ ⟨e, rfl⟩
        exact G.among_of_eq (G.one_print f t.token e)
    · exact (Stmt.readReturn_finds G f h).behind
    · refine Finds.afterTaken ?_ h
      have condition := Expr.readCondition_along G.way .parenAfterWhileExpected
        .parenAfterWhileConditionExpected t.after (by simp) (by simp)
      refine condition.behind.andThenFinds fun condition c₁ h₁ _ => ?_
      refine (Stmt.read_finds f c₁).behind.map fun body met among => ?_
      rwa [Gathering.Among, G.one_loop]
    · refine Finds.afterTaken ?_ h
      refine (Stmt.readBody_finds f t.after).behind.map fun body met among => ?_
      rwa [Gathering.Among, G.one_block]
    · exact Stmt.readExpression_finds G f c
termination_by (c.left, 1)
decreasing_by
  · exact Prod.Lex.left _ _ h₁
  · exact Prod.Lex.left _ _ h₁
  · exact Prod.Lex.left _ _ (other.further h₂)
  · exact Prod.Lex.left _ _ h₁
  · exact Prod.Lex.left _ _ t.shorter

end

/-! ### Scripts -/

/-- Reading a script meets the nodes of its statements, each of them once. -/
theorem Stmt.readAll_finds (c : Cursor) :
    ∃ met, G.AllAmong false (Stmt.readAll c).1 met ∧ G.Meets c met (Stmt.readAll c).2 := by
  rw [Stmt.readAll]
  split
  · exact ⟨[], G.allAmong_nil false [], G.way.refl c⟩
  · rename_i t us hrest
    obtain ⟨met, first, meets⟩ := Stmt.readDeclaration_finds G false c (Cursor.left_pos hrest)
    obtain ⟨met', later, meets'⟩ := Stmt.readAll_finds _
    refine ⟨met ++ met', ?_, G.trans meets meets'⟩
    rw [Gathering.AllAmong, G.all_append]
    exact first.append later
termination_by c.left
decreasing_by exact Resumed.shorter _

/-- A script is read from some of its tokens, and nothing has been reported before. -/
theorem Cursor.of_start? {tokens : List Token} {c : Cursor} (h : Cursor.start? tokens = some c) :
    c.rest.Sublist tokens ∧ c.reported = [] := by
  have body := List.takeWhile_sublist (l := tokens) (·.kind != .eof)
  unfold Cursor.start? at h
  dsimp only at h
  split at h
  · cases h
    exact ⟨body, rfl⟩
  · cases h
    exact ⟨body, rfl⟩
  · cases h

end ScriptLang

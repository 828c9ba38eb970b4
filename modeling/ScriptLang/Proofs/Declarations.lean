import ScriptLang.Proofs.Concatenation
import ScriptLang.Proofs.Scoping.Sound

/-!
# What declarations bind

Only a declaration creates a binding, only in the frame in which it stands, and no binding ever
disappears.  Outside of functions the statements of a script run one after the other, and only its
declarations of variables and functions declare anything there.  So at each point of a script the
globals are those before it and what the declarations up to this point have added.

## Main definitions

* `Stmt.declaredName?`, `Stmt.declaredNames` — the names of the declarations in a list of statements
* `Stmt.Overt` — a statement declares nothing unless it is a declaration itself
* `Scopes.Declares` — new names, and no others, have been bound in the newest frame
* `Session.FailsIn` — how a script fails in one of its statements

## Main results

* `exec_declares` — a declaration binds its name, or it fails and binds nothing
* `execAll_declares`, `execAll_fails` — the same of statements in a row, up to the one that fails
* `Session.names_bound` — what is bound after an expression, after a statement and after a script
-/

namespace ScriptLang

/-! ### Declared names -/

namespace Stmt

/-- The name of a declaration of a variable or a function. -/
def declaredName? : Stmt → Option String
  | .var ident _ | .function ident _ _ => some ident.lexeme
  | .expression _ | .print .. | .block _ | .branch .. | .loop .. | .ret .. => none

/-- The names of the declarations that stand in a list of statements, outside of all others. -/
def declaredNames (stmts : List Stmt) : List String :=
  stmts.filterMap declaredName?

/-- A statement declares nothing in its frame, unless it is a declaration itself. -/
def Overt (stmt : Stmt) : Prop :=
  stmt.declares = stmt.declaredName?.toList

theorem overt_of_declares_eq_nil {stmt : Stmt} (none : stmt.declares = []) : stmt.Overt := by
  cases stmt with
  | var ident init => cases none
  | function ident params body => cases none
  | _ => exact none

theorem declaredNames_cons (stmt : Stmt) (later : List Stmt) :
    declaredNames (stmt :: later) = stmt.declaredName?.toList ++ declaredNames later := by
  unfold declaredNames
  cases h : stmt.declaredName? with
  | none => rw [List.filterMap_cons_none h, Option.toList_none, List.nil_append]
  | some x => rw [List.filterMap_cons_some h, Option.toList_some, List.singleton_append]

end Stmt

namespace Grammar

variable {nearest : Prop} {f : Bool} {ts rest : List Token}

theorem Declaration.overt {stmt : Stmt} (h : Declaration nearest f ts stmt rest) : stmt.Overt := by
  cases h with
  | function => rfl
  | var _ body => cases body <;> rfl
  | statement inner => exact Stmt.overt_of_declares_eq_nil inner.tidy.1

/-- Every statement of a script either is a declaration or declares nothing. -/
theorem Declarations.overt {stmts : List Stmt} (h : Declarations nearest f ts stmts rest) :
    ∀ stmt ∈ stmts, stmt.Overt := by
  induction stmts generalizing ts with
  | nil => exact nofun
  | cons first later ih =>
    cases h with
    | cons head tail => exact List.forall_mem_cons.2 ⟨head.overt, ih tail⟩

end Grammar

/-! ### New names in the newest frame -/

namespace Scopes

variable {D E : List String} {s t u : Scopes} {x : String} {i : Nat}

/-- The same open frames, in the newest of which the names of `D` have been bound, none of them
twice and none that was bound there before. -/
structure Declares (D : List String) (s t : Scopes) : Prop where
  gains : s.Gains D t
  distinct : D.Nodup
  fresh : s.Fresh D
  bound : ∀ x ∈ D, t.BindsAt t.newest x

namespace Declares

theorem of_gains (h : s.Gains [] t) : s.Declares [] t :=
  ⟨h, List.nodup_nil, nofun, nofun⟩

theorem append (first : s.Declares D t) (second : t.Declares E u) : s.Declares (D ++ E) u := by
  have newest : t.newest.val = s.newest.val := first.gains.newest
  have kept {x : String} (bound : t.BindsAt t.newest x) : u.BindsAt u.newest x := by
    rw [second.gains.newest]
    exact second.gains.bindsAt bound
  refine ⟨?_, ?_, ?_, ?_⟩
  · have gains := first.gains.mono fun x hx => List.mem_append_left E hx
    exact gains.trans (second.gains.mono fun x hx => List.mem_append_right D hx)
  · refine first.distinct.append second.distinct fun x hD hE => ?_
    -- What the first part has bound is not free for the second one.
    exact second.fresh x hE (first.bound x hD)
  · intro x hx before
    rcases List.mem_append.1 hx with hD | hE
    · exact first.fresh x hD before
    · apply second.fresh x hE
      rw [newest]
      exact first.gains.bindsAt before
  · intro x hx
    rcases List.mem_append.1 hx with hD | hE
    · exact kept (first.bound x hD)
    · exact second.bound x hE

/-- The newest frame binds the names from before and those of `D`. -/
theorem bindsAt_newest_iff (h : s.Declares D t) :
    t.BindsAt t.newest x ↔ s.BindsAt s.newest x ∨ x ∈ D := by
  constructor
  · exact h.gains.bindsAt_newest
  · rintro (before | new)
    · rw [h.gains.newest]
      exact h.gains.bindsAt before
    · exact h.bound x new

end Declares

end Scopes

/-! ### Single statements -/

/-- Whatever the host answers, the action has bound the names of `D` in the newest frame if it
succeeds, and no name at all if it fails. -/
def Action.Declares {α : Type} (D : List String) (a : Action α) : Prop :=
  ∀ s, (a.on s).Ends fun p =>
    match p.1 with
    | .ok _ => s.Declares D p.2
    | .error _ => s.Gains [] p.2

namespace Action.Declares

variable {α β : Type} {D : List String} {a : Action α}

theorem throw (e : Stop) : (MonadExcept.throw e : Action α).Declares D :=
  fun s => .refl [] s

/-- An action that binds nothing declares nothing. -/
theorem of_gains (h : a.Gains []) : a.Declares [] := by
  intro s
  refine (h s).mono ?_
  rintro ⟨result, t⟩ gains
  cases result with
  | ok x => exact .of_gains gains
  | error e => exact gains

/-- What binds nothing may come first. -/
theorem behind {f : α → Action β} (first : a.Gains []) (next : ∀ x, (f x).Declares D) :
    (a >>= f).Declares D := by
  intro s
  rw [Action.on_bind, Dialogue.ends_bind]
  refine (first s).mono ?_
  rintro ⟨result, t⟩ gains
  cases result with
  | error e => exact gains
  | ok x =>
    refine (next x t).mono ?_
    rintro ⟨result, u⟩ ends
    cases result with
    | error e => exact gains.trans ends
    | ok y => exact (Scopes.Declares.of_gains gains).append ends

/-- A declaration binds its name, unless the name is bound already in the newest frame. -/
theorem define (ident : Token) (value : Value) (x : α) :
    (do Action.define ident value; return x : Action α).Declares [ident.lexeme] := by
  intro s
  have ends := Action.Gains.define (D := [ident.lexeme]) ident value (List.mem_singleton_self _) s
  rw [Action.on_bind, Action.on_define, Scopes.define] at *
  by_cases taken : (s.bindings s.newest).binds ident.lexeme = true
  · rw [if_pos taken]
    exact .refl [] s
  · rw [if_neg taken] at ends ⊢
    have gains : s.Gains [ident.lexeme] (s.insert ident.lexeme value s.newest) := ends
    refine ⟨gains, List.nodup_singleton _, ?_, ?_⟩
    · intro y hy bound
      rw [List.mem_singleton.1 hy] at bound
      exact taken (Scopes.bindsAt_iff.1 bound)
    · intro y hy
      rw [List.mem_singleton.1 hy, gains.newest, Scopes.BindsAt, Scopes.insert,
        Scopes.getElem?_modify, if_pos rfl, Scopes.getElem?_id]
      exact ⟨_, rfl, (Bindings.binds_put ..).2 (.inl rfl)⟩

end Action.Declares

/-- A declaration binds its name if it succeeds, and where a statement fails that declares nothing
unless it is a declaration itself, nothing has been bound. -/
theorem exec_declares (n u : Nat) {stmt : Stmt} (overt : stmt.Overt) :
    (exec n u stmt).Declares stmt.declaredName?.toList := by
  have gains := exec_gains n u stmt
  rw [overt] at gains
  cases n with
  | zero => exact .throw .outOfFuel
  | succ n =>
    cases stmt with
    | var ident init =>
      cases init with
      | none => exact .define ident _ _
      | some e => exact .behind (eval_gains n u e) fun v => .define ident v _
    | function ident params body => exact .define ident _ _
    | _ => exact .of_gains gains

/-! ### Statements in a row -/

variable {n u : Nat} {stmts : List Stmt} {s t : Scopes}

/-- Where statements in a row have ended normally, their declarations have been carried out. -/
theorem execAll_declares (overt : ∀ stmt ∈ stmts, stmt.Overt) :
    ((execAll n u stmts).on s).Ends fun p =>
      p.1 = .ok .normal → s.Declares (Stmt.declaredNames stmts) p.2 := by
  induction stmts generalizing n s with
  | nil =>
    cases n with
    | zero =>
      intro ended
      cases ended
    | succ n => exact fun _ => .of_gains (.refl [] s)
  | cons stmt later ih =>
    cases n with
    | zero =>
      intro ended
      cases ended
    | succ n =>
      rw [execAll, Action.on_bind, Dialogue.ends_bind, Stmt.declaredNames_cons]
      refine (exec_declares n u (overt stmt (List.mem_cons_self ..)) s).mono ?_
      rintro ⟨result, t⟩ first
      cases result with
      | error e =>
        intro ended
        cases ended
      | ok flow =>
        cases flow with
        | returned value =>
          intro ended
          cases ended
        | normal =>
          have rest := ih (n := n) (s := t) fun stmt hs => overt stmt (List.mem_cons_of_mem _ hs)
          exact rest.mono fun p second ended => first.append (second ended)

/-- Statements in a row fail in one of them, where the ones before it have ended normally. -/
theorem execAll_fails {e : RuntimeError}
    (fails : ((execAll n u stmts).on s).MayEnd (.error (.error e), t)) :
    ∃ before stmt later, stmts = before ++ stmt :: later ∧
      ∃ r, ((execAll n u before).on s).MayEnd (.ok .normal, r) ∧
        ∃ m, ((exec m u stmt).on r).MayEnd (.error (.error e), t) := by
  induction stmts generalizing n s with
  | nil =>
    cases n with
    | zero => cases fails
    | succ n => cases fails
  | cons stmt later ih =>
    cases n with
    | zero => cases fails
    | succ n =>
      rw [execAll, Action.on_bind, Dialogue.mayEnd_bind] at fails
      obtain ⟨⟨result, r⟩, first, rest⟩ := fails
      cases result with
      | error stop =>
        cases rest
        exact ⟨[], stmt, later, rfl, s, .done _, n, first⟩
      | ok flow =>
        cases flow with
        | returned value => cases rest
        | normal =>
          obtain ⟨before, stmt', later', rfl, r', normal, failing⟩ := ih rest
          refine ⟨stmt :: before, stmt', later', rfl, r', ?_, failing⟩
          rw [execAll, Action.on_bind, Dialogue.mayEnd_bind]
          exact ⟨_, first, normal⟩

/-! ### Scripts -/

namespace Session

/-- Started in a session, some statements may end normally, and the statement behind them may fail
then, with these frames. -/
def FailsIn (s : Session) (before : List Stmt) (stmt : Stmt) (e : RuntimeError) (t : Scopes) :
    Prop :=
  ∃ n r, ((execAll n s.units before).on s.scopes).MayEnd (.ok .normal, r) ∧
    ∃ m, ((exec m s.units stmt).on r).MayEnd (.error (.error e), t)

variable {s t : Session} {source : String}

theorem contains_iff {x : String} :
    s.contains x = true ↔ s.scopes.BindsAt s.scopes.oldest x :=
  Scopes.bindsAt_iff.symm

/-- Outside of all blocks and functions, statements bind globals. -/
theorem contains_of_declares {D : List String} {r : Scopes} (units : Nat)
    (outermost : s.scopes.newest = s.scopes.oldest) (h : s.scopes.Declares D r) :
    D.Nodup ∧ (∀ x ∈ D, s.contains x = false) ∧
      ∀ x, (Session.mk r units).contains x = true ↔ s.contains x = true ∨ x ∈ D := by
  have newest : r.newest = r.oldest := by
    apply Fin.ext
    rw [h.gains.newest, outermost]
    rfl
  refine ⟨h.distinct, fun x hx => ?_, fun x => ?_⟩
  · rw [Bool.eq_false_iff, ne_eq, contains_iff, ← outermost]
    exact h.fresh x hx
  · rw [contains_iff, contains_iff, ← outermost, ← newest]
    exact h.bindsAt_newest_iff

/-- Where a script without a fault fails in one of its statements, the globals are those before it
and those that the declarations before this statement have bound. -/
theorem FailsIn.contains_iff {before later : List Stmt} {stmt : Stmt} {e : RuntimeError}
    {r : Scopes} (overt : ∀ other ∈ before ++ stmt :: later, other.Overt)
    (outermost : s.scopes.newest = s.scopes.oldest) (fails : s.FailsIn before stmt e r)
    (x : String) :
    (Session.mk r (s.units + 1)).contains x = true ↔
      s.contains x = true ∨ x ∈ Stmt.declaredNames before := by
  obtain ⟨n, t, normal, m, failing⟩ := fails
  have first : s.scopes.Declares (Stmt.declaredNames before) t :=
    (execAll_declares fun other hs => overt other (List.mem_append_left _ hs)).of_mayEnd normal rfl
  have second : t.Gains [] r :=
    (exec_declares m s.units (overt stmt (by simp)) t).of_mayEnd failing
  have both := first.append (.of_gains second)
  rw [List.append_nil] at both
  exact (contains_of_declares _ outermost both).2.2 x

/-- Only a declaration creates a binding, only in the frame in which it stands, and no binding ever
disappears.  An expression leaves the names of all frames as they were, and a statement may add what
it declares to those of the newest frame, however they end.  After a script without a fault that
has not failed, the globals are those from before and the names of its declarations, none of which
was bound before; where it fails in one of its statements, they are those from before and the names
of the declarations before this statement. -/
theorem names_bound :
    (∀ (n u : Nat) (e : Expr) (s : Scopes), ((eval n u e).on s).Ends fun p =>
      ∀ i x, p.2.BindsAt i x ↔ s.BindsAt i x) ∧
    (∀ (n u : Nat) (stmt : Stmt) (s : Scopes), ((exec n u stmt).on s).Ends fun p =>
      (∀ i x, s.BindsAt i x → p.2.BindsAt i x) ∧
        ∀ i x, p.2.BindsAt i x → s.BindsAt i x ∨ i = s.newest.val ∧ x ∈ stmt.declares) ∧
    ∀ (source : String) (s : Session), Faultless source → s.scopes.newest = s.scopes.oldest →
      (∀ n t, ((runStmts n (Script.stmtsOf source)).on s).MayEnd (.ok (), t) →
        (Stmt.declaredNames (Script.stmtsOf source)).Nodup ∧
        (∀ x ∈ Stmt.declaredNames (Script.stmtsOf source), s.contains x = false) ∧
        ∀ x, t.contains x = true ↔
          s.contains x = true ∨ x ∈ Stmt.declaredNames (Script.stmtsOf source)) ∧
      (∀ n e t, ((runStmts n (Script.stmtsOf source)).on s).MayEnd (.error (.runtime e), t) →
        t.units = s.units + 1 ∧ ∃ before stmt later,
          Script.stmtsOf source = before ++ stmt :: later ∧ s.FailsIn before stmt e t.scopes) ∧
      ∀ before stmt later e t, Script.stmtsOf source = before ++ stmt :: later →
        s.FailsIn before stmt e t → ∀ x, (Session.mk t (s.units + 1)).contains x = true ↔
          s.contains x = true ∨ x ∈ Stmt.declaredNames before := by
  refine ⟨fun n u e s => ?_, fun n u stmt s => ?_, fun source s faultless outermost => ?_⟩
  · exact (eval_gains n u e s).mono fun p gains i x => gains.bindsAt_iff
  · refine (exec_gains n u stmt s).mono fun p gains => ⟨fun i x => ?_, fun i x => ?_⟩
    · exact gains.bindsAt
    · exact gains.of_bindsAt
  have overt := faultless.program.overt
  refine ⟨fun n t ends => ?_, fun n e t ends => ?_, fun before stmt later e t split fails => ?_⟩
  · rw [on_runStmts, Dialogue.mayEnd_bind] at ends
    obtain ⟨⟨result, r⟩, ran, same⟩ := ends
    cases result with
    | error e => cases same
    | ok flow =>
      cases same
      have normal : flow = .normal :=
        (execAll_normal n s.units faultless.program.returns s.scopes).of_mayEnd ran flow rfl
      subst normal
      exact contains_of_declares _ outermost ((execAll_declares overt).of_mayEnd ran rfl)
  · rw [on_runStmts, Dialogue.mayEnd_bind] at ends
    obtain ⟨⟨result, r⟩, ran, same⟩ := ends
    cases result with
    | ok flow => cases same
    | error stop =>
      cases stop with
      | outOfFuel => cases same
      | error e' =>
        cases same
        obtain ⟨before, stmt, later, split, r', normal, failing⟩ := execAll_fails ran
        exact ⟨rfl, before, stmt, later, split, n, r', normal, failing⟩
  · rw [split] at overt
    exact fails.contains_iff overt outermost

/-- A script whose third statement fails. -/
def halting : String :=
  "var a; fun f() \x7b var b; \x7d a = c; var d;"

/-- When it has failed, the variable and the function before that statement have been added to the
globals, and nothing else. -/
theorem names_bound_halting :
    ∃ before stmt later e t, Script.stmtsOf halting = before ++ stmt :: later ∧
      start.FailsIn before stmt e t ∧ ∀ x, (Session.mk t 1).contains x = true ↔
        start.contains x = true ∨ x ∈ ["a", "f"] := by
  have faultless : Faultless halting := ⟨by cbv, by cbv⟩
  let a : Token := ⟨.ident, "a", none, 1, ⟨4, 5⟩⟩
  let f : Token := ⟨.ident, "f", none, 1, ⟨11, 12⟩⟩
  let body : List Stmt := [.var ⟨.ident, "b", none, 1, ⟨21, 22⟩⟩ none]
  let c : Token := ⟨.ident, "c", none, 1, ⟨30, 31⟩⟩
  have split : Script.stmtsOf halting = [.var a none, .function f [] body] ++
      .expression (.assign ⟨.ident, "a", none, 1, ⟨26, 27⟩⟩ (.name c)) ::
        [.var ⟨.ident, "d", none, 1, ⟨37, 38⟩⟩ none] := by
    unfold halting
    cbv
  let r := (start.scopes.insert "a" .nil start.scopes.newest).insert "f"
    (.callable (.user ⟨0, f, [], body⟩)) start.scopes.newest
  have unbound : r.resolve? "c" r.newest = none := Scopes.resolve?_of_last rfl rfl
  have fails : start.FailsIn [.var a none, .function f [] body]
      (.expression (.assign ⟨.ident, "a", none, 1, ⟨26, 27⟩⟩ (.name c)))
      ⟨c, .undefinedVariable "c"⟩ r := by
    refine ⟨3, r, .done _, 3, ?_⟩
    simp [exec, eval, Action.on_bind, Scopes.get, Scopes.find?, c, unbound, Except.mapError]
  exact ⟨_, _, _, _, r, split, fails, (names_bound.2.2 halting start faultless rfl).2.2 _ _ _ _ r
    split fails⟩

end Session

end ScriptLang

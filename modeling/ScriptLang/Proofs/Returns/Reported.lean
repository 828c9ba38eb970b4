import Mathlib
import ScriptLang.Proofs.Execution
import ScriptLang.Proofs.Gathering
import ScriptLang.Proofs.Returns
import ScriptLang.Proofs.Scan

/-!
# Returns outside of functions

A reader keeps track of whether it is in the body of a function, through nested functions, bodies
that cannot be read and the search for the next statement behind a fault.  It reports every `return`
that it meets outside, and no other one.  So a script without a fault has none there: none of its
statements returns, and if it succeeds, each of them has been executed to its end.

## Main definitions

* `Stmt.returnNodes` — all `return`s of a statement, in functions and outside
* `Cursor.Meets` — the `return`s that reading has met between two cursors
* `ExecutedEach` — statements executed one after another, each to its end

## Main results

* `Stmt.readAll_meets` — each `return` is met once, and reported if it is outside of functions
* `Script.mem_returnNodes_iff` — a `return` of a script is outside of functions exactly if it is
  reported
* `Session.RunsTo.executedEach` — a script that succeeds executes each statement to its end
* `Session.topLevel_returns` — only a `return` that is reported can reach the top level
-/

namespace ScriptLang

/-- A `return` in a text. -/
structure Return where
  keyword : Token
  inFunction : Bool
  deriving DecidableEq

mutual

/-- All `return`s in a statement, which may itself be in a function. -/
def Stmt.returnNodes (inFunction : Bool) : Stmt → List Return
  | .ret keyword _ => [⟨keyword, inFunction⟩]
  | .block body => Stmt.allReturnNodes inFunction body
  | .branch _ yes none => yes.returnNodes inFunction
  | .branch _ yes (some no) => yes.returnNodes inFunction ++ no.returnNodes inFunction
  | .loop _ body => body.returnNodes inFunction
  | .function _ _ body => Stmt.allReturnNodes true body
  | .expression _ | .print .. | .var .. => []

/-- All `return`s in statements, which may themselves be in a function. -/
def Stmt.allReturnNodes (inFunction : Bool) : List Stmt → List Return
  | [] => []
  | stmt :: later => stmt.returnNodes inFunction ++ Stmt.allReturnNodes inFunction later

end

mutual

/-- A statement all of whose `return`s are in functions. -/
theorem Stmt.returns_eq_nil : ∀ stmt : Stmt,
    (∀ r ∈ stmt.returnNodes false, r.inFunction = true) → stmt.returns = []
  | .ret keyword _, h => nomatch h ⟨keyword, false⟩ (List.mem_singleton_self _)
  | .block body, h => Stmt.allReturns_eq_nil body h
  | .branch _ yes none, h => yes.returns_eq_nil h
  | .branch _ yes (some no), h => List.append_eq_nil_iff.2
    ⟨yes.returns_eq_nil fun r hr => h r (List.mem_append_left _ hr),
      no.returns_eq_nil fun r hr => h r (List.mem_append_right _ hr)⟩
  | .loop _ body, h => body.returns_eq_nil h
  | .function .., _ | .expression _, _ | .print .., _ | .var .., _ => rfl

theorem Stmt.allReturns_eq_nil : ∀ stmts : List Stmt,
    (∀ r ∈ Stmt.allReturnNodes false stmts, r.inFunction = true) → Stmt.allReturns stmts = []
  | [], _ => rfl
  | stmt :: later, h => List.append_eq_nil_iff.2
    ⟨stmt.returns_eq_nil fun r hr => h r (List.mem_append_left _ hr),
      Stmt.allReturns_eq_nil later fun r hr => h r (List.mem_append_right _ hr)⟩

end

/-! ### Returns met while reading -/

/-- The reports of those `return`s that are outside of functions. -/
def Return.reports (met : List Return) : List Diagnostic :=
  (met.filter (!·.inFunction)).map (·.keyword.diagnose .topLevelReturn)

theorem Return.reports_append (first second : List Return) :
    reports (first ++ second) = reports first ++ reports second := by
  rw [reports, List.filter_append, List.map_append, reports, reports]

/-- The reports of `return`s among all reports so far. -/
def Cursor.returnReports (c : Cursor) : List Diagnostic :=
  c.reported.filter (·.fault = .topLevelReturn)

/-- Reading from `c` to `d` has met some `return`s: their keywords are tokens that were passed over,
each of them once, and exactly those outside of functions have been reported. -/
structure Cursor.Meets (c : Cursor) (met : List Return) (d : Cursor) : Prop where
  passed : ∃ passed, c.rest = passed ++ d.rest ∧ (met.map Return.keyword).Sublist passed
  reports : d.returnReports = c.returnReports ++ Return.reports met

namespace Cursor

variable {c d e : Cursor} {first second : List Return}

theorem Meets.trans (h : c.Meets first d) (h' : d.Meets second e) :
    c.Meets (first ++ second) e := by
  obtain ⟨⟨passed, rest, sub⟩, reports⟩ := h
  obtain ⟨⟨passed', rest', sub'⟩, reports'⟩ := h'
  refine ⟨⟨passed ++ passed', ?_, ?_⟩, ?_⟩
  · rw [rest, rest', List.append_assoc]
  · rw [List.map_append]
    exact sub.append sub'
  · rw [reports', reports, Return.reports_append, List.append_assoc]

/-- Steps that find no `return` meet none. -/
theorem isWay_meets : IsWay fun c d => c.Meets [] d where
  refl c := ⟨⟨[], rfl, .refl _⟩, (List.append_nil _).symm⟩
  trans h h' := h.trans h'
  step {c t rest} h := ⟨⟨[t], h, List.nil_sublist _⟩, (List.append_nil _).symm⟩
  report {d} c h := by
    refine ⟨⟨[], rfl, .refl _⟩, ?_⟩
    simp [returnReports, report, h, Return.reports]

/-- Whoever takes the word `return` meets a `return`, and reports it outside of functions. -/
theorem meets_return (inFunction : Bool) {test : TokenKind → Bool} {t : Taken c}
    (h : c.take? test = some t) :
    c.Meets [⟨t.token, inFunction⟩]
      (t.after.reportIf (!inFunction) (t.token.diagnose .topLevelReturn)) := by
  obtain ⟨-, rest, after⟩ := of_take? h
  refine ⟨⟨[t.token], rest, .refl _⟩, ?_⟩
  rw [after]
  cases inFunction with
  | false => simp [returnReports, reportIf, Return.reports, Token.diagnose]
  | true => simp [returnReports, reportIf, Return.reports]

end Cursor

/-- The `return`s, met on the way of a reader. -/
def Gathering.returns : Gathering Return where
  one := Stmt.returnNodes
  all := Stmt.allReturnNodes
  ofReturn inFunction keyword := [⟨keyword, inFunction⟩]
  ofFunction _ := []
  Meets := Cursor.Meets
  all_nil _ := rfl
  all_cons _ _ _ := rfl
  one_expression _ _ := rfl
  one_print _ _ _ := rfl
  one_var _ _ _ := rfl
  one_block _ _ := rfl
  one_branch _ _ _ := rfl
  one_branchElse _ _ _ _ := rfl
  one_loop _ _ _ := rfl
  one_function _ _ _ _ := rfl
  one_ret _ _ _ := rfl
  way := Cursor.isWay_meets
  trans := Cursor.Meets.trans
  meets_return f h := Cursor.meets_return f h
  meets_function _ _ _ h := h

/-- The `return`s of statements are among those that were met. -/
abbrev Stmt.AllAmong (inFunction : Bool) (stmts : List Stmt) (met : List Return) : Prop :=
  (Stmt.allReturnNodes inFunction stmts).Sublist met

/-! ### Scripts -/

/-- Reading a script meets each `return` once, and reports exactly those outside of functions. -/
theorem Stmt.readAll_meets (c : Cursor) :
    ∃ met, Stmt.AllAmong false (Stmt.readAll c).1 met ∧ c.Meets met (Stmt.readAll c).2 :=
  Stmt.readAll_finds .returns c

/-- The `return`s of a script have different keywords, and exactly those outside of functions are
reported. -/
theorem Script.exists_met (tokens : List Token) :
    ∃ met, Stmt.AllAmong false (ofTokens tokens).stmts met ∧
      (met.map Return.keyword).Sublist tokens ∧
      (ofTokens tokens).diagnostics.filter (·.fault = .topLevelReturn) = Return.reports met := by
  unfold ofTokens
  cases h : Cursor.start? tokens with
  | none => exact ⟨[], .refl _, List.nil_sublist _, rfl⟩
  | some c =>
    obtain ⟨sub, quiet⟩ := Cursor.of_start? h
    obtain ⟨met, among, ⟨passed, rest, keywords⟩, reports⟩ := Stmt.readAll_meets c
    refine ⟨met, among, ?_, ?_⟩
    · rw [rest] at sub
      exact keywords.trans ((List.sublist_append_left ..).trans sub)
    · simpa [Cursor.returnReports, quiet] using reports

/-- Where no two tokens stand in the same place, a `return` of a script is outside of functions
exactly if it is reported. -/
theorem Script.mem_returnNodes_iff {tokens : List Token}
    (distinct : (tokens.map Token.span).Nodup) {r : Return}
    (h : r ∈ Stmt.allReturnNodes false (ofTokens tokens).stmts) :
    r.inFunction = false ↔
      r.keyword.diagnose .topLevelReturn ∈ (ofTokens tokens).diagnostics := by
  obtain ⟨met, among, keywords, reports⟩ := exists_met tokens
  have hr : r ∈ met := among.subset h
  have places : (met.map fun r => r.keyword.span).Nodup := by
    have sub := keywords.map Token.span
    rw [List.map_map] at sub
    exact distinct.sublist sub
  constructor
  · intro outside
    have reported : r.keyword.diagnose .topLevelReturn ∈ Return.reports met :=
      List.mem_map.2 ⟨r, List.mem_filter.2 ⟨hr, by rw [outside]; rfl⟩, rfl⟩
    rw [← reports] at reported
    exact List.mem_of_mem_filter reported
  · intro reported
    have reported : r.keyword.diagnose .topLevelReturn ∈ Return.reports met := by
      rw [← reports]
      exact List.mem_filter.2 ⟨reported, decide_eq_true rfl⟩
    -- The report may be that of another `return`, but no other one stands in this place.
    obtain ⟨r', hr', same⟩ := List.mem_map.1 reported
    obtain ⟨hr', outside⟩ := List.mem_filter.1 hr'
    obtain rfl : r' = r :=
      List.inj_on_of_nodup_map places hr' hr (congrArg Diagnostic.span same)
    simpa using outside

/-- Where nothing is wrong with the grammar of a text, no statement returns outside of functions. -/
theorem Script.allReturns_eq_nil {source : String}
    (clean : (ofTokens (scan source).tokens).diagnostics = []) :
    Stmt.allReturns (stmtsOf source) = [] := by
  refine Stmt.allReturns_eq_nil _ fun r hr => ?_
  by_contra outside
  have reported := (mem_returnNodes_iff (nodup_span_scan source) hr).1 (by simpa using outside)
  rw [clean] at reported
  cases reported

/-! ### Runs -/

theorem Stmt.returns_of_mem {stmts : List Stmt} (none : Stmt.allReturns stmts = []) :
    ∀ stmt ∈ stmts, stmt.returns = [] := by
  induction stmts with
  | nil => exact nofun
  | cons stmt later ih =>
    obtain ⟨first, rest⟩ := List.append_eq_nil_iff.1 none
    exact List.forall_mem_cons.2 ⟨first, ih rest⟩

/-- Statements executed one after another, each of them to its end, from some frames and some world
to others. -/
inductive ExecutedEach (u : Nat) : List Stmt → Scopes → World → Scopes → World → Prop where
  | nil (s : Scopes) (w : World) : ExecutedEach u [] s w s w
  | cons {stmt : Stmt} {later : List Stmt} {s t s' : Scopes} {w v w' : World} (fuel : Nat)
      (first : ((exec fuel u stmt).on s).run w = ((.ok .normal, t), v))
      (rest : ExecutedEach u later t v s' w') : ExecutedEach u (stmt :: later) s w s' w'

/-- Statements that end normally have each been executed to their end. -/
theorem executedEach_of_run {u : Nat} {stmts : List Stmt} {fuel : Nat} {s s' : Scopes}
    {w w' : World} (h : ((execAll fuel u stmts).on s).run w = ((.ok .normal, s'), w')) :
    ExecutedEach u stmts s w s' w' := by
  induction stmts generalizing fuel s w with
  | nil =>
    cases fuel with
    | zero => cases h
    | succ fuel =>
      cases h
      exact .nil _ _
  | cons stmt later ih =>
    cases fuel with
    | zero => cases h
    | succ fuel =>
      rw [execAll, Action.on_bind, Dialogue.run_bind] at h
      generalize first : ((exec fuel u stmt).on s).run w = p at h
      obtain ⟨⟨result, t⟩, v⟩ := p
      cases result with
      | error e => cases h
      | ok flow =>
        cases flow with
        | returned value => cases h
        | normal => exact .cons fuel first (ih h)

namespace Session

variable {source : String} {listings : Listings} {s s' : Session} {w w' : World}

/-- A script that succeeds has nothing wrong with it, and behind its listings each of its statements
has been executed to its end. -/
theorem RunsTo.executedEach (h : s.RunsTo listings source w ((.ok (), s'), w')) :
    Faultless source ∧ ∃ v,
      ((prepare listings source).on s).run w = ((.ok (Script.stmtsOf source), s), v) ∧
        ExecutedEach s.units (Script.stmtsOf source) s.scopes v s'.scopes w' := by
  obtain ⟨fuel, run, -⟩ := h
  rw [run_eq, SessionM.on_bind, Dialogue.run_bind] at run
  have prepared := (prepare_ends listings source s).run w
  generalize ((prepare listings source).on s).run w = p at prepared run ⊢
  obtain ⟨⟨result, t⟩, v⟩ := p
  obtain ⟨prepared, same⟩ := prepared
  dsimp only at prepared same
  subst same
  cases prepared with
  | faulty _ | output why => cases run
  | faultless faultless =>
    refine ⟨faultless, v, rfl, ?_⟩
    dsimp only at run
    rw [SessionM.on_bind, on_runStmts, Dialogue.run_bind, Dialogue.run_bind] at run
    have none := Script.allReturns_eq_nil faultless.read
    have normal := (execAll_normal fuel t.units none t.scopes).run v
    generalize executed : ((execAll fuel t.units (Script.stmtsOf source)).on t.scopes).run v = q
      at normal run
    obtain ⟨⟨result, scopes⟩, v'⟩ := q
    cases result with
    | error e => cases run
    | ok flow =>
      obtain rfl : flow = .normal := normal flow rfl
      have each := executedEach_of_run executed
      -- All that is left is to pass the output on, which changes neither frames nor world.
      simp only [Dialogue.run_done, Except.map, Except.mapError, on_flush, Dialogue.run_ask,
        World.answer, Prod.mk.injEq] at run
      obtain ⟨⟨-, rfl⟩, rfl⟩ := run
      exact each

/-- Only a `return` that is reported can reach the top level.  In the statements of any list of
tokens that stand in different places, whether there are faults in it or not, a `return` is outside
of functions exactly if it is reported as such; and the tokens of a text stand in different places.
So no statement of a script without a fault returns, whatever the frames and the answers of the
host, and neither does the script as a whole.  If it succeeds, then each of its statements has been
executed to its end. -/
theorem topLevel_returns :
    (∀ tokens : List Token, (tokens.map Token.span).Nodup →
      ∀ r ∈ Stmt.allReturnNodes false (Script.ofTokens tokens).stmts,
        (r.inFunction = false ↔
          r.keyword.diagnose .topLevelReturn ∈ (Script.ofTokens tokens).diagnostics)) ∧
    (∀ source : String, ((scan source).tokens.map Token.span).Nodup) ∧
    (∀ source : String, (Script.ofTokens (scan source).tokens).diagnostics = [] →
      ∀ fuel unit : Nat,
        (∀ stmt ∈ Script.stmtsOf source, (exec fuel unit stmt).Yields (· = .normal)) ∧
          (execAll fuel unit (Script.stmtsOf source)).Yields (· = .normal)) ∧
    ∀ (s s' : Session) (listings : Listings) (source : String) (w w' : World),
      s.RunsTo listings source w ((.ok (), s'), w') → Faultless source ∧ ∃ v,
        ((prepare listings source).on s).run w = ((.ok (Script.stmtsOf source), s), v) ∧
          ExecutedEach s.units (Script.stmtsOf source) s.scopes v s'.scopes w' := by
  refine ⟨fun tokens distinct r hr => Script.mem_returnNodes_iff distinct hr, nodup_span_scan,
    fun source clean fuel unit => ?_, fun s s' listings source w w' h => h.executedEach⟩
  have none := Script.allReturns_eq_nil clean
  exact ⟨fun stmt hstmt => exec_normal fuel unit (Stmt.returns_of_mem none stmt hstmt),
    execAll_normal fuel unit none⟩

/-- A script with one `return` in a function and one outside. -/
def returning : String :=
  "fun f() \x7b return; \x7d return f;"

/-- Both are read, and only the second one is reported. -/
theorem topLevel_returns_returning :
    Stmt.allReturnNodes false (Script.stmtsOf returning) =
        [⟨⟨.returnWord, "return", none, 1, ⟨10, 16⟩⟩, true⟩,
          ⟨⟨.returnWord, "return", none, 1, ⟨20, 26⟩⟩, false⟩] ∧
      Token.diagnose ⟨.returnWord, "return", none, 1, ⟨10, 16⟩⟩ .topLevelReturn ∉
        (Script.ofTokens (scan returning).tokens).diagnostics ∧
      Token.diagnose ⟨.returnWord, "return", none, 1, ⟨20, 26⟩⟩ .topLevelReturn ∈
        (Script.ofTokens (scan returning).tokens).diagnostics := by
  have nodes : Stmt.allReturnNodes false (Script.stmtsOf returning) =
      [⟨⟨.returnWord, "return", none, 1, ⟨10, 16⟩⟩, true⟩,
        ⟨⟨.returnWord, "return", none, 1, ⟨20, 26⟩⟩, false⟩] := by
    unfold returning
    cbv
  have reported := topLevel_returns.1 (scan returning).tokens (topLevel_returns.2.1 returning)
  rw [nodes] at reported
  refine ⟨nodes, fun inside => ?_, ?_⟩
  · exact Bool.noConfusion ((reported ⟨_, true⟩ (List.mem_cons_self ..)).2 inside)
  · exact (reported ⟨_, false⟩ (by simp)).1 rfl

end Session

end ScriptLang

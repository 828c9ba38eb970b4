import ScriptLang.Proofs.Action
import ScriptLang.Session

/-!
# Sessions as dialogues

A step of a session is a dialogue that ends with a result and the session after it.  Running a text
is taken apart here: first its listings, then its statements, and at last the output is passed on.

## Main definitions

* `SessionM.on` — the dialogue of a step that starts with a session
* `SessionM.Leads` — how the session after a step is related to the one before
* `Faultless` — a text that has nothing wrong with it
* `Session.prepare` — what is done with a text before its statements run

## Main results

* `Session.on_run` — the dialogue of a script without a fault
* `Session.run_eq`, `Session.prepare_ends` — a script is prepared, run, and its output passed on
* `Session.run_ends_of` — what holds at every end of a script
-/

namespace ScriptLang

namespace SessionM

variable {α β : Type}

/-- The dialogue of a step: from the session at its start to its result and the session at its
end. -/
def on (m : SessionM α) (s : Session) : Dialogue (Except RunError α × Session) :=
  m.run.run s

@[simp] theorem on_pure (x : α) (s : Session) : (pure x : SessionM α).on s = .done (.ok x, s) := rfl

@[simp] theorem on_throw (e : RunError) (s : Session) :
    (throw e : SessionM α).on s = .done (.error e, s) := rfl

theorem on_bind (m : SessionM α) (f : α → SessionM β) (s : Session) :
    (m >>= f).on s = m.on s >>= fun p =>
      match p.1 with
      | .ok x => (f x).on p.2
      | .error e => .done (.error e, p.2) := by
  simp only [on, ExceptT.run_bind, StateT.run_bind]
  congr 1
  funext p
  rcases p with ⟨_ | _, _⟩ <;> rfl

end SessionM

namespace Session

@[simp] theorem on_nextUnit (s : Session) :
    nextUnit.on s = .done (.ok s.units, { s with units := s.units + 1 }) := rfl

@[simp] theorem on_perform {α : Type} (action : Action α) (s : Session) :
    (perform action).on s = action.on s.scopes >>= fun p =>
      .done (p.1.mapError .ofStop, { s with scopes := p.2 }) := by
  simp only [perform, SessionM.on, ExceptT.run_mk, StateT.run, Action.on]
  congr 1
  funext p
  rcases p with ⟨_ | _, _⟩ <;> rfl

theorem on_write (text : String) (s : Session) :
    (request (Dialogue.request (.write text))).on s =
      .ask (.write text) fun answer => .done (Except.mapError .output answer, s) := by
  refine congrArg (Dialogue.ask _) (funext fun answer => ?_)
  cases answer <;> rfl

theorem on_flush (s : Session) :
    (request (Dialogue.request .flush)).on s =
      .ask .flush fun answer => .done (Except.mapError .output answer, s) := by
  refine congrArg (Dialogue.ask _) (funext fun answer => ?_)
  cases answer <;> rfl

/-- The statements of a unit run with the number of the unit. -/
theorem on_runStmts (fuel : Nat) (stmts : List Stmt) (s : Session) :
    (runStmts fuel stmts).on s = (execAll fuel s.units stmts).on s.scopes >>= fun p =>
      .done (p.1.map (fun _ => ()) |>.mapError .ofStop, ⟨p.2, s.units + 1⟩) := by
  simp only [runStmts, SessionM.on_bind, on_nextUnit, on_perform, Dialogue.done_bind,
    Dialogue.bind_assoc]
  congr 1
  funext p
  rcases p with ⟨_ | _, _⟩ <;> rfl

/-- Writing lines changes nothing in the session, and can only fail because of the output. -/
theorem writeLines_ends (lines : List String) (s : Session) :
    ((writeLines lines).on s).Ends fun p =>
      p = (.ok (), s) ∨ ∃ why, p = (.error (.output why), s) := by
  induction lines with
  | nil => exact .inl rfl
  | cons line later ih =>
    rw [writeLines, SessionM.on_bind, on_write]
    intro answer
    cases answer with
    | ok _ => exact ih
    | error why => exact .inr ⟨why, rfl⟩

end Session

/-! ### Scripts -/

/-- A text with nothing wrong in its characters and nothing wrong in its grammar. -/
structure Faultless (source : String) : Prop where
  scan : (scan source).diagnostics = []
  read : (Script.ofTokens (ScriptLang.scan source).tokens).diagnostics = []

namespace Session

variable {source : String}

/-- A script without a fault runs its statements and then passes its output on. -/
theorem on_run (faultless : Faultless source) (fuel : Nat) (s : Session) :
    (run fuel {} source).on s =
      (runStmts fuel (Script.ofTokens (scan source).tokens).stmts).on s >>= fun p =>
        match p.1 with
        | .ok _ => .ask .flush fun answer => .done (Except.mapError .output answer, p.2)
        | .error e => .done (.error e, p.2) := by
  simp only [run, faultless.scan, faultless.read, List.append_nil, ne_eq, not_true_eq_false,
    if_false, Bool.false_eq_true, SessionM.on_bind, on_flush]
  congr 1
  funext p
  rcases p with ⟨_ | _, _⟩ <;> rfl

/-! ### Any text -/

/-- Writes lines if they are wanted. -/
def writeIf (wanted : Bool) (lines : List String) : SessionM Unit :=
  if wanted then writeLines lines else pure ()

/-- Stops if there are faults. -/
def rejectIf (faults : List Diagnostic) : SessionM Unit :=
  if faults ≠ [] then throw (.syntaxErrors faults) else pure ()

/-- The faults in the characters of a text, and then those in its grammar. -/
def faultsOf (source : String) : List Diagnostic :=
  (scan source).diagnostics ++ (Script.ofTokens (scan source).tokens).diagnostics

/-- What is done with a text before its statements run: the listings are written, and faults in the
text are reported. -/
def prepare (listings : Listings) (source : String) : SessionM (List Stmt) := do
  let script := Script.ofTokens (scan source).tokens
  writeIf listings.tokens ((scan source).tokens.map Token.describe)
  rejectIf (faultsOf source)
  writeIf listings.tree (script.stmts.map Stmt.render)
  return script.stmts

/-- A script is prepared, its statements run, and its output is passed on. -/
theorem run_eq (fuel : Nat) (listings : Listings) (source : String) :
    run fuel listings source = (do
      let stmts ← prepare listings source
      runStmts fuel stmts
      request (Dialogue.request .flush)) := by
  unfold run prepare writeIf rejectIf faultsOf
  by_cases tokens : listings.tokens = true <;> by_cases tree : listings.tree = true <;>
    by_cases faults : (scan source).diagnostics ++
      (Script.ofTokens (scan source).tokens).diagnostics ≠ [] <;>
    simp [tokens, tree, faults]

theorem faultless_iff : Faultless source ↔ faultsOf source = [] := by
  rw [faultsOf, List.append_eq_nil_iff]
  exact ⟨fun h => ⟨h.scan, h.read⟩, fun h => ⟨h.1, h.2⟩⟩

theorem writeIf_ends (wanted : Bool) (lines : List String) (s : Session) :
    ((writeIf wanted lines).on s).Ends fun p =>
      p = (.ok (), s) ∨ ∃ why, p = (.error (.output why), s) := by
  cases wanted with
  | false => exact .inl rfl
  | true => exact writeLines_ends lines s

/-- How the preparation of a text can end. -/
inductive Prepared (source : String) : Except RunError (List Stmt) → Prop where
  | faultless (h : Faultless source) :
      Prepared source (.ok (Script.ofTokens (scan source).tokens).stmts)
  | faulty (h : ¬Faultless source) : Prepared source (.error (.syntaxErrors (faultsOf source)))
  | output (why : IoError) : Prepared source (.error (.output why))

/-- Preparing a text leaves the session as it is. -/
theorem prepare_ends (listings : Listings) (source : String) (s : Session) :
    ((prepare listings source).on s).Ends fun p => Prepared source p.1 ∧ p.2 = s := by
  unfold prepare
  rw [SessionM.on_bind, Dialogue.ends_bind]
  refine (writeIf_ends listings.tokens _ s).mono ?_
  rintro _ (rfl | ⟨why, rfl⟩)
  · by_cases faultless : faultsOf source = []
    · rw [rejectIf, if_neg (not_not_intro faultless), pure_bind]
      dsimp only
      rw [SessionM.on_bind, Dialogue.ends_bind]
      refine (writeIf_ends listings.tree _ s).mono ?_
      rintro _ (rfl | ⟨why, rfl⟩)
      · exact ⟨.faultless (faultless_iff.2 faultless), rfl⟩
      · exact ⟨.output why, rfl⟩
    · rw [rejectIf, if_pos faultless]
      exact ⟨.faulty fun h => faultless (faultless_iff.1 h), rfl⟩
  · exact ⟨.output why, rfl⟩

/-- What holds wherever a text is rejected, wherever the output fails and wherever the statements
end holds at every end of a script. -/
theorem run_ends_of (fuel : Nat) (listings : Listings) {s : Session}
    {P : Except RunError Unit × Session → Prop}
    (rejected : ¬Faultless source → P (.error (.syntaxErrors (faultsOf source)), s))
    (unwritten : ∀ why, P (.error (.output why), s))
    (unflushed : ∀ why t, P (.ok (), t) → P (.error (.output why), t))
    (h : Faultless source →
      ((runStmts fuel (Script.ofTokens (scan source).tokens).stmts).on s).Ends P) :
    ((run fuel listings source).on s).Ends P := by
  rw [run_eq, SessionM.on_bind, Dialogue.ends_bind]
  refine (prepare_ends listings source s).mono ?_
  rintro ⟨result, t⟩ ⟨prepared, same⟩
  dsimp only at prepared same
  subst same
  cases prepared with
  | faulty h => exact rejected h
  | output why => exact unwritten why
  | faultless faultless =>
    dsimp only
    rw [SessionM.on_bind, Dialogue.ends_bind]
    refine (h faultless).mono ?_
    rintro ⟨result, t⟩ ht
    cases result with
    | error e => exact ht
    | ok _ =>
      rw [on_flush]
      intro answer
      cases answer with
      | ok _ => exact ht
      | error why => exact unflushed why t ht

/-- What holds wherever the output fails and wherever the statements end holds at every end of a
script without a fault, whatever is listed. -/
theorem run_ends (faultless : Faultless source) (fuel : Nat) (listings : Listings) {s : Session}
    {P : Except RunError Unit × Session → Prop} (output : ∀ why t, P (.error (.output why), t))
    (h : ((runStmts fuel (Script.ofTokens (scan source).tokens).stmts).on s).Ends P) :
    ((run fuel listings source).on s).Ends P :=
  run_ends_of fuel listings (fun faulty => absurd faultless faulty) (fun why => output why s)
    (fun why t _ => output why t) fun _ => h

end Session

/-! ### Related sessions -/

/-- Whatever the host answers, the sessions before and after the step are related. -/
def SessionM.Leads {α : Type} (R : Session → Session → Prop) (m : SessionM α) : Prop :=
  ∀ s, (m.on s).Ends fun p => R s p.2

namespace SessionM.Leads

variable {α β : Type} {R : Session → Session → Prop} {m : SessionM α}

theorem bind {f : α → SessionM β} (trans : ∀ s t u, R s t → R t u → R s u) (h : m.Leads R)
    (next : ∀ x, (f x).Leads R) : (m >>= f).Leads R := by
  intro s
  rw [SessionM.on_bind, Dialogue.ends_bind]
  refine (h s).mono ?_
  rintro ⟨result, t⟩ st
  cases result with
  | ok x => exact (next x t).mono fun p tu => trans s t p.2 st tu
  | error e => exact st

/-- What the statements of a script do to a session is all that the script does to it. -/
theorem run {fuel : Nat} (refl : ∀ s, R s s)
    (statements : ∀ stmts, (Session.runStmts fuel stmts).Leads R) (listings : Listings)
    (source : String) : (Session.run fuel listings source).Leads R :=
  fun s => Session.run_ends_of fuel listings (fun _ => refl s) (fun _ => refl s)
    (fun _ _ h => h) fun _ => statements _ s

end SessionM.Leads

end ScriptLang

import ScriptLang.Proofs.Action

/-!
# Checked arguments

Built-in functions check all of their arguments before they ask the host for anything.  So a call
that fails because of its arguments has done nothing: whoever asks nothing of the host writes
nothing, reads nothing, opens no file, starts no command and does not wait.

## Main definitions

* `Builtin.HostFails` — the only failure is one of the host
* `Builtin.ChecksFirst` — behind the first request only the host fails

## Main results

* `Builtin.run_checksFirst` — built-in functions check first
* `callBuiltin_refused` — a call with unfit arguments leaves everything as it is
-/

namespace ScriptLang

namespace Builtin

variable {α : Type} {d : Outcome}

/-! ### Failures behind requests -/

/-- If this is a failure, then it is one of the host. -/
def HostFails (result : Except RuntimeFault α) : Prop :=
  ∀ fault, result = .error fault → fault.kind = .io

theorem hostFails_ok (a : α) : HostFails (.ok a : Except RuntimeFault α) := by
  intro fault failed
  cases failed

theorem hostFails_error {fault : RuntimeFault} (io : fault.kind = .io) :
    HostFails (.error fault : Except RuntimeFault α) := by
  rintro _ ⟨⟩
  exact io

/-- All failures that come behind a request are failures of the host. -/
def ChecksFirst : Outcome → Prop
  | .done _ => True
  | .ask _ next => ∀ answer, (next answer).Ends HostFails

namespace ChecksFirst

theorem of_ends (h : d.Ends HostFails) : ChecksFirst d := by
  cases d with
  | done result => trivial
  | ask r next => exact h

/-- Arguments are checked without a request. -/
theorem checked {args : Checked α} {body : α → Outcome} (next : ∀ a, ChecksFirst (body a)) :
    ChecksFirst (checked args body) := by
  cases args with
  | error fault => trivial
  | ok a => exact next a

/-- Another failure than one of the host is all that there is of a call. -/
theorem eq_done {fault : RuntimeFault} (h : ChecksFirst d) (ends : d.MayEnd (.error fault))
    (early : fault.kind ≠ .io) : d = .done (.error fault) := by
  cases ends with
  | done => rfl
  | ask answer ends => exact absurd ((h answer).of_mayEnd ends fault rfl) early

end ChecksFirst

/-! ### Built-in functions -/

theorem runInput_ends (args : List Value) : (runInput args).Ends HostFails := by
  unfold runInput
  refine Dialogue.ends_behind fun written => ?_
  split
  · exact hostFails_error rfl
  · refine Dialogue.ends_behind fun flushed => ?_
    split
    · exact hostFails_error rfl
    · refine Dialogue.ends_behind fun line => ?_
      split
      · exact hostFails_error rfl
      · exact hostFails_ok _
      · exact hostFails_ok _

theorem runReadFile_ends (path : String) : (runReadFile path).Ends HostFails := by
  refine Dialogue.ends_behind fun content => ?_
  split
  · exact hostFails_error rfl
  · split
    · exact hostFails_ok _
    · exact hostFails_error rfl

theorem runWriteFile_ends (path content : String) (append : Bool) :
    (runWriteFile path content append).Ends HostFails := by
  refine Dialogue.ends_behind fun written => ?_
  split
  · exact hostFails_error rfl
  · exact hostFails_ok _

theorem showWritten_ends (out err : String) : (showWritten out err).Ends HostFails := by
  have reporting : (do
      if !Text.allBlank err then Dialogue.request (.report err)
      return .ok () : Dialogue (Except RuntimeFault Unit)).Ends HostFails := by
    split
    · exact fun _ => hostFails_ok ()
    · exact hostFails_ok ()
  unfold showWritten
  dsimp only
  split
  · exact reporting
  · refine Dialogue.ends_behind fun shown => ?_
    split
    · exact hostFails_error rfl
    · exact reporting

theorem runExecuteCommand_ends (command : String) (print : Bool) :
    (runExecuteCommand command print).Ends HostFails := by
  unfold runExecuteCommand
  split
  · exact hostFails_error rfl
  · refine Dialogue.ends_behind fun written => ?_
    cases print with
    | false => exact hostFails_ok _
    | true =>
      -- The call fails as showing what was written does.
      refine Dialogue.ends_bind.2 ((showWritten_ends _ _).mono fun shown fails => ?_)
      cases shown with
      | error fault => exact hostFails_error (fails fault rfl)
      | ok _ => exact hostFails_ok _

/-- Whatever a built-in function checks, it checks before its first request. -/
theorem run_checksFirst (b : Builtin) (args : List Value) : ChecksFirst (b.run args) := by
  cases b with
  | input => exact .of_ends (runInput_ends args)
  | substring | len | floor | isInt | toInt | toLower | replace => trivial
  | clock => exact fun _ => hostFails_ok _
  | wait => exact .checked fun _ _ => hostFails_ok _
  | random => exact .checked fun _ _ => hostFails_ok _
  | fileExists => exact .checked fun _ _ => hostFails_ok _
  | readFile => exact .checked fun path => .of_ends (runReadFile_ends path)
  | writeFile =>
    exact .checked fun path => .checked fun content => .checked fun append =>
      .of_ends (runWriteFile_ends path content append)
  | executeCommand =>
    exact .checked fun command => .checked fun print =>
      .of_ends (runExecuteCommand_ends command print)

end Builtin

/-! ### Calls -/

/-- What is left when a call has been refused: the open frames and the host as they were, and an
error at the end of the call. -/
structure Refused (b : Builtin) (args : List Value) (paren : Token) (s : Scopes) (e : RuntimeError)
    (t : Scopes) : Prop where
  /-- Nothing is asked of the host, no matter which answers it would give. -/
  silent : (callBuiltin b args paren).on s = .done (.error (.error e), s)
  frames : t = s
  token : e.token = paren
  /-- The host keeps its output, its input, its files, and its time. -/
  host (w : World) : (((callBuiltin b args paren).on s).run w).2 = w

/-- A call that fails with an error of type or range has changed nothing, and the error is found at
the token of the call. -/
theorem callBuiltin_refused {b : Builtin} {args : List Value} {paren : Token} {s t : Scopes}
    {e : RuntimeError} (fails : ((callBuiltin b args paren).on s).MayEnd (.error (.error e), t))
    (early : e.kind = .type ∨ e.kind = .range) : Refused b args paren s e t := by
  rw [Action.on_callBuiltin, Dialogue.mayEnd_bind] at fails
  obtain ⟨result, ends, final⟩ := fails
  rw [Dialogue.mayEnd_done] at final
  cases result with
  | ok value => cases final
  | error fault =>
    cases final
    have host : fault.kind ≠ .io := by
      intro io
      change fault.kind = .type ∨ fault.kind = .range at early
      rw [io] at early
      obtain early | early := early <;> cases early
    have silent : (callBuiltin b args paren).on s = .done (.error (.error ⟨paren, fault⟩), s) := by
      rw [Action.on_callBuiltin, (b.run_checksFirst args).eq_done ends host]
      rfl
    refine ⟨silent, rfl, rfl, fun w => ?_⟩
    rw [silent]
    rfl

/-- A file is not cut off because of a flag that is none. -/
theorem callBuiltin_refused_flag :
    ((callBuiltin .writeFile [.string "log", .string "", .number 1]
      ⟨.rightParen, ")", none, 1, ⟨24, 25⟩⟩).on (.ofBindings [])).MayEnd
        (.error (.error ⟨⟨.rightParen, ")", none, 1, ⟨24, 25⟩⟩, .writeFileAppend⟩),
          .ofBindings []) ∧
      Refused .writeFile [.string "log", .string "", .number 1]
        ⟨.rightParen, ")", none, 1, ⟨24, 25⟩⟩ (.ofBindings [])
        ⟨⟨.rightParen, ")", none, 1, ⟨24, 25⟩⟩, .writeFileAppend⟩ (.ofBindings []) :=
  ⟨.done _, callBuiltin_refused (.done _) (.inl rfl)⟩

end ScriptLang

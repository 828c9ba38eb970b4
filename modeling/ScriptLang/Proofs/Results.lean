import ScriptLang.Eval
import ScriptLang.Proofs.Dialogue

/-!
# Results of operators and built-in functions

What operators and built-in functions come to, whatever they are applied to and whatever the host
answers.  Functions and names are the business of the evaluator alone: no operator and no built-in
function yields a function, or fails because of a name.

## Main definitions

* `Value.IsPlain` — whether a value is not a function
* `RuntimeFault.IsAboutName` — whether a fault is about a name that is unknown or taken
* `Proper` — a value as expected, or a fault that is not about a name

## Main results

* `applyBinary_proper`, `applyUnary_proper`, `Builtin.run_proper` — the values are plain, and the
  faults are not about names
-/

namespace ScriptLang

/-- Whether a value is not a function. -/
def Value.IsPlain : Value → Prop
  | .callable _ => False
  | _ => True

/-- Whether a fault is about a name that is not bound, or that is bound already. -/
def RuntimeFault.IsAboutName : RuntimeFault → Prop
  | .undefinedVariable _ | .redefinition _ => True
  | _ => False

/-- Something that satisfies `P`, or a fault that is not about a name. -/
def Proper {α : Type} (P : α → Prop) : Except RuntimeFault α → Prop
  | .ok a => P a
  | .error fault => ¬ fault.IsAboutName

/-- A result of any kind, or a fault that is not about a name. -/
abbrev Proper.Checked {α : Type} : Except RuntimeFault α → Prop :=
  Proper fun _ => True

theorem Value.isPlain_ofConstant (c : Constant) : (ofConstant c).IsPlain := by
  cases c <;> trivial

/-- What is computed from a proper result is proper if the last step is. -/
theorem Proper.bind {α β : Type} {P : α → Prop} {Q : β → Prop} {x : Except RuntimeFault α}
    {f : α → Except RuntimeFault β} (h : Proper P x) (next : ∀ a, P a → Proper Q (f a)) :
    Proper Q (x >>= f) := by
  cases x with
  | error fault => exact h
  | ok a => exact next a h

/-! ### Operators -/

theorem applyBinary_proper (op : Token) (left right : Value) :
    Proper Value.IsPlain (applyBinary op left right) := by
  unfold applyBinary
  repeat' split
  all_goals first | exact not_false | trivial

theorem applyUnary_proper (op : Token) (operand : Value) :
    Proper Value.IsPlain (applyUnary op operand) := by
  unfold applyUnary
  repeat' split
  all_goals first | exact not_false | trivial

/-! ### Arguments of built-in functions -/

namespace Arguments

variable {fault : RuntimeFault}

theorem string_proper (args : List Value) (i : Nat) (h : ¬ fault.IsAboutName) :
    Proper.Checked (string args i fault) := by
  unfold string
  split
  · trivial
  · exact h

theorem integer_proper (args : List Value) (i : Nat) (h : ¬ fault.IsAboutName) :
    Proper.Checked (integer args i fault) := by
  unfold integer
  repeat' split
  all_goals first | exact h | trivial

theorem flag_proper (args : List Value) (i : Nat) (h : ¬ fault.IsAboutName) :
    Proper.Checked (flag args i fault) := by
  unfold flag
  repeat' split
  all_goals first | exact h | trivial

end Arguments

/-! ### Built-in functions -/

namespace Builtin

/-- A call goes on properly with proper arguments. -/
theorem ends_checked {α : Type} {args : Checked α} {body : α → Outcome} {P : Value → Prop}
    (h : Proper.Checked args) (next : ∀ a, (body a).Ends (Proper P)) :
    (checked args body).Ends (Proper P) := by
  cases args with
  | error fault => exact h
  | ok a => exact next a

theorem substringOf_proper (s : String) (start length : Int) :
    Proper.Checked (substringOf s start length) := by
  simp only [substringOf]
  repeat' split
  all_goals first | exact not_false | trivial

theorem pauseOf_proper (args : List Value) : Proper.Checked (pauseOf args) := by
  unfold pauseOf
  repeat' split
  all_goals first | exact not_false | trivial

theorem rangeOf_proper (args : List Value) : Proper.Checked (rangeOf args) := by
  unfold rangeOf
  refine Proper.bind (Arguments.integer_proper args 0 not_false) fun least _ => ?_
  refine Proper.bind (Arguments.integer_proper args 1 not_false) fun greatest _ => ?_
  split
  · trivial
  · exact not_false

theorem runInput_proper (args : List Value) : (runInput args).Ends (Proper Value.IsPlain) := by
  refine Dialogue.ends_behind fun wrote => ?_
  cases wrote with
  | error why => exact not_false
  | ok _ =>
    refine Dialogue.ends_behind fun flushed => ?_
    cases flushed with
    | error why => exact not_false
    | ok _ =>
      refine Dialogue.ends_behind fun line => ?_
      rcases line with _ | _ | _
      · exact not_false
      · trivial
      · trivial

theorem runReadFile_proper (path : String) : (runReadFile path).Ends (Proper Value.IsPlain) := by
  refine Dialogue.ends_behind fun answer => ?_
  cases answer with
  | error why => exact not_false
  | ok bytes =>
    dsimp only
    split
    · trivial
    · exact not_false

theorem runWriteFile_proper (path content : String) (append : Bool) :
    (runWriteFile path content append).Ends (Proper Value.IsPlain) := by
  refine Dialogue.ends_behind fun answer => ?_
  cases answer with
  | error why => exact not_false
  | ok _ => trivial

theorem showWritten_proper (out err : String) : (showWritten out err).Ends Proper.Checked := by
  unfold showWritten
  dsimp only
  split
  all_goals
    refine Dialogue.ends_behind fun shown => ?_
    cases shown with
    | error why => exact not_false
    | ok _ =>
      dsimp only
      split
      · exact Dialogue.ends_behind fun _ => trivial
      · trivial

theorem runExecuteCommand_proper (command : String) (print : Bool) :
    (runExecuteCommand command print).Ends (Proper Value.IsPlain) := by
  unfold runExecuteCommand
  split
  · exact not_false
  · refine Dialogue.ends_behind fun written => ?_
    dsimp only
    split
    · refine Dialogue.ends_bind.2 ((showWritten_proper _ _).mono fun shown h => ?_)
      cases shown with
      | error fault => exact h
      | ok _ =>
        dsimp only
        split <;> trivial
    · rw [pure_bind]
      dsimp only
      split <;> trivial

/-- A built-in function never yields a function, and never fails because of a name. -/
theorem run_proper (b : Builtin) (args : List Value) :
    (b.run args).Ends (Proper Value.IsPlain) := by
  cases b with
  | clock => exact fun _ => trivial
  | input => exact runInput_proper args
  | substring =>
    simp only [run, plain, runSubstring, Dialogue.ends_done]
    refine Proper.bind (Arguments.string_proper args 0 not_false) fun s _ => ?_
    refine Proper.bind (Arguments.integer_proper args 1 not_false) fun start _ => ?_
    refine Proper.bind (Arguments.integer_proper args 2 not_false) fun length _ => ?_
    exact Proper.bind (substringOf_proper s start length) fun _ _ => trivial
  | len | floor | isInt | toInt =>
    simp only [run, plain, runLen, runFloor, runIsInt, runToInt, Dialogue.ends_done]
    repeat' split
    all_goals first | exact not_false | trivial
  | toLower =>
    simp only [run, plain, runToLower, Dialogue.ends_done]
    exact Proper.bind (Arguments.string_proper args 0 not_false) fun _ _ => trivial
  | replace =>
    simp only [run, plain, runReplace, Dialogue.ends_done]
    refine Proper.bind (Arguments.string_proper args 0 not_false) fun _ _ => ?_
    refine Proper.bind (Arguments.string_proper args 1 not_false) fun _ _ => ?_
    exact Proper.bind (Arguments.string_proper args 2 not_false) fun _ _ => trivial
  | wait => exact ends_checked (pauseOf_proper args) fun _ _ => trivial
  | random => exact ends_checked (rangeOf_proper args) fun _ _ => trivial
  | readFile => exact ends_checked (Arguments.string_proper args 0 not_false) runReadFile_proper
  | writeFile =>
    exact ends_checked (Arguments.string_proper args 0 not_false) fun path =>
      ends_checked (Arguments.string_proper args 1 not_false) fun content =>
        ends_checked (Arguments.flag_proper args 2 not_false) fun append =>
          runWriteFile_proper path content append
  | fileExists =>
    exact ends_checked (Arguments.string_proper args 0 not_false) fun _ _ => trivial
  | executeCommand =>
    exact ends_checked (Arguments.string_proper args 0 not_false) fun command =>
      ends_checked (Arguments.flag_proper args 1 not_false) fun print =>
        runExecuteCommand_proper command print

end Builtin

end ScriptLang

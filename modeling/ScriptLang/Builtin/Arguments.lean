import ScriptLang.Fault
import ScriptLang.Number.Integer

/-!
# Arguments of built-in functions

Built-in functions take their arguments apart before they do anything else.  An argument of the
wrong type, or a missing one, is a fault of the call.
-/

namespace ScriptLang

/-- The arguments of a call, and what they are found to be. -/
abbrev Checked := Except RuntimeFault

namespace Arguments

/-- The argument at an index as a string. -/
def string (args : List Value) (i : Nat) (fault : RuntimeFault) : Checked String :=
  match args[i]? with
  | some (.string s) => .ok s
  | _ => .error fault

/-- The argument at an index as a 64-bit integer; a whole number beyond the range counts as the
nearest one. -/
def integer (args : List Value) (i : Nat) (fault : RuntimeFault) : Checked Int :=
  match args[i]? with
  | some (.number x) => if Number.isWhole x then .ok (Number.toInt x) else .error fault
  | _ => .error fault

/-- The argument at an index as a flag; nil and a missing argument count as false. -/
def flag (args : List Value) (i : Nat) (fault : RuntimeFault) : Checked Bool :=
  match args[i]? with
  | some .nil | none => .ok false
  | some (.bool b) => .ok b
  | _ => .error fault

end Arguments

end ScriptLang

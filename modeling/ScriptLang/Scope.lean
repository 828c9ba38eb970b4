import ScriptLang.Fault

/-!
# Scopes

Names are bound in frames.  A frame may be enclosed by an older one, and a name means the binding
of the nearest frame on the way outwards that has one.  Frames are numbered in the order in which
they are opened, and the newest is the first to be closed.

## Main definitions

* `Bindings` — the names of one frame with their values
* `Scopes` — the open frames, each enclosed by an older one or by none
* `Scopes.resolve?` — the nearest frame that binds a name
* `Scopes.get`, `Scopes.assign`, `Scopes.define` — reading, changing and creating a binding
-/

namespace ScriptLang

/-! ### One frame -/

/-- Names with their values.  No name occurs twice unless a list is given that has it twice. -/
abbrev Bindings := List (String × Value)

namespace Bindings

/-- The value of a name. -/
def find? : Bindings → String → Option Value
  | [], _ => none
  | (other, value) :: later, name => if name = other then some value else find? later name

/-- Whether a name is bound. -/
def binds (b : Bindings) (name : String) : Bool :=
  (b.find? name).isSome

/-- The bindings with one for a name, in the place of an older one if there is any. -/
def put (name : String) (value : Value) : Bindings → Bindings
  | [] => [(name, value)]
  | (other, old) :: later =>
    if name = other then (other, value) :: later else (other, old) :: put name value later

@[simp] theorem find?_put_self (b : Bindings) (name : String) (value : Value) :
    (b.put name value).find? name = some value := by
  fun_induction put name value b <;> simp_all [find?]

theorem find?_put_of_ne (b : Bindings) {name other : String} (value : Value) (h : other ≠ name) :
    (b.put name value).find? other = b.find? other := by
  fun_induction put name value b <;> simp_all [find?]

end Bindings

/-- A frame: its bindings and the number of the frame that encloses it. -/
structure Frame where
  bindings : Bindings
  enclosing : Option Nat

/-! ### All frames -/

/-- The open frames, the oldest first.  There is always one, and a frame is only enclosed by an
older one. -/
structure Scopes where
  frames : Array Frame
  pos : 0 < frames.size
  older : ∀ (i : Nat) (h : i < frames.size) (p : Nat), frames[i].enclosing = some p → p < i

namespace Scopes

/-- One frame that nothing encloses. -/
def ofBindings (b : Bindings) : Scopes where
  frames := #[⟨b, none⟩]
  pos := Nat.one_pos
  older i h p he := by
    obtain rfl : i = 0 := Nat.lt_one_iff.1 h
    simp at he

/-- How many frames are open. -/
def depth (s : Scopes) : Nat :=
  s.frames.size

/-- The number of an open frame. -/
abbrev Id (s : Scopes) : Type := Fin s.frames.size

/-- The oldest frame. -/
def oldest (s : Scopes) : s.Id :=
  ⟨0, s.pos⟩

/-- The newest frame. -/
def newest (s : Scopes) : s.Id :=
  ⟨s.frames.size - 1, Nat.sub_lt s.pos Nat.one_pos⟩

/-- The bindings of a frame. -/
def bindings (s : Scopes) (i : s.Id) : Bindings :=
  s.frames[i].bindings

/-- Opens an empty frame enclosed by frame `i`. -/
def push (s : Scopes) (i : s.Id) : Scopes where
  frames := s.frames.push ⟨[], some i⟩
  pos := by simp
  older j h p he := by
    rw [Array.getElem_push] at he
    -- An old frame keeps its link; the new one is linked to one that was there before.
    split at he
    · exact s.older j _ p he
    · simp only [Option.some.injEq] at he
      exact he ▸ Nat.lt_of_lt_of_le i.isLt (Nat.not_lt.1 ‹_›)

/-- Closes the newest frame, unless it is the only one. -/
def pop (s : Scopes) : Scopes :=
  if h : 1 < s.frames.size then
    { frames := s.frames.pop
      pos := Array.size_pop ▸ Nat.sub_pos_of_lt h
      older := fun j hj p he => by
        rw [Array.getElem_pop] at he
        exact s.older j _ p he }
  else s

/-- Changes the bindings of frame `i`. -/
def modify (s : Scopes) (i : s.Id) (f : Bindings → Bindings) : Scopes where
  frames := s.frames.modify i fun frame => { frame with bindings := f frame.bindings }
  pos := by simpa using s.pos
  older j h p he := by
    rw [Array.getElem_modify] at he
    split at he <;> exact s.older j (by simpa using h) p he

/-- The nearest frame from frame `i` outwards that binds a name. -/
def resolve? (s : Scopes) (name : String) (i : s.Id) : Option s.Id :=
  if (s.bindings i).binds name then some i
  else
    match h : s.frames[i].enclosing with
    | none => none
    | some p =>
      -- Links lead to older frames only, so the way outwards ends.
      have lt := s.older i i.isLt p h
      resolve? s name ⟨p, Nat.lt_trans lt i.isLt⟩
termination_by i.val

/-- The value of a name as seen from frame `i`. -/
def find? (s : Scopes) (name : String) (i : s.Id) : Option Value :=
  (s.resolve? name i).bind fun j => (s.bindings j).find? name

/-- Binds a name in frame `i`, whether it was bound there or not. -/
def insert (s : Scopes) (name : String) (value : Value) (i : s.Id) : Scopes :=
  s.modify i (Bindings.put name value)

/-! ### What scripts do with names -/

/-- The value of a variable as seen from frame `i`. -/
def get (s : Scopes) (ident : Token) (i : s.Id) : Except RuntimeError Value :=
  match s.find? ident.lexeme i with
  | some value => .ok value
  | none => .error ⟨ident, .undefinedVariable ident.lexeme⟩

/-- Gives a new value to a variable as seen from frame `i`.  Without one, nothing changes. -/
def assign (s : Scopes) (ident : Token) (value : Value) (i : s.Id) :
    Except RuntimeError Unit × Scopes :=
  match s.resolve? ident.lexeme i with
  | some j => (.ok (), s.insert ident.lexeme value j)
  | none => (.error ⟨ident, .undefinedVariable ident.lexeme⟩, s)

/-- Creates a variable in frame `i`.  If there is one of its name in the frame, nothing changes. -/
def define (s : Scopes) (ident : Token) (value : Value) (i : s.Id) :
    Except RuntimeError Unit × Scopes :=
  if (s.bindings i).binds ident.lexeme then (.error ⟨ident, .redefinition ident.lexeme⟩, s)
  else (.ok (), s.insert ident.lexeme value i)

end Scopes

end ScriptLang

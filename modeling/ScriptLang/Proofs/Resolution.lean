import Mathlib
import ScriptLang.Proofs.Restoring

/-!
# The nearest binding

Frames form a forest, since several frames may be enclosed by the same one.  Whatever has been done
to the frames, in whatever order, a name stands for what was stored last under it in the nearest
frame outwards that has something stored under it.  To that one place a new value goes, and everyone
whose way outwards meets the place first sees it.

## Main definitions

* `Store`, `Store.last?` — values stored under a name in a frame, and the last of them
* `Scopes.Nearest` — the first frame on the way outwards with a property
* `Scopes.History` — frames that come about step by step, and all that was stored in them
* `Scopes.DiffersAt` — frames in which a single binding is another one

## Main results

* `Scopes.resolve?_eq_some_iff` — looking a name up finds the nearest frame that binds it
* `Scopes.History.valueAt_eq` — a binding is what was stored last
* `Scopes.nearest_binding` — reading, changing and creating bindings after any history
-/

namespace ScriptLang

/-! ### What was stored -/

/-- A value stored under a name in a frame. -/
structure Store where
  frame : Nat
  name : String
  value : Value

/-- What was stored last in a frame under a name, in a list of stores from first to last. -/
def Store.last? (log : List Store) (frame : Nat) (name : String) : Option Value :=
  (log.filter fun store => store.frame = frame ∧ store.name = name).getLast?.map Store.value

@[simp] theorem Store.last?_nil (frame : Nat) (name : String) : last? [] frame name = none := rfl

theorem Store.last?_concat (log : List Store) (store : Store) (frame : Nat) (name : String) :
    last? (log ++ [store]) frame name =
      if frame = store.frame ∧ name = store.name then some store.value
      else last? log frame name := by
  unfold last?
  rw [List.filter_append]
  by_cases here : frame = store.frame ∧ name = store.name
  · obtain ⟨rfl, rfl⟩ := here
    simp
  · have other : ¬(store.frame = frame ∧ store.name = name) := by
      rintro ⟨rfl, rfl⟩
      exact here ⟨rfl, rfl⟩
    simp [here, other]

namespace Scopes

variable {s t : Scopes} {log : List Store} {name : String} {value : Value} {p : Nat → Prop}

/-! ### The way outwards -/

/-- Frame `j` is frame `i`, or encloses it directly or through others. -/
def Outwards (s : Scopes) : Nat → Nat → Prop :=
  Relation.ReflTransGen s.EnclosedBy

theorem Outwards.le {i j : Nat} (h : s.Outwards i j) : j ≤ i := by
  induction h with
  | refl => exact Nat.le_refl _
  | tail _ link ih => exact Nat.le_trans (Nat.le_of_lt link.lt) ih

/-- Frame `j` is the first one with a property on the way outwards from frame `i`. -/
structure Nearest (s : Scopes) (p : Nat → Prop) (i j : Nat) : Prop where
  outwards : s.Outwards i j
  here : p j
  nearer : ∀ k, s.Outwards i k → s.Outwards k j → k ≠ j → ¬p k

theorem enclosedBy_unique {i j k : Nat} (h : s.EnclosedBy i j) (h' : s.EnclosedBy i k) : j = k := by
  obtain ⟨f, hf, link⟩ := h
  obtain ⟨g, hg, link'⟩ := h'
  obtain rfl : f = g := Option.some.inj (hf.symm.trans hg)
  exact Option.some.inj (link.symm.trans link')

theorem enclosedBy_iff {i : s.Id} {j : Nat} : s.EnclosedBy i j ↔ s.enclosing i = some j := by
  unfold EnclosedBy
  rw [getElem?_id]
  simp

theorem Nearest.of_here {i : Nat} (h : p i) : s.Nearest p i i where
  outwards := .refl
  here := h
  nearer _ out back ne := absurd (Nat.le_antisymm out.le back.le) ne

/-- A frame without the property is passed by. -/
theorem nearest_iff_of_enclosedBy {i k j : Nat} (no : ¬p i) (link : s.EnclosedBy i k) :
    s.Nearest p i j ↔ s.Nearest p k j := by
  constructor
  · intro h
    obtain rfl | ⟨k', link', rest⟩ := h.outwards.cases_head
    · exact absurd h.here no
    · obtain rfl := enclosedBy_unique link link'
      exact ⟨rest, h.here, fun m out => h.nearer m (.head link out)⟩
  · intro h
    refine ⟨.head link h.outwards, h.here, fun m out back ne => ?_⟩
    obtain rfl | ⟨k', link', rest⟩ := out.cases_head
    · exact no
    · obtain rfl := enclosedBy_unique link link'
      exact h.nearer m rest back ne

/-- Only one frame is the first one. -/
theorem Nearest.unique {i j k : Nat} (h : s.Nearest p i j) (h' : s.Nearest p i k) : j = k := by
  obtain ⟨outwards, here, nearer⟩ := h
  induction outwards using Relation.ReflTransGen.head_induction_on with
  | refl =>
    by_contra ne
    exact h'.nearer j .refl h'.outwards ne here
  | @head i m link rest ih =>
    have further : ¬p i := by
      intro first
      have ne : i ≠ j := fun same => by
        have := Outwards.le rest
        have := link.lt
        omega
      exact nearer i .refl (.head link rest) ne first
    exact ih ((nearest_iff_of_enclosedBy further link).1 h')
      fun n out => nearer n (.head link out)

/-- Where some frame on the way outwards has the property, there is a first one. -/
theorem exists_nearest {i j : Nat} (h : s.Outwards i j) (here : p j) :
    ∃ k, s.Nearest p i k := by
  induction h using Relation.ReflTransGen.head_induction_on with
  | refl => exact ⟨j, .of_here here⟩
  | @head i k link _ ih =>
    by_cases first : p i
    · exact ⟨i, .of_here first⟩
    · obtain ⟨m, hm⟩ := ih
      exact ⟨m, (nearest_iff_of_enclosedBy first link).2 hm⟩

/-! ### Looking names up -/

/-- The value that is bound to a name in a frame itself. -/
def valueAt (s : Scopes) (k : Nat) (name : String) : Option Value :=
  s.frames[k]?.bind fun f => f.bindings.find? name

theorem valueAt_id (s : Scopes) (i : s.Id) (name : String) :
    s.valueAt i name = (s.bindings i).find? name := by
  rw [valueAt, getElem?_id, Option.bind_some]

/-- Whether a frame itself binds a name. -/
def Binding (s : Scopes) (name : String) (k : Nat) : Prop :=
  (s.valueAt k name).isSome

theorem binding_id (s : Scopes) (i : s.Id) (name : String) :
    s.Binding name i ↔ (s.bindings i).binds name = true := by
  rw [Binding, valueAt_id, Bindings.binds]

/-- A name is found in the nearest frame that binds it. -/
theorem resolve?_eq_some_iff {i j : s.Id} :
    s.resolve? name i = some j ↔ s.Nearest (s.Binding name) i j := by
  induction hi : i.val using Nat.strongRecOn generalizing i with
  | ind n ih =>
    subst hi
    cases bound : (s.bindings i).binds name with
    | true =>
      have here : s.Binding name i := (s.binding_id i name).2 bound
      rw [resolve?_of_binds bound, Option.some.injEq]
      constructor
      · rintro rfl
        exact .of_here here
      · intro h
        by_contra ne
        exact h.nearer i .refl h.outwards (fun same => ne (Fin.ext same)) here
    | false =>
      have no : ¬s.Binding name i := by
        rw [binding_id, bound]
        exact Bool.false_ne_true
      cases link : s.enclosing i with
      | none =>
        rw [resolve?_of_last bound link]
        refine iff_of_false nofun fun h => ?_
        obtain same | ⟨k, link', -⟩ := h.outwards.cases_head
        · exact no (same ▸ h.here)
        · rw [enclosedBy_iff, link] at link'
          cases link'
      | some k =>
        rw [resolve?_of_enclosing bound link, nearest_iff_of_enclosedBy no (enclosedBy_iff.2 link)]
        exact ih k (lt_of_enclosing link) rfl

theorem Nearest.resolve? {i : s.Id} {j : Nat} (h : s.Nearest (s.Binding name) i j) :
    ∃ j' : s.Id, j'.val = j ∧ s.resolve? name i = some j' :=
  ⟨⟨j, Nat.lt_of_le_of_lt h.outwards.le i.isLt⟩, rfl, resolve?_eq_some_iff.2 h⟩

/-- A name is not found if no frame on the way outwards binds it. -/
theorem resolve?_eq_none_iff {i : s.Id} :
    s.resolve? name i = none ↔ ∀ j, s.Outwards i j → ¬s.Binding name j := by
  constructor
  · intro missing j out here
    obtain ⟨k, near⟩ := exists_nearest out here
    obtain ⟨_, -, found⟩ := near.resolve?
    cases missing.symm.trans found
  · intro unbound
    cases found : s.resolve? name i with
    | none => rfl
    | some j =>
      have near := resolve?_eq_some_iff.1 found
      exact absurd near.here (unbound j near.outwards)

variable {ident : Token} {i : s.Id}

theorem get_eq_ok_iff {v : Value} :
    s.get ident i = .ok v ↔
      ∃ j, s.Nearest (s.Binding ident.lexeme) i j ∧ s.valueAt j ident.lexeme = some v := by
  unfold get find?
  cases found : s.resolve? ident.lexeme i with
  | none =>
    refine iff_of_false nofun ?_
    rintro ⟨j, near, -⟩
    exact resolve?_eq_none_iff.1 found j near.outwards near.here
  | some j =>
    have near := resolve?_eq_some_iff.1 found
    obtain ⟨w, hw⟩ := Option.isSome_iff_exists.1 near.here
    rw [Option.bind_some, ← valueAt_id, hw]
    constructor
    · intro h
      cases h
      exact ⟨j, near, hw⟩
    · rintro ⟨k, near', here⟩
      obtain rfl := near.unique near'
      rw [← Option.some.inj (hw.symm.trans here)]

theorem get_eq_error_iff {e : RuntimeError} :
    s.get ident i = .error e ↔ e = ⟨ident, .undefinedVariable ident.lexeme⟩ ∧
      ∀ j, s.Outwards i j → ¬s.Binding ident.lexeme j := by
  rw [← resolve?_eq_none_iff]
  unfold get find?
  cases found : s.resolve? ident.lexeme i with
  | none => simp [eq_comm]
  | some j =>
    obtain ⟨w, hw⟩ := Option.isSome_iff_exists.1 (resolve?_eq_some_iff.1 found).here
    rw [Option.bind_some, ← valueAt_id, hw]
    simp

/-! ### Changing one binding -/

/-- The frames `t` are the frames `s`, but that in frame `j` a name is bound to this value. -/
structure DiffersAt (s t : Scopes) (j : Nat) (name : String) (value : Value) : Prop where
  size : t.frames.size = s.frames.size
  links : ∀ k m, t.EnclosedBy k m ↔ s.EnclosedBy k m
  here : t.valueAt j name = some value
  rest : ∀ k other, ¬(k = j ∧ other = name) → t.valueAt k other = s.valueAt k other

theorem differsAt_insert (s : Scopes) (name : String) (value : Value) (j : s.Id) :
    s.DiffersAt (s.insert name value j) j name value where
  size := size_modify ..
  links k m := by
    unfold EnclosedBy
    rw [insert, getElem?_modify]
    split
    · simp
    · rfl
  here := by
    rw [valueAt, insert, getElem?_modify, if_pos rfl, getElem?_id]
    simp
  rest k other ne := by
    rw [valueAt, insert, getElem?_modify]
    split
    · rename_i same
      have otherName : other ≠ name := fun h => ne ⟨same.symm, h⟩
      rw [valueAt, Option.bind_map]
      exact congrArg _ (funext fun f => Bindings.find?_put_of_ne f.bindings value otherName)
    · rfl

namespace DiffersAt

variable {j : Nat} (h : s.DiffersAt t j name value)
include h

theorem valueAt_eq (k : Nat) (other : String) :
    t.valueAt k other = if k = j ∧ other = name then some value else s.valueAt k other := by
  split
  · rename_i same
    rw [same.1, same.2, h.here]
  · rename_i ne
    exact h.rest k other ne

theorem outwards_eq : t.Outwards = s.Outwards := by
  have links : t.EnclosedBy = s.EnclosedBy :=
    funext fun k => funext fun m => propext (h.links k m)
  unfold Outwards
  rw [links]

theorem nearest_iff {i m : Nat} : t.Nearest p i m ↔ s.Nearest p i m := by
  have out := h.outwards_eq
  constructor
  · rintro ⟨outwards, here, nearer⟩
    exact ⟨out ▸ outwards, here, out ▸ nearer⟩
  · rintro ⟨outwards, here, nearer⟩
    exact ⟨out ▸ outwards, here, out ▸ nearer⟩

variable (bound : s.Binding name j)
include bound

/-- If the name was bound in the frame before, every frame binds the names that it has bound. -/
theorem binding_eq (other : String) : t.Binding other = s.Binding other := by
  funext k
  unfold Binding
  rw [h.valueAt_eq]
  split
  · rename_i same
    rw [same.1, same.2]
    exact propext (iff_of_true rfl bound)
  · rfl

/-- Whoever looks the name up and comes to the frame sees the value. -/
theorem get_eq (other : Token) (same : other.lexeme = name) {k : s.Id} {k' : t.Id}
    (sameId : k'.val = k.val) (near : s.Nearest (s.Binding name) k j) :
    t.get other k' = .ok value := by
  rw [get_eq_ok_iff, same, h.binding_eq bound]
  exact ⟨j, h.nearest_iff.2 (sameId ▸ near), h.here⟩

/-- Whoever looks another name up, or does not come to the frame, sees what was there before. -/
theorem get_eq_get (other : Token) {k : s.Id} {k' : t.Id} (sameId : k'.val = k.val)
    (ne : ¬(other.lexeme = name ∧ s.Nearest (s.Binding name) k j)) :
    t.get other k' = s.get other k := by
  cases before : s.get other k with
  | ok v =>
    obtain ⟨m, near, here⟩ := get_eq_ok_iff.1 before
    have elsewhere : ¬(m = j ∧ other.lexeme = name) := by
      rintro ⟨rfl, same⟩
      exact ne ⟨same, same ▸ near⟩
    rw [get_eq_ok_iff, h.binding_eq bound]
    exact ⟨m, h.nearest_iff.2 (sameId ▸ near), (h.rest m _ elsewhere).trans here⟩
  | error e =>
    obtain ⟨rfl, unbound⟩ := get_eq_error_iff.1 before
    rw [get_eq_error_iff, sameId, h.outwards_eq, h.binding_eq bound]
    exact ⟨rfl, unbound⟩

end DiffersAt

/-! ### Giving values to variables -/

theorem assign_of_resolve? {j : s.Id} (found : s.resolve? ident.lexeme i = some j) :
    s.assign ident value i = (.ok (), s.insert ident.lexeme value j) := by
  rw [assign, found]

theorem assign_of_resolve?_eq_none (missing : s.resolve? ident.lexeme i = none) :
    s.assign ident value i = (.error ⟨ident, .undefinedVariable ident.lexeme⟩, s) := by
  rw [assign, missing]

/-- A variable is given a value where it is found, and fails to be given one as it fails to be
read. -/
theorem assign_cases (s : Scopes) (ident : Token) (value : Value) (i : s.Id) :
    (∃ j v, s.Nearest (s.Binding ident.lexeme) i j ∧ s.get ident i = .ok v ∧
      (s.assign ident value i).1 = .ok () ∧
      s.DiffersAt (s.assign ident value i).2 j ident.lexeme value) ∨
    ∃ e, s.get ident i = .error e ∧ s.assign ident value i = (.error e, s) := by
  cases found : s.resolve? ident.lexeme i with
  | some j =>
    left
    have near := resolve?_eq_some_iff.1 found
    obtain ⟨v, here⟩ := Option.isSome_iff_exists.1 near.here
    rw [assign_of_resolve? found]
    exact ⟨j, v, near, get_eq_ok_iff.2 ⟨j, near, here⟩, rfl, differsAt_insert ..⟩
  | none =>
    right
    refine ⟨_, ?_, assign_of_resolve?_eq_none found⟩
    exact get_eq_error_iff.2 ⟨rfl, resolve?_eq_none_iff.1 found⟩

theorem assign_eq_ok_iff :
    (s.assign ident value i).1 = .ok () ↔ ∃ v, s.get ident i = .ok v := by
  obtain ⟨j, v, -, read, done, -⟩ | ⟨e, read, failed⟩ := s.assign_cases ident value i
  · exact iff_of_true done ⟨v, read⟩
  · rw [read, failed]
    exact iff_of_false nofun nofun

theorem assign_eq_error_iff {e : RuntimeError} :
    (s.assign ident value i).1 = .error e ↔ s.get ident i = .error e := by
  obtain ⟨j, v, -, read, done, -⟩ | ⟨e', read, failed⟩ := s.assign_cases ident value i
  · rw [read, done]
    exact iff_of_false nofun nofun
  · rw [read, failed]
    simp

theorem assign_unchanged {e : RuntimeError} (failed : (s.assign ident value i).1 = .error e) :
    (s.assign ident value i).2 = s := by
  obtain ⟨j, v, -, -, done, -⟩ | ⟨e', -, both⟩ := s.assign_cases ident value i
  · cases failed.symm.trans done
  · rw [both]

/-- The nearest binding alone becomes another one. -/
theorem Nearest.assign {j : Nat} (near : s.Nearest (s.Binding ident.lexeme) i j) (value : Value) :
    s.DiffersAt (s.assign ident value i).2 j ident.lexeme value := by
  obtain ⟨j', v, near', -, -, differs⟩ | ⟨e, read, -⟩ := s.assign_cases ident value i
  · obtain rfl := near.unique near'
    exact differs
  · exact absurd near.here ((get_eq_error_iff.1 read).2 j near.outwards)

/-- A variable is created unless there is one of its name in the frame. -/
theorem define_cases (s : Scopes) (ident : Token) (value : Value) (i : s.Id) :
    ¬s.Binding ident.lexeme i ∧ (s.define ident value i).1 = .ok () ∧
      s.DiffersAt (s.define ident value i).2 i ident.lexeme value ∨
    s.Binding ident.lexeme i ∧
      s.define ident value i = (.error ⟨ident, .redefinition ident.lexeme⟩, s) := by
  rw [binding_id, define]
  cases (s.bindings i).binds ident.lexeme with
  | true => exact .inr ⟨rfl, rfl⟩
  | false => exact .inl ⟨Bool.false_ne_true, rfl, differsAt_insert ..⟩

theorem define_eq_error_iff {e : RuntimeError} :
    (s.define ident value i).1 = .error e ↔
      e = ⟨ident, .redefinition ident.lexeme⟩ ∧ s.Binding ident.lexeme i := by
  obtain ⟨unbound, done, -⟩ | ⟨bound, failed⟩ := s.define_cases ident value i
  · rw [done]
    exact iff_of_false nofun fun h => unbound h.2
  · rw [failed]
    simp [bound, eq_comm]

theorem define_unchanged {e : RuntimeError} (failed : (s.define ident value i).1 = .error e) :
    (s.define ident value i).2 = s := by
  obtain ⟨-, done, -⟩ | ⟨-, both⟩ := s.define_cases ident value i
  · cases failed.symm.trans done
  · rw [both]

/-- Where a variable can be created, its binding alone is new. -/
theorem define_of_not_binding (unbound : ¬s.Binding ident.lexeme i) :
    (s.define ident value i).1 = .ok () ∧
      s.DiffersAt (s.define ident value i).2 i ident.lexeme value := by
  obtain ⟨-, created⟩ | ⟨bound, -⟩ := s.define_cases ident value i
  · exact created
  · exact absurd bound unbound

end Scopes

/-! ### Histories -/

/-- Whether anything has been stored under a name in a frame. -/
def Store.Bound (log : List Store) (name : String) (frame : Nat) : Prop :=
  (last? log frame name).isSome

namespace Scopes

/-- A frame that nothing encloses, beside those that are open. -/
def openAlone (s : Scopes) : Scopes where
  frames := s.frames.push ⟨[], none⟩
  pos := by simp
  older j h p he := by
    rw [Array.getElem_push] at he
    split at he
    · exact s.older j _ p he
    · cases he

/-- Frames that come about step by step, the first of them alone, and all that was stored in them,
from first to last.  A step opens a frame, on its own or enclosed by any other one, or it stores a
value from any frame, or it fails to.  A step that only reads a name or asks for one leaves the
frames as they are. -/
inductive History : Scopes → List Store → Prop where
  | first : History (ofBindings []) []
  | alone {s : Scopes} {log : List Store} (made : History s log) : History s.openAlone log
  | enclosed {s : Scopes} {log : List Store} (made : History s log) (i : s.Id) :
      History (s.push i) log
  | insert {s : Scopes} {log : List Store} (made : History s log) (i : s.Id) (name : String)
      (value : Value) : History (s.insert name value i) (log ++ [⟨i, name, value⟩])
  | define {s : Scopes} {log : List Store} (made : History s log) (i : s.Id) (ident : Token)
      (value : Value) (done : (s.define ident value i).1 = .ok ()) :
      History (s.define ident value i).2 (log ++ [⟨i, ident.lexeme, value⟩])
  | assign {s : Scopes} {log : List Store} (made : History s log) (i : s.Id) {j : Nat}
      (ident : Token) (value : Value) (near : s.Nearest (Store.Bound log ident.lexeme) i j)
      (done : (s.assign ident value i).1 = .ok ()) :
      History (s.assign ident value i).2 (log ++ [⟨j, ident.lexeme, value⟩])
  | notDefined {s : Scopes} {log : List Store} (made : History s log) (i : s.Id) (ident : Token)
      (value : Value) {e : RuntimeError} (failed : (s.define ident value i).1 = .error e) :
      History (s.define ident value i).2 log
  | notAssigned {s : Scopes} {log : List Store} (made : History s log) (i : s.Id) (ident : Token)
      (value : Value) {e : RuntimeError} (failed : (s.assign ident value i).1 = .error e) :
      History (s.assign ident value i).2 log

variable {s t : Scopes} {log : List Store} {name : String} {value : Value}

/-- In a frame that has just been opened nothing is bound. -/
theorem valueAt_of_push {link : Option Nat} (frames : t.frames = s.frames.push ⟨[], link⟩) :
    t.valueAt = s.valueAt := by
  funext k name
  rw [valueAt, frames, Array.getElem?_push]
  split
  · rename_i new
    rw [valueAt, new, Array.getElem?_eq_none (Nat.le_refl _)]
    rfl
  · rfl

theorem DiffersAt.last?_concat {j : Nat} (h : s.DiffersAt t j name value)
    (before : s.valueAt = Store.last? log) :
    t.valueAt = Store.last? (log ++ [⟨j, name, value⟩]) := by
  funext k other
  rw [h.valueAt_eq, Store.last?_concat, before]

theorem binding_eq_of_valueAt (same : s.valueAt = Store.last? log) (name : String) :
    s.Binding name = Store.Bound log name := by
  unfold Binding
  rw [same]
  rfl

/-- A binding is what was stored last under its name in its frame. -/
theorem History.valueAt_eq (made : History s log) : s.valueAt = Store.last? log := by
  induction made with
  | first =>
    funext k name
    cases k with
    | zero => rfl
    | succ k => rfl
  | alone _ ih => rw [valueAt_of_push rfl, ih]
  | enclosed _ i ih => rw [valueAt_of_push rfl, ih]
  | insert _ i name value ih => exact (differsAt_insert ..).last?_concat ih
  | @define s log _ i ident value done ih =>
    have unbound : ¬s.Binding ident.lexeme i := fun bound => by
      cases done.symm.trans (define_eq_error_iff.2 ⟨rfl, bound⟩)
    exact (define_of_not_binding unbound).2.last?_concat ih
  | @assign s log _ i j ident value near done ih =>
    rw [← binding_eq_of_valueAt ih] at near
    exact (near.assign value).last?_concat ih
  | notDefined _ i ident value failed ih => rw [define_unchanged failed, ih]
  | notAssigned _ i ident value failed ih => rw [assign_unchanged failed, ih]

/-- The history goes on when a variable is created, or fails to be. -/
theorem History.after_define (made : History s log) (i : s.Id) (ident : Token) (value : Value) :
    ∃ log', History (s.define ident value i).2 log' := by
  cases result : (s.define ident value i).1 with
  | ok _ => exact ⟨_, made.define i ident value result⟩
  | error e => exact ⟨_, made.notDefined i ident value result⟩

/-- So it does when a variable is given a value, or fails to be. -/
theorem History.after_assign (made : History s log) (i : s.Id) (ident : Token) (value : Value) :
    ∃ log', History (s.assign ident value i).2 log' := by
  cases result : (s.assign ident value i).1 with
  | ok _ =>
    obtain ⟨v, read⟩ := assign_eq_ok_iff.1 result
    obtain ⟨j, near, -⟩ := get_eq_ok_iff.1 read
    rw [binding_eq_of_valueAt made.valueAt_eq] at near
    exact ⟨_, made.assign i ident value near result⟩
  | error e => exact ⟨_, made.notAssigned i ident value result⟩

/-- Reading, changing and creating bindings after any history.  A variable has the value stored last
in the nearest frame outwards in which anything has been stored under its name, and is undefined if
there is none.  It can be given a value exactly where it can be read; then that one binding is
another one, whoever comes to it sees the new value, and all else is seen as before.  It can be
created where its frame binds no variable of its name.  Whatever fails changes nothing, and whatever
is done, the history goes on. -/
theorem nearest_binding {s : Scopes} {log : List Store} (made : History s log) (i : s.Id)
    (ident : Token) (value : Value) :
    -- A variable is read.
    (∀ v, s.get ident i = .ok v ↔ ∃ j, s.Nearest (Store.Bound log ident.lexeme) i j ∧
      Store.last? log j ident.lexeme = some v) ∧
    (∀ e, s.get ident i = .error e ↔ e = ⟨ident, .undefinedVariable ident.lexeme⟩ ∧
      ∀ j, s.Outwards i j → ¬Store.Bound log ident.lexeme j) ∧
    ((s.bindings i).binds ident.lexeme = true ↔ Store.Bound log ident.lexeme i) ∧
    -- It is given a value.
    ((s.assign ident value i).1 = .ok () ↔ ∃ v, s.get ident i = .ok v) ∧
    (∀ e, (s.assign ident value i).1 = .error e ↔ s.get ident i = .error e) ∧
    (∀ j, s.Nearest (Store.Bound log ident.lexeme) i j →
      s.DiffersAt (s.assign ident value i).2 j ident.lexeme value ∧
      ∀ (other : Token) (k : s.Id) (k' : (s.assign ident value i).2.Id), k'.val = k.val →
        (other.lexeme = ident.lexeme → s.Nearest (Store.Bound log ident.lexeme) k j →
          (s.assign ident value i).2.get other k' = .ok value) ∧
        (¬(other.lexeme = ident.lexeme ∧ s.Nearest (Store.Bound log ident.lexeme) k j) →
          (s.assign ident value i).2.get other k' = s.get other k)) ∧
    -- It is created, or a host binds it.
    (∀ e, (s.define ident value i).1 = .error e ↔
      e = ⟨ident, .redefinition ident.lexeme⟩ ∧ Store.Bound log ident.lexeme i) ∧
    (¬Store.Bound log ident.lexeme i → (s.define ident value i).1 = .ok () ∧
      s.DiffersAt (s.define ident value i).2 i ident.lexeme value) ∧
    s.DiffersAt (s.insert ident.lexeme value i) i ident.lexeme value ∧
    -- Something fails.
    (∀ e, (s.assign ident value i).1 = .error e → (s.assign ident value i).2 = s) ∧
    (∀ e, (s.define ident value i).1 = .error e → (s.define ident value i).2 = s) ∧
    -- The history goes on.
    (∃ log', History (s.assign ident value i).2 log') ∧
    ∃ log', History (s.define ident value i).2 log' := by
  rw [← made.valueAt_eq, ← binding_eq_of_valueAt made.valueAt_eq]
  refine ⟨fun v => get_eq_ok_iff, fun e => get_eq_error_iff, (s.binding_id ..).symm,
    assign_eq_ok_iff, fun e => assign_eq_error_iff, fun j near => ⟨near.assign value, ?_⟩,
    fun e => define_eq_error_iff, define_of_not_binding, differsAt_insert ..,
    fun e => assign_unchanged, fun e => define_unchanged, made.after_assign i ident value,
    made.after_define i ident value⟩
  intro other k k' sameId
  have differs := near.assign value
  exact ⟨fun same near' => differs.get_eq near.here other same sameId near',
    fun ne => differs.get_eq_get near.here other sameId ne⟩

/-- Two frames enclosed by the same one, in which a variable is bound.  In the second of them
another variable of its name hides it. -/
def siblings : Scopes :=
  let outer := (ofBindings []).insert "x" (.bool false) (ofBindings []).oldest
  let first := outer.push outer.oldest
  let both := first.push first.oldest
  both.insert "x" (.bool true) both.newest

/-- What was stored in the two frames and in the one around them. -/
def siblingStores : List Store :=
  [⟨0, "x", .bool false⟩, ⟨2, "x", .bool true⟩]

theorem history_siblings : History siblings siblingStores :=
  .insert (.enclosed (.enclosed (.insert .first ..) _) _) ..

/-- From the first frame the outer variable is read and given a value, which the second frame does
not see. -/
theorem nearest_binding_siblings :
    History siblings siblingStores ∧
      ∃ (ident : Token) (first second outer : siblings.Id),
        first.val = 1 ∧ second.val = 2 ∧ outer.val = 0 ∧
        siblings.get ident first = .ok (.bool false) ∧
        (siblings.assign ident .nil first).1 = .ok () ∧
        (∀ k', k'.val = outer.val →
          (siblings.assign ident .nil first).2.get ident k' = .ok .nil) ∧
        ∀ k', k'.val = second.val →
          (siblings.assign ident .nil first).2.get ident k' = siblings.get ident second := by
  let ident : Token := ⟨.ident, "x", none, 1, ⟨0, 1⟩⟩
  let first : siblings.Id := ⟨1, by decide⟩
  let second : siblings.Id := ⟨2, by decide⟩
  have link : siblings.EnclosedBy 1 0 := ⟨⟨[], some 0⟩, rfl, rfl⟩
  have nearFirst : siblings.Nearest (Store.Bound siblingStores "x") 1 0 := by
    have free : ¬Store.Bound siblingStores "x" 1 := Bool.false_ne_true
    exact (nearest_iff_of_enclosedBy free link).2 (.of_here rfl)
  have nearSecond : ¬siblings.Nearest (Store.Bound siblingStores "x") 2 0 := by
    intro near
    have here : siblings.Nearest (Store.Bound siblingStores "x") 2 2 := .of_here rfl
    cases near.unique here
  obtain ⟨read, -, -, assigned, -, seen, -⟩ :=
    nearest_binding history_siblings first ident .nil
  have value : siblings.get ident first = .ok (.bool false) :=
    (read _).2 ⟨0, nearFirst, rfl⟩
  refine ⟨history_siblings, ident, first, second, siblings.oldest, rfl, rfl, rfl, value,
    assigned.2 ⟨_, value⟩, fun k' sameId => ?_, fun k' sameId => ?_⟩
  · exact ((seen 0 nearFirst).2 ident siblings.oldest k' sameId).1 rfl (.of_here rfl)
  · exact ((seen 0 nearFirst).2 ident second k' sameId).2 fun near => nearSecond near.2

end Scopes

end ScriptLang

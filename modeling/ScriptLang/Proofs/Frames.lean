import ScriptLang.Scope

/-!
# Frames one by one

What opening, closing and changing frames does to the single frames, and the way outwards from a
frame step by step.

## Main definitions

* `Scopes.globals` — the bindings of the oldest frame
* `Scopes.enclosing` — the link of a frame

## Main results

* `Scopes.getElem?_push`, `Scopes.getElem?_pop`, `Scopes.getElem?_modify` — each frame afterwards
* `Scopes.resolve?_of_binds`, `Scopes.resolve?_of_enclosing` — one step on the way outwards
-/

namespace ScriptLang

/-- A name that has a value stands with it in the list. -/
theorem Bindings.mem_of_find? {b : Bindings} {x : String} {v : Value} (h : b.find? x = some v) :
    (x, v) ∈ b := by
  fun_induction Bindings.find? b x with
  | case1 => cases h
  | case2 =>
    cases h
    exact List.mem_cons_self ..
  | case3 _ _ _ _ _ ih => exact List.mem_cons_of_mem _ (ih h)

namespace Scopes

/-- The bindings of the oldest frame, which every function sees. -/
def globals (s : Scopes) : Bindings :=
  s.bindings s.oldest

/-- The number of the frame that encloses frame `i`. -/
def enclosing (s : Scopes) (i : s.Id) : Option Nat :=
  s.frames[i.val]?.bind Frame.enclosing

variable {s : Scopes}

@[simp] theorem size_push (s : Scopes) (i : s.Id) :
    (s.push i).frames.size = s.frames.size + 1 := by
  simp [push]

theorem size_pop (h : 1 < s.frames.size) : s.pop.frames.size = s.frames.size - 1 := by
  simp [pop, h]

@[simp] theorem size_modify (s : Scopes) (i : s.Id) (f : Bindings → Bindings) :
    (s.modify i f).frames.size = s.frames.size := by
  simp [modify]

theorem getElem?_push (s : Scopes) (i : s.Id) (j : Nat) :
    (s.push i).frames[j]? = if j = s.frames.size then some ⟨[], some i⟩ else s.frames[j]? := by
  simp only [push, Array.getElem?_push]

theorem getElem?_pop (h : 1 < s.frames.size) (j : Nat) :
    s.pop.frames[j]? = if j < s.frames.size - 1 then s.frames[j]? else none := by
  simp only [pop, h, dite_true, Array.getElem?_pop]

theorem getElem?_modify (s : Scopes) (i : s.Id) (f : Bindings → Bindings) (j : Nat) :
    (s.modify i f).frames[j]? =
      if i = j then s.frames[j]?.map fun frame => { frame with bindings := f frame.bindings }
      else s.frames[j]? := by
  simp only [modify, Array.getElem?_modify]

theorem enclosing_eq {i : s.Id} (h : i.val < s.frames.size) :
    s.enclosing i = s.frames[i.val].enclosing := by
  rw [enclosing, Array.getElem?_eq_getElem h, Option.bind_some]

/-- A frame by its number. -/
theorem getElem?_id (s : Scopes) (i : s.Id) :
    s.frames[i.val]? = some ⟨s.bindings i, s.enclosing i⟩ := by
  simp [bindings, enclosing]

/-- A frame that has just been opened is empty. -/
theorem bindings_push_newest (s : Scopes) (i : s.Id) :
    (s.push i).bindings (s.push i).newest = [] := by
  have frame := (s.push i).getElem?_id (s.push i).newest
  have newest : (s.push i).newest.val = s.frames.size := by
    simp [newest]
  rw [newest, getElem?_push, if_pos rfl, Option.some.injEq, Frame.mk.injEq] at frame
  exact frame.1.symm

/-- Closing a frame does not touch the globals. -/
theorem globals_pop (s : Scopes) : s.pop.globals = s.globals := by
  by_cases more : 1 < s.frames.size
  · have first := s.pop.getElem?_id s.pop.oldest
    have frame := s.getElem?_id s.oldest
    rw [getElem?_pop more, if_pos (show s.pop.oldest.val < _ from Nat.sub_pos_of_lt more)] at first
    have same := first.symm.trans frame
    rw [Option.some.injEq, Frame.mk.injEq] at same
    exact same.1
  · have same : s.pop = s := by
      unfold pop
      rw [dif_neg more]
    rw [same]

/-- Nothing encloses the oldest frame. -/
theorem enclosing_oldest (s : Scopes) : s.enclosing s.oldest = none := by
  cases h : s.enclosing s.oldest with
  | none => rfl
  | some p =>
    rw [enclosing_eq s.pos] at h
    exact absurd (s.older 0 s.pos p h) (Nat.not_lt_zero p)

/-- A frame is enclosed by an older one. -/
theorem lt_of_enclosing {i : s.Id} {p : Nat} (h : s.enclosing i = some p) : p < i.val :=
  s.older i i.isLt p ((enclosing_eq i.isLt).symm.trans h)

theorem newest_val (s : Scopes) : s.newest.val = s.frames.size - 1 := rfl

/-- A frame on its own is the oldest and the newest. -/
theorem newest_eq_oldest (single : s.frames.size = 1) : s.newest = s.oldest :=
  Fin.ext (show s.frames.size - 1 = 0 by omega)

/-! ### The way outwards -/

variable {name : String} {i : s.Id}

theorem resolve?_of_binds (h : (s.bindings i).binds name = true) : s.resolve? name i = some i := by
  rw [resolve?, if_pos h]

theorem resolve?_of_last (h : (s.bindings i).binds name = false)
    (last : s.enclosing i = none) : s.resolve? name i = none := by
  rw [enclosing_eq i.isLt] at last
  rw [resolve?, if_neg (by simp [h])]
  split
  · rfl
  · rename_i p hp
    cases last.symm.trans hp

theorem resolve?_of_enclosing {p : Nat} (h : (s.bindings i).binds name = false)
    (link : s.enclosing i = some p) :
    s.resolve? name i = s.resolve? name ⟨p, Nat.lt_trans (lt_of_enclosing link) i.isLt⟩ := by
  have link' := (enclosing_eq i.isLt).symm.trans link
  rw [resolve?, if_neg (by simp [h])]
  split
  · rename_i hn
    cases link'.symm.trans hn
  · rename_i q hq
    cases link'.symm.trans hq
    rfl

/-- Where a name is found it is bound. -/
theorem binds_of_resolve? {i j : s.Id} (h : s.resolve? name i = some j) :
    (s.bindings j).binds name = true := by
  induction hi : i.val using Nat.strongRecOn generalizing i with
  | ind n ih =>
    cases hb : (s.bindings i).binds name with
    | true =>
      rw [resolve?_of_binds hb, Option.some.injEq] at h
      rw [← h, hb]
    | false =>
      cases he : s.enclosing i with
      | none =>
        rw [resolve?_of_last hb he] at h
        cases h
      | some p =>
        rw [resolve?_of_enclosing hb he] at h
        exact ih p (hi ▸ lt_of_enclosing he) h rfl

end Scopes

end ScriptLang

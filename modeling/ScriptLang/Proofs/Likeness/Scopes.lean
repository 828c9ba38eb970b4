import ScriptLang.Proofs.Frames
import ScriptLang.Proofs.Likeness.Value

/-!
# Open frames alike

Two runs are compared from some point on.  The frames that were open then are not the same in both:
only the globals have to be alike, and all other ones of that time are out of sight.  The frames
opened since come in pairs, and each is linked to the counterpart of what the other one is linked
to.

## Main definitions

* `Comparison` — two runs and the points from which on they are compared
* `Comparison.Place` — which frame stands for which
* `Comparison.Alike` — the frames of the two runs after the same number of openings
* `Comparison.rooted` — two runs compared from their first frames on

## Main results

* `Comparison.Alike.push`, `Comparison.Alike.pop`, `Comparison.Alike.modify` — frames stay alike
* `Comparison.Alike.resolve?` — a name is found in frames that stand for each other
-/

namespace ScriptLang

/-! ### Bindings -/

/-- The same names in the same order, with values that are alike. -/
def Bindings.Alike (C : Correspondence) : Bindings → Bindings → Prop :=
  List.Forall₂ fun p p' => p.1 = p'.1 ∧ p.2.Alike C p'.2

namespace Bindings.Alike

variable {C : Correspondence} {b b' : Bindings}

theorem find? (h : Bindings.Alike C b b') (name : String) :
    Option.Rel (Value.Alike C) (b.find? name) (b'.find? name) := by
  induction h with
  | nil => exact .none
  | cons hp _ ih =>
    simp only [Bindings.find?, hp.1]
    split
    · exact .some hp.2
    · exact ih

theorem binds_eq (h : Bindings.Alike C b b') (name : String) : b.binds name = b'.binds name := by
  have found := h.find? name
  unfold Bindings.binds
  generalize b.find? name = v at found ⊢
  generalize b'.find? name = v' at found ⊢
  cases found <;> rfl

theorem put (h : Bindings.Alike C b b') (name : String) {v v' : Value} (hv : v.Alike C v') :
    Bindings.Alike C (b.put name v) (b'.put name v') := by
  induction h with
  | nil => exact .cons ⟨rfl, hv⟩ .nil
  | cons hp later ih =>
    simp only [Bindings.put, hp.1]
    split
    · exact .cons ⟨rfl, hv⟩ later
    · exact .cons ⟨rfl, hp.2⟩ ih

end Bindings.Alike

theorem Bindings.Alike.mono {C C' : Correspondence}
    (sub : ∀ u u' t t', C.token u u' t t' → C'.token u u' t t') {b b' : Bindings}
    (h : Bindings.Alike C b b') : Bindings.Alike C' b b' :=
  h.imp fun _ _ hp => ⟨hp.1, hp.2.mono sub⟩

theorem Bindings.Alike.refl (b : Bindings) : Bindings.Alike .identity b b :=
  List.forall₂_same.2 fun p _ => ⟨rfl, .refl p.2⟩

theorem Bindings.Alike.eq {b b' : Bindings} (h : Bindings.Alike .identity b b') : b = b' := by
  induction h with
  | nil => rfl
  | cons hp _ ih => rw [Prod.ext hp.1 hp.2.eq, ih]

/-! ### Frames -/

/-- Two runs, and the frames that were open in each of them at the point from which on they are
compared.  If the comparison is `lenient`, the first run may be out of fuel before the second. -/
structure Comparison where
  tokens : Correspondence
  start : Scopes
  start' : Scopes
  lenient : Prop

namespace Comparison

variable (K : Comparison)

/-- Frame `i` of the first run stands for frame `i'` of the second: both are the globals, or they
have been opened equally long after the start. -/
def Place (i i' : Nat) : Prop :=
  (i = 0 ∧ i' = 0) ∨ ∃ m, i = K.start.frames.size + m ∧ i' = K.start'.frames.size + m

/-- Frames with bindings that are alike, enclosed by frames that stand for each other. -/
structure FrameAlike (f f' : Frame) : Prop where
  bindings : Bindings.Alike K.tokens f.bindings f'.bindings
  enclosing : Option.Rel K.Place f.enclosing f'.enclosing

/-- The open frames of two runs, `k` frames after the start: those that stand for each other are
alike, and the frames of the start other than the globals are unchanged. -/
structure Alike (k : Nat) (s s' : Scopes) : Prop where
  size : s.frames.size = K.start.frames.size + k
  size' : s'.frames.size = K.start'.frames.size + k
  frame : ∀ {i i' : Nat}, K.Place i i' → Option.Rel K.FrameAlike s.frames[i]? s'.frames[i']?
  kept : ∀ {i : Nat}, 0 < i → i < K.start.frames.size → s.frames[i]? = K.start.frames[i]?
  kept' : ∀ {i : Nat}, 0 < i → i < K.start'.frames.size → s'.frames[i]? = K.start'.frames[i]?

/-- Whether the newest frames stand for each other, `k` frames after the start. -/
def Visible (k : Nat) : Prop :=
  0 < k ∨ K.start.frames.size = 1 ∧ K.start'.frames.size = 1

variable {K}

theorem Place.oldest : K.Place 0 0 :=
  .inl ⟨rfl, rfl⟩

theorem Place.eq_iff {i i' j j' : Nat} (hi : K.Place i i') (hj : K.Place j j') :
    i = j ↔ i' = j' := by
  have pos := K.start.pos
  have pos' := K.start'.pos
  obtain ⟨rfl, rfl⟩ | ⟨m, rfl, rfl⟩ := hi <;> obtain ⟨rfl, rfl⟩ | ⟨n, rfl, rfl⟩ := hj <;> omega

/-- A frame that stands for another one is no frame of the start but the globals. -/
theorem Place.zero_or_le {i i' : Nat} (h : K.Place i i') :
    i = 0 ∧ i' = 0 ∨ K.start.frames.size ≤ i ∧ K.start'.frames.size ≤ i' := by
  obtain h | ⟨m, rfl, rfl⟩ := h
  · exact .inl h
  · exact .inr ⟨Nat.le_add_right .., Nat.le_add_right ..⟩

namespace Alike

variable {k : Nat} {s s' : Scopes}

theorem newest (h : K.Alike k s s') (visible : K.Visible k) :
    K.Place s.newest s'.newest := by
  have hs := h.size
  have hs' := h.size'
  simp only [Scopes.newest_val]
  obtain pos | ⟨one, one'⟩ := visible
  · exact .inr ⟨k - 1, by omega, by omega⟩
  · obtain rfl | pos := Nat.eq_zero_or_pos k
    · exact .inl ⟨by omega, by omega⟩
    · exact .inr ⟨k - 1, by omega, by omega⟩

/-- Frames that stand for each other are alike. -/
theorem frameAlike (h : K.Alike k s s') {i : s.Id} {i' : s'.Id} (place : K.Place i i') :
    K.FrameAlike ⟨s.bindings i, s.enclosing i⟩ ⟨s'.bindings i', s'.enclosing i'⟩ := by
  have alike := h.frame place
  rw [Scopes.getElem?_id, Scopes.getElem?_id] at alike
  cases alike with
  | some alike => exact alike

theorem globals (h : K.Alike k s s') : Bindings.Alike K.tokens s.globals s'.globals := by
  have place : K.Place s.oldest s'.oldest := .oldest
  exact (h.frameAlike place).bindings

/-- A name is found in frames that stand for each other, or in neither run. -/
theorem resolve? (h : K.Alike k s s') (name : String) {i : s.Id} {i' : s'.Id}
    (place : K.Place i i') :
    Option.Rel (fun j j' => K.Place j.val j'.val) (s.resolve? name i) (s'.resolve? name i') := by
  induction hn : i.val using Nat.strongRecOn generalizing i i' with
  | ind n ih =>
    have alike := h.frameAlike place
    have same := alike.bindings.binds_eq name
    cases hb : (s.bindings i).binds name with
    | true =>
      rw [Scopes.resolve?_of_binds hb, Scopes.resolve?_of_binds (same ▸ hb)]
      exact .some place
    | false =>
      have links := alike.enclosing
      cases he : s.enclosing i with
      | none =>
        rw [he] at links
        generalize he' : s'.enclosing i' = link' at links
        cases links
        rw [Scopes.resolve?_of_last hb he, Scopes.resolve?_of_last (same ▸ hb) he']
        exact .none
      | some p =>
        rw [he] at links
        generalize he' : s'.enclosing i' = link' at links
        cases links with
        | some outer =>
          rw [Scopes.resolve?_of_enclosing hb he, Scopes.resolve?_of_enclosing (same ▸ hb) he']
          exact ih p (hn ▸ Scopes.lt_of_enclosing he) outer rfl

/-! ### The start of a comparison -/

/-- At the start only the globals have to be alike. -/
theorem start (h : Bindings.Alike K.tokens K.start.globals K.start'.globals) :
    K.Alike 0 K.start K.start' where
  size := rfl
  size' := rfl
  frame {i i'} place := by
    obtain ⟨rfl, rfl⟩ | ⟨m, rfl, rfl⟩ := place
    · have first := K.start.getElem?_id K.start.oldest
      have first' := K.start'.getElem?_id K.start'.oldest
      rw [Scopes.enclosing_oldest] at first first'
      exact first ▸ first' ▸ .some ⟨h, .none⟩
    · rw [Array.getElem?_eq_none (Nat.le_add_right ..),
        Array.getElem?_eq_none (Nat.le_add_right ..)]
      exact .none
  kept _ _ := rfl
  kept' _ _ := rfl

/-! ### Opening, closing and changing frames -/

theorem push (h : K.Alike k s s') {i : s.Id} {i' : s'.Id} (place : K.Place i i') :
    K.Alike (k + 1) (s.push i) (s'.push i') where
  size := by rw [Scopes.size_push, h.size, Nat.add_assoc]
  size' := by rw [Scopes.size_push, h.size', Nat.add_assoc]
  frame {j j'} hj := by
    have top : K.Place s.frames.size s'.frames.size := .inr ⟨k, h.size, h.size'⟩
    simp only [Scopes.getElem?_push, top.eq_iff hj, eq_comm (a := j), eq_comm (a := j')]
    split
    · exact .some ⟨.nil, .some place⟩
    · exact h.frame hj
  kept {j} pos hj := by
    rw [Scopes.getElem?_push, if_neg (by have := h.size; omega), h.kept pos hj]
  kept' {j} pos hj := by
    rw [Scopes.getElem?_push, if_neg (by have := h.size'; omega), h.kept' pos hj]

theorem pop (h : K.Alike (k + 1) s s') : K.Alike k s.pop s'.pop := by
  have hs := h.size
  have hs' := h.size'
  have pos := K.start.pos
  have pos' := K.start'.pos
  have more : 1 < s.frames.size := by omega
  have more' : 1 < s'.frames.size := by omega
  refine ⟨?_, ?_, ?_, ?_, ?_⟩
  · rw [Scopes.size_pop more]
    omega
  · rw [Scopes.size_pop more']
    omega
  · intro j j' hj
    rw [Scopes.getElem?_pop more, Scopes.getElem?_pop more']
    have below : j < s.frames.size - 1 ↔ j' < s'.frames.size - 1 := by
      obtain ⟨rfl, rfl⟩ | ⟨m, rfl, rfl⟩ := hj <;> omega
    simp only [below]
    split
    · exact h.frame hj
    · exact .none
  · intro j hj lt
    rw [Scopes.getElem?_pop more, if_pos (by omega), h.kept hj lt]
  · intro j hj lt
    rw [Scopes.getElem?_pop more', if_pos (by omega), h.kept' hj lt]

theorem modify (h : K.Alike k s s') {i : s.Id} {i' : s'.Id} (place : K.Place i i')
    {f f' : Bindings → Bindings}
    (hf : ∀ {b b'}, Bindings.Alike K.tokens b b' → Bindings.Alike K.tokens (f b) (f' b')) :
    K.Alike k (s.modify i f) (s'.modify i' f') where
  size := by rw [Scopes.size_modify, h.size]
  size' := by rw [Scopes.size_modify, h.size']
  frame {j j'} hj := by
    rw [Scopes.getElem?_modify, Scopes.getElem?_modify]
    have alike := h.frame hj
    simp only [place.eq_iff hj]
    split
    · generalize s.frames[j]? = frame at alike ⊢
      generalize s'.frames[j']? = frame' at alike ⊢
      cases alike with
      | none => exact .none
      | some alike => exact .some ⟨hf alike.bindings, alike.enclosing⟩
    · exact alike
  kept {j} pos hj := by
    have := place.zero_or_le
    rw [Scopes.getElem?_modify, if_neg (by omega), h.kept pos hj]
  kept' {j} pos hj := by
    have := place.zero_or_le
    rw [Scopes.getElem?_modify, if_neg (by omega), h.kept' pos hj]

end Alike

/-! ### Comparing from the first frame on -/

/-- Two runs compared from their very first frames on. -/
def rooted (C : Correspondence) (lenient : Prop) : Comparison :=
  ⟨C, .ofBindings [], .ofBindings [], lenient⟩

section Rooted

variable {C : Correspondence} {lenient : Prop} {s s' : Scopes} {k : Nat}

/-- From the first frame on, each frame stands for the one with its number. -/
theorem rooted_place {i i' : Nat} : (rooted C lenient).Place i i' ↔ i = i' := by
  constructor
  · rintro (⟨rfl, rfl⟩ | ⟨m, rfl, rfl⟩)
    · rfl
    · rfl
  · rintro rfl
    obtain rfl | pos := Nat.eq_zero_or_pos i
    · exact .oldest
    · exact .inr ⟨i - 1, (Nat.add_sub_of_le pos).symm, (Nat.add_sub_of_le pos).symm⟩

theorem rooted_visible : (rooted C lenient).Visible k :=
  .inr ⟨rfl, rfl⟩

/-- Frames are alike to themselves if their bindings are. -/
theorem rooted_alike
    (h : ∀ (i : Nat) (f : Frame), s.frames[i]? = some f → Bindings.Alike C f.bindings f.bindings) :
    (rooted C lenient).Alike (s.frames.size - 1) s s where
  size := (Nat.add_sub_of_le s.pos).symm
  size' := (Nat.add_sub_of_le s.pos).symm
  frame {i i'} place := by
    obtain rfl := rooted_place.1 place
    cases hf : s.frames[i]? with
    | none => exact .none
    | some f =>
      refine .some ⟨h i f hf, ?_⟩
      cases f.enclosing with
      | none => exact .none
      | some p => exact .some (rooted_place.2 rfl)
  kept pos lt := absurd lt (Nat.not_lt.2 pos)
  kept' pos lt := absurd lt (Nat.not_lt.2 pos)

end Rooted

/-! ### Equal frames -/

/-- A run compared with itself, from its very first frame on. -/
def identical (lenient : Prop) : Comparison :=
  ⟨.identity, .ofBindings [], .ofBindings [], lenient⟩

variable {lenient : Prop} {s s' : Scopes} {k : Nat}

theorem identical_place {i i' : Nat} : (identical lenient).Place i i' ↔ i = i' :=
  rooted_place

theorem identical_visible : (identical lenient).Visible k :=
  rooted_visible

theorem FrameAlike.eq {f f' : Frame} (h : (identical lenient).FrameAlike f f') : f = f' := by
  obtain ⟨b, link⟩ := f
  obtain ⟨b', link'⟩ := f'
  obtain ⟨hb, hlink⟩ := h
  obtain rfl : b = b' := hb.eq
  cases hlink with
  | none => rfl
  | some place => rw [identical_place.1 place]

/-- Frames are alike to themselves. -/
theorem identical_alike_refl (s : Scopes) : (identical lenient).Alike (s.frames.size - 1) s s :=
  rooted_alike fun _ f _ => .refl f.bindings

/-- Frames that are alike with equal tokens are equal. -/
theorem Alike.eq (h : (identical lenient).Alike k s s') : s = s' := by
  obtain ⟨frames, pos, older⟩ := s
  obtain ⟨frames', pos', older'⟩ := s'
  have eq : frames = frames' := by
    refine Array.ext_getElem? fun i => ?_
    have alike := h.frame (i := i) (identical_place.2 rfl)
    dsimp only at alike
    generalize frames[i]? = f at alike ⊢
    generalize frames'[i]? = f' at alike ⊢
    cases alike with
    | none => rfl
    | some alike => rw [alike.eq]
  subst eq
  rfl

end Comparison

end ScriptLang

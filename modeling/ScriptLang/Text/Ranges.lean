/-!
# Sets of characters as ascending ranges

A table of a character property is a list of closed ranges of code points, in ascending order.
Looking a code point up stops at the first range that ends at or after it.

## Main definitions

* `Ranges` — the tables
* `Ranges.mem` — the look-up
* `RangeTree` — a table as a search tree, for large tables that are asked often

## Main results

* `RangeTree.toRanges_ofRanges` — a tree holds the ranges of its table in their order
* `RangeTree.mem_ofRanges` — looking up in a tree is looking up in its table
-/

namespace ScriptLang.Text

/-- Closed ranges of code points, in ascending order. -/
abbrev Ranges := List (Nat × Nat)

/-- Whether a code point lies in one of the ranges. -/
def Ranges.mem : Ranges → Nat → Bool
  | [], _ => false
  | (first, last) :: later, n => if n ≤ last then first ≤ n else Ranges.mem later n

@[simp] theorem Ranges.mem_nil (n : Nat) : Ranges.mem [] n = false := rfl

theorem Ranges.mem_cons (first last : Nat) (later : Ranges) (n : Nat) :
    Ranges.mem ((first, last) :: later) n =
      if n ≤ last then decide (first ≤ n) else Ranges.mem later n := rfl

/-- Every range holds something, and ends before the next one begins. -/
def Ranges.Ascending (rs : Ranges) : Prop :=
  rs.Pairwise (fun r later => r.2 < later.1) ∧ ∀ r ∈ rs, r.1 ≤ r.2

/-- Ranges that end before a code point do not matter for it. -/
theorem Ranges.mem_append_of_lt {rs : Ranges} {n : Nat} (h : ∀ r ∈ rs, r.2 < n) (later : Ranges) :
    Ranges.mem (rs ++ later) n = Ranges.mem later n := by
  induction rs with
  | nil => rfl
  | cons r rs ih =>
    have passed : ¬n ≤ r.2 := Nat.not_le.2 (h r List.mem_cons_self)
    rw [List.cons_append, Ranges.mem_cons, if_neg passed]
    exact ih fun q hq => h q (List.mem_cons_of_mem _ hq)

/-- Ranges that begin behind a code point do not matter for it. -/
theorem Ranges.mem_append_of_gt {later : Ranges} {n : Nat}
    (h : ∀ r ∈ later, n < r.1 ∧ r.1 ≤ r.2) (rs : Ranges) :
    Ranges.mem (rs ++ later) n = Ranges.mem rs n := by
  induction rs with
  | nil =>
    cases later with
    | nil => rfl
    | cons r later =>
      have ⟨behind, full⟩ := h r List.mem_cons_self
      have reached : n ≤ r.2 := Nat.le_trans (Nat.le_of_lt behind) full
      change (if n ≤ r.2 then decide (r.1 ≤ n) else Ranges.mem later n) = false
      simp [reached, behind]
  | cons r rs ih => rw [List.cons_append, Ranges.mem_cons, Ranges.mem_cons, ih]

/-- Ranges as a search tree: what is below a node lies before or after its range. -/
inductive RangeTree where
  | empty
  | node (before : RangeTree) (first last : Nat) (after : RangeTree)

namespace RangeTree

/-- Whether a code point lies in one of the ranges. -/
def mem : RangeTree → Nat → Bool
  | empty, _ => false
  | node before first last after, n =>
    if n < first then before.mem n else if n ≤ last then true else after.mem n

/-- The ranges from first to last. -/
def toRanges : RangeTree → Ranges
  | empty => []
  | node before first last after => before.toRanges ++ (first, last) :: after.toRanges

/-- A tree of some depth, full unless the ranges do not suffice, and the ranges that are left. -/
def build : Nat → Ranges → RangeTree × Ranges
  | 0, rs => (empty, rs)
  | depth + 1, rs =>
    match build depth rs with
    | (before, []) => (before, [])
    | (before, (first, last) :: rs) =>
      match build depth rs with
      | (after, rs) => (node before first last after, rs)

/-- The tree of a table. -/
def ofRanges (rs : Ranges) : RangeTree :=
  (build (Nat.log2 rs.length + 1) rs).1

theorem toRanges_build (depth : Nat) (rs : Ranges) :
    (build depth rs).1.toRanges ++ (build depth rs).2 = rs := by
  induction depth generalizing rs with
  | zero => rfl
  | succ depth ih =>
    have h := ih rs
    unfold build
    generalize build depth rs = built at h
    obtain ⟨before, left⟩ := built
    cases left with
    | nil => exact h
    | cons r later => simpa [toRanges, ih later] using h

theorem length_build (depth : Nat) (rs : Ranges) :
    (build depth rs).2.length = rs.length - (Nat.pow 2 depth - 1) := by
  induction depth generalizing rs with
  | zero => rfl
  | succ depth ih =>
    have h := ih rs
    have double : Nat.pow 2 (depth + 1) = Nat.pow 2 depth * 2 := rfl
    have positive : 0 < Nat.pow 2 depth := Nat.pow_pos (by decide)
    unfold build
    generalize build depth rs = built at h
    obtain ⟨before, left⟩ := built
    cases left with
    | nil => simp only [List.length_nil] at h ⊢; omega
    | cons r later =>
      simp only [List.length_cons] at h
      simp only [ih later]
      omega

/-- A tree holds the ranges of its table in their order. -/
theorem toRanges_ofRanges (rs : Ranges) : (ofRanges rs).toRanges = rs := by
  have enough : rs.length < Nat.pow 2 (Nat.log2 rs.length + 1) := Nat.lt_log2_self
  have none_left : (build (Nat.log2 rs.length + 1) rs).2 = [] :=
    List.eq_nil_of_length_eq_zero (by rw [length_build]; omega)
  have whole := toRanges_build (Nat.log2 rs.length + 1) rs
  rw [none_left, List.append_nil] at whole
  exact whole

theorem mem_eq_mem_toRanges (t : RangeTree) (n : Nat) (h : t.toRanges.Ascending) :
    t.mem n = t.toRanges.mem n := by
  induction t with
  | empty => rfl
  | node before first last after ihb iha =>
    obtain ⟨order, full⟩ := h
    obtain ⟨orderBefore, orderRest, across⟩ := List.pairwise_append.1 order
    obtain ⟨behind, orderAfter⟩ := List.pairwise_cons.1 orderRest
    have inBefore := fun r hr => full r (List.mem_append_left _ hr)
    have inRest := fun r hr => full r (List.mem_append_right _ hr)
    have inAfter := fun r hr => inRest r (List.mem_cons_of_mem _ hr)
    have nonempty : first ≤ last := inRest (first, last) List.mem_cons_self
    simp only [mem, toRanges]
    split
    · rename_i ahead
      rw [Ranges.mem_append_of_gt, ihb ⟨orderBefore, inBefore⟩]
      intro r hr
      refine ⟨?_, inRest r hr⟩
      rcases List.mem_cons.1 hr with rfl | hr
      · exact ahead
      · exact Nat.lt_of_lt_of_le ahead (Nat.le_trans nonempty (Nat.le_of_lt (behind r hr)))
    · rename_i reached
      have passed : ∀ r ∈ before.toRanges, r.2 < n := fun r hr =>
        Nat.lt_of_lt_of_le (across r hr (first, last) List.mem_cons_self) (Nat.not_lt.1 reached)
      rw [Ranges.mem_append_of_lt passed, Ranges.mem_cons, iha ⟨orderAfter, inAfter⟩]
      split <;> simp [Nat.not_lt.1 reached]

/-- Looking up in a tree is looking up in its table. -/
theorem mem_ofRanges (rs : Ranges) (n : Nat) (h : rs.Ascending) :
    (ofRanges rs).mem n = rs.mem n := by
  rw [mem_eq_mem_toRanges, toRanges_ofRanges]
  rwa [toRanges_ofRanges]

end RangeTree

end ScriptLang.Text

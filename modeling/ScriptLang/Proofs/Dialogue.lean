import ScriptLang.Host.World

/-!
# Dialogues compared

What can be said about a dialogue whatever the host answers, and about two dialogues that are given
the same answers.

## Main definitions

* `Dialogue.Ends` — every end satisfies a predicate
* `Dialogue.MayEnd` — some end is this one
* `Dialogue.Follows` — a dialogue asks what another one asks, and they end in related ways

## Main results

* `Dialogue.Follows.bind` — what goes on behind related ends can be compared in turn
* `Dialogue.Follows.run` — the comparison carried over to a host in memory
-/

namespace ScriptLang

namespace Dialogue

variable {α β γ δ : Type}

/-! ### One dialogue -/

/-- Whatever the host answers, the result satisfies `P`. -/
def Ends (P : α → Prop) : Dialogue α → Prop
  | done result => P result
  | ask _ next => ∀ answer, (next answer).Ends P

@[simp] theorem ends_done {P : α → Prop} {result : α} : (done result).Ends P ↔ P result := Iff.rfl

@[simp] theorem ends_ask {P : α → Prop} {r : Request} {next : r.Answer → Dialogue α} :
    (ask r next).Ends P ↔ ∀ answer, (next answer).Ends P := Iff.rfl

@[simp] theorem ends_bind {P : β → Prop} {d : Dialogue α} {f : α → Dialogue β} :
    (d >>= f).Ends P ↔ d.Ends fun a => (f a).Ends P := by
  induction d with
  | done => rfl
  | ask r next ih => simp [ih]

theorem Ends.mono {P Q : α → Prop} {d : Dialogue α} (h : d.Ends P) (sub : ∀ a, P a → Q a) :
    d.Ends Q := by
  induction d with
  | done result => exact sub _ h
  | ask r next ih => exact fun answer => ih answer (h answer)

/-- What holds of every value holds at every end. -/
theorem ends_of_forall {P : α → Prop} {d : Dialogue α} (h : ∀ a, P a) : d.Ends P := by
  induction d with
  | done result => exact h result
  | ask r next ih => exact ih

/-- What goes on behind a dialogue only matters behind the results that it has. -/
theorem Ends.bind_congr {P : α → Prop} {d : Dialogue α} {f g : α → Dialogue β} (h : d.Ends P)
    (same : ∀ a, P a → f a = g a) : d >>= f = d >>= g := by
  induction d with
  | done result => exact same result h
  | ask r next ih => exact congrArg (ask r) (funext fun answer => ih answer (h answer))

/-- What goes on behind a dialogue settles the ends, if it does so behind every result. -/
theorem ends_behind {P : β → Prop} {d : Dialogue α} {f : α → Dialogue β}
    (h : ∀ a, (f a).Ends P) : (d >>= f).Ends P :=
  ends_bind.2 (ends_of_forall h)

theorem Ends.and {P Q : α → Prop} {d : Dialogue α} (h : d.Ends P) (h' : d.Ends Q) :
    d.Ends fun a => P a ∧ Q a := by
  induction d with
  | done result => exact ⟨h, h'⟩
  | ask r next ih => exact fun answer => ih answer (h answer) (h' answer)

/-- What holds at every end holds of the result that a host in memory leads to. -/
theorem Ends.run {P : α → Prop} {d : Dialogue α} (h : d.Ends P) (w : World) : P (d.run w).1 := by
  induction d generalizing w with
  | done result => exact h
  | ask r next ih => exact ih _ (h _) _

/-- Some answers of the host lead to this result. -/
inductive MayEnd : Dialogue α → α → Prop where
  | done (result : α) : MayEnd (done result) result
  | ask {r : Request} {next : r.Answer → Dialogue α} {result : α} (answer : r.Answer)
      (h : MayEnd (next answer) result) : MayEnd (ask r next) result

/-- What holds at every end holds of every result that can be reached. -/
theorem Ends.of_mayEnd {P : α → Prop} {d : Dialogue α} {result : α} (h : d.Ends P)
    (ends : d.MayEnd result) : P result := by
  induction ends with
  | done result => exact h
  | ask answer _ ih => exact ih (h answer)

/-- Every end is one that may be reached. -/
theorem ends_mayEnd (d : Dialogue α) : d.Ends d.MayEnd := by
  induction d with
  | done result => exact .done result
  | ask r next ih => exact fun answer => (ih answer).mono fun _ h => .ask answer h

@[simp] theorem mayEnd_done {result other : α} : (done result).MayEnd other ↔ other = result := by
  constructor
  · intro h
    cases h
    rfl
  · rintro rfl
    exact .done other

/-- What goes on behind a dialogue goes on where that dialogue may end. -/
theorem mayEnd_bind {d : Dialogue α} {f : α → Dialogue β} {result : β} :
    (d >>= f).MayEnd result ↔ ∃ a, d.MayEnd a ∧ (f a).MayEnd result := by
  constructor
  · intro h
    induction d with
    | done a => exact ⟨a, .done a, h⟩
    | ask r next ih =>
      cases h with
      | ask answer h =>
        obtain ⟨a, first, second⟩ := ih answer h
        exact ⟨a, .ask answer first, second⟩
  · rintro ⟨a, first, second⟩
    induction first with
    | done => exact second
    | ask answer _ ih => exact .ask answer (ih second)

/-- The answers of a host in memory are answers that a host can give. -/
theorem mayEnd_run (d : Dialogue α) (w : World) : d.MayEnd (d.run w).1 := by
  induction d generalizing w with
  | done result => exact .done result
  | ask r next ih => exact .ask _ (ih _ _)

/-! ### Two dialogues -/

/-- Given the same answers, the second dialogue asks what the first one asks, and where the first
one ends the second one ends too, with a related result.  Behind a result that `stops`, nothing is
said about the second one. -/
inductive Follows (stops : α → Prop) (R : α → β → Prop) : Dialogue α → Dialogue β → Prop where
  | stop {a : α} {d : Dialogue β} (h : stops a) : Follows stops R (.done a) d
  | done {a : α} {b : β} (h : R a b) : Follows stops R (.done a) (.done b)
  | ask {r : Request} {next : r.Answer → Dialogue α} {next' : r.Answer → Dialogue β}
      (h : ∀ answer, Follows stops R (next answer) (next' answer)) :
      Follows stops R (.ask r next) (.ask r next')

namespace Follows

variable {stops : α → Prop} {R S : α → β → Prop} {d : Dialogue α} {d' : Dialogue β}

theorem mono (h : Follows stops R d d') (sub : ∀ a b, R a b → S a b) : Follows stops S d d' := by
  induction h with
  | stop h => exact .stop h
  | done h => exact .done (sub _ _ h)
  | ask _ ih => exact .ask ih

/-- Results that never occur need not stop the comparison. -/
theorem mono_stop {stops' : α → Prop} (h : Follows stops R d d') (sub : ∀ a, stops a → stops' a) :
    Follows stops' R d d' := by
  induction h with
  | stop h => exact .stop (sub _ h)
  | done h => exact .done h
  | ask _ ih => exact .ask ih

/-- Two dialogues with a follower each, one behind the other. -/
theorem bind {stops' : γ → Prop} {T : γ → δ → Prop} {f : α → Dialogue γ} {g : β → Dialogue δ}
    (h : Follows stops R d d') (next : ∀ a b, R a b → Follows stops' T (f a) (g b))
    (early : ∀ a, stops a → ∃ c, stops' c ∧ f a = .done c) :
    Follows stops' T (d >>= f) (d' >>= g) := by
  induction h with
  | stop h =>
    obtain ⟨c, hc, hf⟩ := early _ h
    rw [done_bind, hf]
    exact .stop hc
  | done h => exact next _ _ h
  | ask _ ih => exact .ask ih

/-- A dialogue follows itself if its ends are related to themselves. -/
theorem refl {stops : α → Prop} {R : α → α → Prop} {d : Dialogue α} (h : d.Ends fun a => R a a) :
    Follows stops R d d := by
  induction d with
  | done result => exact .done h
  | ask r next ih => exact .ask fun answer => ih answer (h answer)

/-- What follows a follower with equal results follows the first dialogue. -/
theorem trans {d d' d'' : Dialogue α} (h : Follows stops Eq d d') (h' : Follows stops Eq d' d'') :
    Follows stops Eq d d'' := by
  induction h generalizing d'' with
  | stop h => exact .stop h
  | done same =>
    subst same
    exact h'
  | ask _ ih =>
    cases h' with
    | ask h' => exact .ask fun answer => ih answer (h' answer)

/-- With a host in memory the two dialogues lead to related results, and leave it in one state. -/
theorem run (h : Follows stops R d d') (w : World) :
    stops (d.run w).1 ∨ R (d.run w).1 (d'.run w).1 ∧ (d.run w).2 = (d'.run w).2 := by
  induction h generalizing w with
  | stop h => exact .inl h
  | done h => exact .inr ⟨h, rfl⟩
  | ask _ ih => exact ih _ _

/-- Dialogues that never stop early and end alike up to two views are alike up to these views. -/
theorem map_eq {f : α → γ} {g : β → γ}
    (h : Follows (fun _ => False) (fun a b => f a = g b) d d') :
    (f <$> d : Dialogue γ) = g <$> d' := by
  induction h with
  | stop h => exact h.elim
  | done h => exact congrArg Dialogue.done h
  | ask _ ih => exact congrArg (Dialogue.ask _) (funext ih)

/-- What every related result satisfies holds at every end of the first dialogue. -/
theorem ends (h : Follows (fun _ => False) R d d') : d.Ends fun a => ∃ b, R a b := by
  induction h with
  | stop h => exact h.elim
  | done h => exact ⟨_, h⟩
  | ask _ ih => exact ih

end Follows

end Dialogue

end ScriptLang

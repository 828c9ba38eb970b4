import ScriptLang.Proofs.Dialogue

/-!
# Output that fails

An output may take only so many bytes.  A host with such an output answers everything but a request
to write as any other host does, and a request to write too as long as the bytes fit.  So a dialogue
goes the same way with it, up to the first write that does not fit.  What it does then is up to the
dialogue; those looked at here break off.

## Main definitions

* `World.taking` — the same host, with an output that takes so many bytes
* `Dialogue.output` — the bytes that a dialogue writes when the output takes all of them
* `Dialogue.Reaches` — what is left of a dialogue after some requests, and the host then
* `Dialogue.CutOff` — how a dialogue ends whose output has no room for all that it writes
* `Dialogue.BreaksOff` — a dialogue ends at once where a write fails

## Main results

* `Dialogue.written_run` — what has been written at the end
* `Dialogue.run_of_fits` — nothing changes if all bytes fit
* `Dialogue.BreaksOff.cutOff` — if they do not, such a dialogue is cut off
-/

namespace ScriptLang

/-! ### Hosts in memory -/

namespace World

/-- The same host with an output that takes so many more bytes, or any number of them. -/
def taking (w : World) (capacity : Option Nat) : World :=
  { w with capacity }

/-- The host after it has written some bytes. -/
def wrote (w : World) (bytes : List UInt8) : World :=
  { w with written := w.written ++ bytes }

theorem withFiles_taking (w : World) (c : Option Nat) (result : Except IoError Files) :
    (w.taking c).withFiles result = ((w.withFiles result).1, (w.withFiles result).2.taking c) := by
  cases result <;> rfl

/-- A change of the files does not touch the output. -/
theorem output_withFiles (w : World) (result : Except IoError Files) :
    (w.withFiles result).2.written = w.written ∧ (w.withFiles result).2.capacity = w.capacity := by
  cases result <;> exact ⟨rfl, rfl⟩

/-! ### System calls of a shell -/

theorem serve_taking (w : World) (c : Option Nat) (call : Shell.Call) :
    (w.taking c).serve call = ((w.serve call).1, (w.serve call).2.taking c) := by
  cases call with
  | writeFile path content append => exact w.withFiles_taking c _
  | change change => exact w.withFiles_taking c _
  | _ => rfl

theorem output_serve (w : World) (call : Shell.Call) :
    (w.serve call).2.written = w.written ∧ (w.serve call).2.capacity = w.capacity := by
  cases call with
  | writeFile path content append => exact w.output_withFiles _
  | change change => exact w.output_withFiles _
  | _ => exact ⟨rfl, rfl⟩

/-- Where system calls go alike in two hosts, a shell goes alike in them. -/
theorem run_serve_map {α : Type} {g : World → World}
    (calls : ∀ w call, (g w).serve call = ((w.serve call).1, g (w.serve call).2))
    (p : Shell.Process α) (w : World) :
    p.run serve (g w) = ((p.run serve w).1, g (p.run serve w).2) := by
  induction p generalizing w with
  | done result => rfl
  | ask call next ih =>
    simp only [Shell.Process.run, calls]
    exact ih _ _

/-- What no system call touches, no shell touches. -/
theorem run_serve_keeps {α β : Type} {f : World → β} (calls : ∀ w call, f (w.serve call).2 = f w)
    (p : Shell.Process α) (w : World) : f (p.run serve w).2 = f w := by
  induction p generalizing w with
  | done result => rfl
  | ask call next ih => exact (ih _ _).trans (calls w call)

/-- A shell does not touch the output: what its commands write is handed back. -/
theorem output_run_serve {α : Type} (p : Shell.Process α) (w : World) :
    (p.run serve w).2.written = w.written ∧ (p.run serve w).2.capacity = w.capacity :=
  ⟨run_serve_keeps (fun w call => (w.output_serve call).1) p w,
    run_serve_keeps (fun w call => (w.output_serve call).2) p w⟩

end World

/-! ### Requests -/

theorem size_appendList (a : Array UInt8) (bytes : List UInt8) :
    (a ++ bytes).size = a.size + bytes.length := by
  rw [← Array.length_toList]
  simp

theorem appendList_assoc (a : Array UInt8) (first second : List UInt8) :
    a ++ first ++ second = a ++ (first ++ second) := by
  apply Array.ext'
  simp

theorem appendList_left_cancel {a : Array UInt8} {first second : List UInt8}
    (h : a ++ first = a ++ second) : first = second := by
  have lists := congrArg Array.toList h
  simpa using lists

/-- The bytes that a request is to write. -/
def Request.bytes : Request → List UInt8
  | write text => Text.encode text
  | _ => []

/-- Whether a request is to write nothing. -/
def Request.Silent : Request → Prop
  | write _ => False
  | _ => True

theorem Request.Silent.bytes {r : Request} (h : r.Silent) : r.bytes = [] := by
  cases r with
  | write text => exact h.elim
  | _ => rfl

theorem Request.write_or_silent (r : Request) : (∃ text, r = write text) ∨ r.Silent := by
  cases r with
  | write text => exact .inl ⟨text, rfl⟩
  | _ => exact .inr trivial

namespace World

/-- A request to write nothing is answered in the same way whatever the output takes. -/
theorem answer_taking {r : Request} (h : r.Silent) (w : World) (c : Option Nat) :
    (w.taking c).answer r = ((w.answer r).1, (w.answer r).2.taking c) := by
  cases r with
  | write text => exact h.elim
  | writeFile path content append => exact w.withFiles_taking c _
  | shell command => exact run_serve_map (fun w => w.serve_taking c) _ w
  | _ => rfl

/-- A request to write nothing does not touch the output. -/
theorem output_answer_silent {r : Request} (h : r.Silent) (w : World) :
    (w.answer r).2.written = w.written ∧ (w.answer r).2.capacity = w.capacity := by
  cases r with
  | write text => exact h.elim
  | writeFile path content append => exact w.output_withFiles _
  | shell command =>
    simp only [answer]
    generalize Shell.shell command = p
    exact output_run_serve p w
  | _ => exact ⟨rfl, rfl⟩

/-- An output that takes everything has the bytes of a request added to it. -/
theorem output_answer {w : World} (unbounded : w.capacity = none) (r : Request) :
    (w.answer r).2.written = w.written ++ r.bytes ∧ (w.answer r).2.capacity = none := by
  rcases r.write_or_silent with ⟨text, rfl⟩ | silent
  · simp only [answer, write, unbounded, Request.bytes, and_self]
  · obtain ⟨written, capacity⟩ := output_answer_silent silent w
    rw [silent.bytes, Array.appendList_nil]
    exact ⟨written, capacity.trans unbounded⟩

theorem write_unbounded {w : World} (unbounded : w.capacity = none) (bytes : List UInt8) :
    w.write bytes = (.ok (), w.wrote bytes) := by
  simp only [write, unbounded, wrote]

/-- Bytes that fit are written as if the output took everything. -/
theorem write_of_fits {w : World} (unbounded : w.capacity = none) {bytes : List UInt8} {n : Nat}
    (fits : bytes.length ≤ n) :
    (w.taking (some n)).write bytes =
      ((w.write bytes).1, (w.write bytes).2.taking (some (n - bytes.length))) := by
  simp only [write, taking, unbounded, if_pos fits]

/-- Of bytes that do not fit the first ones are written, and then the output takes no more. -/
theorem write_of_exceeds (w : World) {bytes : List UInt8} {n : Nat} (exceeds : n < bytes.length) :
    (w.taking (some n)).write bytes =
      (.error .brokenPipe,
        { w with written := w.written ++ bytes.take n, capacity := some 0 }) := by
  simp only [write, taking, if_neg (Nat.not_le.2 exceeds)]

end World

/-! ### Dialogues -/

namespace Dialogue

variable {α β : Type} {w w' w'' : World} {n : Nat}

/-- A dialogue that asks to write first. -/
def writing (text : String) (next : Except IoError Unit → Dialogue α) : Dialogue α :=
  ask (.write text) next

/-- The bytes that a dialogue asks to write, one request after the other. -/
def output : Dialogue α → World → List UInt8
  | done _, _ => []
  | ask r next, w => r.bytes ++ (next (w.answer r).1).output (w.answer r).2

theorem output_bind (d : Dialogue α) (f : α → Dialogue β) (w : World) :
    (d >>= f).output w = d.output w ++ (f (d.run w).1).output (d.run w).2 := by
  induction d generalizing w with
  | done result => rfl
  | ask r next ih =>
    rw [ask_bind, output, output, ih, List.append_assoc]
    rfl

theorem output_writing (text : String) (next : Except IoError Unit → Dialogue α)
    (unbounded : w.capacity = none) :
    (writing text next).output w = Text.encode text ++
      (next (.ok ())).output (w.wrote (Text.encode text)) :=
  congrArg (fun p : Except IoError Unit × World => Text.encode text ++ (next p.1).output p.2)
    (World.write_unbounded unbounded (Text.encode text))

theorem run_writing (text : String) (next : Except IoError Unit → Dialogue α)
    (unbounded : w.capacity = none) :
    (writing text next).run w =
      (next (.ok ())).run (w.wrote (Text.encode text)) :=
  congrArg (fun p : Except IoError Unit × World => (next p.1).run p.2)
    (World.write_unbounded unbounded (Text.encode text))

/-- A text that fits takes up some of the room. -/
theorem run_writing_of_fits {text : String} (next : Except IoError Unit → Dialogue α)
    (unbounded : w.capacity = none) (fits : (Text.encode text).length ≤ n) :
    (writing text next).run (w.taking (some n)) = (next (.ok ())).run
      ((w.wrote (Text.encode text)).taking (some (n - (Text.encode text).length))) := by
  have write := World.write_of_fits unbounded fits
  rw [World.write_unbounded unbounded] at write
  exact congrArg (fun p : Except IoError Unit × World => (next p.1).run p.2) write

/-- Of a text that does not fit the first bytes are written. -/
theorem run_writing_of_exceeds {text : String} (next : Except IoError Unit → Dialogue α)
    (w : World) (exceeds : n < (Text.encode text).length) :
    (writing text next).run (w.taking (some n)) = (next (.error .brokenPipe)).run
      { w with written := w.written ++ (Text.encode text).take n, capacity := some 0 } :=
  congrArg (fun p : Except IoError Unit × World => (next p.1).run p.2)
    (World.write_of_exceeds w exceeds)

theorem capacity_run (d : Dialogue α) (unbounded : w.capacity = none) :
    (d.run w).2.capacity = none := by
  induction d generalizing w with
  | done result => exact unbounded
  | ask r next ih => exact ih _ (World.output_answer unbounded r).2

/-- An output that takes everything has been written all the bytes at the end. -/
theorem written_run (d : Dialogue α) (unbounded : w.capacity = none) :
    (d.run w).2.written = w.written ++ d.output w := by
  induction d generalizing w with
  | done result => exact Array.appendList_nil.symm
  | ask r next ih =>
    obtain ⟨written, unbounded'⟩ := World.output_answer unbounded r
    rw [run_ask, ih _ unbounded', written, output, appendList_assoc]

/-- If all bytes fit, the dialogue goes the same way and ends in the same way. -/
theorem run_of_fits (d : Dialogue α) (unbounded : w.capacity = none)
    (fits : (d.output w).length ≤ n) :
    d.run (w.taking (some n)) =
      ((d.run w).1, (d.run w).2.taking (some (n - (d.output w).length))) := by
  induction d generalizing w n with
  | done result => rfl
  | ask r next ih =>
    have unbounded' := (World.output_answer unbounded r).2
    rw [output, List.length_append] at fits
    have later := ih (w.answer r).1 unbounded' (n := n - r.bytes.length) (by omega)
    rw [Nat.sub_sub] at later
    rw [run_ask, run_ask, output, List.length_append, ← later]
    rcases r.write_or_silent with ⟨text, rfl⟩ | silent
    · have fits' : (Text.encode text).length ≤ n := Nat.le_trans (Nat.le_add_right ..) fits
      exact congrArg (fun p : Except IoError Unit × World => (next p.1).run p.2)
        (World.write_of_fits unbounded fits')
    · rw [World.answer_taking silent, silent.bytes]
      rfl

/-- What goes on behind a dialogue whose bytes fit has the rest of the room. -/
theorem run_bind_of_fits {d : Dialogue α} {f : α → Dialogue β} (unbounded : w.capacity = none)
    (fits : (d.output w).length ≤ n) :
    (d >>= f).run (w.taking (some n)) =
      (f (d.run w).1).run ((d.run w).2.taking (some (n - (d.output w).length))) := by
  rw [run_bind, d.run_of_fits unbounded fits]

/-! ### What is left of a dialogue -/

/-- With a host in memory, the first dialogue comes to the second one after some requests. -/
inductive Reaches : Dialogue α → World → Dialogue α → World → Prop where
  | refl (d : Dialogue α) (w : World) : Reaches d w d w
  | ask {r : Request} {next : r.Answer → Dialogue α} {w : World} {d : Dialogue α} {w' : World}
      (h : Reaches (next (w.answer r).1) (w.answer r).2 d w') : Reaches (.ask r next) w d w'

theorem Reaches.write {text : String} {next : Except IoError Unit → Dialogue α} {d : Dialogue α}
    (unbounded : w.capacity = none)
    (h : (next (.ok ())).Reaches (w.wrote (Text.encode text)) d w') :
    (writing text next).Reaches w d w' := by
  refine .ask (r := .write text) ?_
  have write := World.write_unbounded unbounded (Text.encode text)
  have same : w.answer (.write text) = w.write (Text.encode text) := rfl
  rw [same, write]
  exact h

theorem Reaches.bind {d d' : Dialogue α} (h : d.Reaches w d' w') (f : α → Dialogue β) :
    (d >>= f).Reaches w (d' >>= f) w' := by
  induction h with
  | refl d w => exact .refl _ w
  | ask _ ih => exact .ask ih

/-- What goes on behind a dialogue is reached through that dialogue. -/
theorem Reaches.behind {d : Dialogue α} {f : α → Dialogue β} {d' : Dialogue β}
    (h : (f (d.run w).1).Reaches (d.run w).2 d' w') : (d >>= f).Reaches w d' w' := by
  induction d generalizing w with
  | done result => exact h
  | ask r next ih => exact .ask (ih _ h)

/-! ### Dialogues that are cut off -/

/-- With room for `n` more bytes the dialogue goes the way that it goes with an output that takes
everything, up to a request to write a text for which there is no room, when the host is `w'`.  It
gives up there: its result is the one that it then has at once, the bytes that fit have been
written, and in everything else the host is left as it was at that request. -/
def CutOff (d : Dialogue α) (w : World) (n : Nat) (text : String) (w' : World) : Prop :=
  ∃ next, d.Reaches w (writing text next) w' ∧
    w'.written.size ≤ w.written.size + n ∧
    w.written.size + n < w'.written.size + (Text.encode text).length ∧
    next (.error .brokenPipe) = .done (d.run (w.taking (some n))).1 ∧
    (d.run (w.taking (some n))).2 =
      { w' with written := w.written ++ (d.output w).take n, capacity := some 0 }

namespace CutOff

variable {d : Dialogue α} {text : String}

/-- Exactly the bytes that fit have been written. -/
theorem written (h : d.CutOff w n text w') :
    (d.run (w.taking (some n))).2.written = w.written ++ (d.output w).take n := by
  obtain ⟨_, _, _, _, _, host⟩ := h
  rw [host]

/-- A dialogue is cut off where it asks to write a text that does not fit, if that is its end. -/
theorem here {next : Except IoError Unit → Dialogue α} {result : α} (unbounded : w.capacity = none)
    (exceeds : n < (Text.encode text).length) (ended : next (.error .brokenPipe) = .done result) :
    (Dialogue.writing text next).CutOff w n text w ∧
      ((Dialogue.writing text next).run (w.taking (some n))).1 = result := by
  have run := run_writing_of_exceeds next w exceeds
  rw [ended, run_done] at run
  refine ⟨⟨next, .refl _ w, Nat.le_add_right .., by omega, ?_, ?_⟩, ?_⟩
  · rw [run, ended]
  · rw [run, output_writing _ _ unbounded, List.take_append_of_le_length (Nat.le_of_lt exceeds)]
  · rw [run]

/-- A request to write nothing does not matter. -/
theorem ask {r : Request} {next : r.Answer → Dialogue α} (silent : r.Silent)
    (unbounded : w.capacity = none)
    (h : (next (w.answer r).1).CutOff (w.answer r).2 n text w') :
    (Dialogue.ask r next).CutOff w n text w' := by
  obtain ⟨rest, reaches, before, beyond, ended, host⟩ := h
  have written := (World.output_answer unbounded r).1
  rw [silent.bytes, Array.appendList_nil] at written
  rw [written] at before beyond host
  refine ⟨rest, .ask reaches, before, beyond, ?_, ?_⟩
  · rw [run_ask, World.answer_taking silent, ended]
  · rw [run_ask, World.answer_taking silent, host, output, silent.bytes, List.nil_append]

/-- A text for which there is room takes up some of it. -/
theorem writing {first : String} {next : Except IoError Unit → Dialogue α}
    (unbounded : w.capacity = none) (fits : (Text.encode first).length ≤ n)
    (h : (next (.ok ())).CutOff (w.wrote (Text.encode first)) (n - (Text.encode first).length)
      text w') : (Dialogue.writing first next).CutOff w n text w' := by
  obtain ⟨rest, reaches, before, beyond, ended, host⟩ := h
  have run := run_writing_of_fits next unbounded fits
  simp only [World.wrote, size_appendList] at before beyond
  refine ⟨rest, .write unbounded reaches, by omega, by omega, ?_, ?_⟩
  · rw [run, ended]
  · rw [run, host, output_writing _ _ unbounded, List.take_append, List.take_of_length_le fits,
      ← appendList_assoc]
    rfl

/-- What goes on behind a dialogue that is cut off is not done, if it is over at once there. -/
theorem bind {f : α → Dialogue β} {b : β} (h : d.CutOff w n text w')
    (exceeds : n < (d.output w).length) (early : f (d.run (w.taking (some n))).1 = .done b) :
    (d >>= f).CutOff w n text w' := by
  obtain ⟨rest, reaches, before, beyond, ended, host⟩ := h
  have run : (d >>= f).run (w.taking (some n)) = (b, (d.run (w.taking (some n))).2) := by
    rw [run_bind, early, run_done]
  refine ⟨fun answer => rest answer >>= f, reaches.bind f, before, beyond, ?_, ?_⟩
  · rw [run]
    dsimp only
    rw [ended]
    exact early
  · rw [run, host, output_bind, List.take_append_of_le_length (Nat.le_of_lt exceeds)]

/-- What goes on behind a dialogue for which there is room has the rest of the room. -/
theorem behind {f : α → Dialogue β} (unbounded : w.capacity = none)
    (fits : (d.output w).length ≤ n)
    (h : (f (d.run w).1).CutOff (d.run w).2 (n - (d.output w).length) text w') :
    (d >>= f).CutOff w n text w' := by
  obtain ⟨rest, reaches, before, beyond, ended, host⟩ := h
  have run := run_bind_of_fits (f := f) unbounded fits
  rw [d.written_run unbounded, size_appendList] at before beyond
  rw [d.written_run unbounded] at host
  refine ⟨rest, reaches.behind, by omega, by omega, ?_, ?_⟩
  · rw [run, ended]
  · rw [run, host, output_bind, List.take_append, List.take_of_length_le fits, ← appendList_assoc]

end CutOff

/-! ### Dialogues that break off -/

/-- Wherever the dialogue asks to write, and the answer is an error, it asks nothing more: it ends
with a result that `Q` allows for this text and this error. -/
inductive BreaksOff (Q : String → IoError → α → Prop) : Dialogue α → Prop where
  | done (result : α) : BreaksOff Q (.done result)
  | write {text : String} {next : Except IoError Unit → Dialogue α}
      (failed : ∀ why, ∃ result, next (.error why) = .done result ∧ Q text why result)
      (later : BreaksOff Q (next (.ok ()))) : BreaksOff Q (writing text next)
  | ask {r : Request} {next : r.Answer → Dialogue α} (silent : r.Silent)
      (later : ∀ answer, BreaksOff Q (next answer)) : BreaksOff Q (.ask r next)

namespace BreaksOff

variable {Q : String → IoError → α → Prop} {d : Dialogue α}

/-- A request to write nothing comes first. -/
theorem requesting {r : Request} {f : r.Answer → Dialogue α} (silent : r.Silent)
    (later : ∀ answer, (f answer).BreaksOff Q) : (Dialogue.request r >>= f).BreaksOff Q :=
  .ask silent later

/-- Dialogues one behind the other break off if the second one ends at once behind a failed write of
the first one. -/
theorem bind {R : String → IoError → β → Prop} {f : α → Dialogue β} (h : d.BreaksOff Q)
    (early : ∀ text why a, Q text why a → ∃ b, f a = .done b ∧ R text why b)
    (next : ∀ a, d.MayEnd a → (f a).BreaksOff R) : (d >>= f).BreaksOff R := by
  induction h with
  | done result => exact next result (.done result)
  | @write text rest failed _ ih =>
    refine .write (fun why => ?_) (ih fun a ends => next a (.ask (r := .write text) (.ok ()) ends))
    obtain ⟨a, ended, hq⟩ := failed why
    obtain ⟨b, same, hr⟩ := early _ _ _ hq
    refine ⟨b, ?_, hr⟩
    rw [ended]
    exact same
  | ask silent _ ih =>
    exact .ask silent fun answer => ih answer fun a ends => next a (.ask answer ends)

/-- If not all bytes fit, the dialogue is cut off, at its first request to write for which there is
no room. -/
theorem cutOff (h : d.BreaksOff Q) (unbounded : w.capacity = none)
    (exceeds : n < (d.output w).length) :
    ∃ text w', d.CutOff w n text w' ∧ Q text .brokenPipe (d.run (w.taking (some n))).1 := by
  induction h generalizing w n with
  | done result => exact absurd exceeds (Nat.not_lt_zero n)
  | @write text next failed _ ih =>
    by_cases fits : (Text.encode text).length ≤ n
    · -- There is room for this text, and what is left of the room is for the later ones.
      rw [output_writing _ _ unbounded, List.length_append] at exceeds
      obtain ⟨text', w', cut, hq⟩ := ih (w := w.wrote (Text.encode text))
        unbounded (n := n - (Text.encode text).length) (by omega)
      refine ⟨text', w', cut.writing unbounded fits, ?_⟩
      rw [run_writing_of_fits _ unbounded fits]
      exact hq
    · obtain ⟨result, ended, hq⟩ := failed .brokenPipe
      obtain ⟨cut, same⟩ := CutOff.here unbounded (Nat.not_le.1 fits) ended
      refine ⟨text, w, cut, ?_⟩
      rw [same]
      exact hq
  | @ask r next silent _ ih =>
    have unbounded' := (World.output_answer unbounded r).2
    rw [output, silent.bytes, List.nil_append] at exceeds
    obtain ⟨text, w', cut, hq⟩ := ih _ unbounded' exceeds
    refine ⟨text, w', cut.ask silent unbounded, ?_⟩
    rw [run_ask, World.answer_taking silent]
    exact hq

end BreaksOff

end Dialogue

end ScriptLang

import Mathlib.Data.List.DropRight
import ScriptLang.Proofs.Rounds

/-!
# The lines of the input

The input is cut behind each of its line breaks.  Whoever reads, the host or a script, takes the
next line as a whole, be it a text or not, so that all reads together go through the lines in their
order.  What a read yields is the line without its terminator, and without the carriage returns that
are left then at its end.

## Main definitions

* `inputLines` — the lines of an input, each with its line break
* `unterminated` — a text without its line terminator
* `Yields` — what a read should make of a line
* `Reads`, `Interleaved` — one read, and reads in any order with other work in between

## Main results

* `run_readLine_eq` — a read as a function of the line
* `trimLineEnd_eq` — what is lost beside the terminator
* `interleaved_reads` — reads go through the lines one by one
-/

namespace ScriptLang

variable {bytes front : List UInt8} {w w' : World}

/-! ### Lines -/

/-- The lines of an input, each with its line break.  The last one need not have one. -/
def inputLines : List UInt8 → List (List UInt8)
  | [] => []
  | b :: rest =>
    if b = 10 then [b] :: inputLines rest
    else
      match inputLines rest with
      | [] => [[b]]
      | line :: later => (b :: line) :: later

theorem inputLines_of_notMem (single : 10 ∉ bytes) (some : bytes ≠ []) :
    inputLines bytes = [bytes] := by
  induction bytes with
  | nil => exact absurd rfl some
  | cons b bytes ih =>
    rw [List.mem_cons, not_or] at single
    obtain ⟨ne, single⟩ := single
    rw [inputLines, if_neg (Ne.symm ne)]
    cases bytes with
    | nil => rfl
    | cons c bytes => rw [ih single (List.cons_ne_nil _ _)]

theorem inputLines_append (single : 10 ∉ front) (rest : List UInt8) :
    inputLines (front ++ 10 :: rest) = (front ++ [10]) :: inputLines rest := by
  induction front with
  | nil => rfl
  | cons b front ih =>
    rw [List.mem_cons, not_or] at single
    obtain ⟨ne, single⟩ := single
    rw [List.cons_append, inputLines, if_neg (Ne.symm ne), ih single]
    rfl

/-- Nothing is lost between the lines. -/
theorem flatten_inputLines (bytes : List UInt8) : (inputLines bytes).flatten = bytes := by
  induction bytes with
  | nil => rfl
  | cons b rest ih =>
    rw [inputLines]
    split
    · rw [List.flatten_cons, ih]
      rfl
    · split
      · next none =>
        rw [none] at ih
        rw [← ih]
        rfl
      · next line later lines =>
        rw [lines] at ih
        rw [← ih]
        rfl

/-- A line that stands alone, with or without a line break behind it. -/
inductive IsLine : List UInt8 → Prop where
  | unended {bytes : List UInt8} (single : 10 ∉ bytes) (some : bytes ≠ []) : IsLine bytes
  | ended {bytes : List UInt8} (single : 10 ∉ bytes) : IsLine (bytes ++ [10])

theorem IsLine.ne_nil (line : IsLine bytes) : bytes ≠ [] := by
  cases line with
  | unended single some => exact some
  | ended single => exact List.concat_ne_nil _ _

/-- The first line of an input, and the lines behind it. -/
theorem inputLines_eq_cons (some : bytes ≠ []) :
    IsLine (World.splitLine bytes).1 ∧
      inputLines bytes = (World.splitLine bytes).1 :: inputLines (World.splitLine bytes).2 := by
  by_cases broken : 10 ∈ bytes
  · obtain ⟨front, rest, rfl, single⟩ := List.eq_append_cons_of_mem broken
    rw [World.splitLine_append single, inputLines_append single]
    exact ⟨.ended single, rfl⟩
  · rw [World.splitLine_of_notMem broken, inputLines_of_notMem broken some]
    exact ⟨.unended broken some, rfl⟩

/-! ### Line terminators -/

/-- A text without the line terminator at its end, which is a line break, or a carriage return and a
line break. -/
def unterminated (s : String) : String :=
  let cs := s.toList
  String.ofList (if ['\r', '\n'] <:+ cs then cs.dropLast.dropLast
    else if ['\n'] <:+ cs then cs.dropLast else cs)

/-- A text without the carriage returns at its end. -/
def dropReturns (s : String) : String :=
  String.ofList (s.toList.rdropWhile (· == '\r'))

theorem rdropWhile_congr {p q : Char → Bool} {cs : List Char} (same : ∀ c ∈ cs, p c = q c) :
    cs.rdropWhile p = cs.rdropWhile q := by
  induction cs using List.reverseRecOn with
  | nil => rfl
  | append_singleton cs c ih =>
    have ih := ih fun c mem => same c (List.mem_append_left _ mem)
    rw [List.rdropWhile_concat, List.rdropWhile_concat, ih, same c (by simp)]

theorem trimLineEnd_eq_rdropWhile (s : String) :
    trimLineEnd s = String.ofList (s.toList.rdropWhile fun c => c == '\n' || c == '\r') := rfl

theorem rdropWhile_of_notMem {cs : List Char} (single : '\n' ∉ cs) :
    cs.rdropWhile (fun c => c == '\n' || c == '\r') = cs.rdropWhile (· == '\r') := by
  apply rdropWhile_congr
  intro c mem
  have other : (c == '\n') = false := beq_false_of_ne (ne_of_mem_of_not_mem mem single)
  rw [other, Bool.false_or]

theorem newline_notMem_flatMap {cs : List Char} (single : '\n' ∉ cs) :
    10 ∉ cs.flatMap String.utf8EncodeChar := by
  intro mem
  obtain ⟨c, mem, byte⟩ := List.mem_flatMap.1 mem
  exact single (Text.newline_of_mem_utf8EncodeChar byte ▸ mem)

theorem eq_nil_of_flatMap {cs : List Char} (none : cs.flatMap String.utf8EncodeChar = []) :
    cs = [] := by
  refine List.eq_nil_iff_forall_not_mem.2 fun c mem => ?_
  obtain ⟨b, bs, char, -⟩ := Text.readScalar_utf8EncodeChar c []
  rw [List.flatMap_eq_nil_iff.1 none c mem] at char
  cases char

/-- A text that makes a line has a line break at its end only. -/
theorem IsLine.toList {s : String} (line : IsLine (Text.encode s)) :
    '\n' ∉ s.toList ∨ ∃ cs, s.toList = cs ++ ['\n'] ∧ '\n' ∉ cs := by
  by_cases broken : '\n' ∈ s.toList
  · obtain ⟨cs, cs', text, single⟩ := List.eq_append_cons_of_mem broken
    have bytes : Text.encode s =
        cs.flatMap String.utf8EncodeChar ++ 10 :: cs'.flatMap String.utf8EncodeChar := by
      rw [Text.encode_eq_flatMap, text, List.flatMap_append, List.flatMap_cons]
      rfl
    -- Both cuts are made behind the first line break, so nothing is left behind it.
    have split := World.splitLine_append (newline_notMem_flatMap single)
      (cs'.flatMap String.utf8EncodeChar)
    rw [← bytes] at split
    have none : cs'.flatMap String.utf8EncodeChar = [] := by
      generalize Text.encode s = line' at line bytes split
      cases line with
      | unended single' => exact absurd (bytes ▸ by simp) single'
      | ended single' =>
        rw [World.splitLine_append single'] at split
        exact (congrArg Prod.snd split).symm
    rw [eq_nil_of_flatMap none] at text
    exact .inr ⟨cs, text, single⟩
  · exact .inl broken

/-- All that is lost at the end of a line are its terminator and the carriage returns in front of
it. -/
theorem trimLineEnd_eq {s : String} (line : IsLine (Text.encode s)) :
    trimLineEnd s = dropReturns (unterminated s) := by
  rw [trimLineEnd_eq_rdropWhile, dropReturns, unterminated, String.toList_ofList]
  congr 1
  obtain single | ⟨cs, text, single⟩ := line.toList
  · have noBreak : ¬['\n'] <:+ s.toList := fun ends => single (ends.subset (by simp))
    have noPair : ¬['\r', '\n'] <:+ s.toList := fun ends => single (ends.subset (by simp))
    rw [if_neg noPair, if_neg noBreak, rdropWhile_of_notMem single]
  · rw [text, List.rdropWhile_concat_pos _ _ _ (by decide), rdropWhile_of_notMem single]
    by_cases pair : ['\r', '\n'] <:+ cs ++ ['\n']
    · obtain ⟨cs', pair'⟩ := id pair
      have same : cs' ++ ['\r'] ++ ['\n'] = cs ++ ['\n'] := by simpa using pair'
      obtain rfl := List.append_cancel_right same
      rw [if_pos pair, List.dropLast_concat, List.dropLast_concat,
        List.rdropWhile_concat_pos _ _ _ (by decide)]
    · rw [if_neg pair, if_pos (List.suffix_append _ _), List.dropLast_concat]

/-! ### Reads -/

/-- What is made of the bytes of a line; no bytes are the end of the input. -/
def lineResult : List UInt8 → Except IoError (Option String)
  | [] => .ok none
  | b :: bytes =>
    match Text.decodeStrict? (b :: bytes) with
    | some s => .ok (some (trimLineEnd s))
    | none => .error .notText

/-- A read takes the next line, whatever it makes of it. -/
theorem run_readLine_eq (w : World) :
    readLine.run w = (lineResult (World.splitLine w.unread).1,
      w.between w.written (World.splitLine w.unread).2) := by
  simp only [readLine, Dialogue.request, Dialogue.ask_bind, Dialogue.run_ask, World.answer,
    Dialogue.done_bind]
  cases (World.splitLine w.unread).1 with
  | nil => rfl
  | cons b bytes =>
    dsimp only [lineResult]
    cases Text.decodeStrict? (b :: bytes) <;> rfl

/-- What a call of `input` comes to when it reads. -/
def inputResult : Except IoError (Option String) → Except RuntimeFault Value
  | .ok none => .ok .nil
  | .ok (some line) => .ok (.string line)
  | .error e => .error (.inputFailed e)

theorem unread_write (w : World) (bytes : List UInt8) : (w.write bytes).2.unread = w.unread := by
  unfold World.write
  split
  · rfl
  · split <;> rfl

/-- A call of `input` reads, unless its prompt cannot be written. -/
theorem run_input_cases (args : List Value) (w : World) :
    (∃ w₁, w₁.unread = w.unread ∧ (Builtin.run .input args).run w =
      (inputResult (readLine.run w₁).1, (readLine.run w₁).2)) ∨
    ∃ e w₁, w₁.unread = w.unread ∧
      (Builtin.run .input args).run w = (.error (.promptFailed e), w₁) := by
  simp only [Builtin.run, Builtin.runInput, Dialogue.request, Dialogue.ask_bind, Dialogue.run_ask,
    Dialogue.done_bind, World.answer]
  generalize Text.encode ((args.head?.map Value.text).getD "") = prompt
  have kept := unread_write w prompt
  generalize w.write prompt = written at kept
  obtain ⟨written | written, w₁⟩ := written
  · exact .inr ⟨written, w₁, kept, rfl⟩
  by_cases stuck : w₁.flushFails = true
  · have answer : w₁.answer .flush = (.error .brokenPipe, w₁) :=
      congrArg (·, w₁) (if_pos stuck)
    refine .inr ⟨.brokenPipe, w₁, kept, ?_⟩
    rw [Dialogue.run_ask, answer]
    rfl
  · have answer : w₁.answer .flush = (.ok (), w₁) :=
      congrArg (·, w₁) (if_neg stuck)
    refine .inl ⟨w₁, kept, ?_⟩
    rw [Dialogue.run_ask, answer]
    simp only [Dialogue.run_bind]
    obtain ⟨_ | _ | _, w₂⟩ := readLine.run w₁ <;> rfl

/-- One read of the next line, by the host or by a script, and what it yields. -/
inductive Reads (w : World) (y : Except IoError (Option String)) (w' : World) : Prop where
  | line (ends : readLine.run w = (y, w'))
  | input (args : List Value) (ends : (Builtin.run .input args).run w = (inputResult y, w'))

theorem inputResult_injective {y y' : Except IoError (Option String)}
    (same : inputResult y = inputResult y') : y = y' := by
  obtain e | _ | line := y <;> obtain e' | _ | line' := y' <;> cases same <;> rfl

/-- Every read yields what is made of the next line, and leaves the lines behind it. -/
theorem Reads.eq {y : Except IoError (Option String)} (h : Reads w y w') :
    y = lineResult (World.splitLine w.unread).1 ∧
      w'.unread = (World.splitLine w.unread).2 := by
  cases h with
  | line ends =>
    rw [run_readLine_eq] at ends
    cases ends
    exact ⟨rfl, rfl⟩
  | input args ends =>
    obtain ⟨w₁, kept, reads⟩ | ⟨e, w₁, -, prompt⟩ := run_input_cases args w
    · rw [reads, run_readLine_eq, kept] at ends
      obtain ⟨result, host⟩ := Prod.mk.inj ends
      exact ⟨(inputResult_injective result).symm, host ▸ rfl⟩
    · rw [prompt] at ends
      obtain ⟨result, -⟩ := Prod.mk.inj ends
      obtain _ | _ | _ := y <;> cases result

/-- Reads one after the other, and what they yield.  Whatever is done in between leaves the input
alone. -/
inductive Interleaved : World → List (Except IoError (Option String)) → World → Prop where
  | none (w : World) : Interleaved w [] w
  | read {w w₁ w' : World} {y : Except IoError (Option String)}
      {ys : List (Except IoError (Option String))} (first : Reads w y w₁)
      (later : Interleaved w₁ ys w') : Interleaved w (y :: ys) w'
  | other {w w₁ w' : World} {ys : List (Except IoError (Option String))}
      (kept : w₁.unread = w.unread) (later : Interleaved w₁ ys w') : Interleaved w ys w'

/-! ### What reads yield -/

/-- What a read should make of a line, or of the end of the input: the text without its line
terminator, or an error if the line is no text. -/
inductive Yields : Option (List UInt8) → Except IoError (Option String) → Prop where
  | nothing : Yields none (.ok none)
  | noText {line : List UInt8} (invalid : ∀ s, Text.encode s ≠ line) :
      Yields (some line) (.error .notText)
  | text (s : String) : Yields (some (Text.encode s)) (.ok (some (unterminated s)))

/-- Without its line terminator the text of the line ends in a carriage return. -/
def EndsInReturn (line : Option (List UInt8)) : Prop :=
  ∃ s, line = some (Text.encode s) ∧ (unterminated s).toList.getLast? = some '\r'

/-- What a read makes of a line, or of the end of the input. -/
structure ReadsAs (line : Option (List UInt8)) (y : Except IoError (Option String)) : Prop where
  /-- It does what it should do, unless a carriage return is left at the end. -/
  exact : Yields line y ↔ ¬EndsInReturn line
  /-- Nothing is lost but carriage returns at the end. -/
  kept {s : String} (text : line = some (Text.encode s)) :
    y = .ok (some (dropReturns (unterminated s)))

theorem Yields.eq {s : String} {y : Except IoError (Option String)}
    (h : Yields (some (Text.encode s)) y) : y = .ok (some (unterminated s)) := by
  generalize text : some (Text.encode s) = line at h
  cases h with
  | nothing => cases text
  | noText invalid => exact absurd (Option.some.inj text) (invalid s)
  | text s' => rw [Text.encode_injective (Option.some.inj text)]

theorem dropReturns_eq_self_iff (s : String) :
    dropReturns s = s ↔ s.toList.getLast? ≠ some '\r' := by
  have same : dropReturns s = s ↔ s.toList.rdropWhile (· == '\r') = s.toList := by
    rw [dropReturns, ← String.toList_inj, String.toList_ofList]
  rw [same, List.rdropWhile_eq_self_iff]
  cases last : s.toList.getLast? with
  | none =>
    rw [List.getLast?_eq_none_iff.1 last]
    simp
  | some c =>
    obtain ⟨cs, text⟩ := List.getLast?_eq_some_iff.1 last
    simp [text]

/-- Reading makes a line the text that it is, but for carriage returns at its end. -/
theorem readsAs_lineResult (line : IsLine bytes) : ReadsAs (some bytes) (lineResult bytes) := by
  have result : lineResult bytes = match Text.decodeStrict? bytes with
      | some s => .ok (some (trimLineEnd s))
      | none => .error .notText := by
    cases bytes with
    | nil => exact absurd rfl line.ne_nil
    | cons b bytes => rfl
  rw [result]
  cases decoded : Text.decodeStrict? bytes with
  | none =>
    have invalid (s : String) : Text.encode s ≠ bytes := by
      rintro rfl
      rw [Text.decodeStrict?_encode] at decoded
      cases decoded
    constructor
    · refine iff_of_true (.noText invalid) ?_
      rintro ⟨s, text, -⟩
      exact invalid s (Option.some.inj text).symm
    · intro s text
      exact absurd (Option.some.inj text).symm (invalid s)
  | some s =>
    obtain rfl := Text.encode_of_decodeStrict? decoded
    have only {s' : String} (text : some (Text.encode s) = some (Text.encode s')) : s' = s :=
      (Text.encode_injective (Option.some.inj text)).symm
    dsimp only
    rw [trimLineEnd_eq line]
    constructor
    · constructor
      · rintro yields ⟨s', text, ends⟩
        obtain rfl := only text
        have self := Option.some.inj (Except.ok.inj yields.eq)
        exact (dropReturns_eq_self_iff _).1 self ends
      · intro clean
        have self : dropReturns (unterminated s) = unterminated s :=
          (dropReturns_eq_self_iff _).2 fun ends => clean ⟨s, rfl, ends⟩
        rw [self]
        exact .text s
    · intro s' text
      rw [only text]

/-- A read is a reading of the next line, and the other lines come next. -/
theorem Reads.readsAs {y : Except IoError (Option String)} (h : Reads w y w') :
    ReadsAs (inputLines w.unread).head? y ∧ inputLines w'.unread = (inputLines w.unread).tail := by
  obtain ⟨rfl, left⟩ := h.eq
  rw [left]
  by_cases some : w.unread = []
  · rw [some]
    refine ⟨⟨iff_of_true .nothing ?_, ?_⟩, rfl⟩
    · rintro ⟨s, text, -⟩
      cases text
    · intro s text
      cases text
  · obtain ⟨line, lines⟩ := inputLines_eq_cons some
    rw [lines]
    exact ⟨readsAs_lineResult line, rfl⟩

/-- The reads go through the lines of the input one by one, whoever reads and whatever is done in
between, and behind the last line nothing is left. -/
theorem interleaved_reads {ys : List (Except IoError (Option String))} (h : Interleaved w ys w') :
    (∀ {k : ℕ} {y}, ys[k]? = some y → ReadsAs (inputLines w.unread)[k]? y) ∧
      w'.unread = ((inputLines w.unread).drop ys.length).flatten := by
  induction h with
  | none w =>
    refine ⟨fun none => ?_, (flatten_inputLines w.unread).symm⟩
    cases none
  | @read w w₁ w' y ys first later ih =>
    obtain ⟨now, lines⟩ := first.readsAs
    rw [lines] at ih
    obtain ⟨behind, left⟩ := ih
    constructor
    · intro k y' found
      cases k with
      | zero =>
        cases found
        rwa [List.head?_eq_getElem?] at now
      | succ k =>
        rw [← List.getElem?_tail]
        exact behind found
    · rw [left, List.drop_tail, List.length_cons]
  | other kept later ih => rwa [kept] at ih

/-- The host reads a line, and then a script finds the end of the input. -/
theorem interleaved_reads_last :
    Interleaved { unread := Text.encode "a\r\n" } [.ok (some "a"), .ok none]
        ((Builtin.run .input []).run {}).2 ∧
      ReadsAs (inputLines (Text.encode "a\r\n"))[1]? (.ok none) := by
  have first : readLine.run { unread := Text.encode "a\r\n" } = (.ok (some "a"), {}) :=
    run_readLine (by decide : "a\r\n" ≠ "") rfl
  have reads : Interleaved { unread := Text.encode "a\r\n" } [.ok (some "a"), .ok none]
      ((Builtin.run .input []).run {}).2 :=
    .read (.line first) (.read (.input [] (Prod.ext rfl rfl)) (.none _))
  exact ⟨reads, (interleaved_reads reads).1 rfl⟩

/-- Of two carriage returns in front of a line break both are lost. -/
theorem not_yields_returns :
    Reads { unread := Text.encode "a\r\r\n" } (.ok (some "a")) {} ∧
      inputLines (Text.encode "a\r\r\n") = [Text.encode "a\r\r\n"] ∧
      unterminated "a\r\r\n" = "a\r" ∧
      ¬Yields (some (Text.encode "a\r\r\n")) (.ok (some "a")) := by
  have first : readLine.run { unread := Text.encode "a\r\r\n" } = (.ok (some "a"), {}) :=
    run_readLine (by decide : "a\r\r\n" ≠ "") rfl
  have text : unterminated "a\r\r\n" = "a\r" := by decide
  refine ⟨.line first, rfl, text, fun yields => ?_⟩
  have same := yields.eq
  rw [text] at same
  exact absurd same (by decide)

end ScriptLang

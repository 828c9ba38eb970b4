import ScriptLang.CommandLine
import ScriptLang.Proofs.Input
import ScriptLang.Proofs.Trimmed
import ScriptLang.Proofs.Utf8

/-!
# Rounds of the prompt

The prompt goes round by round: it shows itself, reads a line, trims it and runs what is left as the
next unit of its session.  An error of the line is shown, and the next round starts with the session
that the line has left.

## Main definitions

* `InputOf` — the bytes of an input that holds lines
* `CommandLine.round` — one round of the prompt
* `CommandLine.Reaches` — rounds one after the other

## Main results

* `CommandLine.runPrompt_succ` — the prompt is made of rounds
* `CommandLine.run_round_of_line`, `CommandLine.run_round_of_end` — a round with a line, and one
  without
* `CommandLine.run_runPrompt_of_reaches` — behind some rounds the prompt goes on
-/

namespace ScriptLang

/-! ### Reading lines -/

/-- The bytes of an input that holds lines.  Each line has its line break, which the last one may do
without if it is not empty. -/
inductive InputOf : List String → List UInt8 → Prop
  | none : InputOf [] []
  | last {line : String} (some : line ≠ "") : InputOf [line] (Text.encode line)
  | line {line : String} {later : List String} {rest : List UInt8} (h : InputOf later rest) :
      InputOf (line :: later) (Text.encode line ++ 10 :: rest)

variable {line : String} {later : List String} {w : World}

namespace World

theorem splitLine_of_notMem {bytes : List UInt8} (single : 10 ∉ bytes) :
    splitLine bytes = (bytes, []) := by
  induction bytes with
  | nil => rfl
  | cons b bytes ih =>
    rw [List.mem_cons, not_or] at single
    obtain ⟨ne, single⟩ := single
    rw [splitLine, if_neg (Ne.symm ne), ih single]

theorem splitLine_append {bytes : List UInt8} (single : 10 ∉ bytes) (rest : List UInt8) :
    splitLine (bytes ++ 10 :: rest) = (bytes ++ [10], rest) := by
  induction bytes with
  | nil => rfl
  | cons b bytes ih =>
    rw [List.mem_cons, not_or] at single
    obtain ⟨ne, single⟩ := single
    rw [List.cons_append, splitLine, if_neg (Ne.symm ne), ih single]
    rfl

end World

theorem Text.encode_ne_nil {s : String} (filled : s ≠ "") : encode s ≠ [] := by
  intro none
  have decoded := decodeStrict?_encode s
  have empty : decodeStrict? [] = some "" := by
    rw [decodeStrict?, scalars]
    rfl
  rw [none, empty] at decoded
  exact filled (Option.some.inj decoded).symm

/-- A line that is a text is read as that text without what ends it. -/
theorem run_readLine {text : String} (filled : text ≠ "")
    (first : (World.splitLine w.unread).1 = Text.encode text) :
    readLine.run w = (.ok (some (trimLineEnd text)),
      w.between w.written (World.splitLine w.unread).2) := by
  have answer : w.answer .readLine =
      (.ok (Text.encode text), w.between w.written (World.splitLine w.unread).2) := by
    rw [World.answer, first]
    rfl
  -- No bytes would mean that the input has come to its end.
  have filled' := Text.encode_ne_nil filled
  have decoded := Text.decodeStrict?_encode text
  generalize Text.encode text = bytes at answer filled' decoded
  cases bytes with
  | nil => exact absurd rfl filled'
  | cons b bytes =>
    simp only [readLine, Dialogue.request, Dialogue.ask_bind, Dialogue.run_ask, answer,
      Dialogue.done_bind, decoded]
    rfl

/-- At its end nothing is read. -/
theorem run_readLine_of_nil (none : w.unread = []) :
    readLine.run w = (.ok Option.none, w) := by
  have answer : w.answer .readLine = (.ok [], w) := by
    rw [World.answer, none, World.splitLine]
    cases w
    cases none
    rfl
  simp only [readLine, Dialogue.request, Dialogue.ask_bind, Dialogue.run_ask, answer,
    Dialogue.done_bind]
  rfl

/-- A line of the input is read, and the lines behind it are left. -/
theorem InputOf.run_readLine (input : InputOf (line :: later) w.unread)
    (single : '\n' ∉ line.toList) :
    ∃ text rest, readLine.run w = (.ok (some text), w.between w.written rest) ∧
      Text.trim text = Text.trim line ∧ InputOf later rest := by
  have single' : 10 ∉ Text.encode line := fun h => single (Text.newline_of_mem_encode h)
  generalize unread : w.unread = bytes at input
  cases input with
  | last filled =>
    have split : World.splitLine w.unread = (Text.encode line, []) := by
      rw [unread, World.splitLine_of_notMem single']
    refine ⟨_, _, ScriptLang.run_readLine filled (congrArg Prod.fst split), ?_, ?_⟩
    · exact Text.trim_trimLineEnd line
    · rw [split]
      exact .none
  | @line _ _ rest input =>
    have split : World.splitLine w.unread = (Text.encode (line ++ "\n"), rest) := by
      rw [unread, World.splitLine_append single', Text.encode_append, Text.encode_newline]
    have filled : line ++ "\n" ≠ "" := by simp
    refine ⟨_, _, ScriptLang.run_readLine filled (congrArg Prod.fst split), ?_, ?_⟩
    · rw [Text.trim_trimLineEnd, Text.trim_append_newline]
    · rw [split]
      exact input

/-! ### Rounds -/

namespace CommandLine

/-- How a round of the prompt ends: with an exit code, or with the session for the next round. -/
inductive Round where
  | exit (code : Nat)
  | next (session : Session)

/-- One round of the prompt: a line is asked for and run. -/
def round (fuel : Nat) (listings : Listings) (session : Session) : Dialogue Round := do
  match ← writePrompt with
  | .error _ => return .exit exitIo
  | .ok _ =>
    match ← readLine with
    | .error why =>
      Dialogue.request (.report ("Could not read input: " ++ why.message))
      return .exit exitIo
    | .ok none => return .exit exitOk
    | .ok (some line) =>
      let line := Text.trim line
      if line = "" ∨ line = "exit" then return .exit exitOk
      let (result, session) ← (Session.run fuel listings line).run.run session
      match result with
      | .ok _ => return .next session
      | .error e =>
        reportLines e.report
        return .next session

variable {fuel n m : Nat} {listings : Listings} {s s' : Session} {v v' : World}

/-- The prompt is made of rounds. -/
theorem runPrompt_succ (fuel : Nat) (listings : Listings) (n : Nat) (s : Session) :
    runPrompt fuel listings (n + 1) s = (do
      match ← round fuel listings s with
      | .exit code => return code
      | .next s => runPrompt fuel listings n s) := by
  rw [runPrompt, round, bind_assoc]
  congr 1
  funext shown
  cases shown with
  | error _ => rfl
  | ok _ =>
    simp only [bind_assoc]
    congr 1
    funext answer
    rcases answer with _ | _ | line
    · rfl
    · rfl
    · dsimp only
      split
      · rfl
      · simp only [bind_assoc]
        congr 1
        funext p
        rcases p with ⟨_ | _, _⟩
        · simp
        · rfl

/-- Rounds one after the other, none of which ends the prompt. -/
inductive Reaches (fuel : Nat) (listings : Listings) :
    Nat → Session × World → Session × World → Prop
  | none (c : Session × World) : Reaches fuel listings 0 c c
  | round {n : Nat} {s s' : Session} {v v' : World} {c : Session × World}
      (first : (round fuel listings s).run v = (.next s', v'))
      (later : Reaches fuel listings n (s', v') c) : Reaches fuel listings (n + 1) (s, v) c

/-- One more round. -/
theorem Reaches.concat {c : Session × World} (h : Reaches fuel listings n c (s, v))
    (last : (CommandLine.round fuel listings s).run v = (.next s', v')) :
    Reaches fuel listings (n + 1) c (s', v') := by
  generalize same : (s, v) = c' at h
  induction h with
  | none =>
    cases same
    exact .round last (.none _)
  | round first _ ih => exact .round first (ih same)

/-- Behind some rounds the prompt goes on with the session and the world that they have led to. -/
theorem run_runPrompt_of_reaches {c c' : Session × World} (h : Reaches fuel listings n c c')
    (m : Nat) :
    (runPrompt fuel listings (n + m) c.1).run c.2 = (runPrompt fuel listings m c'.1).run c'.2 := by
  induction h with
  | none => rw [Nat.zero_add]
  | round first later ih =>
    rw [Nat.add_right_comm, runPrompt_succ, Dialogue.run_bind, first]
    exact ih

/-! ### Single rounds -/

/-- The bytes of the prompt. -/
def promptBytes : List UInt8 :=
  Text.encode promptText

theorem run_writePrompt (works : v.Works) : writePrompt.run v = (.ok (), v.wrote promptBytes) := by
  have written : v.answer (.write promptText) = (.ok (), v.wrote promptBytes) :=
    World.write_unbounded works.unbounded promptBytes
  have works' : (v.wrote promptBytes).Works := ⟨works.unbounded, works.flushes⟩
  simp only [writePrompt, Dialogue.request, Dialogue.ask_bind, Dialogue.run_ask, written,
    Dialogue.done_bind]
  exact Prod.ext works'.answer_flush rfl

/-- What a line has come to at the end of its round: an error is shown, and the session goes on. -/
def endRound : (Except RunError Unit × Session) × World → Round × World
  | ((.ok _, s), v) => (.next s, v)
  | ((.error e, s), v) => (.next s, ((reportLines e.report).run v).2)

/-- A round with a line writes the prompt and runs the trimmed line. -/
theorem run_round_of_line {line : String} {later : List String} (works : v.Works)
    (input : InputOf (line :: later) v.unread) (single : '\n' ∉ line.toList)
    (filled : Text.trim line ≠ "") (faultless : Faultless line) (fuel : Nat) (s : Session) :
    ∃ rest, InputOf later rest ∧ (round fuel {} s).run v =
      endRound (((Session.run fuel {} (Text.trim line)).on s).run
        (v.between (v.written ++ promptBytes) rest)) := by
  obtain ⟨text, rest, read, trimmed, input'⟩ :=
    InputOf.run_readLine (w := v.wrote promptBytes) input single
  refine ⟨rest, input', ?_⟩
  -- A line that leaves the prompt would not be a script without faults.
  have proceeds : ¬(Text.trim line = "" ∨ Text.trim line = "exit") := by
    rintro (blank | leaves)
    · exact filled blank
    · exact not_faultless_exit (leaves ▸ faultless.trim)
  simp only [round, Dialogue.run_bind, run_writePrompt works, read, trimmed, if_neg proceeds]
  have shown : (v.wrote promptBytes).between (v.wrote promptBytes).written rest =
      v.between (v.written ++ promptBytes) rest := rfl
  rw [shown, SessionM.on]
  generalize Dialogue.run _ (v.between (v.written ++ promptBytes) rest) = p
  rcases p with ⟨⟨_ | _, _⟩, _⟩
  · exact Dialogue.run_bind ..
  · rfl

/-- A round without a line writes the prompt and ends it. -/
theorem run_round_of_end (works : v.Works) (none : v.unread = []) (fuel : Nat)
    (listings : Listings) (s : Session) :
    (round fuel listings s).run v = (.exit exitOk, v.wrote promptBytes) := by
  have ended := run_readLine_of_nil (w := v.wrote promptBytes) none
  simp only [round, Dialogue.run_bind, run_writePrompt works, ended]
  rfl

end CommandLine

end ScriptLang

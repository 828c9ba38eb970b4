import Mathlib
import ScriptLang.Proofs.Lines
import ScriptLang.Proofs.Rounds

/-!
# The prompt and the script

The prompt, fed with the lines of a script, does line by line what the script does as a whole, as
long as the script reads nothing: the input of the one holds the lines, the input of the other
something else.  What the script writes the prompt writes too, behind a prompt for each line.  Where
the script fails, the prompt reports the same error and goes on with the next line.

## Main definitions

* `CommandLine.Abreast` — script and prompt have come behind the same line
* `CommandLine.Completed`, `CommandLine.Interrupted` — how script and prompt agree where the script
  succeeds, and where it fails

## Main results

* `CommandLine.Abreast.round` — one round does what the statements of one line do
* `CommandLine.Abreast.rounds` — rounds do what the statements of all lines do
* `CommandLine.runPrompt_agrees` — the prompt agrees with the script
-/

namespace ScriptLang

/-- The host after it has shown a line to the user. -/
def World.told (w : World) (line : String) : World :=
  { w with reported := w.reported ++ line ++ "\n" }

namespace CommandLine

/-- Lines, none of them blank, each of which makes sense as a unit of its own. -/
structure Sensible (lines : List String) : Prop where
  single : ∀ line ∈ lines, '\n' ∉ line.toList
  filled : ∀ line ∈ lines, Text.trim line ≠ ""
  faultless : ∀ line ∈ lines, Faultless line

/-- Script and prompt have come behind the first `i` lines, which have written `outs`: the script
with the frames `t` and the world `w`, the prompt with the session `s` and the world `v`.  Both
started in the world `w₀`, but for the input. -/
structure Abreast (lines : List String) (w₀ : World) (i : Nat) (outs : List (List UInt8))
    (t : Scopes) (w : World) (s : Session) (v : World) : Prop where
  units : s.units = i
  globals : Bindings.Alike (.ofLines lines) t.globals s.scopes.globals
  depth : t.depth = 1
  depth' : s.scopes.depth = 1
  written : w.written = w₀.written ++ outs.flatten
  shown : v.written = w₀.written ++ outs.flatMap (promptBytes ++ ·)
  input : InputOf (lines.drop i) v.unread
  world : v = w.between v.written v.unread

variable {lines : List String} {w₀ w w' v : World} {i fuel : Nat} {outs : List (List UInt8)}
  {t t' : Scopes} {s : Session} {stmts : List Stmt} {line : String}

namespace Abreast

/-- At the beginning nothing has been done. -/
theorem start {input : List UInt8} (fed : InputOf lines input) (w : World) :
    Abreast lines w 0 [] Session.start.scopes w Session.start (w.between w.written input) where
  units := rfl
  globals := by
    refine List.forall₂_same.2 fun p hp => ⟨rfl, ?_⟩
    obtain ⟨b, _, rfl⟩ := List.mem_map.1 hp
    exact .callable (.builtin b)
  depth := rfl
  depth' := rfl
  written := Array.appendList_nil.symm
  shown := Array.appendList_nil.symm
  input := fed
  world := rfl

/-- The prompt has an output that works if the script has one. -/
theorem works (h : Abreast lines w₀ i outs t w s v) (works : w.Works) : v.Works := by
  rw [h.world]
  exact ⟨works.unbounded, works.flushes⟩

/-- Behind all lines the input is at its end. -/
theorem unread_eq_nil (h : Abreast lines w₀ lines.length outs t w s v) : v.unread = [] := by
  have input := h.input
  rw [List.drop_length] at input
  generalize v.unread = bytes at input
  cases input with
  | none => rfl

/-- One round of the prompt does what the statements of one line of the script do. -/
theorem round (h : Abreast lines w₀ i outs t w s v) (works : w.Works)
    (sensible : Sensible lines) (hline : lines[i]? = some line)
    (hstmts : Stmt.AllAlike ((Correspondence.ofLines lines).token 0 i) stmts
      (Script.stmtsOf (Text.trim line)))
    {r : Except Stop Flow} (alone : ExecutesAlone fuel 0 stmts t w ((r, t'), w')) :
    ∃ (out : List UInt8) (s' : Session) (v' : World), w'.written = w.written ++ out ∧
      Abreast lines w₀ (i + 1) (outs ++ [out]) t' w' s' v' ∧
      (r = .ok .normal → (CommandLine.round fuel {} s).run v = (.next s', v')) ∧
      ∀ e, r = .error (.error e) → ∃ e', e.Alike (.ofLines lines) e' ∧
        (CommandLine.round fuel {} s).run v = (.next s', v'.told e'.report) := by
  obtain ⟨units, globals, depth, depth', written, shown, input, world⟩ := h
  obtain ⟨a, b, rfl⟩ : ∃ a b, v = w.between a b := ⟨_, _, world⟩
  have mem : line ∈ lines := List.mem_of_getElem? hline
  have faultless := sensible.faultless line mem
  -- The line does as a unit of the session what it does in the script.
  let K : Comparison := ⟨.ofLines lines, t, s.scopes, False⟩
  obtain ⟨r', u, alone', outcome, frames⟩ :=
    alone.alike (K := K) id (.start globals) (.inr ⟨depth, depth'⟩) hstmts
  obtain ⟨out, writes, elsewhere⟩ := alone'.between works.unbounded
  have works' : (w.between a b).Works := ⟨works.unbounded, works.flushes⟩
  have next : lines.drop i = line :: lines.drop (i + 1) := by
    obtain ⟨lt, rfl⟩ := List.getElem?_eq_some_iff.1 hline
    exact List.drop_eq_getElem_cons lt
  rw [next] at input
  obtain ⟨rest, input', run⟩ := run_round_of_line works' input (sensible.single line mem)
    (sensible.filled line mem) faultless fuel s
  have prompted : (w.between a b).between ((w.between a b).written ++ promptBytes) rest =
      w.between (a ++ promptBytes) rest := rfl
  rw [Session.run_run faultless.trim, units, prompted, elsewhere] at run
  have kept : w'.Works := by
    have kept := works.run ((execAll fuel 0 stmts).on t)
    rwa [alone.run] at kept
  let v' := w'.between (a ++ promptBytes ++ out) rest
  have flushed : (v'.answer .flush).1 = .ok () :=
    World.Works.answer_flush ⟨kept.unbounded, kept.flushes⟩
  refine ⟨out, ⟨u, i + 1⟩, v', writes, ?_, ?_, ?_⟩
  · refine ⟨rfl, frames.globals, frames.size.trans depth, frames.size'.trans depth', ?_, ?_, input',
      rfl⟩
    · rw [writes, written, appendList_assoc, List.flatten_append, List.flatten_singleton]
    · have shown' : a = w₀.written ++ outs.flatMap (promptBytes ++ ·) := shown
      change a ++ promptBytes ++ out = _
      rw [shown', appendList_assoc, appendList_assoc, List.flatMap_append, List.flatMap_singleton]
  · rintro rfl
    cases outcome with
    | ok flow =>
      rw [run]
      simp only [Session.close]
      rw [flushed]
      rfl
  · rintro e rfl
    cases outcome with
    | error same =>
      cases same with
      | @error _ e' same => exact ⟨e', same, run⟩

/-- As many rounds as there are sections do what the sections do. -/
theorem rounds (h : Abreast lines w₀ i outs t w s v) (works : w.Works) (sensible : Sensible lines)
    {all sections : List (List Stmt)} {outs' : List (List UInt8)}
    (hall : Script.Sections lines all)
    (within : ∀ {k : Nat} {stmts : List Stmt}, sections[k]? = some stmts →
      all[i + k]? = some stmts)
    (through : ExecutesThrough fuel 0 sections t w outs' t' w') :
    ∃ s' v', Reaches fuel {} sections.length (s, v) (s', v') ∧
      Abreast lines w₀ (i + sections.length) (outs ++ outs') t' w' s' v' ∧ w'.Works := by
  induction through generalizing i outs s v with
  | nil =>
    rw [List.append_nil]
    exact ⟨s, v, .none _, h, works⟩
  | @cons stmts sections t t₁ t' w w₁ w' out outs' first written later ih =>
    have hstmts : all[i]? = some stmts := within (k := 0) rfl
    obtain ⟨line, hline⟩ := hall.exists_line hstmts
    obtain ⟨out', s₁, v₁, written', abreast, goesOn, -⟩ :=
      h.round works sensible hline (hall.alike hline hstmts) first
    obtain rfl : out' = out := appendList_left_cancel (written'.symm.trans written)
    have works₁ : w₁.Works := by
      have kept := works.run ((execAll fuel 0 stmts).on t)
      rwa [first.run] at kept
    obtain ⟨s', v', reaches, abreast', works'⟩ := ih abreast works₁ fun {k} {stmts'} hk => by
      rw [Nat.add_right_comm, Nat.add_assoc]
      exact within (k := k + 1) hk
    rw [List.append_assoc, Nat.add_right_comm, Nat.add_assoc] at abreast'
    exact ⟨s', v', .round (goesOn rfl) reaches, abreast', works'⟩

end Abreast

/-! ### The script in the file -/

/-- A script without a fault asks for a line exactly if its statements do. -/
theorem readsNothing_run_iff {source : String} (faultless : Faultless source) :
    ((Session.run fuel {} source).on s).ReadsNothing w ↔
      ((execAll fuel s.units (Script.stmtsOf source)).on s.scopes).ReadsNothing w := by
  rw [Session.on_run faultless, Session.on_runStmts, Dialogue.readsNothing_bind,
    Dialogue.readsNothing_bind]
  refine ⟨fun reads => reads.1.1, fun reads => ⟨⟨reads, trivial⟩, ?_⟩⟩
  -- Behind the statements the output is passed on, or nothing is done.
  rw [Dialogue.run_bind]
  split
  · exact ⟨nofun, trivial⟩
  · trivial

/-- What a script in a file has come to: an error is shown, and gives the exit code. -/
def endFile : (Except RunError Unit × Session) × World → Nat × World
  | ((.ok _, _), w) => (exitOk, w)
  | ((.error e, _), w) => (exitCode e, ((reportLines e.report).run w).2)

variable {source path : String}

/-- A script is read from its file and run in a new session. -/
theorem runFile_eq (fuel : Nat) (listings : Listings) (source path : String) :
    ∃ next, runFile fuel listings path = .ask (.readFile path) next ∧
      next (.ok (Text.encode source)) =
        (Session.run fuel listings source).on Session.start >>= fun p =>
          match p with
          | (.ok _, _) => .done exitOk
          | (.error e, _) => fail e := by
  refine ⟨_, rfl, ?_⟩
  simp only [Dialogue.bind, Text.decodeStrict?_encode]
  rfl

theorem run_runFile (file : w.files.read path = .ok (Text.encode source)) (fuel : Nat)
    (listings : Listings) :
    (runFile fuel listings path).run w =
      endFile (((Session.run fuel listings source).on Session.start).run w) := by
  obtain ⟨next, asks, goesOn⟩ := runFile_eq fuel listings source path
  have answer : w.answer (.readFile path) = (.ok (Text.encode source), w) :=
    congrArg (fun bytes => (bytes, w)) file
  rw [asks, Dialogue.run_ask, answer, goesOn, Dialogue.run_bind]
  generalize ((Session.run fuel listings source).on Session.start).run w = p
  rcases p with ⟨⟨_ | _, _⟩, _⟩
  · exact Dialogue.run_bind ..
  · rfl

theorem readsNothing_reportLines (lines : List String) (w : World) :
    (reportLines lines).ReadsNothing w := by
  induction lines generalizing w with
  | nil => trivial
  | cons line later ih => exact ⟨nofun, ih _⟩

/-- The program asks for no line if the script asks for none. -/
theorem readsNothing_runFile_iff (file : w.files.read path = .ok (Text.encode source))
    {listings : Listings} :
    (runFile fuel listings path).ReadsNothing w ↔
      ((Session.run fuel listings source).on Session.start).ReadsNothing w := by
  obtain ⟨next, asks, goesOn⟩ := runFile_eq fuel listings source path
  have answer : w.answer (.readFile path) = (.ok (Text.encode source), w) :=
    congrArg (fun bytes => (bytes, w)) file
  rw [asks, Dialogue.ReadsNothing, answer, goesOn, Dialogue.readsNothing_bind]
  refine ⟨fun reads => reads.2.1, fun reads => ⟨fun asked => ?_, reads, ?_⟩⟩
  · cases asked
  generalize ((Session.run fuel listings source).on Session.start).run w = p
  -- Errors are shown, and showing them asks for nothing.
  rcases p with ⟨⟨e | _, _⟩, u⟩
  · exact Dialogue.readsNothing_bind.2 ⟨readsNothing_reportLines e.report u, trivial⟩
  · trivial

/-! ### Agreement -/

/-- The script in the file succeeds, and when its input ends the prompt has done the same line by
line. -/
structure Completed (fuel : Nat) (lines : List String) (path : String) (input : List UInt8)
    (w : World) (sections : List (List Stmt)) (outs : List (List UInt8)) (s' : Session) (w' : World)
    (session : Session) (v : World) : Prop where
  script : ((Session.run fuel {} ("\n".intercalate lines)).on Session.start).run w =
    ((.ok (), s'), w')
  file : (runFile fuel {} path).run w = (exitOk, w')
  through : ExecutesThrough fuel 0 sections Session.start.scopes w outs s'.scopes w'
  abreast : Abreast lines w lines.length outs s'.scopes w' session v
  rounds : Reaches fuel {} lines.length (Session.start, w.between w.written input) (session, v)
  prompt : ∀ m, (runPrompt fuel {} (lines.length + (m + 1)) Session.start).run
    (w.between w.written input) = (exitOk, v.wrote promptBytes)

/-- The script in the file fails in the statements of line `i`.  Behind that line the prompt has
written the same and reported the same error, and goes on. -/
structure Interrupted (fuel : Nat) (lines : List String) (path : String) (input : List UInt8)
    (w : World) (sections : List (List Stmt)) (i : Nat) (stmts : List Stmt)
    (outs : List (List UInt8)) (out : List UInt8) (t : Scopes) (u : World) (e e' : RuntimeError)
    (s' : Session) (w' : World) (session : Session) (v : World) : Prop where
  section_i : sections[i]? = some stmts
  script : ((Session.run fuel {} ("\n".intercalate lines)).on Session.start).run w =
    ((.error (.runtime e), s'), w')
  file : (runFile fuel {} path).run w = (exitRuntime, w'.told e.report)
  through : ExecutesThrough fuel 0 (sections.take i) Session.start.scopes w outs t u
  fails : ExecutesAlone fuel 0 stmts t u ((.error (.error e), s'.scopes), w')
  alike : e.Alike (.ofLines lines) e'
  abreast : Abreast lines w (i + 1) (outs ++ [out]) s'.scopes w' session v
  rounds : Reaches fuel {} (i + 1) (Session.start, w.between w.written input)
    (session, v.told e'.report)
  prompt : ∀ m, (runPrompt fuel {} (i + 1 + m) Session.start).run (w.between w.written input) =
    (runPrompt fuel {} m session).run (v.told e'.report)

section Ends

variable {sections : List (List Stmt)} {input : List UInt8}

/-- Where every section ends normally the script succeeds, and the prompt comes to its end. -/
theorem completed (sensible : Sensible lines) (fed : InputOf lines input) (works : w.Works)
    (file : w.files.read path = .ok (Text.encode ("\n".intercalate lines)))
    (hsections : Script.Sections lines sections)
    (script : ((Session.run fuel {} ("\n".intercalate lines)).on Session.start).run w =
      Session.close 0 ((.ok .normal, t'), w'))
    (through : ExecutesThrough fuel 0 sections Session.start.scopes w outs t' w') :
    ∃ session v, Completed fuel lines path input w sections outs ⟨t', 1⟩ w' session v := by
  have within {k : Nat} {stmts : List Stmt} (hk : sections[k]? = some stmts) :
      sections[0 + k]? = some stmts := by
    rwa [Nat.zero_add]
  obtain ⟨session, v, rounds, abreast, works'⟩ :=
    (Abreast.start fed w).rounds works sensible hsections within through
  rw [hsections.length_eq] at rounds abreast
  rw [Nat.zero_add, List.nil_append] at abreast
  -- The output can still be passed on, so nothing fails behind the last statement.
  simp only [Session.close] at script
  rw [works'.answer_flush] at script
  have ends := run_runFile file fuel {}
  rw [script] at ends
  refine ⟨session, v, script, ends, through, abreast, rounds, ?_⟩
  intro m
  rw [run_runPrompt_of_reaches rounds (m + 1), runPrompt_succ, Dialogue.run_bind,
    run_round_of_end (abreast.works works') abreast.unread_eq_nil]
  rfl

/-- Where a section fails, behind others that end normally, script and prompt fail alike. -/
theorem interrupted {e : RuntimeError} {u : World} (sensible : Sensible lines)
    (fed : InputOf lines input) (works : w.Works)
    (file : w.files.read path = .ok (Text.encode ("\n".intercalate lines)))
    (hsections : Script.Sections lines sections) (hstmts : sections[i]? = some stmts)
    (script : ((Session.run fuel {} ("\n".intercalate lines)).on Session.start).run w =
      Session.close 0 ((.error (.error e), t'), w'))
    (through : ExecutesThrough fuel 0 (sections.take i) Session.start.scopes w outs t u)
    (fails : ExecutesAlone fuel 0 stmts t u ((.error (.error e), t'), w')) :
    ∃ out e' session v,
      Interrupted fuel lines path input w sections i stmts outs out t u e e' ⟨t', 1⟩ w' session
        v := by
  have before : (sections.take i).length = i :=
    List.length_take_of_le (List.getElem?_eq_some_iff.1 hstmts).1.le
  have within {k : Nat} {stmts : List Stmt} (hk : (sections.take i)[k]? = some stmts) :
      sections[0 + k]? = some stmts := by
    rw [List.getElem?_take] at hk
    split at hk
    · rwa [Nat.zero_add]
    · cases hk
  obtain ⟨s, v, rounds, abreast, works'⟩ :=
    (Abreast.start fed w).rounds works sensible hsections within through
  rw [before] at rounds abreast
  rw [Nat.zero_add, List.nil_append] at abreast
  -- One more round, with the line that the failing section comes from.
  obtain ⟨line, hline⟩ := hsections.exists_line hstmts
  obtain ⟨out, s', v', -, abreast', -, failing⟩ :=
    abreast.round works' sensible hline (hsections.alike hline hstmts) fails
  obtain ⟨e', alike, round⟩ := failing e rfl
  have ends := run_runFile file fuel {}
  rw [script] at ends
  have rounds' := rounds.concat round
  refine ⟨out, e', s', v', hstmts, script, ends, through, fails, alike, abreast', rounds', ?_⟩
  intro m
  exact run_runPrompt_of_reaches rounds' m

end Ends

/-- The prompt agrees with the script.  Take sensible lines, in a file with line breaks between them
and as an input.  Unless its fuel is used up, and as long as it asks for no line of its own input,
the script in the file succeeds or fails at run time.

Either it succeeds, and then the prompt comes behind all lines and ends with the same code when the
input ends.  It has written a prompt before what the statements of each line write in the script,
and one more at the end, and it leaves the same globals but for the places of tokens.

Or it fails in the statements of some line, and then the prompt comes behind that line too.  It has
written the same up to there, but for the prompts, and reports the same error but for its place.  It
goes on with the next line and with the globals that the script ended with. -/
theorem runPrompt_agrees {input : List UInt8} (sensible : Sensible lines)
    (fed : InputOf lines input) (works : w.Works)
    (file : w.files.read path = .ok (Text.encode ("\n".intercalate lines)))
    (reads : (runFile fuel {} path).ReadsNothing w)
    (ended : (((Session.run fuel {} ("\n".intercalate lines)).on Session.start).run w).1.1 ≠
      .error .outOfFuel) :
    ∃ sections, Script.Sections lines sections ∧
      ((∃ outs s' w' session v,
          Completed fuel lines path input w sections outs s' w' session v) ∨
        ∃ i stmts outs out t u e e' s' w' session v,
          Interrupted fuel lines path input w sections i stmts outs out t u e e' s' w' session
            v) := by
  obtain ⟨faultless, sections, hsections⟩ :=
    Script.exists_sections sensible.faultless sensible.single
  have script := Session.run_run faultless fuel Session.start w
  rw [show Session.start.units = 0 from rfl] at script
  -- The statements of the whole, which are those of all sections, end and ask for no line.
  have alone : ExecutesAlone fuel 0 (Script.stmtsOf ("\n".intercalate lines)) Session.start.scopes w
      (((execAll fuel 0 (Script.stmtsOf ("\n".intercalate lines))).on Session.start.scopes).run
        w) := by
    refine ⟨rfl, ?_, ?_⟩
    · rwa [script, ne_eq, Session.close_outOfFuel_iff] at ended
    · exact (readsNothing_run_iff faultless).1 ((readsNothing_runFile_iff file).1 reads)
  generalize ((execAll fuel 0 (Script.stmtsOf ("\n".intercalate lines))).on
    Session.start.scopes).run w = p at script alone
  obtain ⟨⟨result, t'⟩, w'⟩ := p
  have ending := alone.executes.normal_or_failed faultless
  rw [hsections.whole] at alone
  refine ⟨sections, hsections, ?_⟩
  obtain ⟨outs, normal, through⟩ | ⟨i, stmts, outs, t, u, hstmts, through, fails, abnormal⟩ :=
    alone.sections works.unbounded
  · left
    obtain rfl : result = .ok .normal := normal
    obtain ⟨session, v, done⟩ := completed sensible fed works file hsections script through
    exact ⟨outs, _, w', session, v, done⟩
  · right
    obtain ⟨e, rfl⟩ : ∃ e, result = .error (.error e) := ending.resolve_left abnormal
    obtain ⟨out, e', session, v, failed⟩ :=
      interrupted sensible fed works file hsections hstmts script through fails
    exact ⟨i, stmts, outs, out, t, u, e, e', _, w', session, v, failed⟩

/-- A line that declares a variable, and one that prints it. -/
def twoLines : List String :=
  ["var a;", "print a;"]

/-- A host with the two lines in a file. -/
def twoLinesHost : World where
  files := ⟨#[⟨.directory 0 [("s", 1)], 0o755, 0⟩,
    ⟨.file (Text.encode ("\n".intercalate twoLines)), 0o644, 0⟩], 0, 0o022⟩

theorem sensible_twoLines : Sensible twoLines where
  single := by decide
  filled := by decide
  faultless := by
    rw [twoLines, List.forall_mem_cons, List.forall_mem_singleton]
    exact ⟨Session.read_declaring.1, Session.read_printing.1⟩

theorem read_twoLinesHost :
    twoLinesHost.files.read "s" = .ok (Text.encode ("\n".intercalate twoLines)) := by
  unfold twoLinesHost
  have found : Files.locate ⟨#[⟨.directory 0 [("s", 1)], 0o755, 0⟩,
      ⟨.file (Text.encode ("\n".intercalate twoLines)), 0o644, 0⟩], 0, 0o022⟩ "s" = .ok 1 := by
    cbv
  rw [Files.read, found]
  rfl

theorem executesAlone_twoLines :
    ExecutesAlone 5 0 (Script.stmtsOf ("\n".intercalate twoLines)) Session.start.scopes
      twoLinesHost
      ((.ok .normal, Session.declared.scopes), twoLinesHost.wrote (Text.encode "無\n")) := by
  have whole : "\n".intercalate twoLines = "var a;\nprint a;" := by decide
  have tokens : (scan "var a;\nprint a;").tokens =
      [⟨.varWord, "var", none, 1, ⟨0, 3⟩⟩, ⟨.ident, "a", none, 1, ⟨4, 5⟩⟩,
        ⟨.semicolon, ";", none, 1, ⟨5, 6⟩⟩, ⟨.printWord, "print", none, 2, ⟨7, 12⟩⟩,
        ⟨.ident, "a", none, 2, ⟨13, 14⟩⟩, ⟨.semicolon, ";", none, 2, ⟨14, 15⟩⟩,
        ⟨.eof, "", none, 2, ⟨15, 15⟩⟩] := by
    decide +kernel
  have stmts : Script.stmtsOf "var a;\nprint a;" =
      [.var ⟨.ident, "a", none, 1, ⟨4, 5⟩⟩ none,
        .print ⟨.printWord, "print", none, 2, ⟨7, 12⟩⟩
          (.name ⟨.ident, "a", none, 2, ⟨13, 14⟩⟩)] := by
    rw [Script.stmtsOf, tokens]
    cbv
  have define : Session.start.scopes.define ⟨.ident, "a", none, 1, ⟨4, 5⟩⟩ .nil
      Session.start.scopes.newest = (.ok (), Session.declared.scopes) :=
    rfl
  have read : Session.declared.scopes.get ⟨.ident, "a", none, 2, ⟨13, 14⟩⟩
      Session.declared.scopes.newest = .ok .nil := by
    rw [Scopes.get, Scopes.find?, Scopes.resolve?_of_binds rfl]
    rfl
  -- All that the statements ask for is to write a line.
  obtain ⟨next, asks, goesOn⟩ : ∃ next,
      (execAll 5 0 (Script.stmtsOf "var a;\nprint a;")).on Session.start.scopes =
        .ask (.write "無\n") next ∧
      next (.ok ()) = .done (.ok .normal, Session.declared.scopes) := by
    rw [stmts]
    simp only [execAll, exec, eval, Action.on_bind, Action.on_define, define, Action.on_read, read,
      Action.on_pure, Action.on_request, Dialogue.done_bind, Dialogue.ask_bind, Except.mapError]
    exact ⟨_, rfl, rfl⟩
  have answer : twoLinesHost.answer (.write "無\n") =
      (.ok (), twoLinesHost.wrote (Text.encode "無\n")) :=
    World.write_unbounded (w := twoLinesHost) rfl (Text.encode "無\n")
  rw [whole]
  refine ⟨?_, fun stopped => ?_, ?_⟩
  · rw [asks, Dialogue.run_ask, answer, goesOn]
    rfl
  · cases stopped
  · rw [asks, Dialogue.ReadsNothing, answer, goesOn]
    refine ⟨fun asked => ?_, trivial⟩
    cases asked

/-- The script of `var a;` and `print a;` prints `nil`, and so does the prompt. -/
theorem runPrompt_agrees_twoLines :
    ∃ sections outs s' session v,
      Completed 5 twoLines "s" (Text.encode "var a;" ++ 10 :: Text.encode "print a;")
        twoLinesHost sections outs s' (twoLinesHost.wrote (Text.encode "無\n")) session v := by
  obtain ⟨faultless, -⟩ :=
    Script.exists_sections sensible_twoLines.faultless sensible_twoLines.single
  have alone := executesAlone_twoLines
  have script : ((Session.run 5 {} ("\n".intercalate twoLines)).on Session.start).run
      twoLinesHost = ((.ok (), Session.declared), twoLinesHost.wrote (Text.encode "無\n")) := by
    rw [Session.run_run faultless, show Session.start.units = 0 from rfl, alone.run]
    rfl
  have reads : (runFile 5 {} "s").ReadsNothing twoLinesHost := by
    rw [readsNothing_runFile_iff read_twoLinesHost, readsNothing_run_iff faultless]
    exact alone.reads
  have ended : (((Session.run 5 {} ("\n".intercalate twoLines)).on Session.start).run
      twoLinesHost).1.1 ≠ .error .outOfFuel := by
    rw [script]
    exact nofun
  have fed : InputOf twoLines (Text.encode "var a;" ++ 10 :: Text.encode "print a;") :=
    .line (.last (by decide))
  obtain ⟨sections, -, done | fails⟩ :=
    runPrompt_agrees sensible_twoLines fed ⟨rfl, rfl⟩ read_twoLinesHost reads ended
  · obtain ⟨outs, s', w', session, v, done⟩ := done
    have same := done.script.symm.trans script
    obtain rfl : w' = _ := congrArg Prod.snd same
    exact ⟨sections, outs, s', session, v, done⟩
  · obtain ⟨_, _, _, _, _, _, _, _, _, _, _, _, fails⟩ := fails
    have same := fails.script.symm.trans script
    cases congrArg (fun p => p.1.1) same

end CommandLine

end ScriptLang

import Mathlib
import ScriptLang.Proofs.Concatenation
import ScriptLang.Proofs.Trimmed

/-!
# Scripts of lines

A script whose lines make sense one by one is made of the statements of its lines.  Blanks at the
ends of a line do not matter.  Each token of the script is a token of a trimmed line, and stands
further on in the script than in that line.

## Main definitions

* `lineStart` — how many characters stand before a line
* `Token.onLine` — a token of a trimmed line where it stands in the script
* `Correspondence.ofLines` — which tokens of the script are which tokens of the trimmed lines
* `Script.Sections` — the statements of a script, line by line

## Main results

* `Script.exists_sections` — scripts of lines fall into sections
-/

namespace ScriptLang

open Text (isBlank)

/-! ### Places in the script -/

/-- How many characters stand before line `i`, the line breaks included. -/
def lineStart (lines : List String) (i : Nat) : Nat :=
  ((lines.take i).map fun line => line.length + 1).sum

variable {lines : List String} {line : String} {i j : Nat}

@[simp] theorem lineStart_zero (lines : List String) : lineStart lines 0 = 0 := by
  simp [lineStart]

@[simp] theorem lineStart_cons_succ (line : String) (lines : List String) (i : Nat) :
    lineStart (line :: lines) (i + 1) = line.length + 1 + lineStart lines i := by
  simp [lineStart]

/-- A line ends before every later one starts. -/
theorem lineStart_add_length_lt (h : lines[i]? = some line) (lt : i < j) :
    lineStart lines i + line.length < lineStart lines j := by
  induction lines generalizing i j with
  | nil => cases h
  | cons first lines ih =>
    obtain ⟨j, rfl⟩ := Nat.exists_eq_succ_of_ne_zero (Nat.ne_zero_of_lt lt)
    rw [lineStart_cons_succ]
    cases i with
    | zero =>
      cases h
      rw [lineStart_zero]
      omega
    | succ i =>
      have later := ih h (Nat.lt_of_succ_lt_succ lt)
      rw [lineStart_cons_succ]
      omega

/-- A token of a trimmed line, where it stands in the script. -/
def Token.onLine (lines : List String) (i : Nat) (line : String) (t : Token) : Token :=
  (t.untrimmed line).moved (lineStart lines i) i

/-- The tokens of a line end within the line. -/
theorem stop_untrimmed_le {t : Token} (h : t ∈ (scan (Text.trim line)).tokens) :
    (t.untrimmed line).span.stop ≤ line.length := by
  have stop := stop_le_of_mem_scan h
  let core := line.toList.dropWhile isBlank
  have shorter : (Text.trim line).length ≤ core.length := by
    have dropped : (core.reverse.dropWhile isBlank).length ≤ core.reverse.length :=
      (List.dropWhile_sublist isBlank).length_le
    simpa [Text.trim, Text.trimBlanks, core] using dropped
  have whole : (line.toList.takeWhile isBlank).length + core.length = line.length := by
    rw [← List.length_append, List.takeWhile_append_dropWhile, String.length_toList]
  simp only [Token.untrimmed, Token.moved]
  omega

/-- A token of the script, and the trimmed line that it is a token of. -/
def Token.FromLine (lines : List String) (u i : Nat) (t t' : Token) : Prop :=
  u = 0 ∧ ∃ line, lines[i]? = some line ∧ t' ∈ (scan (Text.trim line)).tokens ∧
    t = t'.onLine lines i line

/-- Two tokens of the script stand in one place if they do in their lines, and the lines are one. -/
theorem Token.FromLine.place_iff {u i v j : Nat} {a a' b b' : Token}
    (ha : Token.FromLine lines u i a a') (hb : Token.FromLine lines v j b b') :
    (u = v ∧ a.span = b.span) ↔ (i = j ∧ a'.span = b'.span) := by
  obtain ⟨rfl, line, hi, ha, rfl⟩ := ha
  obtain ⟨rfl, line', hj, hb, rfl⟩ := hb
  have stop := stop_untrimmed_le ha
  have stop' := stop_untrimmed_le hb
  -- Tokens of different lines end in different places.
  rcases Nat.lt_trichotomy i j with lt | rfl | gt
  · have apart := lineStart_add_length_lt hi lt
    refine ⟨fun same => ?_, fun same => absurd same.1 lt.ne⟩
    have ends := congrArg Span.stop same.2
    simp only [Token.onLine, Token.moved] at ends
    omega
  · cases hi.symm.trans hj
    obtain ⟨_, _, _, _, _, _⟩ := a'
    obtain ⟨_, _, _, _, _, _⟩ := b'
    simp [Token.onLine, Token.untrimmed, Token.moved]
  · have apart := lineStart_add_length_lt hj gt
    refine ⟨fun same => ?_, fun same => absurd same.1 gt.ne'⟩
    have ends := congrArg Span.stop same.2
    simp only [Token.onLine, Token.moved] at ends
    omega

/-- Which tokens of the script, which is unit zero, are which tokens of the trimmed lines, which are
units one after the other. -/
def Correspondence.ofLines (lines : List String) : Correspondence where
  token := Token.FromLine lines
  kind_eq := by
    rintro _ _ _ _ ⟨_, _, _, _, rfl⟩
    rfl
  lexeme_eq := by
    rintro _ _ _ _ ⟨_, _, _, _, rfl⟩
    rfl
  place_iff := Token.FromLine.place_iff

/-! ### Statements of the script -/

/-- The statements of a line wherever the line stands. -/
theorem Script.exists_section (faultless : Faultless line) (chars count : Nat) :
    ∃ stmts, Grammar.Program True
        (innerTokens (Position.moved chars count {}) (pieces line.toList)) stmts ∧
      Stmt.AllAlike (fun t t' => t' ∈ (scan (Text.trim line)).tokens ∧
          t = (t'.untrimmed line).moved chars count)
        stmts (Script.stmtsOf (Text.trim line)) := by
  let r (t t' : Token) : Prop :=
    t' ∈ (scan (Text.trim line)).tokens ∧ t = (t'.untrimmed line).moved chars count
  have same : ∀ {t t' : Token}, r t t' → t.Alike t' := by
    rintro _ t ⟨_, rfl⟩
    exact ⟨rfl, rfl, rfl⟩
  -- The tokens of the trimmed line, read where they stand in the script.
  let place (t : Token) : Token := (t.untrimmed line).moved chars count
  let inner := (scanInner (Text.trim line)).map place
  have noEnd : ∀ t ∈ inner, t.kind ≠ .eof := by
    intro t ht
    obtain ⟨u, hu, rfl⟩ := List.mem_map.1 ht
    have kind := kind_ne_eof_of_mem_scanInner hu
    exact kind
  have stands : List.Forall₂ r inner (scanInner (Text.trim line)) := by
    rw [List.forall₂_map_left_iff, List.forall₂_same]
    exact fun t ht => ⟨tokens_scan (Text.trim line) ▸ List.mem_append_left _ ht, rfl⟩
  have last : r (place (scanEnd (Text.trim line))) (scanEnd (Text.trim line)) :=
    ⟨tokens_scan (Text.trim line) ▸ List.mem_append_right _ (List.mem_singleton_self _), rfl⟩
  obtain ⟨stmts, reports⟩ := Script.ofTokens_alike same stands last noEnd rfl
  rw [← tokens_scan, faultless.trim.read, List.forall₂_nil_right_iff] at reports
  -- These are the tokens of the whole line, because its blanks make none.
  have tokens : innerTokens (Position.moved chars count {}) (pieces line.toList) = inner := by
    rw [innerTokens_moved, ← scanInner, (scanInner_trim faultless.scan).1, List.map_map]
    rfl
  rw [tokens]
  refine ⟨_, Script.ofTokens_sound noEnd rfl reports, ?_⟩
  rwa [← tokens_scan] at stmts

/-- The statements of a script, line by line: the tokens of each line are those of the trimmed
line. -/
structure Script.Sections (lines : List String) (sections : List (List Stmt)) : Prop where
  whole : stmtsOf ("\n".intercalate lines) = sections.flatten
  length_eq : sections.length = lines.length
  alike : ∀ {i : Nat} {line : String} {stmts : List Stmt}, lines[i]? = some line →
    sections[i]? = some stmts →
    Stmt.AllAlike ((Correspondence.ofLines lines).token 0 i) stmts (stmtsOf (Text.trim line))

/-- Each section is that of a line. -/
theorem Script.Sections.exists_line {sections : List (List Stmt)} {stmts : List Stmt}
    (h : Sections lines sections) (hstmts : sections[i]? = some stmts) :
    ∃ line, lines[i]? = some line := by
  have lt := (List.getElem?_eq_some_iff.1 hstmts).1
  exact ⟨_, List.getElem?_eq_getElem (h.length_eq ▸ lt)⟩

/-- The tokens of a line and of what follows it, wherever the line stands. -/
theorem innerTokens_line (single : '\n' ∉ line.toList) (chars count : Nat) (later : String) :
    innerTokens (Position.moved chars count {}) (pieces (line ++ "\n" ++ later).toList) =
      innerTokens (Position.moved chars count {}) (pieces line.toList) ++
        innerTokens (Position.moved (chars + (line.length + 1)) (count + 1) {})
          (pieces later.toList) := by
  have behind : ((Position.moved chars count {}).after line.toList).after ['\n'] =
      Position.moved (chars + (line.length + 1)) (count + 1) {} := by
    simp only [Position.after, Position.moved, List.count_eq_zero.2 single, String.length_toList]
    simp
    omega
  rw [toList_append_newline, pieces_append_newline, innerTokens_append, flatMap_text_pieces,
    innerTokens, Piece.text, behind]
  rfl

/-- The statements of lines one behind the other, wherever the first line stands. -/
theorem Script.exists_sections_at (faultless : ∀ line ∈ lines, Faultless line)
    (single : ∀ line ∈ lines, '\n' ∉ line.toList) (chars count : Nat) :
    ∃ sections : List (List Stmt), Grammar.Program True
        (innerTokens (Position.moved chars count {}) (pieces ("\n".intercalate lines).toList))
        sections.flatten ∧
      sections.length = lines.length ∧
      ∀ {i line stmts}, lines[i]? = some line → sections[i]? = some stmts →
        Stmt.AllAlike (fun t t' => t' ∈ (scan (Text.trim line)).tokens ∧
            t = (t'.untrimmed line).moved (chars + lineStart lines i) (count + i))
          stmts (stmtsOf (Text.trim line)) := by
  induction lines generalizing chars count with
  | nil =>
    refine ⟨[], ?_, rfl, fun h => nomatch h⟩
    rw [String.intercalate_nil, String.toList_empty, pieces_nil]
    exact .nil
  | cons line lines ih =>
    obtain ⟨stmts, program, alike⟩ :=
      exists_section (faultless line List.mem_cons_self) chars count
    obtain ⟨sections, later, length_eq, laterAlike⟩ :=
      ih (fun line h => faultless line (List.mem_cons_of_mem _ h))
        (fun line h => single line (List.mem_cons_of_mem _ h)) (chars + (line.length + 1))
        (count + 1)
    refine ⟨stmts :: sections, ?_, congrArg Nat.succ length_eq, ?_⟩
    · rw [List.flatten_cons]
      -- Behind the last line there is no line break, and so nothing to append.
      cases lines with
      | nil =>
        rw [List.eq_nil_of_length_eq_zero length_eq, List.flatten_nil, List.append_nil,
          String.intercalate_singleton]
        exact program
      | cons second lines =>
        rw [String.intercalate_cons_cons, innerTokens_line (single line List.mem_cons_self)]
        exact program.append later
    · intro i line' stmts' hline hstmts
      cases i with
      | zero =>
        cases hline
        cases hstmts
        rw [lineStart_zero]
        exact alike
      | succ i =>
        -- The later lines count from the second one.
        have alike' := laterAlike (i := i) hline hstmts
        rw [lineStart_cons_succ, ← Nat.add_assoc, Nat.add_comm i 1, ← Nat.add_assoc count]
        exact alike'

/-- Lines without faults in their characters make a text without any. -/
theorem diagnostics_scan_intercalate (clean : ∀ line ∈ lines, (scan line).diagnostics = []) :
    (scan ("\n".intercalate lines)).diagnostics = [] := by
  induction lines with
  | nil =>
    rw [String.intercalate_nil, scan, String.toList_empty, pieces_nil]
    rfl
  | cons line lines ih =>
    have first := clean line List.mem_cons_self
    cases lines with
    | nil => rwa [String.intercalate_singleton]
    | cons second lines =>
      rw [String.intercalate_cons_cons]
      exact diagnostics_scan_append_newline first
        (ih fun line h => clean line (List.mem_cons_of_mem _ h))

/-- A script of lines without faults has none, and falls into sections. -/
theorem Script.exists_sections (faultless : ∀ line ∈ lines, Faultless line)
    (single : ∀ line ∈ lines, '\n' ∉ line.toList) :
    Faultless ("\n".intercalate lines) ∧ ∃ sections, Sections lines sections := by
  obtain ⟨sections, program, length_eq, alike⟩ := exists_sections_at faultless single 0 0
  have tokens : innerTokens (Position.moved 0 0 {}) (pieces ("\n".intercalate lines).toList) =
      scanInner ("\n".intercalate lines) := rfl
  rw [tokens] at program
  have script : ofTokens (scan ("\n".intercalate lines)).tokens = ⟨sections.flatten, []⟩ := by
    rw [tokens_scan]
    exact ofTokens_complete (fun _ => kind_ne_eof_of_mem_scanInner) rfl program
  refine ⟨⟨diagnostics_scan_intercalate fun line h => (faultless line h).scan, ?_⟩,
    sections, ?_, length_eq, ?_⟩
  · rw [script]
  · rw [stmtsOf, script]
  · intro i line stmts hline hstmts
    refine (alike hline hstmts).mono fun t t' ht => ⟨rfl, line, hline, ht.1, ?_⟩
    rw [ht.2, Token.onLine, Nat.zero_add, Nat.zero_add]

end ScriptLang

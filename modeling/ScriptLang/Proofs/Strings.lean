import ScriptLang.Proofs.Places
import ScriptLang.Proofs.Tiling

/-!
# Strings and their escapes

What stands between the quotes of a string falls into units, in one way only: single characters, and
pairs of a backslash and the character that it keeps.  Four of the pairs stand for one character,
every other pair stands for itself and is reported.  With these four, a literal can be written for
every string.

## Main definitions

* `StringUnit` — one character or one backslash pair between the quotes
* `StringUnit.unknownPairs` — the pairs that stand for themselves, with their places
* `literalOf` — the literal whose value is a given string
* `Scan.faultsIn` — the faults among the characters of a token

## Main results

* `StringUnit.quoted_injective` — a quoted text falls into units in one way only
* `scan_literalOf` — the literal of a string is read back as that string
* `scan_strings` — every string can be written, and every string token is decoded unit by unit
-/

namespace ScriptLang

/-! ### Units -/

/-- One step of what stands between the quotes of a string. -/
inductive StringUnit where
  /-- A character that stands for itself. -/
  | plain (c : Char) (quote : c ≠ '"') (backslash : c ≠ '\\') (line : c ≠ '\n')
  /-- A backslash and the character behind it. -/
  | pair (c : Char) (line : c ≠ '\n')

namespace StringUnit

/-- The backslash pairs that stand for one character, each with that character. -/
def escapes : List (Char × Char) :=
  [('"', '"'), ('\\', '\\'), ('n', '\n'), ('t', '\t')]

/-- The characters of a unit. -/
def text : StringUnit → List Char
  | plain c .. => [c]
  | pair c _ => ['\\', c]

/-- What a unit stands for. -/
def value : StringUnit → List Char
  | plain c .. => [c]
  | pair c _ =>
    match escapes.lookup c with
    | some v => [v]
    | none => ['\\', c]

/-- The character behind the backslash, in a pair that stands for itself. -/
def unknown? : StringUnit → Option Char
  | plain .. => none
  | pair c _ => if escapes.lookup c = none then some c else none

/-- A quote, the characters of units, and a quote. -/
def quoted (us : List StringUnit) : List Char :=
  '"' :: us.flatMap text ++ ['"']

/-- The pairs that stand for themselves, each with how many characters stand before its second one.
The units stand behind `place` characters. -/
def unknownPairs (place : Nat) : List StringUnit → List (Nat × Char)
  | [] => []
  | u :: us =>
    (u.unknown?.map fun c => (place + 1, c)).toList ++ unknownPairs (place + u.text.length) us

variable {u u' : StringUnit} {us us' : List StringUnit}

theorem text_ne_nil (u : StringUnit) : u.text ≠ [] := by
  cases u <;> exact List.cons_ne_nil _ _

/-- No unit is the start of another one. -/
theorem text_append_inj {cs cs' : List Char} (same : u.text ++ cs = u'.text ++ cs') :
    u = u' ∧ cs = cs' := by
  cases u with
  | plain c quote backslash line =>
    cases u' with
    | plain c' =>
      obtain ⟨rfl, rfl⟩ := List.cons.inj same
      exact ⟨rfl, rfl⟩
    | pair c' => exact absurd (List.cons.inj same).1 backslash
  | pair c line =>
    cases u' with
    | plain c' quote' backslash' line' => exact absurd (List.cons.inj same).1.symm backslash'
    | pair c' =>
      obtain ⟨rfl, rfl⟩ := List.cons.inj (List.cons.inj same).2
      exact ⟨rfl, rfl⟩

/-- A body falls into units in one way only. -/
theorem texts_injective (same : us.flatMap text = us'.flatMap text) : us = us' := by
  induction us generalizing us' with
  | nil =>
    cases us' with
    | nil => rfl
    | cons u' us' =>
      rw [List.flatMap_nil, List.flatMap_cons] at same
      exact absurd (List.append_eq_nil_iff.1 same.symm).1 u'.text_ne_nil
  | cons u us ih =>
    cases us' with
    | nil =>
      rw [List.flatMap_nil, List.flatMap_cons] at same
      exact absurd (List.append_eq_nil_iff.1 same).1 u.text_ne_nil
    | cons u' us' =>
      rw [List.flatMap_cons, List.flatMap_cons] at same
      obtain ⟨rfl, rest⟩ := text_append_inj same
      rw [ih rest]

/-- A quoted text falls into units in one way only. -/
theorem quoted_injective (same : quoted us = quoted us') : us = us' :=
  texts_injective (List.append_cancel_right (List.cons.inj same).2)

/-! ### Units and bodies -/

theorem stringBody_texts (us : List StringUnit) : StringBody (us.flatMap text) := by
  induction us with
  | nil => exact .nil
  | cons u us ih =>
    cases u with
    | plain c quote backslash line => exact .plain quote backslash line ih
    | pair c line => exact .escaped line ih

/-- All that can stand between quotes falls into units. -/
theorem exists_units {body : List Char} (h : StringBody body) :
    ∃ us : List StringUnit, us.flatMap text = body := by
  induction h with
  | nil => exact ⟨[], rfl⟩
  | @plain c _ quote backslash line _ ih =>
    obtain ⟨us, rfl⟩ := ih
    exact ⟨plain c quote backslash line :: us, rfl⟩
  | @escaped c _ line _ ih =>
    obtain ⟨us, rfl⟩ := ih
    exact ⟨pair c line :: us, rfl⟩

theorem escaped?_eq_lookup (c : Char) : escaped? c = escapes.lookup c := by
  unfold escaped?
  split
  · rfl
  · rfl
  · rfl
  · rfl
  · rename_i quote backslash n t
    -- The character is none of the four keys.
    refine (List.lookup_eq_none_iff.2 ?_).symm
    simpa [escapes] using ⟨quote, backslash, n, t⟩

/-- A body stands for what its units stand for. -/
theorem unescape_texts (us : List StringUnit) :
    unescape (us.flatMap text) = us.flatMap value := by
  induction us with
  | nil => rfl
  | cons u us ih =>
    rw [List.flatMap_cons, List.flatMap_cons, ← ih]
    cases u with
    | plain c quote backslash line =>
      rw [text, value, List.cons_append, List.nil_append, unescape]
      · rfl
      · exact fun _ _ same _ => backslash same
    | pair c line =>
      rw [text, value, List.cons_append, List.cons_append, List.nil_append, unescape,
        escaped?_eq_lookup]
      cases escapes.lookup c with
      | some v => rfl
      | none => rfl

/-- The escapes that stand for nothing else are the pairs that stand for themselves. -/
theorem unknownEscapes_texts (place : Nat) (us : List StringUnit) :
    unknownEscapes place (us.flatMap text) = unknownPairs place us := by
  induction us generalizing place with
  | nil => rfl
  | cons u us ih =>
    rw [List.flatMap_cons, unknownPairs, ← ih]
    cases u with
    | plain c quote backslash line =>
      rw [text, List.cons_append, List.nil_append, unknownEscapes]
      · rfl
      · exact fun _ _ same _ => backslash same
    | pair c line =>
      rw [text, List.cons_append, List.cons_append, List.nil_append, unknownEscapes,
        escaped?_eq_lookup, unknown?]
      split
      · rfl
      · rfl

end StringUnit

/-! ### Writing a string -/

/-- How a character is written between quotes. -/
def spelled (c : Char) : List Char :=
  match c with
  | '"' => ['\\', '"']
  | '\\' => ['\\', '\\']
  | '\n' => ['\\', 'n']
  | '\t' => ['\\', 't']
  | c => [c]

/-- The literal of a string. -/
def literalOf (value : String) : String :=
  String.ofList ('"' :: value.toList.flatMap spelled ++ ['"'])

/-- Every character is written as one unit that stands for it. -/
theorem exists_unit_spelled (c : Char) :
    ∃ u : StringUnit, u.text = spelled c ∧ u.value = [c] ∧ u.unknown? = none := by
  unfold spelled
  split
  · exact ⟨.pair '"' (by decide), rfl, rfl, rfl⟩
  · exact ⟨.pair '\\' (by decide), rfl, rfl, rfl⟩
  · exact ⟨.pair 'n' (by decide), rfl, rfl, rfl⟩
  · exact ⟨.pair 't' (by decide), rfl, rfl, rfl⟩
  · rename_i quote backslash line tab
    exact ⟨.plain c quote backslash line, rfl, rfl, rfl⟩

/-- Every text is written in units that stand for it, and none of them is an unknown pair. -/
theorem exists_units_spelled (cs : List Char) :
    ∃ us : List StringUnit, us.flatMap StringUnit.text = cs.flatMap spelled ∧
      us.flatMap StringUnit.value = cs ∧ ∀ place, StringUnit.unknownPairs place us = [] := by
  induction cs with
  | nil => exact ⟨[], rfl, rfl, fun _ => rfl⟩
  | cons c cs ih =>
    obtain ⟨us, texts, values, known⟩ := ih
    obtain ⟨u, text, value, unknown⟩ := exists_unit_spelled c
    refine ⟨u :: us, ?_, ?_, fun place => ?_⟩
    · rw [List.flatMap_cons, List.flatMap_cons, text, texts]
    · rw [List.flatMap_cons, value, values, List.singleton_append]
    · rw [StringUnit.unknownPairs, unknown, known]
      rfl

/-- A quoted body is one piece. -/
theorem pieces_string {body : List Char} (closed : StringBody body) :
    pieces ('"' :: body ++ ['"']) = [.string body] := by
  have read : Piece.read '"' (body ++ ['"']) = (.string body, []) :=
    Piece.EndsBefore.read_eq (.string closed) (List.append_nil _)
  rw [List.cons_append, pieces_cons, read, pieces_nil]

/-- The literal of a string is read back as that string. -/
theorem scan_literalOf (value : String) :
    scan (literalOf value) =
      ⟨[{ kind := .string, lexeme := literalOf value, literal := some (.string value), line := 1
          span := ⟨0, (literalOf value).length⟩ },
        { kind := .eof, lexeme := "", line := 1
          span := ⟨(literalOf value).length, (literalOf value).length⟩ }], []⟩ := by
  obtain ⟨us, texts, values, known⟩ := exists_units_spelled value.toList
  have closed : StringBody (value.toList.flatMap spelled) :=
    texts ▸ StringUnit.stringBody_texts us
  have worth : unescape (value.toList.flatMap spelled) = value.toList := by
    rw [← texts, StringUnit.unescape_texts, values]
  have faults : unknownEscapes 1 (value.toList.flatMap spelled) = [] := by
    rw [← texts, StringUnit.unknownEscapes_texts, known]
  -- The text has no line break, and so the end token is on the first line as well.
  have line : ('"' :: value.toList.flatMap spelled ++ ['"']).count '\n' = 0 := by
    rw [List.count_eq_zero, List.mem_append, List.mem_cons]
    rintro ((quote | inner) | quote)
    · cases quote
    · exact closed.noBreak inner
    · cases List.mem_singleton.1 quote
  have length : (literalOf value).length = ('"' :: value.toList.flatMap spelled ++ ['"']).length :=
    by rw [literalOf, String.length_ofList]
  rw [scan, length, literalOf, String.toList_ofList, pieces_string closed]
  simp only [scanPieces, Piece.token?, Piece.tokenAt, Piece.diagnostics,
    Piece.diagnostics.escapeFaults, Position.endToken, Position.after, Piece.text, faults, worth,
    line, Option.toList_some, List.map_nil, List.nil_append, List.singleton_append,
    String.ofList_toList, Nat.zero_add, Nat.add_zero]

/-! ### Faults in a token -/

/-- The faults that are found among the characters of a token. -/
def Scan.faultsIn (s : Scan) (t : Token) : List Diagnostic :=
  s.diagnostics.filter fun d => t.span.start ≤ d.span.start ∧ d.span.stop ≤ t.span.stop

/-- The faults of pieces stand behind the place where the pieces start. -/
theorem start_of_mem_scanPieces {p : Position} {ps : List Piece} {d : Diagnostic}
    (h : d ∈ (scanPieces p ps).diagnostics) :
    p.offset ≤ d.span.start ∧ d.span.start < d.span.stop := by
  rw [diagnostics_eq_gather, mem_gather_iff] at h
  obtain ⟨as, piece, bs, -, mem⟩ := h
  obtain ⟨length, fault, pos, -, rfl⟩ := Piece.faultAt_of_mem_diagnostics mem
  exact ⟨Nat.le_add_right .., Nat.lt_add_of_pos_right pos⟩

/-- The faults in a token are those of its piece. -/
theorem Piece.StandsIn.faultsIn_eq {source : String} {piece : Piece} {before after : List Char}
    {t : Token} (h : piece.StandsIn source.toList before after)
    (token : piece.token? (Position.after {} before) = some t) :
    (scan source).faultsIn t = piece.diagnostics (Position.after {} before) := by
  have span := Piece.span_of_token?_after token
  obtain ⟨ps, qs, split, rfl, -⟩ := h
  rw [Scan.faultsIn, scan, split, diagnostics_scanPieces_append, scanPieces, span,
    List.filter_append, List.filter_append]
  -- Earlier faults start before the token.
  have earlier : (scanPieces {} ps).diagnostics.filter (fun d =>
      (ps.flatMap Piece.text).length ≤ d.span.start ∧
        d.span.stop ≤ (ps.flatMap Piece.text).length + piece.text.length) = [] := by
    refine List.filter_eq_nil_iff.2 fun d mem => ?_
    have within := within_of_mem_scanPieces [] mem
    have := within.start_lt_stop
    have stop := within.stop_le
    rw [List.nil_append] at stop
    simp only [decide_eq_true_eq]
    omega
  -- The faults of the piece itself are about its own characters.
  have inside : (piece.diagnostics (Position.after {} (ps.flatMap Piece.text))).filter (fun d =>
      (ps.flatMap Piece.text).length ≤ d.span.start ∧
        d.span.stop ≤ (ps.flatMap Piece.text).length + piece.text.length) =
      piece.diagnostics (Position.after {} (ps.flatMap Piece.text)) := by
    refine List.filter_eq_self.2 fun d mem => ?_
    obtain ⟨length, fault, -, le, rfl⟩ := Piece.faultAt_of_mem_diagnostics mem
    simp only [decide_eq_true_eq, Piece.faultAt, Position.offset_after]
    omega
  -- Later faults start behind the token, and no fault is about no characters.
  have later : (scanPieces ((Position.after {} (ps.flatMap Piece.text)).after piece.text)
      qs).diagnostics.filter (fun d =>
      (ps.flatMap Piece.text).length ≤ d.span.start ∧
        d.span.stop ≤ (ps.flatMap Piece.text).length + piece.text.length) = [] := by
    refine List.filter_eq_nil_iff.2 fun d mem => ?_
    have := start_of_mem_scanPieces mem
    rw [← Position.after_append, Position.offset_after, List.length_append] at this
    simp only [decide_eq_true_eq]
    omega
  rw [earlier, inside, later, List.nil_append, List.append_nil]

/-! ### String tokens -/

/-- Only quoted bodies make string tokens. -/
theorem Piece.eq_string_of_token? {piece : Piece} {p : Position} {t : Token} {after : List Char}
    (ends : piece.EndsBefore after) (token : piece.token? p = some t) (kind : t.kind = .string) :
    ∃ body, piece = .string body ∧ StringBody body := by
  have noSymbol (text : List Char) : (TokenKind.string, text) ∉ symbols := by simp [symbols]
  have noKeyword (word : String) : (TokenKind.string, word) ∉ keywords := by simp [keywords]
  cases ends with
  | string closed => exact ⟨_, rfl, closed⟩
  | blank | comment | openString | stray => cases token
  | symbol known =>
    cases token
    cases kind
    exact absurd (mem_symbols_iff.2 (.inl ⟨_, rfl, known⟩)) (noSymbol _)
  | withEqual known double =>
    cases token
    cases kind
    exact absurd (mem_symbols_iff.2 (.inr ⟨_, _, rfl, known, double⟩)) (noSymbol _)
  | whole | decimal =>
    cases token
    cases kind
  | word =>
    cases token
    rw [tokenAt] at kind
    cases known : TokenKind.ofWord? (String.ofList _) with
    | none =>
      rw [known] at kind
      cases kind
    | some keyword =>
      rw [known] at kind
      cases kind
      exact absurd (mem_keywords_iff.2 known) (noKeyword _)

/-- Every string token stands for what its units stand for, from left to right, and its faults are
the pairs that stand for themselves, one fault for each. -/
structure Token.Decodes (source : String) (t : Token) (us : List StringUnit) : Prop where
  lexeme : t.lexeme.toList = StringUnit.quoted us
  literal : t.literal = some (.string (String.ofList (us.flatMap StringUnit.value)))
  faults : (scan source).faultsIn t = (StringUnit.unknownPairs 1 us).map fun (place, c) =>
    { fault := .unknownEscape c, line := t.line, place := ""
      span := ⟨t.span.start, t.span.start + place⟩ }

variable {source : String} {t : Token}

/-- Every string token is decoded. -/
theorem exists_decodes (mem : t ∈ (scan source).tokens) (kind : t.kind = .string) :
    ∃ us, t.Decodes source us := by
  obtain ⟨piece, before, after, stands, token⟩ | rfl := token_cases mem
  · obtain ⟨body, rfl, closed⟩ := Piece.eq_string_of_token? stands.endsBefore token kind
    obtain ⟨us, rfl⟩ := StringUnit.exists_units closed
    have faults := stands.faultsIn_eq token
    cases token
    refine ⟨us, String.toList_ofList, ?_, ?_⟩
    · rw [Piece.tokenAt, StringUnit.unescape_texts]
    · rw [faults, Piece.diagnostics, Piece.diagnostics.escapeFaults,
        StringUnit.unknownEscapes_texts]
      rfl
  · cases kind

/-- Strings are written and read with four escapes.  The literal of any string is read without a
fault as one token with that value.  And in any text, a string token stands for what its units stand
for, in one way only, with one report for each pair that stands for itself. -/
theorem scan_strings :
    (∀ value : String, ∃ t stop, scan (literalOf value) = ⟨[t, stop], []⟩ ∧
      t.kind = .string ∧ t.literal = some (.string value) ∧ stop.kind = .eof) ∧
    ∀ source, ∀ t ∈ (scan source).tokens, t.kind = .string →
      ∃ us, t.Decodes source us ∧ ∀ us', t.lexeme.toList = StringUnit.quoted us' → us' = us := by
  constructor
  · intro value
    exact ⟨_, _, scan_literalOf value, rfl, rfl, rfl⟩
  · intro source t mem kind
    obtain ⟨us, decodes⟩ := exists_decodes mem kind
    refine ⟨us, decodes, fun us' lexeme => ?_⟩
    exact StringUnit.quoted_injective (lexeme.symm.trans decodes.lexeme)

/-- A string with a known pair, an unknown one and a doubled backslash in front of its closing
quote. -/
theorem scan_strings_pairs :
    ∃ us, Token.Decodes "\"\\n\\q\\\\\""
      { kind := .string, lexeme := "\"\\n\\q\\\\\"", literal := some (.string "\n\\q\\")
        line := 1, span := ⟨0, 8⟩ } us ∧
      ∀ us', "\"\\n\\q\\\\\"".toList = StringUnit.quoted us' → us' = us :=
  scan_strings.2 _ _ (by decide +kernel) rfl

example : literalOf "a\t\"\\" = "\"a\\t\\\"\\\\\"" := by decide

end ScriptLang

import Mathlib
import ScriptLang.Proofs.Lexemes
import ScriptLang.Proofs.Places

/-!
# Where the characters of a text go

Every character of a source text belongs to exactly one thing: a token, a blank, a comment, or a
fault about a character or about a string that does not end.  Blanks and comments leave no trace in
what the scan yields, so they are described by the text itself and by what else there is in it.

## Main definitions

* `Tile` — what a character can belong to
* `Tile.LiesIn` — the tiles of a text
* `Scan.CommentAt` — the comments of a text
* `Scan.Tiles` — what the tokens and faults of a text say about its characters

## Main results

* `Tile.liesIn_iff` — the tiles of a text are those of its pieces
* `scan_tiles` — the tokens and faults of a text account for all its characters
-/

namespace ScriptLang

/-! ### Tiles -/

/-- The character with this number is in the span. -/
def Span.Covers (s : Span) (i : Nat) : Prop :=
  s.start ≤ i ∧ i < s.stop

/-- What a character of a source text can belong to. -/
inductive Tile where
  | token (t : Token)
  | blank (i : Nat)
  | comment (c : Span)
  | unexpected (d : Diagnostic)
  | unterminated (d : Diagnostic)

/-- The characters of a tile. -/
def Tile.span : Tile → Span
  | token t => t.span
  | blank i => ⟨i, i + 1⟩
  | comment c => c
  | unexpected d | unterminated d => d.span

namespace Scan

variable (source : String) (s : Scan)

/-- The character is in a token. -/
def InToken (i : Nat) : Prop :=
  ∃ t ∈ s.tokens, t.span.Covers i

/-- The character is in a string that does not end. -/
def InOpenString (i : Nat) : Prop :=
  ∃ d ∈ s.diagnostics, d.fault = .unterminatedString ∧ d.span.Covers i

/-- Two slashes that begin in no token and in no string that does not end, and what is behind them
up to the next line break or to the end of the text. -/
structure SlashesAt (c : Span) : Prop where
  text : ∃ before text after, source.toList = before ++ (text ++ after) ∧ IsComment text ∧
    (after = [] ∨ after.head? = some '\n') ∧ c = ⟨before.length, before.length + text.length⟩
  noToken : ¬ s.InToken c.start
  noOpenString : ¬ s.InOpenString c.start

/-- A comment: slashes that no other slashes before them on the line make part of a comment. -/
structure CommentAt (c : Span) : Prop where
  slashes : s.SlashesAt source c
  first : ∀ c', s.SlashesAt source c' → c'.stop = c.stop → c.start ≤ c'.start

/-- The character is in a comment. -/
def InComment (i : Nat) : Prop :=
  ∃ c, s.CommentAt source c ∧ c.Covers i

end Scan

/-- The tiles of a source text, which scanning has given these tokens and faults. -/
def Tile.LiesIn (source : String) (s : Scan) : Tile → Prop
  | token t => t ∈ s.tokens ∧ t.kind ≠ .eof
  | blank i => (∃ c, source.toList[i]? = some c ∧ isSeparator c = true) ∧
      ¬ s.InToken i ∧ ¬ s.InComment source i ∧ ¬ s.InOpenString i
  | comment c => s.CommentAt source c
  | unexpected d => d ∈ s.diagnostics ∧ ∃ c, d.fault = .unexpectedCharacter c
  | unterminated d => d ∈ s.diagnostics ∧ d.fault = .unterminatedString

/-- What the tokens and faults that scanning gives say about the characters of the text. -/
structure Scan.Tiles (source : String) (s : Scan) : Prop where
  /-- One end token closes the list, behind the last character. -/
  closed : ∃ inner last, s.tokens = inner ++ [last] ∧ (∀ t ∈ inner, t.kind ≠ .eof) ∧
    last.kind = .eof ∧ last.span = ⟨source.length, source.length⟩
  wide : ∀ t ∈ s.tokens, t.kind ≠ .eof →
    t.span.start < t.span.stop ∧ t.span.stop ≤ source.length
  apart : s.tokens.Pairwise fun t t' => t.span.stop ≤ t'.span.start
  lexeme : ∀ t ∈ s.tokens, t.lexeme.toList = source.toList.extract t.span.start t.span.stop
  line : ∀ t ∈ s.tokens, t.line = 1 + (source.toList.take t.span.start).count '\n'
  noBreak : ∀ t ∈ s.tokens, '\n' ∉ t.lexeme.toList
  /-- The text of a number token always denotes a number, so no literal is ever invalid. -/
  number : ∀ t ∈ s.tokens, t.kind = .number → (Number.read? t.lexeme.toList).isSome
  /-- Every character belongs to one tile and to no other. -/
  covered : ∀ i < source.length, ∃! tile : Tile, tile.LiesIn source s ∧ tile.span.Covers i
  /-- Nothing else is ever reported about characters. -/
  faults : ∀ d ∈ s.diagnostics, (∃ c, d.fault = .unexpectedCharacter c) ∨
    d.fault = .unterminatedString ∨ ∃ c, d.fault = .unknownEscape c
  unexpected : ∀ d ∈ s.diagnostics, ∀ c, d.fault = .unexpectedCharacter c →
    d.span.stop = d.span.start + 1 ∧ source.toList[d.span.start]? = some c
  escape : ∀ d ∈ s.diagnostics, ∀ c, d.fault = .unknownEscape c →
    (∃ t ∈ s.tokens, t.kind = .string ∧
      t.span.start ≤ d.span.start ∧ d.span.stop ≤ t.span.stop) ∨
    ∃ e ∈ s.diagnostics, e.fault = .unterminatedString ∧
      e.span.start ≤ d.span.start ∧ d.span.stop ≤ e.span.stop
  placed : ∀ d ∈ s.diagnostics, d.place = "" ∧ d.Within source.toList

/-! ### The tiles of pieces -/

namespace Piece

variable {piece : Piece} {p : Position} {t : Token} {d : Diagnostic}

/-- The tile of a piece that starts at a position. -/
def tile (p : Position) (piece : Piece) : Tile :=
  match piece.token? p, piece with
  | some t, _ => .token t
  | none, blank _ => .blank p.offset
  | none, stray c => .unexpected (faultAt p 1 (.unexpectedCharacter c))
  | none, openString body =>
    .unterminated (faultAt p (openString body).text.length .unterminatedString)
  | none, piece => .comment ⟨p.offset, p.offset + piece.text.length⟩

theorem tile_of_token? (h : piece.token? p = some t) : piece.tile p = .token t := by
  unfold tile
  rw [h]

/-- Pieces without a token are of four kinds. -/
theorem cases_of_no_token (h : piece.token? p = none) :
    (∃ c, piece = blank c) ∨ (∃ body, piece = comment body) ∨ (∃ c, piece = stray c) ∨
      ∃ body, piece = openString body := by
  cases piece with
  | blank c => exact .inl ⟨c, rfl⟩
  | comment body => exact .inr (.inl ⟨body, rfl⟩)
  | stray c => exact .inr (.inr (.inl ⟨c, rfl⟩))
  | openString body => exact .inr (.inr (.inr ⟨body, rfl⟩))
  | symbol kind text | number whole fraction | word text | string body => cases h

/-- A tile has the characters of its piece. -/
theorem span_tile (p : Position) (piece : Piece) :
    (piece.tile p).span = ⟨p.offset, p.offset + piece.text.length⟩ := by
  cases token : piece.token? p with
  | some t =>
    rw [tile_of_token? token]
    simp [Tile.span, span_of_token? token, Position.after]
  | none =>
    obtain ⟨c, rfl⟩ | ⟨body, rfl⟩ | ⟨c, rfl⟩ | ⟨body, rfl⟩ := cases_of_no_token token
    all_goals rfl

end Piece

/-! ### Pieces that stand in a text -/

/-- The end token has no characters. -/
theorem kind_ne_eof_of_covers {source : String} {t : Token} {i : Nat}
    (mem : t ∈ (scan source).tokens) (covers : t.span.Covers i) : t.kind ≠ .eof := by
  rw [tokens_scan] at mem
  obtain mem | mem := List.mem_append.1 mem
  · exact kind_ne_eof_of_mem_scanInner mem
  · obtain rfl := List.mem_singleton.1 mem
    exact absurd (Nat.lt_of_le_of_lt covers.1 covers.2) (Nat.lt_irrefl _)

/-- The piece holds the character with this number. -/
def Piece.Holds (source : String) (i : Nat) (piece : Piece) (before : List Char) : Prop :=
  (∃ after, piece.StandsIn source.toList before after) ∧
    (⟨before.length, before.length + piece.text.length⟩ : Span).Covers i

namespace Piece.Holds

variable {source : String} {i : Nat} {piece piece' : Piece} {before before' : List Char}

theorem unique (h : piece.Holds source i before) (h' : piece'.Holds source i before') :
    piece = piece' ∧ before = before' := by
  obtain ⟨⟨after, stands⟩, start, stop⟩ := h
  obtain ⟨⟨after', stands'⟩, start', stop'⟩ := h'
  obtain ⟨same, texts, -⟩ := stands.unique stands' start stop start' stop'
  exact ⟨same, texts⟩

/-- A character is in a token if the piece that holds it makes one. -/
theorem inToken_iff (h : piece.Holds source i before) :
    (scan source).InToken i ↔ ∃ t, piece.token? (.after {} before) = some t := by
  constructor
  · rintro ⟨t, mem, covers⟩
    obtain ⟨piece', before', after', stands', token⟩ :=
      mem_scanInner_iff.1 (mem_scanInner_iff_kind.2 ⟨mem, kind_ne_eof_of_covers mem covers⟩)
    have h' : piece'.Holds source i before' := by
      refine ⟨⟨after', stands'⟩, ?_⟩
      rwa [span_of_token?_after token] at covers
    obtain ⟨rfl, rfl⟩ := h.unique h'
    exact ⟨t, token⟩
  · rintro ⟨t, token⟩
    obtain ⟨⟨after, stands⟩, covers⟩ := h
    have mem := mem_scanInner_iff.2 ⟨piece, before, after, stands, token⟩
    refine ⟨t, (mem_scanInner_iff_kind.1 mem).1, ?_⟩
    rwa [span_of_token?_after token]

/-- A character is in a string that does not end if the piece that holds it is one. -/
theorem inOpenString_iff (h : piece.Holds source i before) :
    (scan source).InOpenString i ↔ ∃ body, piece = openString body := by
  constructor
  · rintro ⟨d, mem, fault, covers⟩
    obtain ⟨before', after', ⟨c, _, rfl⟩ | ⟨body, stands', rfl⟩ | ⟨_, _, _, _, _, rfl⟩⟩ :=
      fault_cases mem
    · cases fault
    · rw [faultAt, Position.offset_after] at covers
      have h' : (openString body).Holds source i before' := ⟨⟨after', stands'⟩, covers⟩
      exact ⟨body, (h.unique h').1⟩
    · cases fault
  · rintro ⟨body, rfl⟩
    obtain ⟨⟨after, stands⟩, covers⟩ := h
    refine ⟨_, stands.unterminated, rfl, ?_⟩
    rwa [faultAt, Position.offset_after]

end Piece.Holds

theorem exists_holds {source : String} {i : Nat} (h : i < source.length) :
    ∃ (piece : Piece) (before : List Char), piece.Holds source i before := by
  rw [← String.length_toList] at h
  obtain ⟨piece, before, after, stands, covers⟩ := exists_standsIn h
  exact ⟨piece, before, ⟨after, stands⟩, covers⟩

/-! ### Comments -/

section Comments

variable {source : String} {body before after : List Char} {c : Span}

/-- What begins within a line, and goes on to its end, ends where the line does. -/
theorem eq_append_of_line {text skipped rest after after' : List Char} (line : '\n' ∉ text)
    (line' : '\n' ∉ rest) (clear : Clear (· != '\n') after) (clear' : Clear (· != '\n') after')
    (inside : skipped.length ≤ text.length)
    (same : text ++ after = skipped ++ (rest ++ after')) : text = skipped ++ rest := by
  have early : skipped <+: text :=
    List.prefix_of_prefix_length_le ⟨_, same.symm⟩ ⟨after, rfl⟩ inside
  have whole : '\n' ∉ skipped ++ rest := by
    rw [List.mem_append, not_or]
    exact ⟨fun mem => line (early.subset mem), line'⟩
  rw [← List.append_assoc] at same
  exact (eq_of_append_line line whole clear clear' same).1

/-- A piece holds its own characters. -/
theorem Piece.StandsIn.holds {piece : Piece} {i : Nat}
    (h : piece.StandsIn source.toList before after)
    (covers : (⟨before.length, before.length + piece.text.length⟩ : Span).Covers i) :
    piece.Holds source i before :=
  ⟨⟨after, h⟩, covers⟩

/-- A comment that is read begins with two slashes that are in nothing else. -/
theorem slashesAt_of_standsIn
    (h : (Piece.comment body).StandsIn source.toList before after) :
    (scan source).SlashesAt source
      ⟨before.length, before.length + (Piece.comment body).text.length⟩ := by
  have first : (Piece.comment body).Holds source before.length before :=
    h.holds ⟨Nat.le_refl _, by simp [Piece.text]⟩
  cases h.endsBefore with
  | comment line clear =>
    refine ⟨⟨before, _, after, h.text_eq, ⟨body, rfl, line⟩, clear_line_iff.1 clear, rfl⟩, ?_, ?_⟩
    · rw [first.inToken_iff]
      rintro ⟨t, token⟩
      cases token
    · rw [first.inOpenString_iff]
      rintro ⟨_, same⟩
      cases same

/-- Slashes that are in nothing else stand in a comment that is read, which is as long as they
go. -/
theorem Scan.SlashesAt.exists_comment (h : (scan source).SlashesAt source c) :
    ∃ body before after, (Piece.comment body).StandsIn source.toList before after ∧
      before.length ≤ c.start ∧ c.start < c.stop ∧
      c.stop = before.length + (Piece.comment body).text.length := by
  obtain ⟨⟨before', _, after', whole, ⟨body', rfl, line'⟩, ending, rfl⟩, noToken, noOpenString⟩ := h
  have inside : before'.length < source.length := by
    rw [← String.length_toList, whole]
    simp
  obtain ⟨piece, before, holds⟩ := exists_holds inside
  rw [holds.inToken_iff] at noToken
  rw [holds.inOpenString_iff] at noOpenString
  obtain ⟨⟨after, stands⟩, start, stop⟩ := holds
  dsimp only at start stop
  -- The piece begins before the slashes or with them.
  obtain ⟨skipped, rfl⟩ : before <+: before' :=
    List.prefix_of_prefix_length_le ⟨_, stands.text_eq.symm⟩ ⟨_, whole.symm⟩ start
  have rest : piece.text ++ after = skipped ++ ('/' :: '/' :: body' ++ after') := by
    have same := stands.text_eq.symm.trans whole
    rwa [List.append_assoc, List.append_cancel_left_eq] at same
  have single {c : Char} (text : piece.text = [c]) : c = '/' := by
    rw [List.length_append, text, List.length_singleton] at stop
    obtain rfl : skipped = [] := List.length_eq_zero_iff.1 (by omega)
    rw [text] at rest
    exact (List.cons.inj rest).1
  have noToken : piece.token? (.after {} before) = none :=
    Option.eq_none_iff_forall_ne_some.2 fun t token => noToken ⟨t, token⟩
  obtain ⟨c, rfl⟩ | ⟨body, rfl⟩ | ⟨c, rfl⟩ | ⟨body, rfl⟩ := Piece.cases_of_no_token noToken
  · cases stands.endsBefore with
    | blank separator =>
      obtain rfl := single rfl
      cases separator
  · cases stands.endsBefore with
    | comment line clear =>
      have line : '\n' ∉ (Piece.comment body).text := by simpa [Piece.text] using line
      have line' : '\n' ∉ '/' :: '/' :: body' := by simpa using line'
      have inside : skipped.length ≤ (Piece.comment body).text.length := by
        rw [List.length_append] at stop
        omega
      have same := eq_append_of_line line line' clear (clear_line_iff.2 ending) inside rest
      refine ⟨body, before, after, stands, start, ?_, ?_⟩
      · simp
      · rw [same]
        simp only [List.length_append]
        omega
  · cases stands.endsBefore with
    | stray _ noSymbol _ _ _ =>
      obtain rfl := single rfl
      cases noSymbol
  · exact (noOpenString ⟨body, rfl⟩).elim

/-- The comments of a text are those that are read. -/
theorem commentAt_iff :
    (scan source).CommentAt source c ↔
      ∃ body before after, (Piece.comment body).StandsIn source.toList before after ∧
        c = ⟨before.length, before.length + (Piece.comment body).text.length⟩ := by
  constructor
  · rintro ⟨slashes, first⟩
    obtain ⟨body, before, after, stands, start, _, stop⟩ := slashes.exists_comment
    have le := first _ (slashesAt_of_standsIn stands) stop.symm
    refine ⟨body, before, after, stands, ?_⟩
    rw [← stop, Nat.le_antisymm start le]
  · rintro ⟨body, before, after, stands, rfl⟩
    refine ⟨slashesAt_of_standsIn stands, fun c' slashes' same => ?_⟩
    obtain ⟨body', before', after', stands', start', lt', stop'⟩ := slashes'.exists_comment
    -- The two comments end in the same place, so that they hold the same last character.
    have last : (Piece.comment body).Holds source (c'.stop - 1) before :=
      stands.holds ⟨by simp [same, Piece.text], by simp [same, Piece.text]⟩
    have last' : (Piece.comment body').Holds source (c'.stop - 1) before' :=
      stands'.holds ⟨by dsimp only; omega, by dsimp only; omega⟩
    obtain ⟨-, rfl⟩ := last.unique last'
    exact start'

theorem Piece.Holds.inComment_iff {piece : Piece} {i : Nat} (h : piece.Holds source i before) :
    (scan source).InComment source i ↔ ∃ body, piece = .comment body := by
  constructor
  · rintro ⟨c, comment, covers⟩
    obtain ⟨body, before', after', stands', rfl⟩ := commentAt_iff.1 comment
    exact ⟨body, (h.unique (stands'.holds covers)).1⟩
  · rintro ⟨body, rfl⟩
    obtain ⟨⟨after, stands⟩, covers⟩ := h
    exact ⟨_, commentAt_iff.2 ⟨body, before, after, stands, rfl⟩, covers⟩

end Comments

/-! ### The tiles of a text -/

/-- The tile of a piece is one of the text. -/
theorem Piece.StandsIn.liesIn {source : String} {piece : Piece} {before after : List Char}
    (h : piece.StandsIn source.toList before after) :
    (piece.tile (.after {} before)).LiesIn source (scan source) := by
  cases token : piece.token? (.after {} before) with
  | some t =>
    rw [Piece.tile_of_token? token]
    exact mem_scanInner_iff_kind.1 (mem_scanInner_iff.2 ⟨piece, before, after, h, token⟩)
  | none =>
    obtain ⟨c, rfl⟩ | ⟨body, rfl⟩ | ⟨c, rfl⟩ | ⟨body, rfl⟩ := Piece.cases_of_no_token token
    · have holds : (Piece.blank c).Holds source before.length before :=
        h.holds ⟨Nat.le_refl _, Nat.lt_succ_self _⟩
      cases h.endsBefore with
      | blank separator =>
        simp only [Piece.tile, token, Tile.LiesIn, Position.offset_after, holds.inToken_iff,
          holds.inComment_iff, holds.inOpenString_iff]
        refine ⟨⟨c, ?_, separator⟩, by simp, by simp, by simp⟩
        simp [h.text_eq, Piece.text]
    · simp only [Piece.tile, token, Tile.LiesIn, Position.offset_after]
      exact commentAt_iff.2 ⟨body, before, after, h, rfl⟩
    · exact ⟨h.unexpected, c, rfl⟩
    · exact ⟨h.unterminated, rfl⟩

/-- The tiles of a text are those of its pieces. -/
theorem Tile.liesIn_iff {source : String} {tile : Tile} :
    tile.LiesIn source (scan source) ↔ ∃ (piece : Piece) (before after : List Char),
      piece.StandsIn source.toList before after ∧ tile = piece.tile (.after {} before) := by
  constructor
  · intro h
    cases tile with
    | token t =>
      obtain ⟨piece, before, after, stands, token⟩ :=
        mem_scanInner_iff.1 (mem_scanInner_iff_kind.2 h)
      exact ⟨piece, before, after, stands, (Piece.tile_of_token? token).symm⟩
    | comment c =>
      obtain ⟨body, before, after, stands, rfl⟩ := commentAt_iff.1 h
      refine ⟨_, before, after, stands, ?_⟩
      simp [Piece.tile, Piece.token?, Position.offset_after]
    | blank i =>
      obtain ⟨⟨c, char, separator⟩, noToken, noComment, noOpenString⟩ := h
      obtain ⟨inside, -⟩ := List.getElem?_eq_some_iff.1 char
      obtain ⟨piece, before, holds⟩ := exists_holds (String.length_toList ▸ inside)
      rw [holds.inToken_iff] at noToken
      rw [holds.inComment_iff] at noComment
      rw [holds.inOpenString_iff] at noOpenString
      obtain ⟨⟨after, stands⟩, start, stop⟩ := holds
      have noToken : piece.token? (.after {} before) = none :=
        Option.eq_none_iff_forall_ne_some.2 fun t token => noToken ⟨t, token⟩
      obtain ⟨d, rfl⟩ | ⟨body, rfl⟩ | ⟨d, rfl⟩ | ⟨body, rfl⟩ := Piece.cases_of_no_token noToken
      · refine ⟨_, before, after, stands, ?_⟩
        obtain rfl := Nat.eq_of_le_of_lt_succ start stop
        simp [Piece.tile, noToken, Position.offset_after]
      · exact (noComment ⟨body, rfl⟩).elim
      · -- No separator is unexpected.
        obtain rfl := Nat.eq_of_le_of_lt_succ start stop
        obtain rfl : d = c := by simpa [stands.text_eq, Piece.text] using char
        cases stands.endsBefore with
        | stray _ _ noSeparator _ _ => cases separator.symm.trans noSeparator
      · exact (noOpenString ⟨body, rfl⟩).elim
    | unexpected d =>
      obtain ⟨mem, c, fault⟩ := h
      obtain ⟨before, after, ⟨c, stands, rfl⟩ | ⟨_, _, rfl⟩ | ⟨_, _, _, _, _, rfl⟩⟩ :=
        fault_cases mem
      · exact ⟨_, before, after, stands, rfl⟩
      · cases fault
      · cases fault
    | unterminated d =>
      obtain ⟨mem, fault⟩ := h
      obtain ⟨before, after, ⟨_, _, rfl⟩ | ⟨body, stands, rfl⟩ | ⟨_, _, _, _, _, rfl⟩⟩ :=
        fault_cases mem
      · cases fault
      · exact ⟨_, before, after, stands, rfl⟩
      · cases fault
  · rintro ⟨piece, before, after, stands, rfl⟩
    exact stands.liesIn

/-- Every character belongs to one tile and to no other. -/
theorem existsUnique_tile {source : String} {i : Nat} (h : i < source.length) :
    ∃! tile : Tile, tile.LiesIn source (scan source) ∧ tile.span.Covers i := by
  obtain ⟨piece, before, holds⟩ := exists_holds h
  obtain ⟨⟨after, stands⟩, covers⟩ := holds
  refine ⟨piece.tile (.after {} before), ⟨stands.liesIn, ?_⟩, ?_⟩
  · rwa [Piece.span_tile, Position.offset_after]
  · rintro tile ⟨lies, covers'⟩
    obtain ⟨piece', before', after', stands', rfl⟩ := Tile.liesIn_iff.1 lies
    rw [Piece.span_tile, Position.offset_after] at covers'
    obtain ⟨rfl, rfl⟩ := (stands.holds covers).unique (stands'.holds covers')
    rfl

/-! ### Texts of tokens -/

theorem StringBody.noBreak {body : List Char} (h : StringBody body) : '\n' ∉ body := by
  induction h with
  | nil => exact List.not_mem_nil
  | plain _ _ line _ ih => simpa [Ne.symm line] using ih
  | escaped line _ ih => simpa [Ne.symm line] using ih

theorem IsWord.noBreak {text : List Char} (h : IsWord text) : '\n' ∉ text := by
  cases text with
  | nil => exact h.elim
  | cons c cs =>
    intro mem
    obtain rfl | mem := List.mem_cons.1 mem
    · exact absurd h.1 (by decide)
    · exact absurd (h.2 _ mem) (by decide)

theorem IsDigits.noBreak {ds : List Char} (h : IsDigits ds) : '\n' ∉ ds :=
  fun mem => absurd (h.2 _ mem) (by decide)

/-- No token goes across a line break. -/
theorem Lexeme.noBreak {kind : TokenKind} {text : List Char} (h : Lexeme kind text) :
    '\n' ∉ text := by
  cases h with
  | symbol mem =>
    have single : ∀ e ∈ symbols, '\n' ∉ e.2 := by decide
    exact single _ mem
  | whole digits => exact digits.noBreak
  | decimal digits places => simp [digits.noBreak, places.noBreak]
  | keyword mem => exact (isWord_of_mem_keywords mem).noBreak
  | ident isWord _ => exact isWord.noBreak
  | string closed => simp [closed.noBreak]

/-- What is between the ends of a piece. -/
theorem Piece.StandsIn.extract_eq {cs before after : List Char} {piece : Piece}
    (h : piece.StandsIn cs before after) :
    cs.extract before.length (before.length + piece.text.length) = piece.text := by
  rw [List.extract_eq_take_drop, h.drop_eq, Nat.add_sub_cancel_left, List.take_left]

/-! ### Source texts -/

section Tokens

variable {source : String} {t : Token}

/-- The end token stands behind the last character. -/
theorem scanEnd_eq (source : String) :
    scanEnd source =
      { kind := .eof, lexeme := "", literal := none
        line := 1 + source.toList.count '\n', span := ⟨source.length, source.length⟩ } := by
  simp [scanEnd, Position.endToken, Position.after, String.length_toList]

/-- A token is that of a piece, or it is the end token. -/
theorem token_cases (mem : t ∈ (scan source).tokens) :
    (∃ (piece : Piece) (before after : List Char), piece.StandsIn source.toList before after ∧
      piece.token? (.after {} before) = some t) ∨ t = scanEnd source := by
  rw [tokens_scan] at mem
  obtain inner | last := List.mem_append.1 mem
  · exact .inl (mem_scanInner_iff.1 inner)
  · exact .inr (List.mem_singleton.1 last)

/-- The lexeme of a token is the text that it spans. -/
theorem lexeme_of_mem_scan (mem : t ∈ (scan source).tokens) :
    t.lexeme.toList = source.toList.extract t.span.start t.span.stop := by
  obtain ⟨piece, before, after, stands, token⟩ | rfl := token_cases mem
  · rw [Piece.lexeme_of_token? token, Piece.span_of_token?_after token, stands.extract_eq]
  · rw [scanEnd_eq]
    simp

/-- A token is on the line where it begins. -/
theorem line_of_mem_scan (mem : t ∈ (scan source).tokens) :
    t.line = 1 + (source.toList.take t.span.start).count '\n' := by
  obtain ⟨piece, before, after, stands, token⟩ | rfl := token_cases mem
  · rw [Piece.line_of_token?_after token, Piece.span_of_token?_after token, stands.text_eq,
      List.take_left]
  · rw [scanEnd_eq, ← String.length_toList, List.take_length]

/-- No token goes across a line break. -/
theorem noBreak_of_mem_scan (mem : t ∈ (scan source).tokens) : '\n' ∉ t.lexeme.toList := by
  obtain ⟨piece, before, after, stands, token⟩ | rfl := token_cases mem
  · rw [Piece.lexeme_of_token? token]
    exact (stands.endsBefore.lexeme token).noBreak
  · exact List.not_mem_nil

/-- The text of a number token denotes a number. -/
theorem isSome_read?_of_mem_scan (mem : t ∈ (scan source).tokens) (number : t.kind = .number) :
    (Number.read? t.lexeme.toList).isSome := by
  obtain ⟨piece, before, after, stands, token⟩ | rfl := token_cases mem
  · obtain ⟨x, denotes, -⟩ := (stands.endsBefore.literal token).1 number
    rw [Piece.lexeme_of_token? token, denotes, Option.isSome_some]
  · cases number

end Tokens

section Faults

variable {source : String} {d : Diagnostic}

/-- An unexpected character is reported where it stands. -/
theorem getElem?_of_unexpected (mem : d ∈ (scan source).diagnostics) {c : Char}
    (fault : d.fault = .unexpectedCharacter c) :
    d.span.stop = d.span.start + 1 ∧ source.toList[d.span.start]? = some c := by
  obtain ⟨before, after, ⟨c, stands, rfl⟩ | ⟨_, _, rfl⟩ | ⟨_, _, _, _, _, rfl⟩⟩ := fault_cases mem
  · cases fault
    refine ⟨rfl, ?_⟩
    simp [Piece.faultAt, Position.offset_after, stands.text_eq, Piece.text]
  · cases fault
  · cases fault

/-- The escapes of a string that ends are reported in its token. -/
theorem Piece.StandsIn.encloses {body before after : List Char} {offset : Nat} {c : Char}
    (h : (Piece.string body).StandsIn source.toList before after)
    (known : (offset, c) ∈ unknownEscapes 1 body) :
    ∃ t ∈ (scan source).tokens, t.kind = .string ∧
      t.span.start ≤ (faultAt (.after {} before) offset (.unknownEscape c)).span.start ∧
      (faultAt (.after {} before) offset (.unknownEscape c)).span.stop ≤ t.span.stop := by
  obtain ⟨-, inside⟩ := lt_of_mem_unknownEscapes known
  have string := mem_scanInner_iff.2 ⟨_, before, after, h, rfl⟩
  refine ⟨_, (mem_scanInner_iff_kind.1 string).1, rfl, Nat.le_refl _, ?_⟩
  simp only [faultAt, tokenAt, text, List.length_append, List.length_cons]
  omega

/-- An escape is reported in the token of its string, or in the report that the string does not
end. -/
theorem encloses_of_unknownEscape (mem : d ∈ (scan source).diagnostics) {c : Char}
    (fault : d.fault = .unknownEscape c) :
    (∃ t ∈ (scan source).tokens, t.kind = .string ∧
      t.span.start ≤ d.span.start ∧ d.span.stop ≤ t.span.stop) ∨
    ∃ e ∈ (scan source).diagnostics, e.fault = .unterminatedString ∧
      e.span.start ≤ d.span.start ∧ d.span.stop ≤ e.span.stop := by
  obtain ⟨before, after, ⟨_, _, rfl⟩ | ⟨_, _, rfl⟩ |
    ⟨body, offset, c, closed | unclosed, known, rfl⟩⟩ := fault_cases mem
  · cases fault
  · cases fault
  · exact .inl (closed.encloses known)
  · obtain ⟨-, inside⟩ := lt_of_mem_unknownEscapes known
    refine .inr ⟨_, unclosed.unterminated, rfl, Nat.le_refl _, ?_⟩
    simp only [Piece.faultAt, Piece.text, List.length_cons]
    omega

end Faults

/-- The tokens and faults of a text account for all its characters. -/
theorem scan_tiles (source : String) : (scan source).Tiles source where
  closed := by
    refine ⟨scanInner source, scanEnd source, tokens_scan source,
      fun _ => kind_ne_eof_of_mem_scanInner, rfl, ?_⟩
    rw [scanEnd_eq]
  wide t mem noEnd := by
    have inner := mem_scanInner_iff_kind.2 ⟨mem, noEnd⟩
    exact ⟨start_lt_stop_of_mem_innerTokens (fun _ => text_ne_nil_of_mem_pieces) inner,
      stop_le_of_mem_scanInner inner⟩
  apart := pairwise_scan source
  lexeme _ mem := lexeme_of_mem_scan mem
  line _ mem := line_of_mem_scan mem
  noBreak _ mem := noBreak_of_mem_scan mem
  number _ mem := isSome_read?_of_mem_scan mem
  covered _ inside := existsUnique_tile inside
  faults d mem := by
    obtain ⟨_, _, ⟨c, _, rfl⟩ | ⟨_, _, rfl⟩ | ⟨_, _, c, _, _, rfl⟩⟩ := fault_cases mem
    · exact .inl ⟨c, rfl⟩
    · exact .inr (.inl rfl)
    · exact .inr (.inr ⟨c, rfl⟩)
  unexpected _ mem _ fault := getElem?_of_unexpected mem fault
  escape _ mem _ fault := encloses_of_unknownEscape mem fault
  placed d mem := by
    refine ⟨?_, within_of_mem_scan mem⟩
    obtain ⟨_, _, ⟨_, _, rfl⟩ | ⟨_, _, rfl⟩ | ⟨_, _, _, _, _, rfl⟩⟩ := fault_cases mem
    all_goals rfl

end ScriptLang

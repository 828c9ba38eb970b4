import ScriptLang.Proofs.Lexemes
import ScriptLang.Proofs.Respaced

/-!
# Reading printed text

A printed tree is a text of the language's own tokens, though no script.  Scanning it tells its
words: the kinds and the lexemes of its tokens.  Commas and blanks are left out, because they say
nothing that the words do not say.

## Main definitions

* `Token.shown` — what a printed tree shows of a token
* `words` — the words of a text
* `Delimited` — texts that no lexeme runs into

## Main results

* `words_lexeme` — a lexeme in front of a delimiter is a word
* `words_space`, `words_comma`, `words_opening`, `words_closing` — delimiters
-/

namespace ScriptLang

open Text (isIdentContinue)

/-- What a printed tree shows of a token. -/
def Token.shown (t : Token) : TokenKind × String :=
  (t.kind, t.lexeme)

/-- The word that a piece makes; none if it makes no token or a comma. -/
def Piece.word? (piece : Piece) : Option (TokenKind × String) :=
  ((piece.token? {}).map Token.shown).filter (·.1 ≠ .comma)

/-- The words of a text. -/
def words (cs : List Char) : List (TokenKind × String) :=
  (pieces cs).filterMap Piece.word?

/-- What can stand behind a lexeme in a printed tree. -/
def delimiters : List Char :=
  [' ', '(', ')', ',']

/-- The text is at its end or starts with a delimiter, so no lexeme in front of it goes on. -/
def Delimited (after : List Char) : Prop :=
  ∀ c, after.head? = some c → c ∈ delimiters

theorem delimited_nil : Delimited [] :=
  fun _ h => nomatch h

theorem delimited_cons {c : Char} {cs : List Char} (h : c ∈ delimiters) : Delimited (c :: cs) := by
  intro d first
  cases first
  exact h

theorem Delimited.clear {p : Char → Bool} {after : List Char} (h : Delimited after)
    (stop : delimiters.all (fun c => !p c) = true) : Clear p after := by
  intro c first
  simpa using List.all_eq_true.1 stop c (h c first)

theorem Delimited.ne {after : List Char} (h : Delimited after) {c : Char} (other : c ∉ delimiters) :
    after.head? ≠ some c :=
  fun first => other (h c first)

theorem IsWord.ne_nil {text : List Char} (h : IsWord text) : text ≠ [] := by
  rintro rfl
  exact h

/-- In front of a delimiter a word is a piece, which makes a keyword or an identifier. -/
theorem exists_word {text after : List Char} (h : IsWord text) (delimited : Delimited after) :
    ∃ piece : Piece, piece.text = text ∧ piece.EndsBefore after ∧
      (piece.token? {}).map Token.shown =
        some ((TokenKind.ofWord? (String.ofList text)).getD .ident, String.ofList text) := by
  cases text with
  | nil => exact h.elim
  | cons c cs =>
    exact ⟨.word (c :: cs), rfl, .word h.1 h.2 (delimited.clear (by decide)), rfl⟩

/-- In front of a delimiter every lexeme is a piece, which makes a token of its kind. -/
theorem Lexeme.exists_piece {kind : TokenKind} {text after : List Char} (h : Lexeme kind text)
    (delimited : Delimited after) :
    ∃ piece : Piece, piece.text = text ∧ piece.EndsBefore after ∧
      (piece.token? {}).map Token.shown = some (kind, String.ofList text) := by
  cases h with
  | symbol known =>
    obtain ⟨c, rfl, single⟩ | ⟨c, short, rfl, first, double⟩ := mem_symbols_iff.1 known
    · refine ⟨.symbol kind [c], rfl, .symbol single ?_ ?_, rfl⟩
      · exact fun equals => absurd equals (delimited.ne (by decide))
      · exact fun _ => delimited.ne (by decide)
    · exact ⟨.symbol kind [c, '='], rfl, .withEqual first double, rfl⟩
  | whole digits =>
    obtain ⟨c, ds, rfl⟩ := List.exists_cons_of_ne_nil digits.1
    obtain ⟨first, rest⟩ := List.forall_mem_cons.1 digits.2
    refine ⟨.number (c :: ds) [], rfl, ?_, rfl⟩
    refine .whole first rest (delimited.clear (by decide)) fun d later same => ?_
    exact absurd (by rw [same, List.head?_cons]) (delimited.ne (c := '.') (by decide))
  | decimal digits places =>
    obtain ⟨c, ds, rfl⟩ := List.exists_cons_of_ne_nil digits.1
    obtain ⟨d, fs, rfl⟩ := List.exists_cons_of_ne_nil places.1
    obtain ⟨first, rest⟩ := List.forall_mem_cons.1 digits.2
    refine ⟨.number (c :: ds) (d :: fs), rfl, ?_, rfl⟩
    exact .decimal first rest places.2 (delimited.clear (by decide))
  | keyword known =>
    have piece := exists_word (isWord_of_mem_keywords known) delimited
    rwa [mem_keywords_iff.1 known, Option.getD_some] at piece
  | ident isWord other =>
    have piece := exists_word isWord delimited
    cases known : TokenKind.ofWord? (String.ofList text) with
    | none => rwa [known, Option.getD_none] at piece
    | some kind => exact absurd (mem_keywords_iff.2 known) (other kind)
  | string closed => exact ⟨.string _, rfl, .string closed, rfl⟩

theorem Lexeme.ne_nil {kind : TokenKind} {text : List Char} (h : Lexeme kind text) :
    text ≠ [] := by
  cases h with
  | symbol known =>
    obtain ⟨c, rfl, -⟩ | ⟨c, short, rfl, -⟩ := mem_symbols_iff.1 known <;>
      exact List.cons_ne_nil _ _
  | whole digits => exact digits.1
  | decimal digits _ => exact List.append_ne_nil_of_left_ne_nil digits.1 _
  | keyword known => exact (isWord_of_mem_keywords known).ne_nil
  | ident isWord _ => exact isWord.ne_nil
  | string _ => exact List.cons_ne_nil _ _

/-! ### Words one by one -/

theorem words_cons {piece : Piece} {text after : List Char} (same : piece.text = text)
    (ends : piece.EndsBefore after) (some : text ≠ []) :
    words (text ++ after) = piece.word?.toList ++ words after := by
  obtain ⟨c, cs, rfl⟩ := List.exists_cons_of_ne_nil some
  have whole : piece.text ++ after = c :: (cs ++ after) := by rw [same, List.cons_append]
  rw [words, List.cons_append, pieces_cons, ends.read_eq whole, words, List.filterMap_cons]
  cases piece.word? <;> rfl

/-- A lexeme in front of a delimiter is a word. -/
theorem words_lexeme {kind : TokenKind} {lexeme : String} (h : Lexeme kind lexeme.toList)
    (noComma : kind ≠ .comma) {after : List Char} (delimited : Delimited after) :
    words (lexeme.toList ++ after) = (kind, lexeme) :: words after := by
  obtain ⟨piece, same, ends, token⟩ := h.exists_piece delimited
  have word : piece.word? = some (kind, lexeme) := by
    rw [Piece.word?, token, String.ofList_toList]
    simp [noComma]
  rw [words_cons same ends h.ne_nil, word]
  rfl

theorem words_space (after : List Char) : words (' ' :: after) = words after := by
  have blank : (Piece.blank ' ').EndsBefore after := .blank (by decide)
  exact words_cons rfl blank (List.cons_ne_nil _ _)

/-- A symbol of one character that never goes on is a piece of its own. -/
theorem endsBefore_single {c : Char} {kind : TokenKind} (known : symbol? c = some kind)
    (single : withEqual? kind = none) (noSlash : c ≠ '/') (after : List Char) :
    (Piece.symbol kind [c]).EndsBefore after :=
  .symbol known (fun _ => single) fun slash => absurd slash noSlash

theorem words_comma (after : List Char) : words (',' :: after) = words after :=
  words_cons rfl (endsBefore_single (c := ',') rfl rfl (by decide) after) (List.cons_ne_nil _ _)

theorem words_opening (after : List Char) :
    words ('(' :: after) = (.leftParen, "(") :: words after :=
  words_cons rfl (endsBefore_single (c := '(') rfl rfl (by decide) after) (List.cons_ne_nil _ _)

theorem words_closing (after : List Char) :
    words (')' :: after) = (.rightParen, ")") :: words after :=
  words_cons rfl (endsBefore_single (c := ')') rfl rfl (by decide) after) (List.cons_ne_nil _ _)

end ScriptLang

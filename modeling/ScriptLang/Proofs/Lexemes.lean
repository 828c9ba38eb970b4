import Mathlib
import ScriptLang.Proofs.Pieces

/-!
# The longest match

The kinds of tokens are classes of texts, and every token is the longest text that any class has at
its place, comments included.  Where a fault is reported instead, no class has a text.

## Main definitions

* `symbols`, `keywords` — the texts of the tokens that have only one
* `Lexeme` — the texts of each kind of token
* `IsComment` — the texts of comments
* `LongestMatch` — the texts that are lexemes and have no longer match in their place

## Main results

* `Piece.EndsBefore.lexeme` — a token has a text of its kind
* `Lexeme.beginsWith` — a text that begins with a lexeme begins with a piece as long as that
* `Piece.EndsBefore.longest` — no match is longer than the piece that is complete
* `scan_longest` — tokens are the longest matches, and faults are where nothing matches
-/

namespace ScriptLang

open Text (isIdentStart isIdentContinue)

/-! ### The classes -/

/-- The symbols. -/
def symbols : List (TokenKind × List Char) :=
  [(.leftParen, ['(']), (.rightParen, [')']), (.leftBrace, ['{']), (.rightBrace, ['}']),
    (.comma, [',']), (.dot, ['.']), (.minus, ['-']), (.plus, ['+']), (.semicolon, [';']),
    (.star, ['*']), (.slash, ['/']), (.ampersand, ['&']), (.bang, ['!']), (.bangEqual, ['!', '=']),
    (.equal, ['=']), (.equalEqual, ['=', '=']), (.lesser, ['<']), (.lesserEqual, ['<', '=']),
    (.greater, ['>']), (.greaterEqual, ['>', '='])]

/-- The words that are no identifiers. -/
def keywords : List (TokenKind × String) :=
  [(.andWord, "and"), (.elseWord, "else"), (.falseWord, "false"), (.forWord, "for"),
    (.funWord, "fun"), (.ifWord, "if"), (.nilWord, "nil"), (.orWord, "or"), (.printWord, "print"),
    (.returnWord, "return"), (.trueWord, "true"), (.varWord, "var"), (.whileWord, "while")]

/-- An underscore or a character that starts a word, and characters that go on with one. -/
def IsWord : List Char → Prop
  | [] => False
  | c :: cs => isIdentStart c = true ∧ ∀ d ∈ cs, isIdentContinue d = true

/-- Digits, at least one. -/
def IsDigits (ds : List Char) : Prop :=
  ds ≠ [] ∧ ∀ d ∈ ds, d.isDigit = true

/-- The texts of each kind of token. -/
inductive Lexeme : TokenKind → List Char → Prop where
  | symbol {kind : TokenKind} {text : List Char} (known : (kind, text) ∈ symbols) : Lexeme kind text
  | whole {ds : List Char} (digits : IsDigits ds) : Lexeme .number ds
  | decimal {ds fs : List Char} (digits : IsDigits ds) (places : IsDigits fs) :
      Lexeme .number (ds ++ '.' :: fs)
  | keyword {kind : TokenKind} {text : List Char} (known : (kind, String.ofList text) ∈ keywords) :
      Lexeme kind text
  | ident {text : List Char} (isWord : IsWord text)
      (other : ∀ kind, (kind, String.ofList text) ∉ keywords) : Lexeme .ident text
  | string {body : List Char} (closed : StringBody body) : Lexeme .string ('"' :: body ++ ['"'])

/-- Two slashes and what is on the same line behind them. -/
def IsComment (text : List Char) : Prop :=
  ∃ body, text = '/' :: '/' :: body ∧ '\n' ∉ body

/-! ### Fixed texts -/

/-- A symbol has one character, or one and an equals sign. -/
theorem mem_symbols_iff {kind : TokenKind} {text : List Char} :
    (kind, text) ∈ symbols ↔ (∃ c, text = [c] ∧ symbol? c = some kind) ∨
      ∃ c short, text = [c, '='] ∧ symbol? c = some short ∧ withEqual? short = some kind := by
  constructor
  · intro mem
    have shape : ∀ e ∈ symbols, (∃ c, e.2 = [c] ∧ symbol? c = some e.1) ∨
        ∃ c, e.2 = [c, '='] ∧ (symbol? c).bind withEqual? = some e.1 := by
      -- The table is checked entry by entry: each symbol's length says which of the two it is.
      simp only [symbols, List.forall_mem_cons]
      and_intros
      all_goals first
        | exact .inl ⟨_, rfl, rfl⟩
        | exact .inr ⟨_, rfl, rfl⟩
        | exact List.forall_mem_nil _
    obtain ⟨c, text, known⟩ | ⟨c, text, known⟩ := shape _ mem
    · exact .inl ⟨c, text, known⟩
    · obtain ⟨short, known, double⟩ := Option.bind_eq_some_iff.1 known
      exact .inr ⟨c, short, text, known, double⟩
  · rintro (⟨c, rfl, known⟩ | ⟨c, short, rfl, known, double⟩)
    · unfold symbol? at known
      split at known
      all_goals
        cases known
        try decide
    · unfold symbol? at known
      split at known
      all_goals
        cases known
        try cases double
        try decide

theorem mem_keywords_iff {kind : TokenKind} {word : String} :
    (kind, word) ∈ keywords ↔ TokenKind.ofWord? word = some kind := by
  constructor
  · intro mem
    have known : ∀ e ∈ keywords, TokenKind.ofWord? e.2 = some e.1 := by decide
    exact known _ mem
  · intro known
    unfold TokenKind.ofWord? at known
    split at known
    all_goals
      cases known
      try decide

/-- Numbers have more than one text. -/
theorem ne_number_of_mem_symbols {kind : TokenKind} {text : List Char}
    (mem : (kind, text) ∈ symbols) : kind ≠ .number := by
  have others : ∀ e ∈ symbols, e.1 ≠ .number := by decide
  exact others _ mem

theorem ne_number_of_mem_keywords {kind : TokenKind} {word : String}
    (mem : (kind, word) ∈ keywords) : kind ≠ .number := by
  have others : ∀ e ∈ keywords, e.1 ≠ .number := by decide
  exact others _ mem

/-- Keywords are words: all their characters can start one. -/
theorem isWord_of_mem_keywords {kind : TokenKind} {text : List Char}
    (mem : (kind, String.ofList text) ∈ keywords) : IsWord text := by
  have letters : ∀ e ∈ keywords,
      e.2.toList ≠ [] ∧ e.2.toList.all isIdentStart = true := by decide
  obtain ⟨some, starts⟩ := letters _ mem
  rw [String.toList_ofList] at some starts
  obtain ⟨c, cs, rfl⟩ := List.exists_cons_of_ne_nil some
  obtain ⟨first, rest⟩ := List.forall_mem_cons.1 (List.all_eq_true.1 starts)
  exact ⟨first, fun d hd => Text.isIdentContinue_of_isIdentStart (rest d hd)⟩

/-! ### Tokens are lexemes -/

namespace Piece

variable {piece : Piece} {after : List Char} {p : Position} {t : Token}

/-- A token has a text of its kind. -/
theorem EndsBefore.lexeme (h : piece.EndsBefore after) (token : piece.token? p = some t) :
    Lexeme t.kind piece.text := by
  cases h with
  | blank _ | comment _ _ | openString _ _ _ | stray _ _ _ _ _ => cases token
  | symbol known _ _ =>
    cases token
    exact .symbol (mem_symbols_iff.2 (.inl ⟨_, rfl, known⟩))
  | withEqual known double =>
    cases token
    exact .symbol (mem_symbols_iff.2 (.inr ⟨_, _, rfl, known, double⟩))
  | whole first digits _ _ =>
    cases token
    exact .whole ⟨List.cons_ne_nil _ _, by simpa [text, first] using digits⟩
  | decimal first digits places _ =>
    cases token
    exact .decimal ⟨List.cons_ne_nil _ _, by simpa [first] using digits⟩
      ⟨List.cons_ne_nil _ _, places⟩
  | @word c cs _ first rest _ =>
    cases token
    cases known : TokenKind.ofWord? (String.ofList (c :: cs)) with
    | some kind =>
      simp only [tokenAt, Option.getD_some]
      exact .keyword (mem_keywords_iff.2 known)
    | none =>
      simp only [tokenAt, Option.getD_none]
      refine .ident ⟨first, rest⟩ fun kind mem => ?_
      cases known.symm.trans (mem_keywords_iff.1 mem)
  | string closed =>
    cases token
    exact .string closed

/-- Whether a piece is one that is reported as a fault. -/
def isFaulty : Piece → Bool
  | openString _ | stray _ => true
  | _ => false

/-- Only one piece is complete in front of what is left of a text. -/
theorem EndsBefore.unique {piece' : Piece} {after' : List Char} (h : piece.EndsBefore after)
    (h' : piece'.EndsBefore after') (same : piece.text ++ after = piece'.text ++ after')
    (some : piece.text ++ after ≠ []) : piece = piece' ∧ after = after' := by
  obtain ⟨c, rest, text⟩ := List.exists_cons_of_ne_nil some
  exact Prod.mk.inj ((h.read_eq text).symm.trans (h'.read_eq (same ▸ text)))

end Piece

/-! ### The longest match -/

/-- The text begins with a piece that is no fault and has so many characters or more. -/
def BeginsWith (n : Nat) (cs : List Char) : Prop :=
  ∃ (piece : Piece) (after : List Char), piece.EndsBefore after ∧ piece.text ++ after = cs ∧
    n ≤ piece.text.length ∧ piece.isFaulty = false

theorem BeginsWith.mono {m n : Nat} {cs : List Char} (h : BeginsWith n cs) (le : m ≤ n) :
    BeginsWith m cs := by
  obtain ⟨piece, after, ends, text, length, faultless⟩ := h
  exact ⟨piece, after, ends, text, Nat.le_trans le length, faultless⟩

theorem IsComment.beginsWith {text : List Char} (h : IsComment text) (later : List Char) :
    BeginsWith text.length (text ++ later) := by
  obtain ⟨body, rfl, line⟩ := h
  refine ⟨.comment (body ++ later.takeWhile (· != '\n')), later.dropWhile (· != '\n'),
    .comment (fun mem => ?_) (clear_dropWhile _ _), ?_, ?_, rfl⟩
  · obtain mem | mem := List.mem_append.1 mem
    · exact line mem
    · simpa using List.mem_takeWhile_imp mem
  · simp [Piece.text]
  · simp [Piece.text]

theorem IsWord.beginsWith {text : List Char} (h : IsWord text) (later : List Char) :
    BeginsWith text.length (text ++ later) := by
  cases text with
  | nil => exact h.elim
  | cons c cs =>
    obtain ⟨first, rest⟩ := h
    refine ⟨.word (c :: (cs ++ later.takeWhile isIdentContinue)), later.dropWhile isIdentContinue,
      .word first (fun d mem => ?_) (clear_dropWhile _ _), ?_, ?_, rfl⟩
    · obtain mem | mem := List.mem_append.1 mem
      · exact rest d mem
      · exact List.mem_takeWhile_imp mem
    · simp [Piece.text]
    · simp [Piece.text]

theorem beginsWith_symbol {c : Char} {kind : TokenKind} (known : symbol? c = some kind)
    (later : List Char) : BeginsWith 1 (c :: later) := by
  -- A slash may begin a comment instead.
  by_cases comment : c = '/' ∧ later.head? = some '/'
  · obtain ⟨rfl, head⟩ := comment
    obtain ⟨rest, rfl⟩ := List.head?_eq_some_iff.1 head
    have slashes : IsComment ['/', '/'] := ⟨[], rfl, nofun⟩
    exact (slashes.beginsWith rest).mono (by decide)
  · refine ⟨_, _, Piece.endsBefore_readSymbol known later fun slash head => comment ⟨slash, head⟩,
      Piece.text_append_readSymbol .., ?_, ?_⟩
    · unfold Piece.readSymbol
      split <;> simp [Piece.text]
    · unfold Piece.readSymbol
      split <;> rfl

theorem beginsWith_digits {c : Char} {ds : List Char} (first : c.isDigit = true)
    (digits : ∀ d ∈ ds, d.isDigit = true) (later : List Char) :
    BeginsWith (c :: ds).length (c :: (ds ++ later)) := by
  refine ⟨_, _, Piece.endsBefore_readNumber first (ds ++ later), Piece.text_append_readNumber ..,
    ?_, ?_⟩
  · have length (rest : List Char) : (c :: rest.takeWhile Char.isDigit).length ≤
        (Piece.readNumber c rest).1.text.length := by
      simp only [Piece.readNumber]
      split
      · split <;> simp [Piece.text]
      · simp [Piece.text]
    refine Nat.le_trans ?_ (length (ds ++ later))
    rw [List.takeWhile_append_of_pos digits]
    simp
  · simp only [Piece.readNumber]
    split
    · split <;> rfl
    · rfl

theorem beginsWith_decimal {c d : Char} {ds fs : List Char} (first : c.isDigit = true)
    (digits : ∀ d ∈ ds, d.isDigit = true) (places : ∀ f ∈ d :: fs, f.isDigit = true)
    (later : List Char) :
    BeginsWith (c :: ds ++ '.' :: d :: fs).length (c :: ds ++ '.' :: d :: fs ++ later) := by
  refine ⟨.number (c :: ds) (d :: (fs ++ later.takeWhile Char.isDigit)),
    later.dropWhile Char.isDigit, .decimal first digits (fun f mem => ?_) (clear_dropWhile _ _),
    ?_, ?_, rfl⟩
  · rw [← List.cons_append] at mem
    obtain mem | mem := List.mem_append.1 mem
    · exact places f mem
    · exact List.mem_takeWhile_imp mem
  · simp [Piece.text]
  · simp [Piece.text]

/-- A text that begins with a lexeme begins with a piece as long as that, and with no fault. -/
theorem Lexeme.beginsWith {kind : TokenKind} {text : List Char} (h : Lexeme kind text)
    (later : List Char) : BeginsWith text.length (text ++ later) := by
  cases h with
  | symbol mem =>
    obtain ⟨c, rfl, known⟩ | ⟨c, short, rfl, known, double⟩ := mem_symbols_iff.1 mem
    · exact beginsWith_symbol known later
    · exact ⟨_, later, .withEqual known double, rfl, Nat.le_refl _, rfl⟩
  | whole digits =>
    obtain ⟨c, ds, rfl⟩ := List.exists_cons_of_ne_nil digits.1
    obtain ⟨first, digits⟩ := List.forall_mem_cons.1 digits.2
    exact beginsWith_digits first digits later
  | decimal digits places =>
    obtain ⟨c, ds, rfl⟩ := List.exists_cons_of_ne_nil digits.1
    obtain ⟨d, fs, rfl⟩ := List.exists_cons_of_ne_nil places.1
    obtain ⟨first, digits⟩ := List.forall_mem_cons.1 digits.2
    exact beginsWith_decimal first digits places.2 later
  | keyword mem => exact (isWord_of_mem_keywords mem).beginsWith later
  | ident isWord _ => exact isWord.beginsWith later
  | @string body closed =>
    exact ⟨.string body, later, .string closed, rfl, Nat.le_refl _, rfl⟩

/-- A text that some token or a comment can have. -/
def IsMatch (text : List Char) : Prop :=
  (∃ kind, Lexeme kind text) ∨ IsComment text

theorem IsMatch.beginsWith {text : List Char} (h : IsMatch text) (later : List Char) :
    BeginsWith text.length (text ++ later) := by
  obtain ⟨kind, lexeme⟩ | comment := h
  · exact lexeme.beginsWith later
  · exact comment.beginsWith later

/-- No match is longer than the piece that is complete, and there is none at all where the piece is
a fault. -/
theorem Piece.EndsBefore.longest {piece : Piece} {after text : List Char}
    (h : piece.EndsBefore after) (some : piece.text ≠ []) (begins : text <+: piece.text ++ after)
    (isMatch : IsMatch text) : text.length ≤ piece.text.length ∧ piece.isFaulty = false := by
  obtain ⟨later, whole⟩ := begins
  obtain ⟨piece', after', h', whole', length, faultless⟩ := isMatch.beginsWith later
  obtain ⟨rfl, -⟩ := h.unique h' (whole.symm.trans whole'.symm) (by simp [some])
  exact ⟨length, faultless⟩

/-! ### The values of numbers -/

namespace Number

/-- No digit is a sign, and none begins one of the words that denote numbers. -/
theorem no_word_of_isDigit {c : Char} (h : c.isDigit = true) :
    c ≠ '+' ∧ c ≠ '-' ∧ c.toLower ≠ 'i' ∧ c.toLower ≠ 'n' := by
  have digits : ∀ n ∈ List.range' 48 10, Char.ofNat n ≠ '+' ∧ Char.ofNat n ≠ '-' ∧
      (Char.ofNat n).toLower ≠ 'i' ∧ (Char.ofNat n).toLower ≠ 'n' := by decide
  simp only [Char.isDigit, Bool.and_eq_true, decide_eq_true_eq, UInt32.le_iff_toNat_le] at h
  rw [← c.ofNat_toNat]
  exact digits _ (List.mem_range'_1.2 ⟨h.1, Nat.lt_succ_of_le h.2⟩)

theorem takeSign_cons_of_isDigit {c : Char} (first : c.isDigit = true) (cs : List Char) :
    takeSign (c :: cs) = (false, c :: cs) := by
  obtain ⟨plus, minus, _, _⟩ := no_word_of_isDigit first
  unfold takeSign
  split <;> simp_all

/-- A text that begins with a digit has no sign and is none of the words for numbers. -/
theorem read?_cons_of_isDigit {c : Char} (first : c.isDigit = true) (cs : List Char) :
    read? (c :: cs) = readDecimal? (c :: cs) := by
  obtain ⟨_, _, i, n⟩ := no_word_of_isDigit first
  have unsigned : readUnsigned? (c :: cs) = readDecimal? (c :: cs) := by
    have other (word : String) (hi : word.toList.head? ≠ some c.toLower) :
        String.ofList ((c :: cs).map Char.toLower) ≠ word := by
      rintro rfl
      simp at hi
    unfold readUnsigned?
    split
    · exact absurd ‹_› (other "inf" (by simp [Ne.symm i]))
    · exact absurd ‹_› (other "infinity" (by simp [Ne.symm i]))
    · exact absurd ‹_› (other "nan" (by simp [Ne.symm n]))
    · rfl
  simp [read?, takeSign_cons_of_isDigit first, unsigned]

/-- Digits denote what a literal of them does. -/
theorem readDecimal?_digits {ds : List Char} (digits : IsDigits ds) :
    readDecimal? ds = some (ofLiteral ds []) := by
  have whole : ds.takeWhile Char.isDigit = ds := List.takeWhile_eq_self_iff.2 digits.2
  have rest : ds.dropWhile Char.isDigit = [] := List.dropWhile_eq_nil_iff.2 digits.2
  simp [readDecimal?, whole, rest, digits.1, readExponent?, ofLiteral]

/-- Digits, a point and digits denote what a literal of them does. -/
theorem readDecimal?_decimal {ds fs : List Char} (digits : IsDigits ds) (places : IsDigits fs) :
    readDecimal? (ds ++ '.' :: fs) = some (ofLiteral ds fs) := by
  have point : Clear Char.isDigit ('.' :: fs) := clear_cons.2 (by decide)
  have fraction : fs.takeWhile Char.isDigit = fs := List.takeWhile_eq_self_iff.2 places.2
  have rest : fs.dropWhile Char.isDigit = [] := List.dropWhile_eq_nil_iff.2 places.2
  simp [readDecimal?, takeWhile_of_clear digits.2 point, dropWhile_of_clear digits.2 point,
    fraction, rest, digits.1, readExponent?, ofLiteral]

end Number

/-- A number carries the number that its text denotes; symbols and words carry nothing. -/
theorem Piece.EndsBefore.literal {piece : Piece} {after : List Char} {p : Position} {t : Token}
    (h : piece.EndsBefore after) (token : piece.token? p = some t) :
    (t.kind = .number →
      ∃ x, Number.read? piece.text = some x ∧ t.literal = some (.number x)) ∧
    (t.kind ≠ .number → t.kind ≠ .string → t.literal = none) := by
  cases h with
  | blank _ | comment _ _ | openString _ _ _ | stray _ _ _ _ _ => cases token
  | @symbol c kind _ known _ _ =>
    cases token
    have other := ne_number_of_mem_symbols (mem_symbols_iff.2 (.inl ⟨c, rfl, known⟩))
    exact ⟨fun number => absurd number other, fun _ _ => rfl⟩
  | @withEqual c short kind _ known double =>
    cases token
    have other :=
      ne_number_of_mem_symbols (mem_symbols_iff.2 (.inr ⟨c, short, rfl, known, double⟩))
    exact ⟨fun number => absurd number other, fun _ _ => rfl⟩
  | @whole c ds _ first digits _ _ =>
    cases token
    refine ⟨fun _ => ⟨_, ?_, rfl⟩, fun no => absurd rfl no⟩
    have digits : IsDigits (c :: ds) := ⟨List.cons_ne_nil _ _, by simpa [first] using digits⟩
    rw [Piece.text, Number.read?_cons_of_isDigit first, Number.readDecimal?_digits digits]
  | @decimal c d ds fs _ first digits places _ =>
    cases token
    refine ⟨fun _ => ⟨_, ?_, rfl⟩, fun no => absurd rfl no⟩
    have digits : IsDigits (c :: ds) := ⟨List.cons_ne_nil _ _, by simpa [first] using digits⟩
    have text : (number (c :: ds) (d :: fs)).text = c :: (ds ++ '.' :: d :: fs) := rfl
    rw [text, Number.read?_cons_of_isDigit first, ← List.cons_append,
      Number.readDecimal?_decimal digits ⟨List.cons_ne_nil d fs, places⟩]
  | @word c cs _ _ _ _ =>
    cases token
    refine ⟨fun number => ?_, fun _ _ => rfl⟩
    simp only [tokenAt] at number
    cases known : TokenKind.ofWord? (String.ofList (c :: cs)) with
    | none =>
      rw [known] at number
      cases number
    | some kind =>
      rw [known] at number
      exact absurd number (ne_number_of_mem_keywords (mem_keywords_iff.2 known))
  | string _ =>
    cases token
    refine ⟨fun number => ?_, fun _ no => absurd rfl no⟩
    cases number

/-! ### Source texts -/

/-- The text is a lexeme of its kind that stands at the beginning, and no match there is longer. -/
structure LongestMatch (kind : TokenKind) (text rest : List Char) : Prop where
  begins : text <+: rest
  lexeme : Lexeme kind text
  longest : ∀ other, other <+: rest → IsMatch other → other.length ≤ text.length

namespace Piece.StandsIn

variable {piece : Piece} {cs before after : List Char} {t : Token}

theorem longestMatch (h : piece.StandsIn cs before after)
    (token : piece.token? (.after {} before) = some t) :
    LongestMatch t.kind t.lexeme.toList (cs.drop t.span.start) := by
  rw [lexeme_of_token? token, span_of_token?_after token, h.drop_eq]
  exact ⟨List.prefix_append _ _, h.endsBefore.lexeme token, fun other begins isMatch =>
    (h.endsBefore.longest h.text_ne_nil begins isMatch).1⟩

/-- Where a fault is reported nothing matches. -/
theorem no_match (h : piece.StandsIn cs before after) (faulty : piece.isFaulty = true)
    {text : List Char} (begins : text <+: cs.drop before.length) : ¬ IsMatch text := by
  intro isMatch
  rw [h.drop_eq] at begins
  have faultless := (h.endsBefore.longest h.text_ne_nil begins isMatch).2
  cases faulty.symm.trans faultless

end Piece.StandsIn

/-- Every token is the longest match at its place, comments included; a number carries the number
that its text denotes, and of the others only strings carry anything.  Where a character is
unexpected or a string does not end, there is no match. -/
theorem scan_longest (source : String) :
    (∀ t ∈ (scan source).tokens, t.kind ≠ .eof →
      LongestMatch t.kind t.lexeme.toList (source.toList.drop t.span.start) ∧
      (t.kind = .number →
        ∃ x, Number.read? t.lexeme.toList = some x ∧ t.literal = some (.number x)) ∧
      (t.kind ≠ .number → t.kind ≠ .string → t.literal = none)) ∧
    ∀ d ∈ (scan source).diagnostics,
      (∃ c, d.fault = .unexpectedCharacter c) ∨ d.fault = .unterminatedString →
        ∀ text, text <+: source.toList.drop d.span.start → ¬ IsMatch text := by
  constructor
  · intro t mem noEnd
    obtain ⟨piece, before, after, stands, token⟩ :=
      mem_scanInner_iff.1 (mem_scanInner_iff_kind.2 ⟨mem, noEnd⟩)
    refine ⟨stands.longestMatch token, ?_⟩
    rw [Piece.lexeme_of_token? token]
    exact stands.endsBefore.literal token
  · intro d mem fault text begins
    obtain ⟨before, after, ⟨c, stands, rfl⟩ | ⟨body, stands, rfl⟩ | ⟨_, _, _, _, _, rfl⟩⟩ :=
      fault_cases mem
    · rw [Piece.faultAt, Position.offset_after] at begins
      exact stands.no_match rfl begins
    · rw [Piece.faultAt, Position.offset_after] at begins
      exact stands.no_match rfl begins
    · obtain ⟨_, unexpected⟩ | unterminated := fault
      · cases unexpected
      · cases unterminated

example : (scan "12.!=1//x").tokens.map Token.lexeme = ["12", ".", "!=", "1", ""] := by
  decide +kernel

end ScriptLang

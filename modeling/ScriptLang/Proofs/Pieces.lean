import Mathlib.Data.List.Induction
import Mathlib.Data.List.TakeWhile
import ScriptLang.Proofs.Scan

/-!
# What a piece is

A piece can be told from its characters and from what follows them, without looking at how it is
read: a symbol, a number or a word goes on for as long as it can, a comment and a string that is not
closed go on to the end of the line, and a string goes on to its closing quote.

## Main definitions

* `StringBody` — what stands between the quotes of a string
* `Piece.EndsBefore` — pieces that are complete in front of a text
* `Piece.StandsIn` — pieces of a text, with what is before and behind them

## Main results

* `Piece.read_eq_iff` — reading a text yields the piece that is complete in front of the rest
* `exists_standsIn`, `Piece.StandsIn.unique` — every character is in one piece and in no other
* `mem_scanInner_iff`, `fault_cases` — tokens and faults are those of the pieces of the text
-/

namespace ScriptLang

open Text (isIdentStart isIdentContinue)

/-! ### Where a class of characters ends -/

/-- The text does not start with a character that passes the test. -/
def Clear (p : Char → Bool) (after : List Char) : Prop :=
  ∀ c, after.head? = some c → p c = false

section Clear

variable {p : Char → Bool} {body after : List Char}

theorem clear_nil : Clear p [] := nofun

theorem clear_cons {c : Char} {cs : List Char} : Clear p (c :: cs) ↔ p c = false := by
  simp [Clear]

theorem clear_dropWhile (p : Char → Bool) (cs : List Char) : Clear p (cs.dropWhile p) := by
  intro c first
  have stop := List.head?_dropWhile_not p cs
  rwa [first] at stop

theorem takeWhile_of_clear (inside : ∀ c ∈ body, p c = true) (clear : Clear p after) :
    (body ++ after).takeWhile p = body := by
  rw [List.takeWhile_append_of_pos inside]
  cases after with
  | nil => simp
  | cons c cs => simp [clear_cons.1 clear]

theorem dropWhile_of_clear (inside : ∀ c ∈ body, p c = true) (clear : Clear p after) :
    (body ++ after).dropWhile p = after := by
  rw [List.dropWhile_append_of_pos inside]
  cases after with
  | nil => rfl
  | cons c cs => simp [clear_cons.1 clear]

end Clear

/-- The text starts with a line break, if it starts with anything. -/
theorem clear_line_iff {after : List Char} :
    Clear (· != '\n') after ↔ after = [] ∨ after.head? = some '\n' := by
  cases after with
  | nil => simp [clear_nil]
  | cons c cs => simp [clear_cons]

/-! ### Bodies of strings -/

/-- What can stand between the quotes of a string: characters but quotes, backslashes and line
breaks, and backslashes with any character behind them but a line break. -/
inductive StringBody : List Char → Prop where
  | nil : StringBody []
  | plain {c : Char} {body : List Char} (quote : c ≠ '"') (backslash : c ≠ '\\') (line : c ≠ '\n')
      (rest : StringBody body) : StringBody (c :: body)
  | escaped {c : Char} {body : List Char} (line : c ≠ '\n') (rest : StringBody body) :
      StringBody ('\\' :: c :: body)

theorem splitBody_escaped {c : Char} (line : c ≠ '\n') (cs : List Char) :
    splitBody ('\\' :: c :: cs) = ('\\' :: c :: (splitBody cs).1, (splitBody cs).2) := by
  rw [splitBody, if_neg line]

theorem splitBody_plain {c : Char} (quote : c ≠ '"') (backslash : c ≠ '\\') (line : c ≠ '\n')
    (cs : List Char) : splitBody (c :: cs) = (c :: (splitBody cs).1, (splitBody cs).2) := by
  rw [splitBody, if_neg (not_or.2 ⟨quote, line⟩)]
  exact fun _ _ same _ => backslash same

/-- A string ends at the first quote that no backslash keeps from closing it. -/
theorem splitBody_of_stringBody {body : List Char} (h : StringBody body) (after : List Char) :
    splitBody (body ++ '"' :: after) = (body, '"' :: after) := by
  induction h with
  | nil =>
    rw [List.nil_append, splitBody, if_pos (.inl rfl)]
    exact fun _ _ same _ => absurd same (by decide)
  | plain quote backslash line _ ih =>
    rw [List.cons_append, splitBody_plain quote backslash line, ih]
  | escaped line _ ih =>
    rw [List.cons_append, List.cons_append, splitBody_escaped line, ih]

/-- A body has no line break, and ends before a line break, the end of the text or a quote that no
backslash keeps from closing the string. -/
theorem splitBody_ends (cs : List Char) :
    '\n' ∉ (splitBody cs).1 ∧
      (Clear (· != '\n') (splitBody cs).2 ∨
        StringBody (splitBody cs).1 ∧ (splitBody cs).2.head? = some '"') := by
  fun_induction splitBody cs with
  | case1 => exact ⟨List.not_mem_nil, .inl clear_nil⟩
  | case2 rest => exact ⟨by simp, .inl (clear_cons.2 (by decide))⟩
  | case3 c rest line body after split ih =>
    rw [split] at ih
    refine ⟨?_, ih.2.imp_right fun closed => ⟨.escaped line closed.1, closed.2⟩⟩
    simp [ih.1, Ne.symm line]
  | case4 c rest _ stop =>
    obtain rfl | rfl := stop
    · exact ⟨List.not_mem_nil, .inr ⟨.nil, rfl⟩⟩
    · exact ⟨List.not_mem_nil, .inl (clear_cons.2 (by decide))⟩
  | case5 c rest single stop body after split ih =>
    rw [split] at ih
    obtain ⟨quote, line⟩ := not_or.1 stop
    refine ⟨by simp [ih.1, Ne.symm line], ?_⟩
    by_cases backslash : c = '\\'
    · -- The backslash stands last, and so nothing can close the string.
      subst backslash
      cases rest with
      | nil =>
        rw [splitBody] at split
        cases split
        exact .inl clear_nil
      | cons d rest => exact (single d rest rfl rfl).elim
    · exact ih.2.imp_right fun closed => ⟨.plain quote backslash line closed.1, closed.2⟩

/-- A text is cut at its first line break in one way only. -/
theorem eq_of_append_line {body body' after after' : List Char} (line : '\n' ∉ body)
    (line' : '\n' ∉ body') (clear : Clear (· != '\n') after) (clear' : Clear (· != '\n') after')
    (same : body ++ after = body' ++ after') : body = body' ∧ after = after' := by
  have inside {b : List Char} (line : '\n' ∉ b) : ∀ c ∈ b, (c != '\n') = true := fun c hc =>
    bne_iff_ne.2 fun h => line (h ▸ hc)
  have bodies : body = body' := by
    rw [← takeWhile_of_clear (inside line) clear, same, takeWhile_of_clear (inside line') clear']
  subst bodies
  exact ⟨rfl, List.append_cancel_left same⟩

/-! ### Classes of characters -/

/-- The characters that symbols begin with. -/
def symbolChars : List Char :=
  ['(', ')', '{', '}', ',', '.', '-', '+', ';', '*', '/', '&', '!', '=', '<', '>']

theorem mem_symbolChars {c : Char} {kind : TokenKind} (h : symbol? c = some kind) :
    c ∈ symbolChars := by
  unfold symbol? at h
  split at h
  all_goals
    cases h
    try decide

/-- A test that only other characters pass tells a character from a quote, from the symbols and from
the separators. -/
theorem plain_of_test {p : Char → Bool} {c : Char} (pass : p c = true)
    (fails : ('"' :: ' ' :: '\t' :: '\r' :: '\n' :: symbolChars).any p = false) :
    c ≠ '"' ∧ c ≠ '/' ∧ symbol? c = none ∧ isSeparator c = false := by
  have other (d : Char) (mem : d ∈ '"' :: ' ' :: '\t' :: '\r' :: '\n' :: symbolChars) : c ≠ d := by
    rintro rfl
    exact List.any_eq_false.1 fails c mem pass
  refine ⟨other _ (by decide), other _ (by decide), ?_, ?_⟩
  · cases known : symbol? c with
    | none => rfl
    | some kind =>
      have mem := mem_symbolChars known
      exact absurd rfl (other c (by simp [mem]))
  · simp [isSeparator, other]

theorem plain_of_isDigit {c : Char} (h : c.isDigit = true) :
    c ≠ '"' ∧ c ≠ '/' ∧ symbol? c = none ∧ isSeparator c = false :=
  plain_of_test h (by decide)

theorem plain_of_isIdentStart {c : Char} (h : isIdentStart c = true) :
    c ≠ '"' ∧ c ≠ '/' ∧ symbol? c = none ∧ isSeparator c = false :=
  plain_of_test h (by decide)

/-- No identifier starts with a digit. -/
theorem isIdentStart_of_isDigit {c : Char} (h : c.isDigit = true) : isIdentStart c = false := by
  have digits : ∀ n ∈ List.range' 48 10, isIdentStart (Char.ofNat n) = false := by decide
  simp only [Char.isDigit, Bool.and_eq_true, decide_eq_true_eq, UInt32.le_iff_toNat_le] at h
  rw [← c.ofNat_toNat]
  exact digits _ (List.mem_range'_1.2 ⟨h.1, Nat.lt_succ_of_le h.2⟩)

/-! ### Pieces in front of a text -/

namespace Piece

/-- The piece is complete in front of this text: a symbol, a number or a word cannot go on, a
comment and a string that is not closed have come to the end of the line, and nothing closes the
latter. -/
inductive EndsBefore : Piece → List Char → Prop where
  | blank {c : Char} {after : List Char} (separator : isSeparator c = true) :
      EndsBefore (blank c) after
  | comment {body after : List Char} (line : '\n' ∉ body) (clear : Clear (· != '\n') after) :
      EndsBefore (comment body) after
  | symbol {c : Char} {kind : TokenKind} {after : List Char} (known : symbol? c = some kind)
      (single : after.head? = some '=' → withEqual? kind = none)
      (noComment : c = '/' → after.head? ≠ some '/') : EndsBefore (symbol kind [c]) after
  | withEqual {c : Char} {kind longer : TokenKind} {after : List Char}
      (known : symbol? c = some kind) (double : withEqual? kind = some longer) :
      EndsBefore (symbol longer [c, '=']) after
  | whole {c : Char} {ds after : List Char} (first : c.isDigit = true)
      (digits : ∀ d ∈ ds, d.isDigit = true) (clear : Clear Char.isDigit after)
      (point : ∀ d rest, after = '.' :: d :: rest → d.isDigit = false) :
      EndsBefore (number (c :: ds) []) after
  | decimal {c d : Char} {ds fs after : List Char} (first : c.isDigit = true)
      (digits : ∀ d ∈ ds, d.isDigit = true) (places : ∀ f ∈ d :: fs, f.isDigit = true)
      (clear : Clear Char.isDigit after) : EndsBefore (number (c :: ds) (d :: fs)) after
  | word {c : Char} {cs after : List Char} (first : isIdentStart c = true)
      (rest : ∀ d ∈ cs, isIdentContinue d = true) (clear : Clear isIdentContinue after) :
      EndsBefore (word (c :: cs)) after
  | string {body after : List Char} (closed : StringBody body) : EndsBefore (string body) after
  | openString {body after : List Char} (line : '\n' ∉ body) (clear : Clear (· != '\n') after)
      (unclosed : ∀ b a, StringBody b → body ++ after ≠ b ++ '"' :: a) :
      EndsBefore (openString body) after
  | stray {c : Char} {after : List Char} (quote : c ≠ '"') (noSymbol : symbol? c = none)
      (noSeparator : isSeparator c = false) (noDigit : c.isDigit = false)
      (noWord : isIdentStart c = false) : EndsBefore (stray c) after

/-! #### The piece that is read -/

theorem endsBefore_readString (cs : List Char) :
    (readString cs).1.EndsBefore (readString cs).2 := by
  obtain ⟨line, ends⟩ := splitBody_ends cs
  have whole := append_splitBody cs
  rcases split : splitBody cs with ⟨body, after⟩
  rw [split] at line ends whole
  obtain clear | ⟨closed, quote⟩ := ends
  · have no : after.head? ≠ some '"' := fun quote => by
      have := clear _ quote
      simp at this
    rw [readString_of_open split no]
    refine .openString line clear fun b a closed same => ?_
    rw [whole] at same
    rw [same, splitBody_of_stringBody closed] at split
    cases split
    exact no rfl
  · obtain ⟨rest, rfl⟩ := List.head?_eq_some_iff.1 quote
    rw [readString_of_quote split]
    exact .string closed

theorem endsBefore_readSymbol {c : Char} {kind : TokenKind} (known : symbol? c = some kind)
    (rest : List Char) (noComment : c = '/' → rest.head? ≠ some '/') :
    (readSymbol kind c rest).1.EndsBefore (readSymbol kind c rest).2 := by
  unfold readSymbol
  split
  · exact .withEqual known ‹_›
  · rename_i notBoth
    refine .symbol known (fun equals => ?_) noComment
    obtain ⟨after, rfl⟩ := List.head?_eq_some_iff.1 equals
    cases double : withEqual? kind with
    | none => rfl
    | some longer => exact (notBoth longer after double rfl).elim

theorem endsBefore_readNumber {c : Char} (first : c.isDigit = true) (rest : List Char) :
    (readNumber c rest).1.EndsBefore (readNumber c rest).2 := by
  have digits (cs : List Char) : ∀ d ∈ cs.takeWhile Char.isDigit, d.isDigit = true :=
    fun d => List.mem_takeWhile_imp
  have clear := clear_dropWhile Char.isDigit rest
  simp only [readNumber]
  split
  · rename_i d after split
    rw [split] at clear
    split
    · rename_i place
      exact .decimal first (digits rest) (by simpa [place] using digits after)
        (clear_dropWhile Char.isDigit after)
    · rename_i noPlace
      refine .whole first (digits rest) clear fun e more same => ?_
      cases same
      simpa using noPlace
  · rename_i noPoint
    exact .whole first (digits rest) clear fun d after same => (noPoint d after same).elim

/-- What is read is complete in front of the rest. -/
theorem endsBefore_read (c : Char) (rest : List Char) :
    (read c rest).1.EndsBefore (read c rest).2 := by
  unfold read
  split
  · exact endsBefore_readString rest
  rename_i quote
  split
  · refine .comment (fun mem => ?_) (clear_dropWhile _ _)
    simpa using List.mem_takeWhile_imp mem
  rename_i noComment
  split
  · exact endsBefore_readSymbol ‹_› rest fun slash head => noComment ⟨slash, head⟩
  rename_i noSymbol
  split
  · exact .blank ‹_›
  rename_i noSeparator
  split
  · exact endsBefore_readNumber ‹_› rest
  rename_i noDigit
  split
  · exact .word ‹_› (fun d => List.mem_takeWhile_imp) (clear_dropWhile _ _)
  rename_i noWord
  exact .stray quote noSymbol (by simpa using noSeparator) (by simpa using noDigit)
    (by simpa using noWord)

/-! #### Only one piece is complete -/

theorem readString_of_endsBefore {body after : List Char} (line : '\n' ∉ body)
    (clear : Clear (· != '\n') after)
    (unclosed : ∀ b a, StringBody b → body ++ after ≠ b ++ '"' :: a) :
    readString (body ++ after) = (openString body, after) := by
  obtain ⟨line', ends⟩ := splitBody_ends (body ++ after)
  have whole := append_splitBody (body ++ after)
  obtain clear' | ⟨closed, quote⟩ := ends
  · obtain ⟨bodies, rests⟩ := eq_of_append_line line' line clear' clear whole
    refine readString_of_open (Prod.ext bodies rests) fun quote => ?_
    have := clear _ quote
    simp at this
  · obtain ⟨rest, split⟩ := List.head?_eq_some_iff.1 quote
    rw [split] at whole
    exact absurd whole.symm (unclosed _ _ closed)

theorem readSymbol_of_endsBefore {kind : TokenKind} {after : List Char}
    (single : after.head? = some '=' → withEqual? kind = none) (c : Char) :
    readSymbol kind c after = (symbol kind [c], after) := by
  unfold readSymbol
  split
  · rename_i double
    cases double.symm.trans (single rfl)
  · rfl

theorem readSymbol_withEqual {kind longer : TokenKind} (double : withEqual? kind = some longer)
    (c : Char) (after : List Char) :
    readSymbol kind c ('=' :: after) = (symbol longer [c, '='], after) := by
  unfold readSymbol
  rw [double]
  rfl

theorem readNumber_whole {ds after : List Char} (digits : ∀ d ∈ ds, d.isDigit = true)
    (clear : Clear Char.isDigit after)
    (point : ∀ d rest, after = '.' :: d :: rest → d.isDigit = false) (c : Char) :
    readNumber c (ds ++ after) = (number (c :: ds) [], after) := by
  simp only [readNumber, takeWhile_of_clear digits clear, dropWhile_of_clear digits clear]
  split
  · rename_i d rest
    rw [if_neg (by simp [point d rest rfl])]
  · rfl

theorem readNumber_decimal {ds fs after : List Char} {d : Char}
    (digits : ∀ d ∈ ds, d.isDigit = true) (places : ∀ f ∈ d :: fs, f.isDigit = true)
    (clear : Clear Char.isDigit after) (c : Char) :
    readNumber c (ds ++ '.' :: d :: fs ++ after) = (number (c :: ds) (d :: fs), after) := by
  have point : Clear Char.isDigit ('.' :: (d :: fs ++ after)) := clear_cons.2 (by decide)
  have later : ∀ f ∈ fs, f.isDigit = true := fun f hf => places f (List.mem_cons_of_mem _ hf)
  rw [List.append_assoc, List.cons_append]
  simp only [readNumber, takeWhile_of_clear digits point, dropWhile_of_clear digits point]
  simp only [List.cons_append, places d List.mem_cons_self, if_true,
    takeWhile_of_clear later clear, dropWhile_of_clear later clear]

theorem read_of_isSeparator {c : Char} (h : isSeparator c = true) (rest : List Char) :
    read c rest = (blank c, rest) := by
  simp only [isSeparator, Bool.or_eq_true, beq_iff_eq] at h
  obtain ((rfl | rfl) | rfl) | rfl := h
  all_goals simp [read, symbol?, isSeparator]

theorem read_of_symbol? {c : Char} {kind : TokenKind} (known : symbol? c = some kind)
    {rest : List Char} (noComment : c = '/' → rest.head? ≠ some '/') :
    read c rest = readSymbol kind c rest := by
  have quote : c ≠ '"' := by
    rintro rfl
    cases known
  unfold read
  rw [if_neg quote, if_neg fun h => noComment h.1 h.2, known]

theorem read_of_isDigit {c : Char} (h : c.isDigit = true) (rest : List Char) :
    read c rest = readNumber c rest := by
  obtain ⟨quote, slash, noSymbol, noSeparator⟩ := plain_of_isDigit h
  simp [read, quote, slash, noSymbol, noSeparator, h]

theorem read_of_isIdentStart {c : Char} (h : isIdentStart c = true) (rest : List Char) :
    read c rest = (word (c :: rest.takeWhile isIdentContinue), rest.dropWhile isIdentContinue) := by
  obtain ⟨quote, slash, noSymbol, noSeparator⟩ := plain_of_isIdentStart h
  have noDigit : c.isDigit = false := by
    cases digit : c.isDigit with
    | false => rfl
    | true => exact h.symm.trans (isIdentStart_of_isDigit digit)
  simp [read, quote, slash, noSymbol, noSeparator, noDigit, h]

theorem read_comment (rest : List Char) :
    read '/' ('/' :: rest) =
      (comment (rest.takeWhile (· != '\n')), rest.dropWhile (· != '\n')) := by
  simp [read]

theorem read_quote (rest : List Char) : read '"' rest = readString rest := by
  simp [read]

/-- The piece that is complete is the one that is read. -/
theorem EndsBefore.read_eq {piece : Piece} {after : List Char} (h : piece.EndsBefore after)
    {c : Char} {rest : List Char} (text : piece.text ++ after = c :: rest) :
    read c rest = (piece, after) := by
  cases h with
  | @blank d _ separator =>
    obtain ⟨rfl, rfl⟩ : d = c ∧ after = rest := by simpa [Piece.text] using text
    exact read_of_isSeparator separator after
  | @comment body _ line clear =>
    obtain ⟨rfl, rfl⟩ : '/' = c ∧ '/' :: (body ++ after) = rest := by
      simpa [Piece.text] using text
    have inside : ∀ d ∈ body, (d != '\n') = true := fun d hd =>
      bne_iff_ne.2 fun same => line (same ▸ hd)
    rw [read_comment, takeWhile_of_clear inside clear, dropWhile_of_clear inside clear]
  | @symbol d _ _ known single noComment =>
    obtain ⟨rfl, rfl⟩ : d = c ∧ after = rest := by simpa [Piece.text] using text
    rw [read_of_symbol? known noComment, readSymbol_of_endsBefore single]
  | @withEqual d _ _ _ known double =>
    obtain ⟨rfl, rfl⟩ : d = c ∧ '=' :: after = rest := by simpa [Piece.text] using text
    have noComment : d = '/' → ('=' :: after).head? ≠ some '/' := fun _ => by simp
    rw [read_of_symbol? known noComment, readSymbol_withEqual double]
  | @whole d ds _ first digits clear point =>
    obtain ⟨rfl, rfl⟩ : d = c ∧ ds ++ after = rest := by simpa [Piece.text] using text
    rw [read_of_isDigit first, readNumber_whole digits clear point]
  | @decimal d e ds fs _ first digits places clear =>
    obtain ⟨rfl, rfl⟩ : d = c ∧ ds ++ '.' :: e :: fs ++ after = rest := by
      simpa [Piece.text] using text
    rw [read_of_isDigit first, readNumber_decimal digits places clear]
  | @word d cs _ first inner clear =>
    obtain ⟨rfl, rfl⟩ : d = c ∧ cs ++ after = rest := by simpa [Piece.text] using text
    rw [read_of_isIdentStart first, takeWhile_of_clear inner clear, dropWhile_of_clear inner clear]
  | @string body _ closed =>
    obtain ⟨rfl, rfl⟩ : '"' = c ∧ body ++ '"' :: after = rest := by
      simpa [Piece.text] using text
    rw [read_quote, readString_of_quote (splitBody_of_stringBody closed after)]
  | @openString body _ line clear unclosed =>
    obtain ⟨rfl, rfl⟩ : '"' = c ∧ body ++ after = rest := by simpa [Piece.text] using text
    rw [read_quote, readString_of_endsBefore line clear unclosed]
  | @stray d _ quote noSymbol noSeparator noDigit noWord =>
    obtain ⟨rfl, rfl⟩ : d = c ∧ after = rest := by simpa [Piece.text] using text
    have slash : d ≠ '/' := by
      rintro rfl
      cases noSymbol
    simp [read, quote, slash, noSymbol, noSeparator, noDigit, noWord]

/-- Reading a text yields the piece that is complete in front of the rest. -/
theorem read_eq_iff {c : Char} {rest : List Char} {piece : Piece} {after : List Char} :
    read c rest = (piece, after) ↔
      piece.text ++ after = c :: rest ∧ piece.EndsBefore after := by
  constructor
  · intro h
    have text := text_append_read c rest
    have ends := endsBefore_read c rest
    rw [h] at text ends
    exact ⟨text, ends⟩
  · rintro ⟨text, ends⟩
    exact ends.read_eq text

end Piece

/-! ### Where a piece stands -/

/-- The piece is one of those of a text, which is `before` up to it and `after` behind it. -/
def Piece.StandsIn (piece : Piece) (cs before after : List Char) : Prop :=
  ∃ ps qs, pieces cs = ps ++ piece :: qs ∧ ps.flatMap Piece.text = before ∧
    qs.flatMap Piece.text = after

namespace Piece.StandsIn

variable {piece piece' : Piece} {cs before after before' after' : List Char} {i : Nat}

theorem text_eq (h : piece.StandsIn cs before after) : cs = before ++ (piece.text ++ after) := by
  obtain ⟨ps, qs, split, rfl, rfl⟩ := h
  have whole := flatMap_text_pieces cs
  rw [split] at whole
  simpa using whole.symm

theorem drop_eq (h : piece.StandsIn cs before after) :
    cs.drop before.length = piece.text ++ after := by
  rw [h.text_eq, List.drop_left]

theorem text_ne_nil (h : piece.StandsIn cs before after) : piece.text ≠ [] := by
  obtain ⟨ps, qs, split, -, -⟩ := h
  have mem : piece ∈ pieces cs := by
    rw [split]
    simp
  exact text_ne_nil_of_mem_pieces mem

/-- A piece of a text is complete in front of the rest. -/
theorem endsBefore (h : piece.StandsIn cs before after) : piece.EndsBefore after := by
  obtain ⟨ps, qs, split, -, rfl⟩ := h
  induction ps generalizing cs with
  | nil =>
    cases cs with
    | nil => simp at split
    | cons c rest =>
      rw [pieces_cons] at split
      obtain ⟨rfl, rfl⟩ := List.cons.inj split
      rw [flatMap_text_pieces]
      exact endsBefore_read c rest
  | cons p ps ih =>
    cases cs with
    | nil => simp at split
    | cons c rest =>
      rw [pieces_cons] at split
      exact ih (List.cons.inj split).2

/-- No two pieces hold the same character. -/
theorem unique (h : piece.StandsIn cs before after) (h' : piece'.StandsIn cs before' after')
    (start : before.length ≤ i) (stop : i < before.length + piece.text.length)
    (start' : before'.length ≤ i) (stop' : i < before'.length + piece'.text.length) :
    piece = piece' ∧ before = before' ∧ after = after' := by
  obtain ⟨ps, qs, split, rfl, rfl⟩ := h
  obtain ⟨ps', qs', split', rfl, rfl⟩ := h'
  -- One of the two pieces stands behind the other one, unless they are the same.
  obtain ⟨ds, rfl, more⟩ | ⟨ds, rfl, more⟩ :=
    List.append_eq_append_iff.1 (split.symm.trans split')
  all_goals
    cases ds with
    | nil =>
      rw [List.nil_append] at more
      obtain ⟨rfl, rfl⟩ := List.cons.inj more
      simp
    | cons d ds =>
      obtain ⟨rfl, -⟩ := List.cons.inj more
      simp only [List.flatMap_append, List.flatMap_cons, List.length_append]
        at start start' stop stop'
      omega

end Piece.StandsIn

/-- Every character of a text is in one of its pieces. -/
theorem exists_standsIn {cs : List Char} {i : Nat} (h : i < cs.length) :
    ∃ (piece : Piece) (before after : List Char), piece.StandsIn cs before after ∧
      before.length ≤ i ∧ i < before.length + piece.text.length := by
  have holds (ps : List Piece) (h : i < (ps.flatMap Piece.text).length) :
      ∃ as piece bs, ps = as ++ piece :: bs ∧ (as.flatMap Piece.text).length ≤ i ∧
        i < (as.flatMap Piece.text).length + piece.text.length := by
    induction ps using List.reverseRecOn with
    | nil => simp at h
    | append_singleton ps piece ih =>
      by_cases earlier : i < (ps.flatMap Piece.text).length
      · obtain ⟨as, q, bs, rfl, start, stop⟩ := ih earlier
        exact ⟨as, q, bs ++ [piece], by simp, start, stop⟩
      · refine ⟨ps, piece, [], rfl, Nat.not_lt.1 earlier, ?_⟩
        simpa using h
  obtain ⟨as, piece, bs, split, start, stop⟩ := holds (pieces cs) (by rwa [flatMap_text_pieces])
  exact ⟨piece, _, _, ⟨as, bs, split, rfl, rfl⟩, start, stop⟩

/-! ### What pieces yield -/

theorem Piece.lexeme_of_token? {piece : Piece} {p : Position} {t : Token}
    (h : piece.token? p = some t) : t.lexeme.toList = piece.text := by
  cases piece with
  | blank c | comment body | openString body | stray c => cases h
  | symbol kind text | number whole fraction | word text | string body =>
    cases h
    exact String.toList_ofList

section Place

variable {piece : Piece} {before : List Char} {t : Token}

theorem Position.offset_after (before : List Char) :
    (Position.after {} before).offset = before.length :=
  Nat.zero_add _

/-- A token stands behind the characters before its piece. -/
theorem Piece.span_of_token?_after (h : piece.token? (.after {} before) = some t) :
    t.span = ⟨before.length, before.length + piece.text.length⟩ := by
  rw [span_of_token? h, ← Position.after_append, Position.offset_after, Position.offset_after,
    List.length_append]

theorem Piece.line_of_token?_after (h : piece.token? (.after {} before) = some t) :
    t.line = 1 + before.count '\n' := by
  cases piece with
  | blank c | comment body | openString body | stray c => cases h
  | symbol kind text | number whole fraction | word text | string body =>
    cases h
    rfl

end Place

theorem Piece.mem_escapeFaults_iff {p : Position} {body : List Char} {d : Diagnostic} :
    d ∈ diagnostics.escapeFaults p body ↔ ∃ offset c, (offset, c) ∈ unknownEscapes 1 body ∧
      d = faultAt p offset (.unknownEscape c) := by
  constructor
  · intro h
    obtain ⟨⟨offset, c⟩, mem, rfl⟩ := List.mem_map.1 h
    exact ⟨offset, c, mem, rfl⟩
  · rintro ⟨offset, c, mem, rfl⟩
    exact List.mem_map.2 ⟨(offset, c), mem, rfl⟩

/-- All that can be wrong with a piece. -/
theorem Piece.mem_diagnostics_iff {piece : Piece} {p : Position} {d : Diagnostic} :
    d ∈ piece.diagnostics p ↔
      (∃ c, piece = stray c ∧ d = faultAt p 1 (.unexpectedCharacter c)) ∨
      (∃ body, piece = openString body ∧ d = faultAt p piece.text.length .unterminatedString) ∨
      ∃ body offset c, (piece = string body ∨ piece = openString body) ∧
        (offset, c) ∈ unknownEscapes 1 body ∧ d = faultAt p offset (.unknownEscape c) := by
  cases piece with
  | blank c | comment body | symbol kind text | number whole fraction | word text =>
    simp [diagnostics]
  | stray c => simp [diagnostics]
  | string body => simp [diagnostics, mem_escapeFaults_iff]
  | openString body => simp [diagnostics, mem_escapeFaults_iff, or_comm]

section Gather

variable {α β : Type} {f : Position → Piece → List α} {p : Position} {ps : List Piece}

/-- What pieces yield one after another, each at its own place. -/
def gather (f : Position → Piece → List α) (p : Position) : List Piece → List α
  | [] => []
  | piece :: ps => f p piece ++ gather f (p.after piece.text) ps

theorem mem_gather_iff {x : α} :
    x ∈ gather f p ps ↔ ∃ as piece bs, ps = as ++ piece :: bs ∧
      x ∈ f (p.after (as.flatMap Piece.text)) piece := by
  induction ps generalizing p with
  | nil => simp [gather]
  | cons q ps ih =>
    rw [gather, List.mem_append, ih]
    constructor
    · rintro (first | ⟨as, piece, bs, rfl, later⟩)
      · exact ⟨[], q, ps, rfl, first⟩
      · refine ⟨q :: as, piece, bs, rfl, ?_⟩
        rwa [List.flatMap_cons, Position.after_append]
    · rintro ⟨_ | ⟨a, as⟩, piece, bs, split, mem⟩
      · obtain ⟨rfl, rfl⟩ := List.cons.inj split
        exact .inl mem
      · obtain ⟨rfl, rfl⟩ := List.cons.inj split
        rw [List.flatMap_cons, Position.after_append] at mem
        exact .inr ⟨as, piece, bs, rfl, mem⟩

/-- Where the place does not matter, neither does what comes before. -/
theorem map_gather {g : α → β} {h : Piece → List β} (same : ∀ p piece, (f p piece).map g = h piece)
    (p : Position) (ps : List Piece) : (gather f p ps).map g = ps.flatMap h := by
  induction ps generalizing p with
  | nil => rfl
  | cons piece ps ih => rw [gather, List.map_append, same, ih, List.flatMap_cons]

end Gather

theorem innerTokens_eq_gather (p : Position) (ps : List Piece) :
    innerTokens p ps = gather (fun p piece => (piece.token? p).toList) p ps := by
  induction ps generalizing p with
  | nil => rfl
  | cons piece ps ih => rw [innerTokens, gather, ih]

theorem diagnostics_eq_gather (p : Position) (ps : List Piece) :
    (scanPieces p ps).diagnostics = gather (fun p piece => piece.diagnostics p) p ps := by
  induction ps generalizing p with
  | nil => rfl
  | cons piece ps ih => rw [scanPieces, gather, ih]

/-- The tokens of a text are those of its pieces. -/
theorem mem_scanInner_iff {source : String} {t : Token} :
    t ∈ scanInner source ↔ ∃ (piece : Piece) (before after : List Char),
      piece.StandsIn source.toList before after ∧
        piece.token? (Position.after {} before) = some t := by
  rw [scanInner, innerTokens_eq_gather, mem_gather_iff]
  constructor
  · rintro ⟨as, piece, bs, split, mem⟩
    exact ⟨piece, _, _, ⟨as, bs, split, rfl, rfl⟩, Option.mem_toList.1 mem⟩
  · rintro ⟨piece, _, _, ⟨as, bs, split, rfl, rfl⟩, token⟩
    exact ⟨as, piece, bs, split, Option.mem_toList.2 token⟩

/-- All tokens but the end token are inner ones. -/
theorem mem_scanInner_iff_kind {source : String} {t : Token} :
    t ∈ scanInner source ↔ t ∈ (scan source).tokens ∧ t.kind ≠ .eof := by
  rw [← filter_kind_ne_eof_scan, List.mem_filter, decide_eq_true_iff]

/-- The faults among the characters of a text are those of its pieces. -/
theorem mem_diagnostics_scan_iff {source : String} {d : Diagnostic} :
    d ∈ (scan source).diagnostics ↔ ∃ (piece : Piece) (before after : List Char),
      piece.StandsIn source.toList before after ∧
        d ∈ piece.diagnostics (Position.after {} before) := by
  rw [scan, diagnostics_eq_gather, mem_gather_iff]
  constructor
  · rintro ⟨as, piece, bs, split, mem⟩
    exact ⟨piece, _, _, ⟨as, bs, split, rfl, rfl⟩, mem⟩
  · rintro ⟨piece, _, _, ⟨as, bs, split, rfl, rfl⟩, mem⟩
    exact ⟨as, piece, bs, split, mem⟩

section Faults

open Piece

variable {source : String} {body before after : List Char}

/-- All that can be wrong with the characters of a text. -/
theorem fault_cases {d : Diagnostic} (mem : d ∈ (scan source).diagnostics) :
    ∃ before after,
      (∃ c, (stray c).StandsIn source.toList before after ∧
        d = faultAt (.after {} before) 1 (.unexpectedCharacter c)) ∨
      (∃ body, (openString body).StandsIn source.toList before after ∧
        d = faultAt (.after {} before) (openString body).text.length .unterminatedString) ∨
      ∃ body offset c, ((string body).StandsIn source.toList before after ∨
          (openString body).StandsIn source.toList before after) ∧
        (offset, c) ∈ unknownEscapes 1 body ∧
        d = faultAt (.after {} before) offset (.unknownEscape c) := by
  obtain ⟨piece, before, after, stands, mem⟩ := mem_diagnostics_scan_iff.1 mem
  refine ⟨before, after, ?_⟩
  obtain ⟨c, rfl, rfl⟩ | ⟨body, rfl, rfl⟩ | ⟨body, offset, c, rfl | rfl, known, rfl⟩ :=
    mem_diagnostics_iff.1 mem
  · exact .inl ⟨c, stands, rfl⟩
  · exact .inr (.inl ⟨body, stands, rfl⟩)
  · exact .inr (.inr ⟨body, offset, c, .inl stands, known, rfl⟩)
  · exact .inr (.inr ⟨body, offset, c, .inr stands, known, rfl⟩)

theorem Piece.StandsIn.unexpected {c : Char}
    (h : (stray c).StandsIn source.toList before after) :
    faultAt (.after {} before) 1 (.unexpectedCharacter c) ∈ (scan source).diagnostics :=
  mem_diagnostics_scan_iff.2 ⟨_, before, after, h, mem_diagnostics_iff.2 (.inl ⟨c, rfl, rfl⟩)⟩

theorem Piece.StandsIn.unterminated (h : (openString body).StandsIn source.toList before after) :
    faultAt (.after {} before) (openString body).text.length .unterminatedString ∈
      (scan source).diagnostics :=
  mem_diagnostics_scan_iff.2
    ⟨_, before, after, h, mem_diagnostics_iff.2 (.inr (.inl ⟨body, rfl, rfl⟩))⟩

end Faults

end ScriptLang

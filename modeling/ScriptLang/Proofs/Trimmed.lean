import Mathlib
import ScriptLang.Builtin.Run
import ScriptLang.Proofs.Layout

/-!
# Trimmed texts

Blanks at the two ends of a text say nothing.  A blank that the scan does not know is a fault unless
it stands in a string or a comment, and neither a string nor a word or a number ends with blanks.
So a text without faults has the same tokens without the blanks at its ends, only further on.

## Main definitions

* `Token.untrimmed` — the tokens of a text from those of the trimmed one

## Main results

* `Text.trim_trimLineEnd` — what ends a line is trimmed in any case
* `scanInner_trim` — the tokens of a trimmed text
* `Faultless.trim` — a trimmed text has no faults if the text has none
-/

namespace ScriptLang

open Text (isBlank trimBlanks isIdentStart isIdentContinue)

/-! ### Trimming -/

namespace Text

/-- A blank at the end does not matter. -/
theorem trimBlanks_concat {b : Char} (blank : isBlank b = true) (cs : List Char) :
    trimBlanks (cs ++ [b]) = trimBlanks cs := by
  simp only [trimBlanks, List.dropWhile_append]
  split
  · rename_i none
    rw [List.isEmpty_iff.1 none]
    simp [blank]
  · simp [blank]

/-- Dropping some blanks at the end does not matter either. -/
theorem trimBlanks_dropWhile_end {p : Char → Bool} (blank : ∀ c, p c = true → isBlank c = true)
    (cs : List Char) : trimBlanks (cs.reverse.dropWhile p).reverse = trimBlanks cs := by
  induction cs using List.reverseRecOn with
  | nil => rfl
  | append_singleton cs b ih =>
    rw [List.reverse_concat, List.dropWhile_cons]
    split
    · rename_i last
      rw [ih, trimBlanks_concat (blank b last)]
    · rw [← List.reverse_concat, List.reverse_reverse]

/-- What ends a line is trimmed in any case. -/
theorem trim_trimLineEnd (s : String) : trim (trimLineEnd s) = trim s := by
  have blank (c : Char) (h : (c == '\n' || c == '\r') = true) : isBlank c = true := by
    obtain rfl | rfl : c = '\n' ∨ c = '\r' := by simpa using h
    · decide
    · decide
  rw [trim, trim, trimLineEnd, String.toList_ofList, trimBlanks_dropWhile_end blank]

theorem trim_append_newline (s : String) : trim (s ++ "\n") = trim s := by
  rw [trim, trim, String.toList_append]
  exact congrArg String.ofList (trimBlanks_concat (by decide) s.toList)

/-! ### Blank characters -/

/-- The code points of the blanks. -/
def blankCodes : List Nat :=
  [9, 10, 11, 12, 13, 0x20, 0x85, 0xa0, 0x1680, 0x2000, 0x2001, 0x2002, 0x2003, 0x2004, 0x2005,
    0x2006, 0x2007, 0x2008, 0x2009, 0x200a, 0x2028, 0x2029, 0x202f, 0x205f, 0x3000]

theorem code_of_isBlank {c : Char} (h : isBlank c = true) : c.toNat ∈ blankCodes := by
  simp only [isBlank, Bool.or_eq_true, Bool.and_eq_true, decide_eq_true_eq, beq_iff_eq] at h
  generalize c.toNat = n at h
  rcases h with
    (((((((((⟨least, most⟩ | h) | h) | h) | h) | ⟨least, most⟩) | h) | h) | h) | h) | h
  all_goals first | subst h | interval_cases n
  all_goals decide

/-- No blank belongs to a symbol, a number or a word. -/
theorem plain_of_isBlank {c : Char} (h : isBlank c = true) :
    symbol? c = none ∧ c.isDigit = false ∧ isIdentContinue c = false := by
  have plain : ∀ n ∈ blankCodes, symbol? (Char.ofNat n) = none ∧
      (Char.ofNat n).isDigit = false ∧ isIdentContinue (Char.ofNat n) = false := by
    decide +kernel
  rw [← c.ofNat_toNat]
  exact plain _ (code_of_isBlank h)

theorem ne_of_isBlank {c d : Char} (h : isBlank c = true) (visible : isBlank d = false) :
    c ≠ d := by
  rintro rfl
  rw [h] at visible
  cases visible

end Text

/-! ### Blanks before a text -/

namespace Piece

/-- Whether a piece is a single character that makes no token. -/
def IsPad (piece : Piece) (c : Char) : Prop :=
  piece = blank c ∨ piece = stray c

theorem read_of_isBlank {c : Char} (h : isBlank c = true) (rest : List Char) :
    ∃ piece, read c rest = (piece, rest) ∧ piece.IsPad c := by
  obtain ⟨noSymbol, noDigit, noWord⟩ := Text.plain_of_isBlank h
  -- None of the readers of longer pieces starts with a blank.
  have noStart : isIdentStart c = false := by
    cases start : isIdentStart c with
    | false => rfl
    | true => exact (Text.isIdentContinue_of_isIdentStart start).symm.trans noWord
  have quote : c ≠ '"' := Text.ne_of_isBlank h (by decide)
  have slash : c ≠ '/' := Text.ne_of_isBlank h (by decide)
  by_cases separator : isSeparator c = true
  · refine ⟨blank c, ?_, .inl rfl⟩
    simp [read, quote, slash, noSymbol, separator]
  · refine ⟨stray c, ?_, .inr rfl⟩
    simp [read, quote, slash, noSymbol, separator, noDigit, noStart]

namespace IsPad

variable {piece : Piece} {c : Char} (h : piece.IsPad c)
include h

theorem text_eq : piece.text = [c] := by
  obtain rfl | rfl := h
  · rfl
  · rfl

theorem token?_eq (p : Position) : piece.token? p = none := by
  obtain rfl | rfl := h
  · rfl
  · rfl

end IsPad

end Piece

/-- Blanks at the beginning make no tokens. -/
theorem innerTokens_dropWhile (p : Position) (cs : List Char) :
    innerTokens p (pieces cs) =
      innerTokens (p.after (cs.takeWhile isBlank)) (pieces (cs.dropWhile isBlank)) := by
  induction cs generalizing p with
  | nil => rfl
  | cons c cs ih =>
    by_cases blank : isBlank c = true
    · obtain ⟨piece, read, pad⟩ := Piece.read_of_isBlank blank cs
      rw [List.takeWhile_cons_of_pos blank, List.dropWhile_cons_of_pos blank, pieces_cons, read,
        innerTokens, pad.token?_eq, pad.text_eq, ih, ← Position.after_append]
      rfl
    · rw [List.takeWhile_cons_of_neg blank, List.dropWhile_cons_of_neg blank]
      rfl

/-- Without the blanks at the beginning there are no more faults. -/
theorem diagnostics_dropWhile {p : Position} {cs : List Char}
    (clean : (scanPieces p (pieces cs)).diagnostics = []) :
    (scanPieces (p.after (cs.takeWhile isBlank))
      (pieces (cs.dropWhile isBlank))).diagnostics = [] := by
  induction cs generalizing p with
  | nil => exact clean
  | cons c cs ih =>
    by_cases blank : isBlank c = true
    · obtain ⟨piece, read, pad⟩ := Piece.read_of_isBlank blank cs
      rw [pieces_cons, read, scanPieces, List.append_eq_nil_iff, pad.text_eq] at clean
      rw [List.takeWhile_cons_of_pos blank, List.dropWhile_cons_of_pos blank]
      have later := ih clean.2
      rwa [← Position.after_append] at later
    · rwa [List.takeWhile_cons_of_neg blank, List.dropWhile_cons_of_neg blank]

/-! ### A blank behind a text -/

/-- Where a test fails within a list, what follows the list does not matter. -/
theorem takeWhile_dropWhile_append {α : Type} {p : α → Bool} {xs : List α}
    (within : xs.dropWhile p ≠ []) (ys : List α) :
    (xs ++ ys).takeWhile p = xs.takeWhile p ∧ (xs ++ ys).dropWhile p = xs.dropWhile p ++ ys := by
  induction xs with
  | nil => exact absurd rfl within
  | cons x xs ih =>
    rw [List.cons_append, List.takeWhile_cons, List.dropWhile_cons, List.takeWhile_cons]
    rw [List.dropWhile_cons] at within ⊢
    split
    · rename_i pass
      rw [if_pos pass] at within
      obtain ⟨take, drop⟩ := ih within
      rw [take]
      exact ⟨rfl, drop⟩
    · exact ⟨rfl, rfl⟩

section Behind

variable {b : Char} (blank : isBlank b = true) (sameLine : b ≠ '\n')
include blank sameLine

/-- A blank behind a text neither closes a string in it nor changes one that is closed. -/
theorem splitBody_concat (cs : List Char) :
    (splitBody cs).2.head? = some '"' ∧
        splitBody (cs ++ [b]) = ((splitBody cs).1, (splitBody cs).2 ++ [b]) ∨
      (splitBody (cs ++ [b])).2.head? ≠ some '"' := by
  have quote : b ≠ '"' := Text.ne_of_isBlank blank (by decide)
  have alone : splitBody [b] = ([b], []) := by
    rw [splitBody, if_neg (not_or.2 ⟨quote, sameLine⟩), splitBody]
    intro _ _ _ h
    cases h
  fun_induction splitBody cs with
  | case1 =>
    -- There is no text yet, and the blank is the body of a string that stays open.
    right
    simp [alone]
  | case2 rest =>
    right
    simp [splitBody]
  | case3 c rest h body after split ih =>
    have goesOn : splitBody ('\\' :: c :: (rest ++ [b])) =
        ('\\' :: c :: (splitBody (rest ++ [b])).1, (splitBody (rest ++ [b])).2) := by
      rw [splitBody, if_neg h]
    rw [List.cons_append, List.cons_append, goesOn]
    rw [split] at ih
    obtain ⟨closed, same⟩ | unclosed := ih
    · left
      rw [same]
      exact ⟨closed, rfl⟩
    · exact .inr unclosed
  -- A quote closes the string before the blank; behind a line break it stays open.
  | case4 c rest _ h =>
    obtain rfl | rfl := h
    · left
      simp [splitBody]
    · right
      simp [splitBody]
  | case5 c rest single h body after split ih =>
    by_cases backslash : c = '\\'
    · subst backslash
      cases rest with
      | nil =>
        -- The backslash stands last, and keeps the blank from ending the body.
        right
        simp [splitBody, sameLine]
      | cons d rest => exact (single d rest rfl rfl).elim
    · have goesOn : splitBody (c :: (rest ++ [b])) =
          (c :: (splitBody (rest ++ [b])).1, (splitBody (rest ++ [b])).2) := by
        rw [splitBody, if_neg h]
        exact fun _ _ same _ => backslash same
      rw [List.cons_append, goesOn]
      rw [split] at ih
      obtain ⟨closed, same⟩ | unclosed := ih
      · left
        rw [same]
        exact ⟨closed, rfl⟩
      · exact .inr unclosed

theorem Piece.readString_concat (cs : List Char) :
    readString (cs ++ [b]) = ((readString cs).1, (readString cs).2 ++ [b]) ∨
      ∃ body, (readString (cs ++ [b])).1 = openString body := by
  obtain ⟨closed, same⟩ | unclosed := splitBody_concat blank sameLine cs
  · obtain ⟨after, first⟩ := List.head?_eq_some_iff.1 closed
    have split : splitBody cs = ((splitBody cs).1, '"' :: after) := Prod.ext rfl first
    have split' : splitBody (cs ++ [b]) = ((splitBody cs).1, '"' :: (after ++ [b])) := by
      rw [same, first, List.cons_append]
    left
    rw [readString_of_quote split, readString_of_quote split']
  · right
    exact ⟨_, congrArg Prod.fst (readString_of_open rfl unclosed)⟩

/-- A piece before a blank at the end of the text is read as it is without the blank, unless it is a
comment, to which the blank belongs, or a string that is not closed. -/
theorem Piece.read_concat (c : Char) (rest : List Char) :
    read c (rest ++ [b]) = ((read c rest).1, (read c rest).2 ++ [b]) ∨
      (∃ body, read c rest = (comment body, []) ∧
        read c (rest ++ [b]) = (comment (body ++ [b]), [])) ∨
      ∃ body, (read c (rest ++ [b])).1 = openString body := by
  obtain ⟨-, noDigit, noWord⟩ := Text.plain_of_isBlank blank
  have slash : (rest ++ [b]).head? = some '/' ↔ rest.head? = some '/' := by
    cases rest with
    | nil => simpa using Text.ne_of_isBlank blank (by decide)
    | cons d rest => rfl
  unfold read
  simp only [slash]
  split
  · exact (readString_concat blank sameLine rest).imp_right .inr
  split
  · rename_i comment
    obtain ⟨d, rest, rfl⟩ := List.exists_cons_of_ne_nil (fun none : rest = [] => by
      rw [none] at comment
      cases comment.2)
    simp only [List.cons_append, List.tail_cons]
    -- The comment goes on up to a line break, or up to the end of the text.
    by_cases last : rest.dropWhile (· != '\n') = []
    · right; left
      have inside : ∀ x ∈ rest, (x != '\n') = true := List.dropWhile_eq_nil_iff.1 last
      have inside' : ∀ x ∈ rest ++ [b], (x != '\n') = true := by
        intro x hx
        obtain hx | hx := List.mem_append.1 hx
        · exact inside x hx
        · rw [List.mem_singleton.1 hx]
          exact bne_iff_ne.2 sameLine
      refine ⟨rest, ?_, ?_⟩
      · rw [last, List.takeWhile_eq_self_iff.2 inside]
      · rw [List.dropWhile_eq_nil_iff.2 inside', List.takeWhile_eq_self_iff.2 inside']
    · left
      obtain ⟨take, drop⟩ := takeWhile_dropWhile_append last [b]
      rw [take, drop]
  left
  split
  · exact readSymbol_append (Text.ne_of_isBlank blank (by decide)) ..
  split
  · rfl
  split
  · exact readNumber_append noDigit (Text.ne_of_isBlank blank (by decide)) ..
  split
  · rw [takeWhile_append_of_stop noWord, dropWhile_append_of_stop noWord]
  · rfl

/-- A blank behind a text without faults makes no token. -/
theorem innerTokens_concat {p : Position} {cs : List Char}
    (clean : (scanPieces p (pieces (cs ++ [b]))).diagnostics = []) :
    innerTokens p (pieces (cs ++ [b])) = innerTokens p (pieces cs) ∧
      (scanPieces p (pieces cs)).diagnostics = [] := by
  fun_induction pieces cs generalizing p with
  | case1 =>
    obtain ⟨piece, read, pad⟩ := Piece.read_of_isBlank blank []
    have alone : pieces [b] = [piece] := by
      rw [pieces_cons, read, pieces_nil]
    refine ⟨?_, rfl⟩
    simp [alone, innerTokens, pad.token?_eq]
  | case2 c rest ih =>
    rw [List.cons_append, pieces_cons] at clean ⊢
    obtain same | ⟨body, comment, comment'⟩ | ⟨body, unclosed⟩ :=
      Piece.read_concat blank sameLine c rest
    · rw [same, scanPieces, List.append_eq_nil_iff] at clean
      obtain ⟨tokens, later⟩ := ih clean.2
      rw [same, innerTokens, tokens, scanPieces, later, clean.1]
      exact ⟨rfl, rfl⟩
    · rw [comment, comment', pieces_nil]
      exact ⟨rfl, rfl⟩
    · rw [scanPieces, unclosed, List.append_eq_nil_iff] at clean
      simp [Piece.diagnostics] at clean

end Behind

/-! ### Trimmed texts -/

/-- Blanks behind a text without faults make no tokens. -/
theorem innerTokens_dropWhile_end {p : Position} {cs : List Char}
    (clean : (scanPieces p (pieces cs)).diagnostics = []) :
    innerTokens p (pieces cs) = innerTokens p (pieces (cs.reverse.dropWhile isBlank).reverse) ∧
      (scanPieces p (pieces (cs.reverse.dropWhile isBlank).reverse)).diagnostics = [] := by
  induction cs using List.reverseRecOn with
  | nil => exact ⟨rfl, clean⟩
  | append_singleton cs b ih =>
    rw [List.reverse_concat, List.dropWhile_cons]
    split
    · rename_i blank
      by_cases newline : b = '\n'
      -- A line break cannot be part of any piece, so the pieces fall apart there.
      · subst newline
        have clean' := clean
        rw [pieces_append_newline, diagnostics_scanPieces_append, List.append_eq_nil_iff] at clean'
        obtain ⟨tokens, trimmed⟩ := ih clean'.1
        rw [pieces_append_newline, innerTokens_append, ← tokens, pieces_nil]
        exact ⟨List.append_nil _, trimmed⟩
      · obtain ⟨tokens, shorter⟩ := innerTokens_concat blank newline clean
        rw [tokens]
        exact ih shorter
    · rw [← List.reverse_concat, List.reverse_reverse]
      exact ⟨rfl, clean⟩

/-- The token of a text that is this token of the trimmed text. -/
def Token.untrimmed (source : String) : Token → Token :=
  Token.moved (source.toList.takeWhile isBlank).length
    ((source.toList.takeWhile isBlank).count '\n')

variable {source : String}

/-- The trimmed text starts behind the blanks at the beginning. -/
theorem position_untrimmed (source : String) :
    Position.after {} (source.toList.takeWhile isBlank) =
      Position.moved (source.toList.takeWhile isBlank).length
        ((source.toList.takeWhile isBlank).count '\n') {} := by
  simp only [Position.after, Position.moved]

/-- A text without faults in its characters has the tokens of the trimmed text. -/
theorem scanInner_trim (clean : (scan source).diagnostics = []) :
    scanInner source = (scanInner (Text.trim source)).map (Token.untrimmed source) ∧
      (scan (Text.trim source)).diagnostics = [] := by
  obtain ⟨tokens, trimmed⟩ := innerTokens_dropWhile_end (diagnostics_dropWhile clean)
  have text : (Text.trim source).toList =
      ((source.toList.dropWhile isBlank).reverse.dropWhile isBlank).reverse :=
    String.toList_ofList
  rw [← text, position_untrimmed] at tokens trimmed
  rw [diagnostics_scanPieces_moved, List.map_eq_nil_iff] at trimmed
  refine ⟨?_, trimmed⟩
  rw [scanInner, innerTokens_dropWhile, position_untrimmed, tokens, innerTokens_moved]
  rfl

theorem Token.alike_untrimmed (source : String) (t : Token) : t.Alike (t.untrimmed source) :=
  ⟨rfl, rfl, rfl⟩

/-- End tokens say the same. -/
theorem alike_scanEnd (first second : String) : (scanEnd first).Alike (scanEnd second) :=
  ⟨rfl, rfl, rfl⟩

/-- A text without faults in its characters has the same tokens when it is trimmed. -/
theorem sameTokens_trim (clean : (scan source).diagnostics = []) :
    SameTokens (Text.trim source) source := by
  have inner : List.Forall₂ Token.Alike (scanInner (Text.trim source)) (scanInner source) := by
    rw [(scanInner_trim clean).1, List.forall₂_map_right_iff, List.forall₂_same]
    exact fun t _ => t.alike_untrimmed source
  rw [SameTokens, tokens_scan, tokens_scan]
  exact List.rel_append inner (.cons (alike_scanEnd ..) .nil)

/-- A trimmed text has no faults if the text has none. -/
theorem Faultless.trim (faultless : Faultless source) : Faultless (Text.trim source) := by
  have reports := (sameTokens_trim faultless.scan).script.2
  rw [faultless.read, List.forall₂_nil_right_iff] at reports
  exact ⟨(scanInner_trim faultless.scan).2, reports⟩

/-- The word that ends the prompt is no script. -/
theorem not_faultless_exit : ¬Faultless "exit" := by
  intro faultless
  have read := faultless.read
  have tokens : (scan "exit").tokens =
      [⟨.ident, "exit", none, 1, ⟨0, 4⟩⟩, ⟨.eof, "", none, 1, ⟨4, 4⟩⟩] := by
    decide +kernel
  have reports : (Script.ofTokens (scan "exit").tokens).diagnostics.length = 1 := by
    rw [tokens]
    cbv
  rw [read] at reports
  cases reports

end ScriptLang

import ScriptLang.Scan

/-!
# Scanning a text in parts

A line break separates whatever stands before it from whatever stands behind it: no token, no
comment and no faulty piece goes across.  So the tokens of two texts with a line break between them
are the tokens of the first text and then those of the second one, moved by what stands before it.

## Main definitions

* `Position.moved`, `Token.moved`, `Diagnostic.moved` — places further on in a text
* `scanInner`, `scanEnd` — the tokens of a text without the end token, and the end token

## Main results

* `pieces_append_newline` — no piece goes across a line break
* `scanInner_append_newline` — the tokens of two texts with a line break between them
* `scan_append_newline` — all that scanning two texts with a line break between them yields
* `kind_ne_eof_of_mem_scanInner` — the end token is the only one of its kind
* `nodup_span_scan` — no two tokens stand in the same place
-/

namespace ScriptLang

/-! ### Pieces at a line break -/

theorem takeWhile_append_of_stop {α : Type} {p : α → Bool} {c : α} (stop : p c = false)
    (xs ys : List α) : (xs ++ c :: ys).takeWhile p = xs.takeWhile p := by
  induction xs with
  | nil => simp [stop]
  | cons x xs ih =>
    rw [List.cons_append, List.takeWhile_cons, List.takeWhile_cons, ih]

theorem dropWhile_append_of_stop {α : Type} {p : α → Bool} {c : α} (stop : p c = false)
    (xs ys : List α) : (xs ++ c :: ys).dropWhile p = xs.dropWhile p ++ c :: ys := by
  induction xs with
  | nil => simp [stop]
  | cons x xs ih =>
    rw [List.cons_append, List.dropWhile_cons, List.dropWhile_cons, ih]
    split <;> rfl

/-- The body of a string ends before a line break, whatever follows. -/
theorem splitBody_append_newline (cs ds : List Char) :
    splitBody (cs ++ '\n' :: ds) = ((splitBody cs).1, (splitBody cs).2 ++ '\n' :: ds) := by
  fun_induction splitBody cs with
  | case1 => simp [splitBody]
  | case2 rest => simp [splitBody]
  | case3 c rest h body after split ih => simp_all [splitBody]
  | case4 c rest _ h =>
    obtain rfl | rfl := h
    · simp [splitBody]
    · simp [splitBody]
  | case5 c rest alone h body after split ih =>
    by_cases hc : c = '\\'
    · subst hc
      cases rest with
      | nil =>
        -- The backslash stands last, and a line break behind it is not kept from ending the body.
        rw [splitBody] at split
        cases split
        simp [splitBody]
      | cons d rest => exact (alone d rest rfl rfl).elim
    · rw [List.cons_append, splitBody, if_neg h, ih, split]
      exact fun _ _ same _ => hc same

namespace Piece

open Text (isIdentContinue)

theorem readString_of_quote {cs body after : List Char} (h : splitBody cs = (body, '"' :: after)) :
    readString cs = (string body, after) := by
  rw [readString, h]
  rfl

theorem readString_of_open {cs body after : List Char} (h : splitBody cs = (body, after))
    (no : after.head? ≠ some '"') : readString cs = (openString body, after) := by
  rw [readString, h]
  split
  · rename_i heq
    cases heq
    exact absurd rfl no
  · rename_i heq
    cases heq
    rfl

theorem readString_append_newline (cs ds : List Char) :
    readString (cs ++ '\n' :: ds) = ((readString cs).1, (readString cs).2 ++ '\n' :: ds) := by
  have whole := splitBody_append_newline cs ds
  rcases hs : splitBody cs with ⟨body, after⟩
  rw [hs] at whole
  cases after with
  | nil => rw [readString_of_open whole (by simp), readString_of_open hs (by simp)]
  | cons d after =>
    by_cases quote : d = '"'
    · subst quote
      rw [readString_of_quote whole, readString_of_quote hs]
      rfl
    · have no : some d ≠ some '"' := fun same => quote (Option.some.inj same)
      rw [readString_of_open whole no, readString_of_open hs no]

/-- A symbol ends before a character that is no equals sign, whatever follows. -/
theorem readSymbol_append {b : Char} (ne : b ≠ '=') (kind : TokenKind) (c : Char)
    (rest ds : List Char) :
    readSymbol kind c (rest ++ b :: ds) =
      ((readSymbol kind c rest).1, (readSymbol kind c rest).2 ++ b :: ds) := by
  unfold readSymbol
  cases withEqual? kind with
  | none => rfl
  | some longer =>
    cases rest with
    | nil => split <;> simp_all
    | cons d rest =>
      by_cases equals : d = '='
      · subst equals
        rfl
      · split <;> split <;> simp_all

/-- A number ends before a character that is neither a digit nor a point, whatever follows. -/
theorem readNumber_append {b : Char} (stop : b.isDigit = false) (ne : b ≠ '.') (c : Char)
    (rest ds : List Char) :
    readNumber c (rest ++ b :: ds) =
      ((readNumber c rest).1, (readNumber c rest).2 ++ b :: ds) := by
  simp only [readNumber, takeWhile_append_of_stop stop, dropWhile_append_of_stop stop]
  cases hd : rest.dropWhile Char.isDigit with
  | nil => split <;> simp_all
  | cons d after =>
    by_cases point : d = '.'
    · subst point
      cases after with
      | nil => simp [stop]
      | cons e after =>
        simp only [List.cons_append]
        split
        · rw [takeWhile_append_of_stop stop, dropWhile_append_of_stop stop]
        · rfl
    · split <;> split <;> simp_all

/-- Reading a piece stops at a line break at the latest, unless it starts there. -/
theorem read_append_newline (c : Char) (rest ds : List Char) :
    read c (rest ++ '\n' :: ds) = ((read c rest).1, (read c rest).2 ++ '\n' :: ds) := by
  have stop : isIdentContinue '\n' = false := by decide
  have slash : (rest ++ '\n' :: ds).head? = some '/' ↔ rest.head? = some '/' := by
    cases rest with
    | nil => simp
    | cons d rest => rfl
  unfold read
  simp only [slash]
  split
  · exact readString_append_newline rest ds
  · split
    · rename_i comment
      obtain ⟨d, rest, rfl⟩ : ∃ d rest', rest = d :: rest' := by
        cases rest with
        | nil => cases comment.2
        | cons d rest => exact ⟨d, rest, rfl⟩
      have newline : ('\n' != '\n') = false := by decide
      simp only [List.cons_append, List.tail_cons]
      rw [takeWhile_append_of_stop (p := fun x => x != '\n') newline,
        dropWhile_append_of_stop (p := fun x => x != '\n') newline]
    · split
      · exact readSymbol_append (by decide) ..
      · split
        · rfl
        · split
          · exact readNumber_append (by decide) (by decide) ..
          · split
            · rw [takeWhile_append_of_stop stop, dropWhile_append_of_stop stop]
            · rfl

theorem read_newline (rest : List Char) : read '\n' rest = (blank '\n', rest) := by
  simp [read, symbol?, isSeparator]

end Piece

/-- No piece goes across a line break. -/
theorem pieces_append_newline (cs ds : List Char) :
    pieces (cs ++ '\n' :: ds) = pieces cs ++ .blank '\n' :: pieces ds := by
  fun_induction pieces cs with
  | case1 => rw [List.nil_append, pieces_cons, Piece.read_newline, List.nil_append]
  | case2 c rest ih =>
    rw [List.cons_append, pieces_cons, Piece.read_append_newline c rest ds, ih, List.cons_append]

/-! ### Kinds of pieces -/

theorem TokenKind.ofWord?_ne_eof {word : String} {kind : TokenKind}
    (h : TokenKind.ofWord? word = some kind) : kind ≠ .eof := by
  unfold ofWord? at h
  split at h
  all_goals
    cases h
    try decide

namespace Piece

theorem symbol?_ne_eof {c : Char} {kind : TokenKind} (h : symbol? c = some kind) :
    kind ≠ .eof := by
  unfold symbol? at h
  split at h
  all_goals
    cases h
    try decide

theorem withEqual?_ne_eof {kind longer : TokenKind} (h : withEqual? kind = some longer) :
    longer ≠ .eof := by
  unfold withEqual? at h
  split at h
  all_goals
    cases h
    try decide

/-- The symbols of a piece, if it is one, are not the end of the text. -/
def NoEnd : Piece → Prop
  | symbol kind _ => kind ≠ .eof
  | _ => True

theorem noEnd_readString (cs : List Char) : (readString cs).1.NoEnd := by
  unfold readString
  split <;> trivial

theorem noEnd_readSymbol {kind : TokenKind} (h : kind ≠ .eof) (c : Char) (rest : List Char) :
    (readSymbol kind c rest).1.NoEnd := by
  unfold readSymbol
  split
  · exact withEqual?_ne_eof ‹_›
  · exact h

theorem noEnd_readNumber (c : Char) (rest : List Char) : (readNumber c rest).1.NoEnd := by
  simp only [readNumber]
  repeat' split
  all_goals trivial

theorem noEnd_read (c : Char) (rest : List Char) : (read c rest).1.NoEnd := by
  unfold read
  split
  · exact noEnd_readString rest
  · split
    · trivial
    · split
      · exact noEnd_readSymbol (symbol?_ne_eof ‹_›) c rest
      · split
        · trivial
        · split
          · exact noEnd_readNumber c rest
          · split <;> trivial

/-- No piece makes an end token. -/
theorem NoEnd.kind_ne_eof {piece : Piece} (h : piece.NoEnd) {p : Position} {t : Token}
    (ht : piece.token? p = some t) : t.kind ≠ .eof := by
  cases piece with
  | blank c | comment body | openString body | stray c => cases ht
  | symbol kind text =>
    cases ht
    exact h
  | number whole fraction | string body =>
    cases ht
    nofun
  | word text =>
    cases ht
    simp only [tokenAt]
    cases hw : TokenKind.ofWord? (String.ofList text) with
    | none => decide
    | some kind => exact TokenKind.ofWord?_ne_eof hw

end Piece

theorem noEnd_of_mem_pieces {cs : List Char} {piece : Piece} (h : piece ∈ pieces cs) :
    piece.NoEnd := by
  fun_induction pieces cs with
  | case1 => cases h
  | case2 c rest ih =>
    obtain rfl | h := List.mem_cons.1 h
    · exact Piece.noEnd_read c rest
    · exact ih h

/-- No piece of a text is empty. -/
theorem text_ne_nil_of_mem_pieces {cs : List Char} {piece : Piece} (h : piece ∈ pieces cs) :
    piece.text ≠ [] := by
  fun_induction pieces cs with
  | case1 => cases h
  | case2 c rest ih =>
    obtain rfl | h := List.mem_cons.1 h
    · intro empty
      have first := Piece.head?_text_read c rest
      rw [empty] at first
      cases first
    · exact ih h

/-! ### Places further on -/

/-- A place that is so many characters and lines further on. -/
def Position.moved (chars lines : Nat) (p : Position) : Position :=
  ⟨p.offset + chars, p.line + lines⟩

/-- A token that stands so many characters and lines further on. -/
def Token.moved (chars lines : Nat) (t : Token) : Token :=
  { t with line := t.line + lines, span := ⟨t.span.start + chars, t.span.stop + chars⟩ }

/-- A report about a place that is so many characters and lines further on. -/
def Diagnostic.moved (chars lines : Nat) (d : Diagnostic) : Diagnostic :=
  { d with line := d.line + lines, span := ⟨d.span.start + chars, d.span.stop + chars⟩ }

namespace Position

theorem after_append (p : Position) (a b : List Char) :
    p.after (a ++ b) = (p.after a).after b := by
  simp [after, Nat.add_assoc]

theorem moved_after (chars lines : Nat) (p : Position) (text : List Char) :
    (p.moved chars lines).after text = (p.after text).moved chars lines := by
  simp only [moved, after, Position.mk.injEq]
  omega

end Position

namespace Piece

variable {chars lines : Nat} {p : Position}

theorem tokenAt_moved (kind : TokenKind) (text : List Char) (literal : Option TokenLiteral) :
    tokenAt (p.moved chars lines) kind text literal =
      (tokenAt p kind text literal).moved chars lines := by
  simp only [tokenAt, Token.moved, Position.moved, Token.mk.injEq, Span.mk.injEq, true_and]
  omega

theorem token?_moved (piece : Piece) :
    piece.token? (p.moved chars lines) = (piece.token? p).map (Token.moved chars lines) := by
  cases piece <;> simp [token?, tokenAt_moved]

theorem faultAt_moved (length : Nat) (fault : SyntaxFault) :
    faultAt (p.moved chars lines) length fault =
      (faultAt p length fault).moved chars lines := by
  simp only [faultAt, Diagnostic.moved, Position.moved, Diagnostic.mk.injEq, Span.mk.injEq,
    true_and]
  omega

theorem diagnostics_moved (piece : Piece) :
    piece.diagnostics (p.moved chars lines) =
      (piece.diagnostics p).map (Diagnostic.moved chars lines) := by
  cases piece <;> simp [diagnostics, diagnostics.escapeFaults, faultAt_moved, Function.comp_def]

/-- A token stands where its piece stands. -/
theorem span_of_token? {piece : Piece} {t : Token} (h : piece.token? p = some t) :
    t.span = ⟨p.offset, (p.after piece.text).offset⟩ := by
  cases piece with
  | blank c | comment body | openString body | stray c => cases h
  | symbol kind text | number whole fraction | word text | string body =>
    cases h
    rfl

end Piece

/-! ### All tokens -/

/-- The tokens of pieces that start at a position, without the end token. -/
def innerTokens (p : Position) : List Piece → List Token
  | [] => []
  | piece :: rest => (piece.token? p).toList ++ innerTokens (p.after piece.text) rest

theorem tokens_scanPieces (p : Position) (ps : List Piece) :
    (scanPieces p ps).tokens =
      innerTokens p ps ++ [(p.after (ps.flatMap Piece.text)).endToken] := by
  induction ps generalizing p with
  | nil => rfl
  | cons piece rest ih =>
    rw [scanPieces, innerTokens, List.flatMap_cons, Position.after_append, ih, List.append_assoc]

theorem innerTokens_append (p : Position) (ps qs : List Piece) :
    innerTokens p (ps ++ qs) =
      innerTokens p ps ++ innerTokens (p.after (ps.flatMap Piece.text)) qs := by
  induction ps generalizing p with
  | nil => rfl
  | cons piece rest ih =>
    rw [List.cons_append, innerTokens, innerTokens, List.flatMap_cons, Position.after_append, ih,
      List.append_assoc]

theorem innerTokens_moved (chars lines : Nat) (p : Position) (ps : List Piece) :
    innerTokens (p.moved chars lines) ps =
      (innerTokens p ps).map (Token.moved chars lines) := by
  induction ps generalizing p with
  | nil => rfl
  | cons piece rest ih =>
    rw [innerTokens, innerTokens, Piece.token?_moved, Position.moved_after, ih, List.map_append]
    cases piece.token? p <;> rfl

theorem diagnostics_scanPieces_append (p : Position) (ps qs : List Piece) :
    (scanPieces p (ps ++ qs)).diagnostics = (scanPieces p ps).diagnostics ++
      (scanPieces (p.after (ps.flatMap Piece.text)) qs).diagnostics := by
  induction ps generalizing p with
  | nil => rfl
  | cons piece rest ih =>
    simp only [List.cons_append, scanPieces, List.flatMap_cons, Position.after_append, ih,
      List.append_assoc]

theorem diagnostics_scanPieces_moved (chars lines : Nat) (p : Position) (ps : List Piece) :
    (scanPieces (p.moved chars lines) ps).diagnostics =
      (scanPieces p ps).diagnostics.map (Diagnostic.moved chars lines) := by
  induction ps generalizing p with
  | nil => rfl
  | cons piece rest ih =>
    simp only [scanPieces, Piece.diagnostics_moved, Position.moved_after, ih, List.map_append]

/-- The tokens stand between the start and the end of the pieces. -/
theorem span_of_mem_innerTokens {p : Position} {ps : List Piece} {t : Token}
    (h : t ∈ innerTokens p ps) :
    p.offset ≤ t.span.start ∧ t.span.stop ≤ (p.after (ps.flatMap Piece.text)).offset := by
  induction ps generalizing p with
  | nil => cases h
  | cons piece rest ih =>
    rw [List.flatMap_cons, Position.after_append]
    obtain h | h := List.mem_append.1 h
    · rw [Piece.span_of_token? (Option.mem_toList.1 h)]
      exact ⟨Nat.le_refl _, Nat.le_add_right ..⟩
    · obtain ⟨start, stop⟩ := ih h
      exact ⟨Nat.le_trans (Nat.le_add_right ..) start, stop⟩

/-- A token stands wholly before every later one. -/
theorem pairwise_innerTokens (p : Position) (ps : List Piece) :
    (innerTokens p ps).Pairwise fun t t' => t.span.stop ≤ t'.span.start := by
  induction ps generalizing p with
  | nil => exact .nil
  | cons piece rest ih =>
    refine List.pairwise_append.2 ⟨?_, ih _, fun t ht t' ht' => ?_⟩
    · cases piece.token? p with
      | none => exact .nil
      | some t => exact List.pairwise_singleton _ t
    · rw [Piece.span_of_token? (Option.mem_toList.1 ht)]
      exact (span_of_mem_innerTokens ht').1

/-- Tokens have characters if the pieces do. -/
theorem start_lt_stop_of_mem_innerTokens {p : Position} {ps : List Piece} {t : Token}
    (some : ∀ piece ∈ ps, piece.text ≠ []) (h : t ∈ innerTokens p ps) :
    t.span.start < t.span.stop := by
  induction ps generalizing p with
  | nil => cases h
  | cons piece rest ih =>
    obtain h | h := List.mem_append.1 h
    · rw [Piece.span_of_token? (Option.mem_toList.1 h)]
      exact Nat.lt_add_of_pos_right (List.length_pos_iff.2 (some piece (List.mem_cons_self ..)))
    · exact ih (fun q hq => some q (List.mem_cons_of_mem _ hq)) h

theorem kind_ne_eof_of_mem_innerTokens {p : Position} {ps : List Piece} {t : Token}
    (noEnd : ∀ piece ∈ ps, piece.NoEnd) (h : t ∈ innerTokens p ps) : t.kind ≠ .eof := by
  induction ps generalizing p with
  | nil => cases h
  | cons piece rest ih =>
    obtain h | h := List.mem_append.1 h
    · exact (noEnd piece (List.mem_cons_self ..)).kind_ne_eof (Option.mem_toList.1 h)
    · exact ih (fun q hq => noEnd q (List.mem_cons_of_mem _ hq)) h

/-! ### Source texts -/

/-- The tokens of a source text without the end token. -/
def scanInner (source : String) : List Token :=
  innerTokens {} (pieces source.toList)

/-- The token behind all others. -/
def scanEnd (source : String) : Token :=
  (Position.after {} source.toList).endToken

/-- The last token is an end token. -/
theorem tokens_scan (source : String) :
    (scan source).tokens = scanInner source ++ [scanEnd source] := by
  rw [scan, tokens_scanPieces, flatMap_text_pieces, scanInner, scanEnd]

/-- No other token is an end token. -/
theorem kind_ne_eof_of_mem_scanInner {source : String} {t : Token} (h : t ∈ scanInner source) :
    t.kind ≠ .eof :=
  kind_ne_eof_of_mem_innerTokens (fun _ => noEnd_of_mem_pieces) h

/-- Tokens end within the text. -/
theorem stop_le_of_mem_scanInner {source : String} {t : Token} (h : t ∈ scanInner source) :
    t.span.stop ≤ source.length := by
  have stop := (span_of_mem_innerTokens h).2
  rw [flatMap_text_pieces] at stop
  simpa [Position.after, String.length_toList] using stop

theorem stop_le_of_mem_scan {source : String} {t : Token} (h : t ∈ (scan source).tokens) :
    t.span.stop ≤ source.length := by
  rw [tokens_scan] at h
  obtain h | h := List.mem_append.1 h
  · exact stop_le_of_mem_scanInner h
  · obtain rfl := List.mem_singleton.1 h
    simp [scanEnd, Position.endToken, Position.after, String.length_toList]

/-- A token stands wholly before every later one, the end token included. -/
theorem pairwise_scan (source : String) :
    (scan source).tokens.Pairwise fun t t' => t.span.stop ≤ t'.span.start := by
  rw [tokens_scan]
  refine List.pairwise_append.2 ⟨pairwise_innerTokens .., List.pairwise_singleton _ _, ?_⟩
  intro t ht t' ht'
  obtain rfl := List.mem_singleton.1 ht'
  simpa [scanEnd, Position.endToken, Position.after, String.length_toList] using
    stop_le_of_mem_scanInner ht

/-- No two tokens stand in the same place. -/
theorem nodup_span_scan (source : String) : ((scan source).tokens.map Token.span).Nodup := by
  have apart := pairwise_scan source
  have wide : ∀ t ∈ scanInner source, t.span.start < t.span.stop := fun t ht =>
    start_lt_stop_of_mem_innerTokens (fun _ => text_ne_nil_of_mem_pieces) ht
  rw [tokens_scan] at apart ⊢
  rw [List.Nodup, List.pairwise_map]
  rw [List.pairwise_append] at apart ⊢
  -- Only the end token has no characters, and nothing stands behind it.
  refine ⟨apart.1.imp_of_mem ?_, List.pairwise_singleton _ _, fun t ht t' ht' same => ?_⟩
  · intro t t' ht _ before same
    have := wide t ht
    rw [← same] at before
    omega
  · have before := apart.2.2 t ht t' ht'
    have := wide t ht
    rw [← same] at before
    omega

/-- How many characters and lines a text stands further on behind another text and a line break. -/
def Token.behind (first : String) : Token → Token :=
  Token.moved (first.length + 1) (first.toList.count '\n' + 1)

theorem position_behind (first : String) :
    (Position.after {} first.toList).after ['\n'] =
      Position.moved (first.length + 1) (first.toList.count '\n' + 1) {} := by
  simp only [Position.after, Position.moved, String.length_toList, Position.mk.injEq]
  simp
  omega

theorem toList_append_newline (first second : String) :
    (first ++ "\n" ++ second).toList = first.toList ++ '\n' :: second.toList := by
  simp

/-- The tokens of two texts with a line break between them. -/
theorem scanInner_append_newline (first second : String) :
    scanInner (first ++ "\n" ++ second) =
      scanInner first ++ (scanInner second).map (Token.behind first) := by
  unfold scanInner
  rw [toList_append_newline, pieces_append_newline, innerTokens_append, flatMap_text_pieces]
  rw [innerTokens, Piece.text, position_behind, innerTokens_moved]
  rfl

/-- How far a report about a text moves when the text stands behind another one and a line break. -/
def Diagnostic.behind (first : String) : Diagnostic → Diagnostic :=
  Diagnostic.moved (first.length + 1) (first.toList.count '\n' + 1)

/-- The place behind two texts with a line break between them. -/
theorem scanEnd_append_newline (first second : String) :
    scanEnd (first ++ "\n" ++ second) = (scanEnd second).behind first := by
  have whole : Position.after {} (first ++ "\n" ++ second).toList =
      (Position.after {} second.toList).moved (first.length + 1)
        (first.toList.count '\n' + 1) := by
    rw [← Position.moved_after, ← position_behind, ← Position.after_append,
      ← Position.after_append, toList_append_newline]
    rfl
  simp only [scanEnd, whole, Position.endToken, Position.moved, Token.behind, Token.moved]

/-- The tokens of a text, its end token included, where it stands behind another text and a line
break. -/
theorem tokens_scan_behind (first second : String) :
    (scanInner second).map (Token.behind first) ++ [scanEnd (first ++ "\n" ++ second)] =
      (scan second).tokens.map (Token.behind first) := by
  rw [scanEnd_append_newline, tokens_scan, List.map_append, List.map_singleton]

/-- The end token is the one of its kind. -/
theorem filter_kind_ne_eof_scan (source : String) :
    (scan source).tokens.filter (·.kind ≠ .eof) = scanInner source := by
  have inner : (scanInner source).filter (·.kind ≠ .eof) = scanInner source :=
    List.filter_eq_self.2 fun t ht => decide_eq_true (kind_ne_eof_of_mem_scanInner ht)
  have last : (scanEnd source).kind = .eof := rfl
  rw [tokens_scan, List.filter_append, inner]
  simp [last]

/-- The faults among the characters of two texts with a line break between them. -/
theorem diagnostics_scan_append (first second : String) :
    (scan (first ++ "\n" ++ second)).diagnostics =
      (scan first).diagnostics ++ (scan second).diagnostics.map (Diagnostic.behind first) := by
  unfold scan
  rw [toList_append_newline, pieces_append_newline, diagnostics_scanPieces_append,
    flatMap_text_pieces]
  rw [scanPieces, Piece.text, position_behind, diagnostics_scanPieces_moved]
  rfl

/-- Two texts without faults in their characters make one with a line break between them. -/
theorem diagnostics_scan_append_newline {first second : String}
    (hfirst : (scan first).diagnostics = []) (hsecond : (scan second).diagnostics = []) :
    (scan (first ++ "\n" ++ second)).diagnostics = [] := by
  rw [diagnostics_scan_append, hfirst, hsecond]
  rfl

/-- Scanning goes from line break to line break.  Whatever the two texts are, faulty or not, the
tokens of the first one with a line break and the second one behind it are those of the first text
without its end token and then those of the second one, end token included, each of them as many
characters and lines further on as the first text and the line break take up.  The same holds of
the faults among their characters. -/
theorem scan_append_newline (first second : String) :
    scan (first ++ "\n" ++ second) =
      { tokens := (scan first).tokens.filter (·.kind ≠ .eof) ++
          (scan second).tokens.map
            (Token.moved (first.length + 1) (1 + first.toList.count '\n'))
        diagnostics := (scan first).diagnostics ++
          (scan second).diagnostics.map
            (Diagnostic.moved (first.length + 1) (1 + first.toList.count '\n')) } := by
  have tokens : (scan (first ++ "\n" ++ second)).tokens =
      scanInner first ++ (scan second).tokens.map (Token.behind first) := by
    rw [tokens_scan, scanInner_append_newline, List.append_assoc, tokens_scan_behind]
  rw [Nat.add_comm 1, filter_kind_ne_eof_scan]
  calc scan (first ++ "\n" ++ second)
      = ⟨(scan (first ++ "\n" ++ second)).tokens,
          (scan (first ++ "\n" ++ second)).diagnostics⟩ := rfl
    _ = _ := by
      rw [tokens, diagnostics_scan_append]
      rfl

end ScriptLang

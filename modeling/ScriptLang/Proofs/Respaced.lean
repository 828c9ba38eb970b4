import Mathlib
import ScriptLang.Proofs.Layout
import ScriptLang.Proofs.Tiling

/-!
# Respacing a text

The lexemes of a text with single spaces between them are a text with the same tokens.  A token that
is complete in front of anything is complete in front of a space and at the end of a text too, so no
two lexemes run together and none is cut.  What is not in the lexemes, faults included, is gone:
only the escapes of the strings are still reported.

## Main definitions

* `respaced` — the lexemes of a text with spaces between them

## Main results

* `pieces_eq_of_complete` — pieces that are complete one before the other are read again
* `scan_respaced` — respacing keeps all tokens and the faults in them, and respacing again changes
  nothing
-/

namespace ScriptLang

open Text (isIdentContinue)

/-- The lexemes of a text, one after another with a space between each two. -/
def respaced (source : String) : String :=
  " ".intercalate (((scan source).tokens.filter (·.kind ≠ .eof)).map Token.lexeme)

/-! ### Pieces that are read again -/

/-- Each of the pieces is complete in front of those behind it. -/
def AllComplete : List Piece → Prop
  | [] => True
  | piece :: rest =>
    piece.text ≠ [] ∧ piece.EndsBefore (rest.flatMap Piece.text) ∧ AllComplete rest

/-- Pieces that are complete one before the other are read again from their characters. -/
theorem pieces_eq_of_complete {ps : List Piece} (h : AllComplete ps) :
    pieces (ps.flatMap Piece.text) = ps := by
  induction ps with
  | nil => rw [List.flatMap_nil, pieces_nil]
  | cons piece rest ih =>
    obtain ⟨some, ends, complete⟩ := h
    obtain ⟨c, cs, text⟩ := List.exists_cons_of_ne_nil some
    have whole : piece.text ++ rest.flatMap Piece.text = c :: (cs ++ rest.flatMap Piece.text) := by
      rw [text, List.cons_append]
    rw [List.flatMap_cons, whole, pieces_cons, ends.read_eq whole, ih complete]

/-! ### Tokens in front of a space -/

/-- A space ends what a space cannot be part of. -/
theorem Clear.of_space {p : Char → Bool} {after : List Char} (space : Clear (· != ' ') after)
    (stop : p ' ' = false) : Clear p after := by
  intro c first
  obtain rfl : c = ' ' := by simpa using space c first
  exact stop

namespace Piece

/-- Whether a piece makes a token. -/
def isToken : Piece → Bool
  | blank _ | comment _ | openString _ | stray _ => false
  | symbol _ _ | number _ _ | word _ | string _ => true

variable {piece : Piece} {after : List Char} {p : Position}

theorem isToken_iff : piece.isToken = true ↔ ∃ t, piece.token? p = some t := by
  cases piece <;> simp [isToken, token?]

/-- A token that is complete in front of anything is complete in front of a space. -/
theorem EndsBefore.before_space {before : List Char} (h : piece.EndsBefore before)
    (token : piece.isToken = true) (space : Clear (· != ' ') after) : piece.EndsBefore after := by
  have other {c : Char} (ne : c ≠ ' ') : after.head? ≠ some c := fun first =>
    ne (by simpa using space c first)
  cases h with
  | blank _ | comment _ _ | openString _ _ _ | stray _ _ _ _ _ => cases token
  | symbol known _ _ =>
    exact .symbol known (fun equals => absurd equals (other (by decide)))
      fun _ => other (by decide)
  | withEqual known double => exact .withEqual known double
  | whole first digits _ _ =>
    refine .whole first digits (space.of_space (by decide)) fun d rest same => ?_
    exact absurd (by rw [same, List.head?_cons]) (other (c := '.') (by decide))
  | decimal first digits places _ => exact .decimal first digits places (space.of_space (by decide))
  | word first rest _ => exact .word first rest (space.of_space (by decide))
  | string closed => exact .string closed

end Piece

/-- Tokens with spaces between them are read again. -/
theorem allComplete_intersperse {ps : List Piece}
    (tokens : ∀ piece ∈ ps, piece.isToken = true ∧ piece.text ≠ [] ∧
      ∃ after, piece.EndsBefore after) :
    AllComplete (ps.intersperse (.blank ' ')) := by
  induction ps with
  | nil => trivial
  | cons piece rest ih =>
    obtain ⟨⟨token, some, after, ends⟩, tokens⟩ := List.forall_mem_cons.1 tokens
    cases rest with
    | nil => exact ⟨some, ends.before_space token clear_nil, trivial⟩
    | cons next rest =>
      rw [List.intersperse_cons_cons]
      exact ⟨some, ends.before_space token (clear_cons.2 (by decide)), List.cons_ne_nil _ _,
        .blank (by decide), ih tokens⟩

section Intersperse

variable {α β : Type} {f : α → List β} {sep : α}

theorem flatMap_intersperse (nothing : f sep = []) (xs : List α) :
    (xs.intersperse sep).flatMap f = xs.flatMap f := by
  induction xs with
  | nil => rfl
  | cons x xs ih =>
    cases xs with
    | nil => rfl
    | cons y ys =>
      rw [List.intersperse_cons_cons, List.flatMap_cons, List.flatMap_cons, nothing, ih,
        List.nil_append, ← List.flatMap_cons]

/-- With the separator's text between them, texts are those of the list with the separator in it. -/
theorem intercalate_map (f : α → List β) (sep : α) (xs : List α) :
    (f sep).intercalate (xs.map f) = (xs.intersperse sep).flatMap f := by
  induction xs with
  | nil => rfl
  | cons x xs ih =>
    cases xs with
    | nil => simp
    | cons y ys =>
      rw [List.map_cons, List.map_cons, List.intercalate_cons_cons, ← List.map_cons, ih,
        List.intersperse_cons_cons, List.flatMap_cons, List.flatMap_cons, List.append_assoc]

theorem flatMap_filter (g : α → Bool) (f : α → List β) (xs : List α) :
    (xs.filter g).flatMap f = xs.flatMap fun x => if g x then f x else [] := by
  induction xs with
  | nil => rfl
  | cons x xs ih =>
    cases kept : g x with
    | true =>
      rw [List.filter_cons_of_pos kept, List.flatMap_cons, List.flatMap_cons, ih, if_pos kept]
    | false => simp [kept, ih]

/-- Separators that fail a test can be sorted out again. -/
theorem filter_intersperse {g : α → Bool} (fails : g sep = false) {xs : List α}
    (pass : ∀ x ∈ xs, g x = true) : (xs.intersperse sep).filter g = xs := by
  induction xs with
  | nil => rfl
  | cons x xs ih =>
    obtain ⟨first, pass⟩ := List.forall_mem_cons.1 pass
    cases xs with
    | nil => exact List.filter_cons_of_pos first
    | cons y ys =>
      rw [List.intersperse_cons_cons, List.filter_cons_of_pos first,
        List.filter_cons_of_neg (by simp [fails]), ih pass]

end Intersperse

/-! ### What tokens and faults say -/

/-- What a token says, wherever it stands. -/
def Token.content (t : Token) : TokenKind × String × Option TokenLiteral :=
  (t.kind, t.lexeme, t.literal)

theorem Token.alike_iff {t t' : Token} : t.Alike t' ↔ t.content = t'.content := by
  simp only [content, Prod.mk.injEq]
  exact ⟨fun h => ⟨h.kind, h.lexeme, h.literal⟩, fun ⟨kind, lexeme, literal⟩ =>
    ⟨kind, lexeme, literal⟩⟩

namespace Piece

variable {piece : Piece}

/-- What the token of a piece says, if there is one. -/
def contents (piece : Piece) : List (TokenKind × String × Option TokenLiteral) :=
  if piece.isToken then (piece.token? {}).toList.map Token.content else []

/-- The faults of a piece. -/
def faults (piece : Piece) : List SyntaxFault :=
  (piece.diagnostics {}).map Diagnostic.fault

theorem map_content_token? (p : Position) (piece : Piece) :
    (piece.token? p).toList.map Token.content = piece.contents := by
  cases piece <;> rfl

theorem map_lexeme_token? (p : Position) (piece : Piece) :
    (piece.token? p).toList.map (fun t => t.lexeme.toList) =
      if piece.isToken then [piece.text] else [] := by
  cases token : piece.token? p with
  | none =>
    have no : piece.isToken ≠ true := fun yes => by
      obtain ⟨t, some⟩ := (isToken_iff (p := p)).1 yes
      cases token.symm.trans some
    rw [if_neg no]
    rfl
  | some t =>
    rw [if_pos (isToken_iff.2 ⟨t, token⟩), ← lexeme_of_token? token]
    rfl

theorem map_fault_diagnostics (p : Position) (piece : Piece) :
    (piece.diagnostics p).map Diagnostic.fault = piece.faults := by
  cases piece <;> simp [faults, diagnostics, diagnostics.escapeFaults, faultAt]

end Piece

/-! ### Source texts -/

/-- The pieces of a text that make tokens. -/
def tokenPieces (source : String) : List Piece :=
  (pieces source.toList).filter Piece.isToken

theorem map_content_scanInner (source : String) :
    (scanInner source).map Token.content = (tokenPieces source).flatMap Piece.contents := by
  have only (piece : Piece) :
      (if piece.isToken then piece.contents else []) = piece.contents := by
    unfold Piece.contents
    split <;> rfl
  rw [scanInner, innerTokens_eq_gather, map_gather Piece.map_content_token?, tokenPieces,
    flatMap_filter]
  simp only [only]

/-- A respaced text is made of the pieces with tokens and of spaces. -/
theorem toList_respaced (source : String) :
    (respaced source).toList =
      ((tokenPieces source).intersperse (.blank ' ')).flatMap Piece.text := by
  have texts : (scanInner source).map (fun t => t.lexeme.toList) =
      (tokenPieces source).map Piece.text := by
    rw [scanInner, innerTokens_eq_gather, map_gather Piece.map_lexeme_token?,
      List.map_eq_flatMap, tokenPieces, flatMap_filter]
  rw [respaced, filter_kind_ne_eof_scan, String.toList_intercalate, List.map_map,
    ← intercalate_map, ← texts]
  rfl

/-- And so it is read again. -/
theorem pieces_respaced (source : String) :
    pieces (respaced source).toList = (tokenPieces source).intersperse (.blank ' ') := by
  rw [toList_respaced]
  refine pieces_eq_of_complete (allComplete_intersperse fun piece mem => ?_)
  obtain ⟨mem, token⟩ := List.mem_filter.1 mem
  obtain ⟨ps, qs, split⟩ := List.append_of_mem mem
  have stands : piece.StandsIn source.toList _ _ := ⟨ps, qs, split, rfl, rfl⟩
  exact ⟨token, stands.text_ne_nil, _, stands.endsBefore⟩

/-- Respacing keeps the pieces with tokens, and adds none. -/
theorem tokenPieces_respaced (source : String) :
    tokenPieces (respaced source) = tokenPieces source := by
  rw [tokenPieces, pieces_respaced]
  exact filter_intersperse rfl fun piece mem => (List.mem_filter.1 mem).2

theorem map_fault_diagnostics_respaced (source : String) :
    (scan (respaced source)).diagnostics.map Diagnostic.fault =
      (tokenPieces source).flatMap Piece.faults := by
  rw [scan, diagnostics_eq_gather, map_gather Piece.map_fault_diagnostics, pieces_respaced,
    flatMap_intersperse rfl]

/-! ### The faults that stay -/

/-- Whether a fault is an escape that stands for nothing. -/
def SyntaxFault.isEscape : SyntaxFault → Bool
  | .unknownEscape _ => true
  | _ => false

/-- The reports about escapes in the strings of a text that end. -/
def Scan.stringEscapes (s : Scan) : List Diagnostic :=
  s.diagnostics.filter fun d => d.fault.isEscape && s.tokens.any fun t =>
    t.kind = .string ∧ t.span.start ≤ d.span.start ∧ d.span.stop ≤ t.span.stop

/-- Of the faults of a text those of the pieces with tokens are the ones about escapes in the
strings that end. -/
theorem Piece.StandsIn.kept_eq {source : String} {piece : Piece} {before after : List Char}
    {d : Diagnostic} (h : piece.StandsIn source.toList before after)
    (mem : d ∈ piece.diagnostics (.after {} before)) :
    (d.fault.isEscape && (scan source).tokens.any fun t =>
      t.kind = .string ∧ t.span.start ≤ d.span.start ∧ d.span.stop ≤ t.span.stop) =
        piece.isToken := by
  obtain ⟨c, rfl, rfl⟩ | ⟨body, rfl, rfl⟩ | ⟨body, offset, c, strings, known, rfl⟩ :=
    mem_diagnostics_iff.1 mem
  · rfl
  · rfl
  · rw [faultAt, SyntaxFault.isEscape, Bool.true_and]
    obtain rfl | rfl := strings
    · obtain ⟨t, tokens, encloses⟩ := h.encloses known
      exact List.any_eq_true.2 ⟨t, tokens, decide_eq_true encloses⟩
    · -- Whatever encloses the report would hold the quote that no token holds.
      obtain ⟨some, -⟩ := lt_of_mem_unknownEscapes known
      have quote : (openString body).Holds source before.length before :=
        h.holds ⟨Nat.le_refl _, by simp [text]⟩
      refine List.any_eq_false.2 fun t tokens encloses => ?_
      obtain ⟨-, start, stop⟩ := of_decide_eq_true encloses
      rw [Position.offset_after] at start stop
      obtain ⟨t, token⟩ := quote.inToken_iff.1 ⟨t, tokens, start, by dsimp only at some stop; omega⟩
      cases token

theorem filter_gather {α : Type} {f : Position → Piece → List α} {q : α → Bool} {g : Piece → Bool}
    {p : Position} {ps : List Piece}
    (same : ∀ as piece bs, ps = as ++ piece :: bs →
      ∀ x ∈ f (p.after (as.flatMap Piece.text)) piece, q x = g piece) :
    (gather f p ps).filter q = gather (fun p piece => if g piece then f p piece else []) p ps := by
  induction ps generalizing p with
  | nil => rfl
  | cons piece rest ih =>
    have first : (f p piece).filter q = if g piece then f p piece else [] := by
      have same (x) (mem : x ∈ f p piece) : q x = g piece := same [] piece rest rfl x mem
      split
      · exact List.filter_eq_self.2 fun x mem => (same x mem).trans ‹_›
      · exact List.filter_eq_nil_iff.2 fun x mem => by rwa [same x mem]
    have later := ih (p := p.after piece.text) fun as next bs split x mem => by
      refine same (piece :: as) next bs (by rw [split, List.cons_append]) x ?_
      rwa [List.flatMap_cons, Position.after_append]
    rw [gather, gather, List.filter_append, first, later]

theorem map_fault_stringEscapes (source : String) :
    (scan source).stringEscapes.map Diagnostic.fault =
      (tokenPieces source).flatMap Piece.faults := by
  have kept : (scan source).stringEscapes =
      gather (fun p piece => if piece.isToken then piece.diagnostics p else []) {}
        (pieces source.toList) := by
    rw [Scan.stringEscapes, scan, diagnostics_eq_gather]
    refine filter_gather fun as piece bs split d mem => ?_
    exact Piece.StandsIn.kept_eq ⟨as, bs, split, rfl, rfl⟩ mem
  have faults (p : Position) (piece : Piece) :
      (if piece.isToken then piece.diagnostics p else []).map Diagnostic.fault =
        if piece.isToken then piece.faults else [] := by
    split
    · exact piece.map_fault_diagnostics p
    · rfl
  rw [kept, map_gather faults, tokenPieces, flatMap_filter]

/-- Respacing keeps all tokens.  Scanning the lexemes of a text with single spaces between them
gives the same tokens again, and of the faults only those about escapes in the strings that end, in
their order.  Respacing what is respaced changes nothing. -/
theorem scan_respaced (source : String) :
    SameTokens (respaced source) source ∧
      (scan (respaced source)).diagnostics.map Diagnostic.fault =
        (scan source).stringEscapes.map Diagnostic.fault ∧
      respaced (respaced source) = respaced source := by
  refine ⟨?_, ?_, ?_⟩
  · have contents : List.Forall₂ (· = ·) ((scanInner (respaced source)).map Token.content)
        ((scanInner source).map Token.content) := by
      rw [List.forall₂_eq_eq_eq, map_content_scanInner, map_content_scanInner,
        tokenPieces_respaced]
    rw [List.forall₂_map_left_iff, List.forall₂_map_right_iff] at contents
    have inner := contents.imp fun _ _ => Token.alike_iff.2
    rw [SameTokens, tokens_scan, tokens_scan]
    exact List.rel_append inner (.cons ⟨rfl, rfl, rfl⟩ .nil)
  · rw [map_fault_diagnostics_respaced, map_fault_stringEscapes]
  · rw [← String.toList_inj, toList_respaced, tokenPieces_respaced, toList_respaced]

example : respaced "var x=\"a\\q\"//b\n" = "var x = \"a\\q\"" := by decide +kernel

end ScriptLang

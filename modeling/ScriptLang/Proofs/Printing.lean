import ScriptLang.Proofs.Execution
import ScriptLang.Proofs.Grammar.Written
import ScriptLang.Proofs.Likeness.Read
import ScriptLang.Proofs.Pieces

/-!
# An expression and the statement that prints it

A text can be read as a single expression, or it can be put behind the word `print`, with a line
break and a semicolon behind it, and be read as a script.  Where no semicolon stands among its
tokens, both readings find faults in the same texts, and both come to the same tree, with tokens
that stand six characters further on in the script.

## Main definitions

* `printScript` — the script that prints the value of a text
* `Token.behindPrint` — a token of the text as it stands in the script

## Main results

* `scanInner_printing`, `diagnostics_scan_printing` — the tokens and the faults of the script are
  those of the text
* `Grammar.program_print_iff` — a `print` statement is a program if its operand is an expression
* `ofTokens_printing_iff`, `stmtsOf_printing`, `faultless_of_printing` — the script is read as the
  text is
-/

namespace ScriptLang

open Text (isIdentContinue)

/-! ### Characters -/

/-- The script that prints the value of a text. -/
def printScript (source : String) : String :=
  "print " ++ source ++ "\n;"

/-- A token of a text as it stands behind the word `print` and a space. -/
def Token.behindPrint (t : Token) : Token :=
  t.moved 6 0

/-- The word `print` at the start of a script. -/
def printWord : Token :=
  ⟨.printWord, "print", none, 1, ⟨0, 5⟩⟩

/-- The semicolon at the end of the script that prints the value of a text. -/
def closing (source : String) : Token :=
  ⟨.semicolon, ";", none, source.toList.count '\n' + 2, ⟨source.length + 7, source.length + 8⟩⟩

theorem pieces_print (cs : List Char) :
    pieces ('p' :: 'r' :: 'i' :: 'n' :: 't' :: ' ' :: cs) =
      .word ['p', 'r', 'i', 'n', 't'] :: .blank ' ' :: pieces cs := by
  have word : Piece.read 'p' ('r' :: 'i' :: 'n' :: 't' :: ' ' :: cs) =
      (.word ['p', 'r', 'i', 'n', 't'], ' ' :: cs) := by
    have letters := List.all_eq_true.1 (by decide : ['r', 'i', 'n', 't'].all isIdentContinue = true)
    exact Piece.EndsBefore.read_eq (.word (by decide) letters (clear_cons.2 (by decide))) rfl
  have blank : Piece.read ' ' cs = (.blank ' ', cs) :=
    Piece.EndsBefore.read_eq (.blank (by decide)) rfl
  rw [pieces_cons, word, pieces_cons, blank]

theorem pieces_semicolon : pieces [';'] = [.symbol .semicolon [';']] := by
  have read : Piece.read ';' [] = (.symbol .semicolon [';'], []) :=
    Piece.EndsBefore.read_eq (.symbol rfl (by decide) (by decide)) rfl
  rw [pieces_cons, read, pieces_nil]

/-- The pieces of the script are those of the text, with a word and a blank in front of them, and a
line break and a semicolon behind. -/
theorem pieces_printing (source : String) :
    pieces (printScript source).toList = .word ['p', 'r', 'i', 'n', 't'] :: .blank ' ' ::
      (pieces source.toList ++ [.blank '\n', .symbol .semicolon [';']]) := by
  have text : (printScript source).toList =
      'p' :: 'r' :: 'i' :: 'n' :: 't' :: ' ' :: (source.toList ++ '\n' :: [';']) := by
    rw [printScript, String.toList_append, String.toList_append, List.append_assoc]
    rfl
  rw [text, pieces_print, pieces_append_newline, pieces_semicolon]

/-- Behind the word and the blank, the text stands six characters further on. -/
theorem position_behindPrint :
    (Position.after {} ['p', 'r', 'i', 'n', 't']).after [' '] = Position.moved 6 0 {} :=
  rfl

/-- The script has the tokens of the text between its word and its semicolon. -/
theorem scanInner_printing (source : String) :
    scanInner (printScript source) =
      printWord :: ((scanInner source).map Token.behindPrint ++ [closing source]) := by
  have stop : ((Position.moved 6 0 {}).after source.toList).after ['\n'] =
      ⟨source.length + 7, source.toList.count '\n' + 2⟩ := by
    simp only [Position.moved, Position.after, String.length_toList, List.length_singleton,
      List.count_singleton_self, Position.mk.injEq]
    omega
  rw [scanInner, pieces_printing, innerTokens, innerTokens, innerTokens_append, Piece.text,
    Piece.text, position_behindPrint, innerTokens_moved, flatMap_text_pieces, innerTokens,
    Piece.text, stop]
  rfl

/-- The faults of the script are those of the text. -/
theorem diagnostics_scan_printing (source : String) :
    (scan (printScript source)).diagnostics =
      (scan source).diagnostics.map (Diagnostic.moved 6 0) := by
  rw [scan, pieces_printing, scanPieces, scanPieces, diagnostics_scanPieces_append, Piece.text,
    Piece.text, position_behindPrint, diagnostics_scanPieces_moved]
  exact List.append_nil _

/-! ### Programs -/

namespace Grammar

variable {ts : List Token} {word semicolon : Token}

/-- A list is cut at its last element in one way, if that element is the only one of its kind. -/
theorem eq_of_append_semicolon {us rest : List Token} {t : Token}
    (isSemicolon : t.kind = .semicolon) (none : ∀ u ∈ ts, u.kind ≠ .semicolon)
    (same : ts ++ [semicolon] = us ++ t :: rest) : us = ts ∧ rest = [] := by
  obtain ⟨as, rfl, later⟩ | ⟨as, rfl, later⟩ := List.append_eq_append_iff.1 same
  · cases as with
    | nil =>
      obtain ⟨rfl, rfl⟩ := List.cons.inj later
      simp
    | cons a as => simp at later
  · cases as with
    | nil =>
      obtain ⟨-, rfl⟩ := List.cons.inj later
      simp
    | cons a as =>
      obtain ⟨rfl, -⟩ := List.cons.inj later
      exact absurd isSemicolon (none t (by simp))

/-- A `print` statement is a program exactly if its operand is an expression, as long as no
semicolon stands in the operand. -/
theorem program_print_iff (isPrint : word.kind = .printWord)
    (isSemicolon : semicolon.kind = .semicolon) (none : ∀ t ∈ ts, t.kind ≠ .semicolon)
    {stmts : List Stmt} :
    Program True (word :: (ts ++ [semicolon])) stmts ↔
      ∃ e, stmts = [.print word e] ∧ Expression .assignment ts e [] := by
  constructor
  · intro program
    cases program with
    | cons first later =>
      cases first with
      | function isFun => exact absurd (isFun.symm.trans isPrint) (by decide)
      | var isVar => exact absurd (isVar.symm.trans isPrint) (by decide)
      | statement inner =>
        cases inner with
        | expression body =>
          obtain ⟨t, us, same, begins⟩ := body.starts
          obtain ⟨rfl, -⟩ := List.cons.inj same
          rw [isPrint] at begins
          exact absurd begins (by decide)
        | print _ body isSemicolon' =>
          obtain ⟨us, split, fits, spelt⟩ := expression_iff_written.1 body
          obtain ⟨rfl, rfl⟩ := eq_of_append_semicolon isSemicolon' none split
          have operand := expression_iff_written.2 ⟨us, (List.append_nil us).symm, fits, spelt⟩
          refine ⟨_, ?_, operand⟩
          cases later with
          | nil => rfl
          | cons another _ =>
            obtain ⟨t, us, same, -⟩ := another.starts
            cases same
        | block isOpening => exact absurd (isOpening.symm.trans isPrint) (by decide)
        | branch isIf => exact absurd (isIf.symm.trans isPrint) (by decide)
        | branchElse isIf => exact absurd (isIf.symm.trans isPrint) (by decide)
        | loop isWhile => exact absurd (isWhile.symm.trans isPrint) (by decide)
        | forLoop isFor => exact absurd (isFor.symm.trans isPrint) (by decide)
  · rintro ⟨e, rfl, operand⟩
    obtain ⟨us, split, fits, spelt⟩ := expression_iff_written.1 operand
    rw [List.append_nil] at split
    subst split
    have body : Expression .assignment (ts ++ [semicolon]) e [semicolon] :=
      expression_iff_written.2 ⟨ts, rfl, fits, spelt⟩
    exact .cons (.statement (.print isPrint body isSemicolon)) .nil

end Grammar

/-! ### Reading both -/

section Reading

variable {source : String}

/-- Tokens of the text, and the tokens of the script that they are. -/
def Token.Printed (source : String) (t t' : Token) : Prop :=
  t ∈ (scan source).tokens ∧ t' = t.behindPrint

theorem Token.Printed.alike {t t' : Token} (h : t.Printed source t') : t.Alike t' := by
  obtain ⟨-, rfl⟩ := h
  exact ⟨rfl, rfl, rfl⟩

/-- The text is read in the same way where it stands in the script. -/
theorem ofTokens_behindPrint (source : String) :
    Expr.OptionAlike (Token.Printed source) (Expr.ofTokens (scan source).tokens).1
        (Expr.ofTokens ((scanInner source).map Token.behindPrint ++
          [(scanEnd source).behindPrint])).1 ∧
      List.Forall₂ (Diagnostic.Alike (Token.Printed source))
        (Expr.ofTokens (scan source).tokens).2
        (Expr.ofTokens ((scanInner source).map Token.behindPrint ++
          [(scanEnd source).behindPrint])).2 := by
  have inner : List.Forall₂ (Token.Printed source) (scanInner source)
      ((scanInner source).map Token.behindPrint) := by
    rw [List.forall₂_map_right_iff, List.forall₂_same]
    exact fun t ht => ⟨(mem_scanInner_iff_kind.1 ht).1, rfl⟩
  have last : (scanEnd source).Printed source (scanEnd source).behindPrint := by
    refine ⟨?_, rfl⟩
    rw [tokens_scan]
    exact List.mem_append_right _ (List.mem_singleton_self _)
  rw [tokens_scan]
  exact Expr.ofTokens_alike Token.Printed.alike inner last
    (fun _ => kind_ne_eof_of_mem_scanInner) rfl

theorem inner_behindPrint (source : String) :
    ∀ t ∈ (scanInner source).map Token.behindPrint, t.kind ≠ .eof := by
  intro t ht
  obtain ⟨u, hu, rfl⟩ := List.mem_map.1 ht
  have other : u.kind ≠ .eof := kind_ne_eof_of_mem_scanInner hu
  exact other

variable (none : ∀ t ∈ (scan source).tokens, t.kind ≠ .semicolon)
include none

/-- The script is read as a `print` statement exactly if the text is an expression where it stands
in the script. -/
theorem ofTokens_printing_iff {stmts : List Stmt} :
    Script.ofTokens (scan (printScript source)).tokens = ⟨stmts, []⟩ ↔
      ∃ e, stmts = [.print printWord e] ∧ Expr.ofTokens ((scanInner source).map Token.behindPrint ++
        [(scanEnd source).behindPrint]) = (some e, []) := by
  have noSemicolon : ∀ t ∈ (scanInner source).map Token.behindPrint, t.kind ≠ .semicolon := by
    intro t ht
    obtain ⟨u, hu, rfl⟩ := List.mem_map.1 ht
    exact none u (mem_scanInner_iff_kind.1 hu).1
  have inner : ∀ t ∈ scanInner (printScript source), t.kind ≠ .eof :=
    fun _ => kind_ne_eof_of_mem_scanInner
  have isLast : (scanEnd (printScript source)).kind = .eof := rfl
  have isLast' : (scanEnd source).behindPrint.kind = .eof := rfl
  have script := (Script.ofTokens_iff_program inner isLast).2 stmts
  have operand (e : Expr) := Expr.ofTokens_eq_iff (inner_behindPrint source) isLast' e
  rw [tokens_scan, script, scanInner_printing,
    Grammar.program_print_iff rfl rfl noSemicolon]
  exact exists_congr fun e => and_congr_right fun _ => (operand e).symm

/-- A text without a fault, read as a single expression, is the operand of the statement in the
script, up to the places of the tokens. -/
theorem stmtsOf_printing {e : Expr} (clean : (scan source).diagnostics = [])
    (read : Expr.ofTokens (scan source).tokens = (some e, [])) :
    Faultless (printScript source) ∧
      ∃ e', Script.stmtsOf (printScript source) = [.print printWord e'] ∧
        Expr.Alike (Token.Printed source) e e' := by
  obtain ⟨trees, faults⟩ := ofTokens_behindPrint source
  rw [read] at trees faults
  rw [List.forall₂_nil_left_iff] at faults
  generalize moved : Expr.ofTokens ((scanInner source).map Token.behindPrint ++
    [(scanEnd source).behindPrint]) = result at trees faults
  obtain ⟨tree, ds⟩ := result
  cases trees with
  | @some _ e' alike =>
    cases faults
    have script := (ofTokens_printing_iff none).2 ⟨e', rfl, moved⟩
    refine ⟨⟨?_, ?_⟩, e', ?_, alike⟩
    · rw [diagnostics_scan_printing, clean, List.map_nil]
    · rw [script]
    · rw [Script.stmtsOf, script]

/-- If the script has no fault, then neither has the text, and it is a single expression. -/
theorem faultless_of_printing (faultless : Faultless (printScript source)) :
    (scan source).diagnostics = [] ∧ ∃ e, Expr.ofTokens (scan source).tokens = (some e, []) := by
  have clean := faultless.scan
  rw [diagnostics_scan_printing, List.map_eq_nil_iff] at clean
  refine ⟨clean, ?_⟩
  have script : Script.ofTokens (scan (printScript source)).tokens =
      ⟨Script.stmtsOf (printScript source), []⟩ := by
    rw [← faultless.read]
  obtain ⟨e', -, moved⟩ := (ofTokens_printing_iff none).1 script
  obtain ⟨trees, faults⟩ := ofTokens_behindPrint source
  rw [moved] at trees faults
  rw [List.forall₂_nil_right_iff] at faults
  generalize Expr.ofTokens (scan source).tokens = result at trees faults
  obtain ⟨tree, ds⟩ := result
  cases trees with
  | @some e _ alike =>
    cases faults
    exact ⟨e, rfl⟩

end Reading

end ScriptLang

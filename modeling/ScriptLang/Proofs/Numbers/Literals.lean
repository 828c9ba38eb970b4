import ScriptLang.Proofs.Numbers.Decimals
import ScriptLang.Proofs.Numbers.Written

/-!
# Numbers as they are read

A numeral is read as the number that is nearest to what it denotes, both in a source text and from
input.

## Main results

* `Denotes.read?_eq` — a numeral is read as the nearest number
* `scan_numbers` — the number that a token carries is the one nearest to what its text denotes
-/

namespace ScriptLang

namespace Number

variable {cs : List Char} {q : ℚ}

theorem isNearest_ofLiteral (whole fraction : List Char) :
    IsNearest (ofDigits (whole ++ fraction) / 10 ^ fraction.length) (ofLiteral whole fraction) := by
  have nearest := isNearest_ofDecimal (ofDigits (whole ++ fraction)) (-fraction.length)
  rw [zpow_neg, zpow_natCast, ← div_eq_mul_inv] at nearest
  exact nearest

/-- A numeral is read as the nearest number; zero has no minus sign. -/
theorem Denotes.read?_eq (h : Denotes cs q) :
    ∃ x, read? cs = some x ∧ IsNearest q x ∧ Unsigned x.toModel.unpack := by
  obtain ⟨c, rest, same, first⟩ := h.starts
  rw [same, read?_cons_of_isDigit first, ← same]
  cases h with
  | @whole ds digits =>
    have nearest := isNearest_ofLiteral cs []
    rw [List.append_nil, List.length_nil, pow_zero, div_one] at nearest
    exact ⟨_, readDecimal?_digits digits, nearest, unsigned_ofLiteral cs []⟩
  | @decimal ds fs digits places =>
    exact ⟨_, readDecimal?_decimal digits places, isNearest_ofLiteral ds fs,
      unsigned_ofLiteral ds fs⟩

end Number

theorem Lexeme.denotes {text : List Char} (h : Lexeme .number text) :
    ∃ q, Number.Denotes text q := by
  generalize kind : TokenKind.number = k at h
  cases h with
  | symbol known => exact absurd kind.symm (ne_number_of_mem_symbols known)
  | keyword known => exact absurd kind.symm (ne_number_of_mem_keywords known)
  | whole digits => exact ⟨_, .whole digits⟩
  | decimal digits places => exact ⟨_, .decimal digits places⟩
  | ident _ _ => cases kind
  | string _ => cases kind

/-- The number that a token carries is the one nearest to what its text denotes. -/
theorem scan_numbers (source : String) :
    ∀ t ∈ (scan source).tokens, t.kind = .number →
      ∃ q x, Number.Denotes t.lexeme.toList q ∧ t.literal = some (.number x) ∧
        Number.IsNearest q x := by
  intro t mem number
  have noEnd : t.kind ≠ .eof := by
    rw [number]
    exact nofun
  obtain ⟨piece, before, after, stands, token⟩ :=
    mem_scanInner_iff.1 (mem_scanInner_iff_kind.2 ⟨mem, noEnd⟩)
  have lexeme := stands.endsBefore.lexeme token
  rw [number] at lexeme
  obtain ⟨q, denotes⟩ := lexeme.denotes
  obtain ⟨x, read, literal⟩ := (stands.endsBefore.literal token).1 number
  obtain ⟨x', read', nearest, -⟩ := denotes.read?_eq
  obtain rfl := Option.some.inj (read.symm.trans read')
  exact ⟨q, x, Piece.lexeme_of_token? token ▸ denotes, literal, nearest⟩

end ScriptLang

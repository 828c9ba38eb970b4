import ScriptLang.Proofs.Lexemes
import ScriptLang.Text.Quoted

/-!
# Quoted text

A quoted text stands for one text only, because the forms of the characters between the quotes are a
code: no form is the start of the form of another character.  A quoted text is also a string literal
of the language, though not always one without a fault.

## Main definitions

* `hexDigits` — the digits of code points
* `Text.QuotedAs` — the forms of a character between the quotes

## Main results

* `Text.quote_injective` — different texts are quoted differently
* `Text.lexeme_quote` — a quoted text is a string literal
-/

namespace ScriptLang.Text

/-! ### Code points -/

/-- The digits of code points. -/
def hexDigits : List Char :=
  ['0', '1', '2', '3', '4', '5', '6', '7', '8', '9', 'a', 'b', 'c', 'd', 'e', 'f']

theorem digitChar_lt {n : Nat} (lt : n < 16) : hexDigits[n]? = some (Nat.digitChar n) := by
  have digits : ∀ n < 16, hexDigits[n]? = some (Nat.digitChar n) := by decide
  exact digits n lt

theorem digitChar_injective {m n : Nat} (lt : m < 16) (lt' : n < 16)
    (same : Nat.digitChar m = Nat.digitChar n) : m = n := by
  have nodup : hexDigits.Nodup := by decide
  have both := (digitChar_lt lt).trans ((congrArg some same).trans (digitChar_lt lt').symm)
  exact (List.getElem?_inj lt nodup).1 both

theorem mem_hexDigits {n : Nat} {c : Char} (mem : c ∈ Nat.toDigits 16 n) : c ∈ hexDigits := by
  induction n using Nat.strongRecOn with
  | ind n ih =>
    rw [Nat.toDigits_eq_if (by decide)] at mem
    split at mem
    · next small =>
      rw [List.mem_singleton.1 mem]
      exact List.mem_of_getElem? (digitChar_lt small)
    · next large =>
      obtain first | last := List.mem_append.1 mem
      · exact ih (n / 16) (by omega) first
      · rw [List.mem_singleton.1 last]
        exact List.mem_of_getElem? (digitChar_lt (Nat.mod_lt n (by decide)))

/-- Different numbers have different digits. -/
theorem toDigits_injective {m n : Nat} (same : Nat.toDigits 16 m = Nat.toDigits 16 n) : m = n := by
  induction m using Nat.strongRecOn generalizing n with
  | ind m ih =>
    rw [Nat.toDigits_eq_if (by decide), Nat.toDigits_eq_if (n := n) (by decide)] at same
    have some (k : Nat) : 0 < (Nat.toDigits 16 k).length := Nat.length_toDigits_pos
    split at same
    · next small =>
      split at same
      · next small' => exact digitChar_injective small small' (List.singleton_inj.1 same)
      · have length := congrArg List.length same
        have := some (n / 16)
        rw [List.length_append, List.length_singleton, List.length_singleton] at length
        omega
    · next large =>
      split at same
      · have length := congrArg List.length same
        have := some (m / 16)
        rw [List.length_append, List.length_singleton, List.length_singleton] at length
        omega
      · next large' =>
        obtain ⟨front, last⟩ := List.append_inj' same rfl
        have quotient := ih (m / 16) (by omega) front
        have digit := digitChar_injective (Nat.mod_lt m (by decide)) (Nat.mod_lt n (by decide))
          (List.singleton_inj.1 last)
        omega

/-! ### Characters between quotes -/

/-- Characters that stand for themselves can stand in front of the body of a string. -/
theorem stringBody_append_plain {ds body : List Char}
    (plain : ∀ d ∈ ds, d ≠ '"' ∧ d ≠ '\\' ∧ d ≠ '\n') (rest : StringBody body) :
    StringBody (ds ++ body) := by
  induction ds with
  | nil => exact rest
  | cons d ds ih =>
    obtain ⟨quote, backslash, line⟩ := plain d List.mem_cons_self
    exact .plain quote backslash line (ih fun e mem => plain e (List.mem_cons_of_mem d mem))

/-- The digits of code points and the braces around them stand for themselves. -/
theorem isPlain_of_mem {d : Char} (mem : d ∈ '{' :: '}' :: hexDigits) :
    d ≠ '"' ∧ d ≠ '\\' ∧ d ≠ '\n' := by
  have others : ('{' :: '}' :: hexDigits).all
      (fun d => d != '"' && d != '\\' && d != '\n') = true := by decide
  have other := List.all_eq_true.1 others d mem
  simp only [Bool.and_eq_true, bne_iff_ne] at other
  exact ⟨other.1.1, other.1.2, other.2⟩

/-- The characters with a form of a backslash and one more character, each with that character. -/
def shortForms : List (Char × Char) :=
  [('"', '"'), ('\\', '\\'), ('\n', 'n'), ('\r', 'r'), ('\t', 't'), ('\x00', '0')]

/-- The forms of a character between the quotes. -/
inductive QuotedAs : Char → List Char → Prop where
  | short {c k : Char} (known : (c, k) ∈ shortForms) : QuotedAs c ['\\', k]
  | code (c : Char) : QuotedAs c (codePointEscape c)
  | plain {c : Char} (quote : c ≠ '"') (backslash : c ≠ '\\') (line : c ≠ '\n') : QuotedAs c [c]

theorem quotedAs_quoteChar (c : Char) : QuotedAs c (quoteChar c) := by
  unfold quoteChar
  split
  case h_7 quote backslash line _ _ _ =>
    split
    · exact .plain quote backslash line
    · exact .code c
  all_goals exact .short (by decide)

namespace QuotedAs

variable {c c' : Char} {text text' : List Char}

/-- No form is the start of the form of another character. -/
theorem append_inj (h : QuotedAs c text) (h' : QuotedAs c' text') {cs cs' : List Char}
    (same : text ++ cs = text' ++ cs') : c = c' ∧ cs = cs' := by
  have noCode : ∀ p ∈ shortForms, p.2 ≠ 'u' := by decide
  have oneEach : ∀ p ∈ shortForms, ∀ p' ∈ shortForms, p.2 = p'.2 → p.1 = p'.1 := by decide
  cases h with
  | short known =>
    cases h' with
    | short known' =>
      obtain ⟨rfl, rfl⟩ := List.cons.inj (List.cons.inj same).2
      exact ⟨oneEach _ known _ known' rfl, rfl⟩
    | code => exact absurd (List.cons.inj (List.cons.inj same).2).1 (noCode _ known)
    | plain _ backslash _ => exact absurd (List.cons.inj same).1.symm backslash
  | code =>
    cases h' with
    | short known' => exact absurd (List.cons.inj (List.cons.inj same).2).1.symm (noCode _ known')
    | code =>
      -- The brace is the first character that is no digit.
      have clear (cs : List Char) : Clear hexDigits.contains ('}' :: cs) :=
        clear_cons.2 (by decide)
      have digits (c : Char) : ∀ d ∈ Nat.toDigits 16 c.toNat, hexDigits.contains d = true :=
        fun d mem => List.contains_iff_mem.2 (mem_hexDigits mem)
      simp only [codePointEscape, List.append_assoc, List.append_cancel_left_eq,
        List.singleton_append] at same
      have front := congrArg (List.takeWhile hexDigits.contains) same
      have back := congrArg (List.dropWhile hexDigits.contains) same
      rw [takeWhile_of_clear (digits c) (clear cs), takeWhile_of_clear (digits c') (clear cs')]
        at front
      rw [dropWhile_of_clear (digits c) (clear cs), dropWhile_of_clear (digits c') (clear cs')]
        at back
      exact ⟨Char.toNat_inj.1 (toDigits_injective front), (List.cons.inj back).2⟩
    | plain _ backslash _ => exact absurd (List.cons.inj same).1.symm backslash
  | plain _ backslash _ =>
    cases h' with
    | short _ => exact absurd (List.cons.inj same).1 backslash
    | code => exact absurd (List.cons.inj same).1 backslash
    | plain _ _ _ =>
      obtain ⟨rfl, rfl⟩ := List.cons.inj same
      exact ⟨rfl, rfl⟩

/-- A form can stand in front of the body of a string. -/
theorem stringBody (h : QuotedAs c text) {body : List Char} (rest : StringBody body) :
    StringBody (text ++ body) := by
  cases h with
  | short known =>
    have noLine : ∀ p ∈ shortForms, p.2 ≠ '\n' := by decide
    exact .escaped (noLine _ known) rest
  | code =>
    -- Behind the backslash and the letter, no character needs to be escaped.
    have plain : ∀ d ∈ '{' :: (Nat.toDigits 16 c.toNat ++ ['}']),
        d ≠ '"' ∧ d ≠ '\\' ∧ d ≠ '\n' := by
      intro d mem
      refine isPlain_of_mem ?_
      obtain rfl | digit | last := List.mem_cons.1 mem |>.imp_right List.mem_append.1
      · decide
      · exact List.mem_cons_of_mem _ (List.mem_cons_of_mem _ (mem_hexDigits digit))
      · rw [List.mem_singleton.1 last]
        decide
    exact .escaped (by decide) (stringBody_append_plain plain rest)
  | plain quote backslash line => exact .plain quote backslash line rest

end QuotedAs

/-! ### Texts -/

/-- What stands between the quotes is the body of a string. -/
theorem stringBody_quoteChars (cs : List Char) : StringBody (cs.flatMap quoteChar) := by
  induction cs with
  | nil => exact .nil
  | cons c cs ih => exact (quotedAs_quoteChar c).stringBody ih

theorem quoteChars_injective {cs cs' : List Char}
    (same : cs.flatMap quoteChar = cs'.flatMap quoteChar) : cs = cs' := by
  have some (c : Char) : quoteChar c ≠ [] := by
    have form := quotedAs_quoteChar c
    generalize quoteChar c = text at form
    cases form with
    | code => exact List.cons_ne_nil _ _
    | _ => exact List.cons_ne_nil _ _
  induction cs generalizing cs' with
  | nil =>
    cases cs' with
    | nil => rfl
    | cons c' cs' => exact absurd (List.append_eq_nil_iff.1 same.symm).1 (some c')
  | cons c cs ih =>
    cases cs' with
    | nil => exact absurd (List.append_eq_nil_iff.1 same).1 (some c)
    | cons c' cs' =>
      rw [List.flatMap_cons, List.flatMap_cons] at same
      obtain ⟨rfl, later⟩ := (quotedAs_quoteChar c).append_inj (quotedAs_quoteChar c') same
      rw [ih later]

theorem toList_quote (s : String) :
    (quote s).toList = '"' :: s.toList.flatMap quoteChar ++ ['"'] :=
  String.toList_ofList

/-- A quoted text is a string literal. -/
theorem lexeme_quote (s : String) : Lexeme .string (quote s).toList := by
  rw [toList_quote]
  exact .string (stringBody_quoteChars s.toList)

/-- Different texts are quoted differently. -/
theorem quote_injective {s s' : String} (same : quote s = quote s') : s = s' := by
  have chars := congrArg String.toList same
  rw [toList_quote, toList_quote] at chars
  have inner := List.append_cancel_right (List.cons.inj chars).2
  exact String.toList_inj.1 (quoteChars_injective inner)

end ScriptLang.Text

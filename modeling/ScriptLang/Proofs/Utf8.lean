import Mathlib.Data.List.Basic
import ScriptLang.Text.Utf8

/-!
# Texts and their bytes

The bytes of a text are read as that text.  So a file that holds a text, and an input that holds
lines, say what was written to them.

## Main results

* `Text.decodeStrict?_encode` — strict reading gives back what was encoded
* `Text.encode_of_decodeStrict?` — nothing else is read strictly
* `Text.newline_of_mem_encode` — only a line break makes the byte of a line break
-/

namespace ScriptLang.Text

/-! ### First bytes -/

variable {n : Nat}

/-- Comparisons of a byte are comparisons of its number. -/
theorem ofNat_lt_iff (small : n < 256) (b : UInt8) : UInt8.ofNat n < b ↔ n < b.toNat := by
  rw [UInt8.lt_iff_toNat_lt, UInt8.toNat_ofNat_of_lt' small]

theorem ofNat_eq_iff (small : n < 256) (b : UInt8) : UInt8.ofNat n = b ↔ n = b.toNat := by
  rw [← UInt8.toNat_inj, UInt8.toNat_ofNat_of_lt' small]

theorem lead?_one (h : n < 0x80) : lead? (UInt8.ofNat n) = some ⟨0, 0x80, 0xbf, n⟩ := by
  have small : n < 256 := by omega
  rw [lead?, if_pos ((ofNat_lt_iff small 0x80).2 h), UInt8.toNat_ofNat_of_lt' small]

theorem lead?_two (least : 0xc2 ≤ n) (greatest : n < 0xe0) :
    lead? (UInt8.ofNat n) = some ⟨1, 0x80, 0xbf, n % 32⟩ := by
  have small : n < 256 := by omega
  have ge (b : UInt8) (h : b.toNat ≤ 0xc2) : ¬UInt8.ofNat n < b :=
    fun lt => by have := (ofNat_lt_iff small b).1 lt; omega
  rw [lead?, if_neg (ge 0x80 (by decide)), if_neg (ge 0xc2 (by decide)),
    if_pos ((ofNat_lt_iff small 0xe0).2 greatest), UInt8.toNat_ofNat_of_lt' small]

/-- The second of three bytes has bounds of its own behind two of the first bytes. -/
theorem lead?_three (least : 0xe0 ≤ n) (greatest : n < 0xf0) :
    lead? (UInt8.ofNat n) =
      some ⟨2, if n = 0xe0 then 0xa0 else 0x80, if n = 0xed then 0x9f else 0xbf, n % 16⟩ := by
  have small : n < 256 := by omega
  have ge (b : UInt8) (h : b.toNat ≤ 0xe0) : ¬UInt8.ofNat n < b :=
    fun lt => by have := (ofNat_lt_iff small b).1 lt; omega
  rw [lead?, if_neg (ge 0x80 (by decide)), if_neg (ge 0xc2 (by decide)),
    if_neg (ge 0xe0 (by decide))]
  by_cases first : n = 0xe0
  · subst first
    rfl
  by_cases surrogates : n = 0xed
  · subst surrogates
    rfl
  rw [if_neg (mt (ofNat_eq_iff small 0xe0).1 first),
    if_neg (mt (ofNat_eq_iff small 0xed).1 surrogates),
    if_pos ((ofNat_lt_iff small 0xf0).2 greatest), if_neg first, if_neg surrogates,
    UInt8.toNat_ofNat_of_lt' small]

/-- So has the second of four bytes behind the first and the last of the first bytes. -/
theorem lead?_four (least : 0xf0 ≤ n) (greatest : n ≤ 0xf4) :
    lead? (UInt8.ofNat n) =
      some ⟨3, if n = 0xf0 then 0x90 else 0x80, if n = 0xf4 then 0x8f else 0xbf, n % 8⟩ := by
  obtain rfl | rfl | rfl | rfl | rfl :
      n = 0xf0 ∨ n = 0xf1 ∨ n = 0xf2 ∨ n = 0xf3 ∨ n = 0xf4 := by omega
  all_goals rfl

/-! ### Bytes that follow -/

theorem readFollowing_cons (k : Nat) {low high : UInt8} (bits : Nat) (rest : List UInt8)
    (small : n < 256) (least : low.toNat ≤ n) (greatest : n ≤ high.toNat) :
    readFollowing (k + 1) low high bits (UInt8.ofNat n :: rest) =
      readFollowing k 0x80 0xbf (bits * 64 + n % 64) rest := by
  have within : low ≤ UInt8.ofNat n ∧ UInt8.ofNat n ≤ high := by
    rw [UInt8.le_iff_toNat_le, UInt8.le_iff_toNat_le, UInt8.toNat_ofNat_of_lt' small]
    exact ⟨least, greatest⟩
  rw [readFollowing, if_pos within, UInt8.toNat_ofNat_of_lt' small]

/-- Where there are no bounds of its own, a byte carries six bits. -/
theorem readFollowing_bits (k bits m : Nat) (rest : List UInt8) :
    readFollowing (k + 1) 0x80 0xbf bits (UInt8.ofNat (m % 64 + 128) :: rest) =
      readFollowing k 0x80 0xbf (bits * 64 + m % 64) rest := by
  rw [readFollowing_cons k bits rest (by omega) (by simp) (by simp; omega)]
  congr 2
  omega

/-! ### Characters -/

/-- Code points that are no surrogates are the numbers of characters. -/
theorem valid_of_char (c : Char) : c.toNat < 0xd800 ∨ 0xdfff < c.toNat ∧ c.toNat < 0x110000 :=
  c.valid

/-- Reading the bytes of a character, whatever follows them, gives the character. -/
theorem readScalar_utf8EncodeChar (c : Char) (rest : List UInt8) :
    ∃ b bs, String.utf8EncodeChar c = b :: bs ∧ readScalar b (bs ++ rest) = (some c, rest) := by
  have valid := valid_of_char c
  have again : Char.ofNat c.toNat = c := c.ofNat_toNat
  have bytes : String.utf8EncodeChar c = _ := String.utf8EncodeChar.eq_1 c
  simp only [Char.toNat_val] at bytes
  generalize c.toNat = v at valid again bytes
  by_cases one : v ≤ 0x7f
  -- One byte says it all.
  · refine ⟨_, [], bytes.trans (if_pos one), ?_⟩
    rw [readScalar, lead?_one (by omega)]
    simp [readFollowing, again]
  rw [if_neg one] at bytes
  by_cases two : v ≤ 0x7ff
  · rw [if_pos two] at bytes
    refine ⟨_, _, bytes, ?_⟩
    -- Six bits are in the second byte, the others in the first one.
    rw [readScalar, lead?_two (by omega) (by omega)]
    simp only [List.cons_append, List.nil_append, readFollowing_bits, readFollowing,
      Option.map_some]
    rw [← again]
    congr 3
    omega
  rw [if_neg two] at bytes
  by_cases three : v ≤ 0xffff
  · rw [if_pos three] at bytes
    refine ⟨_, _, bytes, ?_⟩
    -- Longer forms lie below the second byte's bounds, surrogates above them.
    have least : (if v / 4096 % 16 + 224 = 0xe0 then 0xa0 else 0x80 : UInt8).toNat ≤
        v / 64 % 64 + 128 := by
      split <;> (simp only [UInt8.reduceToNat]; omega)
    have greatest : v / 64 % 64 + 128 ≤
        (if v / 4096 % 16 + 224 = 0xed then 0x9f else 0xbf : UInt8).toNat := by
      split <;> (simp only [UInt8.reduceToNat]; omega)
    rw [readScalar, lead?_three (by omega) (by omega)]
    simp only [List.cons_append, List.nil_append]
    rw [readFollowing_cons 1 _ _ (by omega) least greatest, readFollowing_bits]
    simp only [readFollowing, Option.map_some]
    rw [← again]
    congr 3
    omega
  · rw [if_neg three] at bytes
    refine ⟨_, _, bytes, ?_⟩
    have least : (if v / 262144 % 8 + 240 = 0xf0 then 0x90 else 0x80 : UInt8).toNat ≤
        v / 4096 % 64 + 128 := by
      split <;> (simp only [UInt8.reduceToNat]; omega)
    have greatest : v / 4096 % 64 + 128 ≤
        (if v / 262144 % 8 + 240 = 0xf4 then 0x8f else 0xbf : UInt8).toNat := by
      split <;> (simp only [UInt8.reduceToNat]; omega)
    rw [readScalar, lead?_four (by omega) (by omega)]
    simp only [List.cons_append, List.nil_append]
    rw [readFollowing_cons 2 _ _ (by omega) least greatest, readFollowing_bits, readFollowing_bits]
    simp only [readFollowing, Option.map_some]
    rw [← again]
    congr 3
    omega

/-- The bytes of a character beyond ASCII have their highest bit set. -/
theorem high_of_mem_utf8EncodeChar {c : Char} {b : UInt8} (beyond : ¬c.toNat ≤ 0x7f)
    (h : b ∈ String.utf8EncodeChar c) : 0x80 ≤ b.toNat := by
  have high (m : Nat) (least : 0x80 ≤ m % 256) : 0x80 ≤ (UInt8.ofNat m).toNat := by
    rwa [UInt8.toNat_ofNat']
  simp only [String.utf8EncodeChar, Char.toNat_val, if_neg beyond] at h
  split at h
  · simp only [List.mem_cons, List.not_mem_nil, or_false] at h
    obtain rfl | rfl := h
    all_goals exact high _ (by omega)
  split at h
  · simp only [List.mem_cons, List.not_mem_nil, or_false] at h
    obtain rfl | rfl | rfl := h
    all_goals exact high _ (by omega)
  · simp only [List.mem_cons, List.not_mem_nil, or_false] at h
    obtain rfl | rfl | rfl | rfl := h
    all_goals exact high _ (by omega)

/-- Only a line break has the byte of a line break in it. -/
theorem newline_of_mem_utf8EncodeChar {c : Char} (h : 10 ∈ String.utf8EncodeChar c) :
    c = '\n' := by
  by_cases ascii : c.toNat ≤ 0x7f
  · simp only [String.utf8EncodeChar, Char.toNat_val, if_pos ascii, List.mem_singleton] at h
    have code : c.toNat = 10 := (ofNat_eq_iff (by omega) 10).1 h.symm
    rw [← c.ofNat_toNat, code]
  · have high := high_of_mem_utf8EncodeChar ascii h
    contradiction

/-! ### Bytes read as characters -/

theorem toNat_ofNat (valid : n < 0xd800 ∨ 0xdfff < n ∧ n < 0x110000) :
    (Char.ofNat n).toNat = n := by
  rw [Char.ofNat, dif_pos valid]
  rfl

theorem lead?_none (b : UInt8) (bad : 0x80 ≤ b.toNat ∧ b.toNat < 0xc2 ∨ 0xf5 ≤ b.toNat) :
    lead? b = none := by
  have lt_iff (a : UInt8) : b < a ↔ b.toNat < a.toNat := UInt8.lt_iff_toNat_lt
  have eq_iff (a : UInt8) : b = a ↔ b.toNat = a.toNat := UInt8.toNat_inj.symm
  simp only [lead?, lt_iff, eq_iff, UInt8.reduceToNat]
  obtain ⟨least, greatest⟩ | least := bad
  · rw [if_neg (by omega), if_pos greatest]
  · repeat rw [if_neg (by omega)]

/-- If the bytes that follow are all there, then the first of them keeps its bounds. -/
theorem exists_of_readFollowing {k bits p : Nat} {low high : UInt8} {bs rest : List UInt8}
    (read : readFollowing (k + 1) low high bits bs = (some p, rest)) :
    ∃ b bs', bs = b :: bs' ∧ low.toNat ≤ b.toNat ∧ b.toNat ≤ high.toNat ∧
      readFollowing k 0x80 0xbf (bits * 64 + b.toNat % 64) bs' = (some p, rest) := by
  cases bs with
  | nil => cases read
  | cons b bs =>
    rw [readFollowing] at read
    split at read
    · next inside => exact ⟨b, bs, rfl, inside.1, inside.2, read⟩
    · cases read

theorem utf8EncodeChar_ofNat (valid : n < 0xd800 ∨ 0xdfff < n ∧ n < 0x110000) :
    String.utf8EncodeChar (Char.ofNat n) =
      if n ≤ 0x7f then [UInt8.ofNat n]
      else if n ≤ 0x7ff then [UInt8.ofNat (n / 64 % 32 + 192), UInt8.ofNat (n % 64 + 128)]
      else if n ≤ 0xffff then
        [UInt8.ofNat (n / 4096 % 16 + 224), UInt8.ofNat (n / 64 % 64 + 128),
          UInt8.ofNat (n % 64 + 128)]
      else
        [UInt8.ofNat (n / 262144 % 8 + 240), UInt8.ofNat (n / 4096 % 64 + 128),
          UInt8.ofNat (n / 64 % 64 + 128), UInt8.ofNat (n % 64 + 128)] := by
  rw [String.utf8EncodeChar.eq_1, Char.toNat_val, toNat_ofNat valid]

/-- A byte is given by its number. -/
theorem ofNat_eq {m : Nat} {b : UInt8} (same : m = b.toNat) : UInt8.ofNat m = b := by
  rw [same, UInt8.ofNat_toNat]

section Encoded

variable {b b₁ b₂ b₃ : UInt8}

theorem utf8EncodeChar_one (ascii : b.toNat < 0x80) :
    String.utf8EncodeChar (Char.ofNat b.toNat) = [b] := by
  rw [utf8EncodeChar_ofNat (by omega), if_pos (by omega), ofNat_eq rfl]

theorem utf8EncodeChar_two (least : 0xc2 ≤ b.toNat) (greatest : b.toNat < 0xe0)
    (least₁ : 0x80 ≤ b₁.toNat) (greatest₁ : b₁.toNat ≤ 0xbf) :
    String.utf8EncodeChar (Char.ofNat (b.toNat % 32 * 64 + b₁.toNat % 64)) = [b, b₁] := by
  rw [utf8EncodeChar_ofNat (by omega), if_neg (by omega), if_pos (by omega),
    ofNat_eq (b := b) (by omega), ofNat_eq (b := b₁) (by omega)]

/-- The bounds on the second byte keep out surrogates and numbers that need less bytes. -/
theorem utf8EncodeChar_three (least : 0xe0 ≤ b.toNat) (greatest : b.toNat < 0xf0)
    (least₁ : (if b.toNat = 0xe0 then 0xa0 else 0x80) ≤ b₁.toNat)
    (greatest₁ : b₁.toNat ≤ if b.toNat = 0xed then 0x9f else 0xbf)
    (least₂ : 0x80 ≤ b₂.toNat) (greatest₂ : b₂.toNat ≤ 0xbf) :
    String.utf8EncodeChar
      (Char.ofNat ((b.toNat % 16 * 64 + b₁.toNat % 64) * 64 + b₂.toNat % 64)) = [b, b₁, b₂] := by
  have long : 0x80 ≤ b₁.toNat ∧ (b.toNat = 0xe0 → 0xa0 ≤ b₁.toNat) := by split at least₁ <;> omega
  have surrogate : b₁.toNat ≤ 0xbf ∧ (b.toNat = 0xed → b₁.toNat ≤ 0x9f) := by
    split at greatest₁ <;> omega
  rw [utf8EncodeChar_ofNat (by omega), if_neg (by omega), if_neg (by omega), if_pos (by omega),
    ofNat_eq (b := b) (by omega), ofNat_eq (b := b₁) (by omega), ofNat_eq (b := b₂) (by omega)]

theorem utf8EncodeChar_four (least : 0xf0 ≤ b.toNat) (greatest : b.toNat ≤ 0xf4)
    (least₁ : (if b.toNat = 0xf0 then 0x90 else 0x80) ≤ b₁.toNat)
    (greatest₁ : b₁.toNat ≤ if b.toNat = 0xf4 then 0x8f else 0xbf)
    (least₂ : 0x80 ≤ b₂.toNat) (greatest₂ : b₂.toNat ≤ 0xbf)
    (least₃ : 0x80 ≤ b₃.toNat) (greatest₃ : b₃.toNat ≤ 0xbf) :
    String.utf8EncodeChar (Char.ofNat
      (((b.toNat % 8 * 64 + b₁.toNat % 64) * 64 + b₂.toNat % 64) * 64 + b₃.toNat % 64)) =
        [b, b₁, b₂, b₃] := by
  have long : 0x80 ≤ b₁.toNat ∧ (b.toNat = 0xf0 → 0x90 ≤ b₁.toNat) := by split at least₁ <;> omega
  have last : b₁.toNat ≤ 0xbf ∧ (b.toNat = 0xf4 → b₁.toNat ≤ 0x8f) := by
    split at greatest₁ <;> omega
  rw [utf8EncodeChar_ofNat (by omega), if_neg (by omega), if_neg (by omega), if_neg (by omega),
    ofNat_eq (b := b) (by omega), ofNat_eq (b := b₁) (by omega), ofNat_eq (b := b₂) (by omega),
    ofNat_eq (b := b₃) (by omega)]

end Encoded

/-- Only the bytes of a character are read as that character. -/
theorem eq_of_readScalar {b : UInt8} {rest rest' : List UInt8} {c : Char}
    (read : readScalar b rest = (some c, rest')) :
    b :: rest = String.utf8EncodeChar c ++ rest' := by
  have again : UInt8.ofNat b.toNat = b := UInt8.ofNat_toNat
  have following {k : Nat} {low high : UInt8} {bits : Nat}
      (announced : lead? b = some ⟨k, low, high, bits⟩) :
      ∃ p, readFollowing k low high bits rest = (some p, rest') ∧ Char.ofNat p = c := by
    simp only [readScalar, announced, Prod.mk.injEq, Option.map_eq_some_iff] at read
    obtain ⟨⟨p, point, char⟩, behind⟩ := read
    exact ⟨p, Prod.ext point behind, char⟩
  by_cases bad : 0x80 ≤ b.toNat ∧ b.toNat < 0xc2 ∨ 0xf5 ≤ b.toNat
  · rw [readScalar, lead?_none b bad] at read
    cases read
  by_cases one : b.toNat < 0x80
  · obtain ⟨p, point, rfl⟩ := following (again ▸ lead?_one one)
    cases point
    rw [utf8EncodeChar_one one]
    rfl
  by_cases two : b.toNat < 0xe0
  · obtain ⟨p, point, rfl⟩ := following (again ▸ lead?_two (by omega) two)
    obtain ⟨b₁, rest, rfl, least₁, greatest₁, point⟩ := exists_of_readFollowing point
    cases point
    rw [utf8EncodeChar_two (by omega) two least₁ greatest₁]
    rfl
  by_cases three : b.toNat < 0xf0
  · obtain ⟨p, point, rfl⟩ := following (again ▸ lead?_three (by omega) three)
    obtain ⟨b₁, rest, rfl, least₁, greatest₁, point⟩ := exists_of_readFollowing point
    obtain ⟨b₂, rest, rfl, least₂, greatest₂, point⟩ := exists_of_readFollowing point
    cases point
    rw [apply_ite UInt8.toNat] at least₁ greatest₁
    rw [utf8EncodeChar_three (by omega) three least₁ greatest₁ least₂ greatest₂]
    rfl
  · obtain ⟨p, point, rfl⟩ := following (again ▸ lead?_four (by omega) (by omega))
    obtain ⟨b₁, rest, rfl, least₁, greatest₁, point⟩ := exists_of_readFollowing point
    obtain ⟨b₂, rest, rfl, least₂, greatest₂, point⟩ := exists_of_readFollowing point
    obtain ⟨b₃, rest, rfl, least₃, greatest₃, point⟩ := exists_of_readFollowing point
    cases point
    rw [apply_ite UInt8.toNat] at least₁ greatest₁
    rw [utf8EncodeChar_four (by omega) (by omega) least₁ greatest₁ least₂ greatest₂ least₃
      greatest₃]
    rfl

/-! ### Texts -/

theorem encode_eq_flatMap (s : String) : encode s = s.toList.flatMap String.utf8EncodeChar := by
  conv => lhs; rw [encode, ← String.ofList_toList (s := s)]
  rw [String.toUTF8_eq_toByteArray, String.toByteArray_ofList, List.utf8Encode]
  simp

theorem encode_append (s t : String) : encode (s ++ t) = encode s ++ encode t := by
  rw [encode_eq_flatMap, encode_eq_flatMap, encode_eq_flatMap, String.toList_append,
    List.flatMap_append]

theorem encode_newline : encode "\n" = [10] := by
  rw [encode_eq_flatMap]
  rfl

theorem newline_of_mem_encode {s : String} (h : 10 ∈ encode s) : '\n' ∈ s.toList := by
  rw [encode_eq_flatMap] at h
  obtain ⟨c, mem, byte⟩ := List.mem_flatMap.1 h
  rwa [newline_of_mem_utf8EncodeChar byte] at mem

theorem scalars_flatMap (cs : List Char) :
    scalars (cs.flatMap String.utf8EncodeChar) = cs.map some := by
  induction cs with
  | nil => rw [List.flatMap_nil, scalars, List.map_nil]
  | cons c cs ih =>
    obtain ⟨b, bs, bytes, read⟩ :=
      readScalar_utf8EncodeChar c (cs.flatMap String.utf8EncodeChar)
    rw [List.flatMap_cons, bytes, List.cons_append, scalars, read, ih, List.map_cons]

/-- Strict reading gives back what was encoded. -/
theorem decodeStrict?_encode (s : String) : decodeStrict? (encode s) = some s := by
  have all (cs : List Char) : (cs.map some).mapM id = some cs := by
    induction cs with
    | nil => rfl
    | cons c cs ih => simp [List.mapM_cons, ih]
  rw [decodeStrict?, encode_eq_flatMap, scalars_flatMap, all, Option.map_some, String.ofList_toList]

theorem encode_injective {s t : String} (same : encode s = encode t) : s = t := by
  rw [← Option.some_inj, ← decodeStrict?_encode, same, decodeStrict?_encode]

theorem flatMap_of_scalars {bs : List UInt8} {cs : List Char} (read : scalars bs = cs.map some) :
    cs.flatMap String.utf8EncodeChar = bs := by
  induction cs generalizing bs with
  | nil =>
    cases bs with
    | nil => rfl
    | cons b rest =>
      rw [scalars] at read
      cases read
  | cons c cs ih =>
    cases bs with
    | nil =>
      rw [scalars] at read
      cases read
    | cons b rest =>
      rw [scalars, List.map_cons, List.cons.injEq] at read
      obtain ⟨first, later⟩ := read
      rw [List.flatMap_cons, ih later]
      exact (eq_of_readScalar (Prod.ext first rfl)).symm

/-- Only the bytes of a text are read as that text. -/
theorem encode_of_decodeStrict? {bs : List UInt8} {s : String} (read : decodeStrict? bs = some s) :
    encode s = bs := by
  have all {l : List (Option Char)} {cs : List Char} (h : l.mapM id = some cs) :
      l = cs.map some := by
    induction l generalizing cs with
    | nil =>
      cases h
      rfl
    | cons a l ih =>
      rw [List.mapM_cons] at h
      obtain ⟨c, first, h⟩ := Option.bind_eq_some_iff.1 h
      obtain ⟨later, rest, h⟩ := Option.bind_eq_some_iff.1 h
      cases h
      rw [List.map_cons, ← ih rest]
      exact congrArg (· :: l) first
  rw [decodeStrict?, Option.map_eq_some_iff] at read
  obtain ⟨cs, read, rfl⟩ := read
  rw [encode_eq_flatMap, String.toList_ofList]
  exact flatMap_of_scalars (all read)

end ScriptLang.Text

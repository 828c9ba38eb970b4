/-!
# Bytes as text

Reading UTF-8.  A byte list is cut into encoded characters and faults; a fault is the longest run
of bytes that begins an encoding and cannot end it, or one byte that begins none.  Strict reading
refuses a fault, lenient reading puts U+FFFD in its place.

## Main definitions

* `readScalar` — the first character or fault of a byte list
* `decodeStrict?`, `decodeLenient` — the two readings
* `encode` — the bytes of a text
-/

namespace ScriptLang.Text

/-- What the first byte of an encoding announces: how many bytes follow, the bounds of the first of
them, and the leading bits of the code point. -/
structure Lead where
  following : Nat
  low : UInt8
  high : UInt8
  bits : Nat

/-- What a byte announces as the first one of an encoding. -/
def lead? (b : UInt8) : Option Lead :=
  if b < 0x80 then some ⟨0, 0x80, 0xbf, b.toNat⟩
  -- 0xc0 and 0xc1 could only start a longer form of an ASCII character.
  else if b < 0xc2 then none
  else if b < 0xe0 then some ⟨1, 0x80, 0xbf, b.toNat % 32⟩
  -- The bounds on the second byte keep out longer forms, surrogates and what lies above U+10FFFF.
  else if b = 0xe0 then some ⟨2, 0xa0, 0xbf, 0⟩
  else if b = 0xed then some ⟨2, 0x80, 0x9f, 13⟩
  else if b < 0xf0 then some ⟨2, 0x80, 0xbf, b.toNat % 16⟩
  else if b = 0xf0 then some ⟨3, 0x90, 0xbf, 0⟩
  else if b < 0xf4 then some ⟨3, 0x80, 0xbf, b.toNat % 8⟩
  else if b = 0xf4 then some ⟨3, 0x80, 0x8f, 4⟩
  else none

/-- Reads the bytes that follow a leading one: the code point if all are there, and the rest. -/
def readFollowing : Nat → UInt8 → UInt8 → Nat → List UInt8 → Option Nat × List UInt8
  | 0, _, _, bits, rest => (some bits, rest)
  | _ + 1, _, _, _, [] => (none, [])
  | n + 1, low, high, bits, b :: rest =>
    -- Only the first of the following bytes has bounds of its own.
    if low ≤ b ∧ b ≤ high then readFollowing n 0x80 0xbf (bits * 64 + b.toNat % 64) rest
    else (none, b :: rest)

theorem length_readFollowing (n : Nat) (low high : UInt8) (bits : Nat) (bs : List UInt8) :
    (readFollowing n low high bits bs).2.length ≤ bs.length := by
  induction n generalizing low high bits bs with
  | zero => simp [readFollowing]
  | succ n ih =>
    cases bs with
    | nil => simp [readFollowing]
    | cons b rest =>
      by_cases h : low ≤ b ∧ b ≤ high
      · simpa [readFollowing, h] using Nat.le_succ_of_le (ih ..)
      · simp [readFollowing, h]

/-- The character, or none for a fault, that starts with the byte `b`, and the bytes after it. -/
def readScalar (b : UInt8) (rest : List UInt8) : Option Char × List UInt8 :=
  match lead? b with
  | none => (none, rest)
  | some l =>
    let (point, rest') := readFollowing l.following l.low l.high l.bits rest
    (point.map Char.ofNat, rest')

theorem length_readScalar (b : UInt8) (rest : List UInt8) :
    (readScalar b rest).2.length ≤ rest.length := by
  unfold readScalar
  split
  · simp
  · exact length_readFollowing ..

/-- The characters of a byte list, with none for each fault. -/
def scalars : List UInt8 → List (Option Char)
  | [] => []
  | b :: rest => (readScalar b rest).1 :: scalars (readScalar b rest).2
termination_by bs => bs.length
decreasing_by exact Nat.lt_succ_of_le (length_readScalar b rest)

/-- The text of a byte list; none if there is a fault in it. -/
def decodeStrict? (bs : List UInt8) : Option String :=
  ((scalars bs).mapM id).map String.ofList

/-- The text of a byte list, with U+FFFD for each fault. -/
def decodeLenient (bs : List UInt8) : String :=
  String.ofList ((scalars bs).map (·.getD '\ufffd'))

/-- The bytes of a text. -/
def encode (s : String) : List UInt8 :=
  s.toUTF8.data.toList

end ScriptLang.Text

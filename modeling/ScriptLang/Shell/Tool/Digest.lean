import ScriptLang.Shell.Tool

/-!
# Digests

Numbers that are computed from all bytes of a file, so that files with different contents have
different ones.

The constants of most of these functions are the first places of roots of primes.  They are computed
here from that rule.

## Main definitions

* `md5`, `sha1`, `sha2Short`, `sha2Long` — the functions, on lists of bytes
* `crc` — the cyclic checksum
* `digestTool`, `runCksum`, `runSum` — the programs
-/

namespace ScriptLang.Shell.Tool

/-! ### Constants -/

/-- The greatest number whose power is not above a bound. -/
def rootOf (degree n : Nat) : Nat :=
  let rec go : Nat → Nat → Nat
    | 0, root => root
    | k + 1, root =>
      let next := root + Nat.pow 2 k
      go k (if Nat.pow next degree ≤ n then next else root)
  go (Nat.log2 n / degree + 1) 0

/-- The first primes. -/
def primes (count : Nat) : List Nat :=
  let rec go : Nat → Nat → List Nat → List Nat
    | 0, _, found => found
    | fuel + 1, n, found =>
      if count ≤ found.length then found
      else if found.any fun p => n % p = 0 then go fuel (n + 1) found
      else go fuel (n + 1) (found ++ [n])
  go (count * 16) 2 []

/-- The first binary places of a root of a number. -/
def rootPlaces (degree places n : Nat) : Nat :=
  rootOf degree (n * Nat.pow 2 (degree * places)) % Nat.pow 2 places

/-! ### Blocks -/

/-- A message filled up to whole blocks; its length in bits comes last. -/
def padded (block lengthBytes : Nat) (bigEndian : Bool) (bytes : List UInt8) : List UInt8 :=
  let bits := 8 * bytes.length
  let zeros := (2 * block - (bytes.length + 1 + lengthBytes) % block) % block
  let low := (List.range lengthBytes).map fun i => UInt8.ofNat (bits / Nat.pow 256 i % 256)
  bytes ++ 0x80 :: List.replicate zeros 0 ++ (if bigEndian then low.reverse else low)

/-- A list in blocks. -/
def blocksIn {α : Type} (size : Nat) : Nat → List α → List (List α)
  | 0, _ | _, [] => []
  | n + 1, items => items.take size :: blocksIn size n (items.drop size)

/-- The number that bytes write, the highest one first. -/
def bigEndian (bytes : List UInt8) : Nat :=
  bytes.foldl (fun n b => n * 256 + b.toNat) 0

/-- A number in so many bytes, the highest one first. -/
def toBigEndian (count n : Nat) : List UInt8 :=
  ((List.range count).map fun i => UInt8.ofNat (n / Nat.pow 256 i % 256)).reverse

/-! ### Functions -/

/-- A word with its bits moved round to the left. -/
def rotateLeft (x : UInt32) (count : Nat) : UInt32 :=
  x <<< UInt32.ofNat (count % 32) ||| x >>> UInt32.ofNat ((32 - count) % 32)

/-- The constants of MD5. -/
def md5Constants : Array UInt32 :=
  ((List.range 64).map fun i =>
    (Float.floor (Float.abs (Float.sin (Float.ofNat (i + 1))) * 4294967296)).toUInt32).toArray

/-- By how much words are moved round in MD5. -/
def md5Shifts : Array Nat :=
  #[7, 12, 17, 22, 5, 9, 14, 20, 4, 11, 16, 23, 6, 10, 15, 21]

/-- The MD5 digest of some bytes. -/
def md5 (bytes : List UInt8) : List UInt8 :=
  let message := padded 64 8 false bytes
  let start : UInt32 × UInt32 × UInt32 × UInt32 := (0x67452301, 0xefcdab89, 0x98badcfe, 0x10325476)
  let (a, b, c, d) := (blocksIn 64 message.length message).foldl (fun (a₀, b₀, c₀, d₀) block =>
    let words := ((blocksIn 4 16 block).map fun w =>
      UInt32.ofNat (bigEndian w.reverse)).toArray
    let (a, b, c, d) := (List.range 64).foldl
      (fun ((a, b, c, d) : UInt32 × UInt32 × UInt32 × UInt32) i =>
        let (f, g) : UInt32 × Nat :=
          if i < 16 then ((b &&& c) ||| (~~~b &&& d), i)
          else if i < 32 then ((d &&& b) ||| (~~~d &&& c), (5 * i + 1) % 16)
          else if i < 48 then (b ^^^ c ^^^ d, (3 * i + 5) % 16)
          else (c ^^^ (b ||| ~~~d), 7 * i % 16)
        let sum := a + f + md5Constants.getD i 0 + words.getD g 0
        let shift := md5Shifts.getD (i / 16 * 4 + i % 4) 0
        (d, b + rotateLeft sum shift, b, c)) (a₀, b₀, c₀, d₀)
    (a₀ + a, b₀ + b, c₀ + c, d₀ + d)) start
  [a, b, c, d].flatMap fun w => (toBigEndian 4 w.toNat).reverse

/-- The SHA-1 digest of some bytes. -/
def sha1 (bytes : List UInt8) : List UInt8 :=
  let message := padded 64 8 true bytes
  let start : List UInt32 := [0x67452301, 0xefcdab89, 0x98badcfe, 0x10325476, 0xc3d2e1f0]
  let final := (blocksIn 64 message.length message).foldl (fun (h : List UInt32) block =>
    let first := ((blocksIn 4 16 block).map fun w => UInt32.ofNat (bigEndian w)).toArray
    let words := (List.range 64).foldl (fun (ws : Array UInt32) i =>
      let at_ (k : Nat) : UInt32 := ws.getD (i + 16 - k) 0
      ws.push (rotateLeft (at_ 3 ^^^ at_ 8 ^^^ at_ 14 ^^^ at_ 16) 1)) first
    let after := (List.range 80).foldl (fun (s : List UInt32) i =>
      match s with
      | [a, b, c, d, e] =>
        let (f, k) : UInt32 × UInt32 :=
          if i < 20 then ((b &&& c) ||| (~~~b &&& d), 0x5a827999)
          else if i < 40 then (b ^^^ c ^^^ d, 0x6ed9eba1)
          else if i < 60 then ((b &&& c) ||| (b &&& d) ||| (c &&& d), 0x8f1bbcdc)
          else (b ^^^ c ^^^ d, 0xca62c1d6)
        [rotateLeft a 5 + f + e + k + words.getD i 0, a, rotateLeft b 30, c, d]
      | s => s) h
    (h.zip after).map fun (x, y) => x + y) start
  final.flatMap fun w => toBigEndian 4 w.toNat

/-- How one of the two widths of SHA-2 mixes words. -/
structure Sha2Shape where
  /-- The bits of a word. -/
  bits : Nat
  rounds : Nat
  /-- The bits by which words are moved round, and moved in the two rules for the schedule. -/
  big₀ : List Nat
  big₁ : List Nat
  small₀ : List Nat
  shift₀ : Nat
  small₁ : List Nat
  shift₁ : Nat

/-- The shape for words of 32 bits. -/
def shortShape : Sha2Shape :=
  ⟨32, 64, [2, 13, 22], [6, 11, 25], [7, 18], 3, [17, 19], 10⟩

/-- The shape for words of 64 bits. -/
def longShape : Sha2Shape :=
  ⟨64, 80, [28, 34, 39], [14, 18, 41], [1, 8], 7, [19, 61], 6⟩

/-- A SHA-2 digest of some bytes, from its first words on. -/
def sha2 (s : Sha2Shape) (start : List Nat) (bytes : List UInt8) : List UInt8 :=
  let size := s.bits / 8
  let top := Nat.pow 2 s.bits
  let rotated (x k : Nat) : Nat := Nat.lor (x / Nat.pow 2 k) (x * Nat.pow 2 (s.bits - k) % top)
  let mixed (ks : List Nat) (x : Nat) : Nat := ks.foldl (fun n k => Nat.xor n (rotated x k)) 0
  let constants := ((primes s.rounds).map (rootPlaces 3 s.bits)).toArray
  let message := padded (16 * size) (2 * size) true bytes
  let final := (blocksIn (16 * size) message.length message).foldl (fun (h : List Nat) block =>
    let first := ((blocksIn size 16 block).map bigEndian).toArray
    let words := (List.range (s.rounds - 16)).foldl (fun (ws : Array Nat) i =>
      let at_ (k : Nat) : Nat := ws.getD (i + 16 - k) 0
      let x := Nat.xor (mixed s.small₀ (at_ 15)) (at_ 15 / Nat.pow 2 s.shift₀)
      let y := Nat.xor (mixed s.small₁ (at_ 2)) (at_ 2 / Nat.pow 2 s.shift₁)
      ws.push ((at_ 16 + x + at_ 7 + y) % top)) first
    let after := (List.range s.rounds).foldl (fun (v : List Nat) i =>
      match v with
      | [a, b, c, d, e, f, g, h] =>
        let choice := Nat.xor (Nat.land e f) (Nat.land (top - 1 - e) g)
        let most := Nat.xor (Nat.xor (Nat.land a b) (Nat.land a c)) (Nat.land b c)
        let t := h + mixed s.big₁ e + choice + constants.getD i 0 + words.getD i 0
        [(t + mixed s.big₀ a + most) % top, a, b, c, (d + t) % top, e, f, g]
      | v => v) h
    (h.zip after).map fun (x, y) => (x + y) % top) start
  final.flatMap (toBigEndian size)

/-- The first places of the square roots of the first eight primes. -/
def firstRoots (bits : Nat) : List Nat :=
  (primes 8).map (rootPlaces 2 bits)

/-- The first places of the square roots of the next eight primes. -/
def nextRoots : List Nat :=
  ((primes 16).drop 8).map (rootPlaces 2 64)

/-- A SHA-2 digest with words of 32 bits, of 28 or 32 bytes. -/
def sha2Short (size : Nat) (bytes : List UInt8) : List UInt8 :=
  let start := if size = 28 then nextRoots.map (· % 4294967296) else firstRoots 32
  (sha2 shortShape start bytes).take size

/-- A SHA-2 digest with words of 64 bits, of 48 or 64 bytes. -/
def sha2Long (size : Nat) (bytes : List UInt8) : List UInt8 :=
  let start := if size = 48 then nextRoots else firstRoots 64
  (sha2 longShape start bytes).take size

/-- The cyclic checksum of some bytes and of their number. -/
def crc (bytes : List UInt8) : UInt32 :=
  let rec sizeBytes : Nat → Nat → List UInt8
    | 0, _ => []
    | fuel + 1, n => if n = 0 then [] else UInt8.ofNat (n % 256) :: sizeBytes fuel (n / 256)
  let step (r : UInt32) (b : UInt8) : UInt32 :=
    (List.range 8).foldl (fun r _ =>
      if r &&& 0x80000000 ≠ 0 then (r <<< 1) ^^^ 0x04c11db7 else r <<< 1)
      (r ^^^ (UInt32.ofNat b.toNat <<< 24))
  ~~~ ((bytes ++ sizeBytes 9 bytes.length).foldl step 0)

/-- Bytes in hexadecimal. -/
def hexText (bytes : List UInt8) : String :=
  String.join (bytes.map fun b =>
    let ds := inBase 16 b.toNat
    if ds.length < 2 then "0" ++ ds else ds)

/-! ### Programs -/

/-- What a line of a list of digests says: the digest and the file. -/
def listedDigest? (line : String) : Option (String × String) :=
  let digest := line.toList.takeWhile fun c => (digitValue? c).isSome
  match line.toList.drop digest.length with
  | ' ' :: ' ' :: name | ' ' :: '*' :: name =>
    if digest = [] ∨ name = [] then none else some (String.ofList digest, String.ofList name)
  | _ => none

/-- Checks the digests that a file lists; yields the number of lines that say nothing, of files that
cannot be read, of digests that differ, and of all. -/
def checkDigests (name : String) (digest : List UInt8 → List UInt8) (quiet status : Bool)
    (content : String) : Action (Nat × Nat × Nat × Nat) := do
  let mut bad := 0
  let mut unread := 0
  let mut wrong := 0
  let mut all := 0
  for line in linesOf content do
    match listedDigest? line with
    | none => bad := bad + 1
    | some (expected, file) =>
      all := all + 1
      match ← inputFrom file with
      | .error e =>
        complain name (fileName file ++ ": " ++ e.reason)
        if !status then put (file ++ ": FAILED open or read\n")
        unread := unread + 1
      | .ok content =>
        if hexText (digest (toBytes content)) = expected.toLower then
          if !quiet && !status then put (file ++ ": OK\n")
        else
          if !status then put (file ++ ": FAILED\n")
          wrong := wrong + 1
  return (bad, unread, wrong, all)

/-- A program that writes or checks digests; `label` is the name of the function. -/
def digestTool (label : String) (digest : List UInt8 → List UInt8) : Tool := fun _ name args =>
  withOptions
    { short := "bctwz"
      long := [("binary", "b"), ("check", "c"), ("text", "t"), ("zero", "z"), ("tag", "tag"),
        ("quiet", "quiet"), ("status", "status"), ("warn", "w"), ("strict", "strict"),
        ("ignore-missing", "missing")] }
    name args fun found operands => do
  if has found "c" then
    let silent := has found "status"
    let mut status := 0
    for operand in inputs operands do
      match ← inputFrom operand with
      | .error e =>
        complain name (fileName operand ++ ": " ++ e.reason)
        status := 1
      | .ok content =>
        let (bad, unread, wrong, all) ←
          checkDigests name digest (has found "quiet") silent content
        if all = 0 then
          let shown := if operand = "-" then quotedName "standard input" else fileName operand
          complain name (shown ++ ": no properly formatted checksum lines found")
          status := 1
        else
          let warned (n : Nat) (one many : String) : Action Unit := do
            if n ≠ 0 && !silent then
              complain name ("WARNING: " ++ toString n ++ " " ++ (if n = 1 then one else many))
          warned bad "line is improperly formatted" "lines are improperly formatted"
          warned unread "listed file could not be read" "listed files could not be read"
          warned wrong "computed checksum did NOT match" "computed checksums did NOT match"
          if unread ≠ 0 ∨ wrong ≠ 0 then status := 1
    return status
  else
    forInputs name operands fun operand content => do
      let text := hexText (digest (toBytes content))
      let ending := if has found "z" then "\x00" else "\n"
      put (if has found "tag" then label ++ " (" ++ operand ++ ") = " ++ text ++ ending
        else text ++ (if has found "b" then " *" else "  ") ++ operand ++ ending)

/-- `md5sum`. -/
def runMd5sum : Tool := digestTool "MD5" md5

/-- `sha1sum`. -/
def runSha1sum : Tool := digestTool "SHA1" sha1

/-- `sha224sum`. -/
def runSha224sum : Tool := digestTool "SHA224" (sha2Short 28)

/-- `sha256sum`. -/
def runSha256sum : Tool := digestTool "SHA256" (sha2Short 32)

/-- `sha384sum`. -/
def runSha384sum : Tool := digestTool "SHA384" (sha2Long 48)

/-- `sha512sum`. -/
def runSha512sum : Tool := digestTool "SHA512" (sha2Long 64)

/-- The sum of bytes in which each step moves the bits of a word of 16 bits round. -/
def turningSum (bytes : List UInt8) : Nat :=
  bytes.foldl (fun n b => (n / 2 + n % 2 * 32768 + b.toNat) % 65536) 0

/-- The sum of bytes, folded into 16 bits. -/
def foldedSum (bytes : List UInt8) : Nat :=
  let total := bytes.foldl (fun n b => n + b.toNat) 0 % 4294967296
  let once := total % 65536 + total / 65536
  once % 65536 + once / 65536

/-- The functions that `cksum` can be asked for. -/
def namedDigest? (kind : String) : Option (String × (List UInt8 → List UInt8)) :=
  match kind with
  | "md5" => some ("MD5", md5)
  | "sha1" => some ("SHA1", sha1)
  | "sha224" => some ("SHA224", sha2Short 28)
  | "sha256" => some ("SHA256", sha2Short 32)
  | "sha384" => some ("SHA384", sha2Long 48)
  | "sha512" => some ("SHA512", sha2Long 64)
  | _ => none

/-- `cksum`: the cyclic checksum, or another function. -/
def runCksum : Tool := fun _ name args =>
  withOptions
    { short := "a:z", long := [("algorithm=", "a"), ("untagged", "untagged"), ("zero", "z")] }
    name args fun found operands => do
  forInputs name operands fun operand content => do
    let bytes := toBytes content
    let label := if operands = [] then "" else " " ++ operand
    match (argument? found "a").bind namedDigest? with
    | some (kind, digest) =>
      put (if has found "untagged" then hexText (digest bytes) ++ "  " ++ operand ++ "\n"
        else kind ++ " (" ++ operand ++ ") = " ++ hexText (digest bytes) ++ "\n")
    | none => put (toString (crc bytes) ++ " " ++ toString bytes.length ++ label ++ "\n")

/-- `sum`: a simple checksum and the number of blocks. -/
def runSum : Tool := fun _ name args =>
  withOptions { short := "rs", long := [("sysv", "s")] } name args fun found operands => do
  forInputs name operands fun operand content => do
    let bytes := toBytes content
    let label := if operands = [] then "" else " " ++ operand
    if has found "s" then
      put (toString (foldedSum bytes) ++ " " ++ toString ((bytes.length + 511) / 512) ++ label ++
        "\n")
    else
      let ds := toString (turningSum bytes)
      put (String.ofList (List.replicate (5 - ds.length) '0') ++ ds ++ " " ++
        paddedLeft 5 (toString ((bytes.length + 1023) / 1024)) ++ label ++ "\n")

end ScriptLang.Shell.Tool

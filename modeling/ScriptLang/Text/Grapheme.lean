import ScriptLang.Text.GraphemeTable

/-!
# Grapheme clusters

The characters that a reader sees, as the extended grapheme clusters of Unicode.  A text is cut
between two characters according to the class of the next character and to a short summary of the
text before it.

## Main definitions

* `BreakClass` — the value of `Grapheme_Cluster_Break`, with the pictographs as a value of their own
* `BreakContext` — what has to be remembered of the text before a possible boundary
* `clusters` — the clusters of a text

## Main results

* `flatten_clusters` — the clusters put together are the text
-/

namespace ScriptLang.Text

/-- What a character is to a cluster boundary. -/
inductive BreakClass where
  | carriageReturn
  | lineFeed
  | control
  | extend
  | joiner
  | spacingMark
  | prepend
  | regionalIndicator
  | leadingJamo
  | vowelJamo
  | trailingJamo
  | openSyllable
  | closedSyllable
  | pictograph
  | other
  deriving DecidableEq, Repr

/-! ### The tables as search trees -/

/-- The marks that extend the character before them, and the emoji modifiers. -/
def extendTree : RangeTree := .ofRanges extendRanges

/-- The marks that take room. -/
def spacingMarkTree : RangeTree := .ofRanges spacingMarkRanges

/-- The characters that cling to the next one. -/
def prependTree : RangeTree := .ofRanges prependRanges

/-- The controls beyond ASCII. -/
def controlTree : RangeTree := .ofRanges controlRanges

/-- The pictographs. -/
def pictographTree : RangeTree := .ofRanges pictographRanges

/-- The consonants that form conjuncts. -/
def conjunctConsonantTree : RangeTree := .ofRanges conjunctConsonantRanges

/-- The marks that link the consonants of a conjunct. -/
def conjunctLinkerTree : RangeTree := .ofRanges conjunctLinkerRanges

/-! ### Classes -/

/-- The class of a Hangul character that is no mark, or none. -/
def hangulClass? (n : Nat) : Option BreakClass :=
  if (0x1100 ≤ n ∧ n ≤ 0x115f) ∨ (0xa960 ≤ n ∧ n ≤ 0xa97c) then some .leadingJamo
  else if (0x1160 ≤ n ∧ n ≤ 0x11a7) ∨ (0xd7b0 ≤ n ∧ n ≤ 0xd7c6) ∨ n = 0x16d63 ∨
      (0x16d67 ≤ n ∧ n ≤ 0x16d6a) then some .vowelJamo
  else if (0x11a8 ≤ n ∧ n ≤ 0x11ff) ∨ (0xd7cb ≤ n ∧ n ≤ 0xd7fb) then some .trailingJamo
  else if 0xac00 ≤ n ∧ n ≤ 0xd7a3 then
    some (if (n - 0xac00) % 28 = 0 then .openSyllable else .closedSyllable)
  else none

/-- The class of a character. -/
def breakClass (c : Char) : BreakClass :=
  let n := c.toNat
  if n < 0x80 then
    if c = '\r' then .carriageReturn
    else if c = '\n' then .lineFeed
    else if n < 0x20 ∨ n = 0x7f then .control
    else .other
  else if n = 0x200d then .joiner
  else if 0x1f1e6 ≤ n ∧ n ≤ 0x1f1ff then .regionalIndicator
  else if extendTree.mem n then .extend
  else if spacingMarkTree.mem n then .spacingMark
  else if prependTree.mem n then .prepend
  else if controlTree.mem n then .control
  else if pictographTree.mem n then .pictograph
  else (hangulClass? n).getD .other

/-- How far a conjunct of an Indic script has been read. -/
inductive Conjunct where
  /-- No consonant is waiting. -/
  | idle
  /-- A consonant, then marks. -/
  | consonant
  /-- A consonant, then marks with a linker among them. -/
  | linked
  deriving DecidableEq, Repr

/-- How far a sequence of pictographs has been read. -/
inductive PictographRun where
  /-- No pictograph is waiting. -/
  | idle
  /-- A pictograph, then extending marks. -/
  | opened
  /-- A pictograph, extending marks and a joiner. -/
  | joined
  deriving DecidableEq, Repr

/-- What has to be known of the text before a possible boundary. -/
structure BreakContext where
  /-- The class of the last character; none at the start. -/
  last : Option BreakClass := none
  /-- Whether the regional indicators at the end are odd in number. -/
  unpaired : Bool := false
  pictographs : PictographRun := .idle
  conjunct : Conjunct := .idle

namespace BreakContext

/-- The conjunct after one more character. -/
def conjunctAfter (before : Conjunct) (c : Char) (cls : BreakClass) : Conjunct :=
  let n := c.toNat
  if n < 0x80 then .idle
  else if conjunctConsonantTree.mem n then .consonant
  else if before = .idle then .idle
  else if conjunctLinkerTree.mem n then .linked
  else if (cls = .extend ∧ n ≠ 0x200c) ∨ cls = .joiner then before
  else .idle

/-- The pictographs after one more character of this class. -/
def pictographsAfter (before : PictographRun) (cls : BreakClass) : PictographRun :=
  match cls, before with
  | .pictograph, _ => .opened
  | .extend, .opened => .opened
  | .joiner, .opened => .joined
  | _, _ => .idle

/-- The context after one more character. -/
def after (ctx : BreakContext) (c : Char) : BreakContext :=
  let cls := breakClass c
  { last := some cls
    unpaired := cls = .regionalIndicator ∧ !ctx.unpaired
    pictographs := pictographsAfter ctx.pictographs cls
    conjunct := conjunctAfter ctx.conjunct c cls }

/-- Whether a cluster ends between a text with this context and the character `c`. -/
def breaksBefore (ctx : BreakContext) (c : Char) : Bool :=
  match ctx.last, breakClass c with
  | none, _ => true
  -- Line breaks and controls stand alone, but for the pair of carriage return and line feed.
  | some .carriageReturn, .lineFeed => false
  | some .carriageReturn, _ | some .lineFeed, _ | some .control, _ => true
  | _, .carriageReturn | _, .lineFeed | _, .control => true
  -- Hangul syllables.
  | some .leadingJamo, .leadingJamo | some .leadingJamo, .vowelJamo
  | some .leadingJamo, .openSyllable | some .leadingJamo, .closedSyllable => false
  | some .openSyllable, .vowelJamo | some .openSyllable, .trailingJamo
  | some .vowelJamo, .vowelJamo | some .vowelJamo, .trailingJamo => false
  | some .closedSyllable, .trailingJamo | some .trailingJamo, .trailingJamo => false
  -- Marks cling to what is before them, prepended characters to what is after.
  | _, .extend | _, .joiner | _, .spacingMark => false
  | some .prepend, _ => false
  -- Flags take two indicators each, so only an odd one is waiting for its partner.
  | some .regionalIndicator, .regionalIndicator => !ctx.unpaired
  | some .joiner, .pictograph => ctx.pictographs != .joined
  | _, _ => !(ctx.conjunct == .linked && conjunctConsonantTree.mem c.toNat)

end BreakContext

/-- The clusters of a text whose first one has begun with `begun`, last character first. -/
def clustersFrom (ctx : BreakContext) (begun : List Char) : List Char → List (List Char)
  | [] => [begun.reverse]
  | c :: rest =>
    if ctx.breaksBefore c then begun.reverse :: clustersFrom (ctx.after c) [c] rest
    else clustersFrom (ctx.after c) (c :: begun) rest

/-- The grapheme clusters of a text, from first to last. -/
def clusters : List Char → List (List Char)
  | [] => []
  | c :: rest => clustersFrom (({} : BreakContext).after c) [c] rest

theorem flatten_clustersFrom (ctx : BreakContext) (begun rest : List Char) :
    (clustersFrom ctx begun rest).flatten = begun.reverse ++ rest := by
  induction rest generalizing ctx begun with
  | nil => simp [clustersFrom]
  | cons c rest ih =>
    by_cases h : ctx.breaksBefore c <;> simp [clustersFrom, h, ih]

/-- The clusters put together are the text. -/
@[simp] theorem flatten_clusters (cs : List Char) : (clusters cs).flatten = cs := by
  cases cs <;> simp [clusters, flatten_clustersFrom]

end ScriptLang.Text

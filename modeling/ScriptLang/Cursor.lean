import ScriptLang.Diagnostic

/-!
# A place in a list of tokens

Reading a tree moves a cursor over the tokens before the first end token, and collects the faults
that do not stop it.  What a reader yields carries the proof that the cursor has moved on, which is
why reading ends.

## Main definitions

* `Cursor` — the token just read, the tokens to come, and the faults so far
* `Reading` — a value or a fault, with the cursor after it
* `Reading.andThen`, `Reading.behind`, `Reading.map` — reading one thing behind another
* `Cursor.expect`, `Cursor.take?` — reading one token
* `Cursor.synchronize` — where reading goes on after a fault
-/

namespace ScriptLang

/-- A place in a list of tokens. -/
structure Cursor where
  /-- The token just before this place; none at the start. -/
  previous : Option Token
  /-- The tokens to come, without the end token. -/
  rest : List Token
  /-- The end token. -/
  last : Token
  /-- The faults found so far, from first to last. -/
  reported : List Diagnostic

namespace Cursor

/-- How many tokens are to come. -/
def left (c : Cursor) : Nat :=
  c.rest.length

/-- The token at the cursor. -/
def peek (c : Cursor) : Token :=
  c.rest.headD c.last

/-- Whether the token at the cursor is of this kind, and not the end token. -/
def check (c : Cursor) (kind : TokenKind) : Bool :=
  c.rest.head?.map Token.kind == some kind

/-- The cursor behind the next token; the cursor itself at the end. -/
def advance (c : Cursor) : Cursor :=
  match c.rest with
  | [] => c
  | t :: rest => { c with previous := some t, rest }

/-- The cursor with one more fault. -/
def report (c : Cursor) (d : Diagnostic) : Cursor :=
  { c with reported := c.reported ++ [d] }

@[simp] theorem left_report (c : Cursor) (d : Diagnostic) : (c.report d).left = c.left := rfl

@[simp] theorem rest_report (c : Cursor) (d : Diagnostic) : (c.report d).rest = c.rest := rfl

/-- The cursor with one more fault if something is wrong; as many tokens are to come. -/
def reportIf (c : Cursor) (wrong : Bool) (d : Diagnostic) : Cursor :=
  { c with reported := if wrong then c.reported ++ [d] else c.reported }

@[simp] theorem left_reportIf (c : Cursor) (wrong : Bool) (d : Diagnostic) :
    (c.reportIf wrong d).left = c.left := rfl

theorem left_advance (c : Cursor) : c.advance.left = c.left - 1 := by
  unfold advance left
  split <;> simp_all

/-- A token that has been read, and the cursor after it. -/
structure Taken (c : Cursor) where
  token : Token
  after : Cursor
  shorter : after.left < c.left

/-- A token behind a later place is behind every earlier one. -/
theorem Taken.further {start c : Cursor} (t : Taken c) (h : c.left < start.left) :
    t.after.left < start.left :=
  Nat.lt_trans t.shorter h

/-- Reads the next token if its kind passes a test. -/
def take? (c : Cursor) (test : TokenKind → Bool) : Option (Taken c) :=
  match h : c.rest with
  -- The end token is never taken, whatever the test says.
  | [] => none
  | t :: rest =>
    if test t.kind then
      some ⟨t, { c with previous := some t, rest }, by simp [left, h]⟩
    else none

/-- The cursor at the start of a list of tokens.  The tokens behind the first end token do not
count, and a list without an end token ends behind its last token. -/
def start? (tokens : List Token) : Option Cursor :=
  let body := tokens.takeWhile (·.kind != .eof)
  -- A missing end token is made up just behind the last token, as a place to point at.
  match tokens.dropWhile (·.kind != .eof), body.getLast? with
  | last :: _, _ => some ⟨none, body, last, []⟩
  | [], some t =>
    some ⟨none, body, ⟨.eof, "", none, t.line, ⟨t.span.stop, t.span.stop⟩⟩, []⟩
  | [], none => none

end Cursor

/-- What reading yields when `bound` tokens are to come: a value after at least one token, or the
fault that stopped it, and the cursor then. -/
inductive Reading (bound : Nat) (α : Type) where
  | done (value : α) (after : Cursor) (shorter : after.left < bound)
  | fault (diagnostic : Diagnostic) (after : Cursor) (noLonger : after.left ≤ bound)

namespace Reading

/-- Goes on after a value; a fault stays a fault. -/
@[inline] def andThen {α β : Type} {n : Nat} (r : Reading n α)
    (next : (value : α) → (after : Cursor) → after.left < n → Reading n β) : Reading n β :=
  match r with
  | done value after h => next value after h
  | fault d after h => fault d after h

/-- Goes on after a value where the reading belongs to one that began with more tokens to come. -/
@[inline] def andThenBehind {α β : Type} {m n : Nat} (r : Reading m α) (h : m < n)
    (next : (value : α) → (after : Cursor) → after.left < m → Reading n β) : Reading n β :=
  match r with
  | done value after h₁ => next value after h₁
  | fault d after h₁ => fault d after (Nat.le_trans h₁ (Nat.le_of_lt h))

/-- The same reading as part of one that began with more tokens to come. -/
@[inline] def behind {α : Type} {m n : Nat} (r : Reading m α) (h : m < n) : Reading n α :=
  r.andThenBehind h fun value after h₁ => done value after (Nat.lt_trans h₁ h)

/-- Changes the value. -/
@[inline] def map {α β : Type} {n : Nat} (f : α → β) (r : Reading n α) : Reading n β :=
  r.andThen fun value after h => done (f value) after h

@[simp] theorem andThen_done {α β : Type} {n : Nat} (value : α) (after : Cursor)
    (h : after.left < n) (next : (value : α) → (after : Cursor) → after.left < n → Reading n β) :
    (done value after h).andThen next = next value after h := rfl

@[simp] theorem andThen_fault {α β : Type} {n : Nat} (d : Diagnostic) (after : Cursor)
    (h : after.left ≤ n) (next : (value : α) → (after : Cursor) → after.left < n → Reading n β) :
    (fault d after h : Reading n α).andThen next = fault d after h := rfl

@[simp] theorem behind_done {α : Type} {m n : Nat} (value : α) (after : Cursor)
    (h₁ : after.left < m) (h : m < n) :
    (done value after h₁).behind h = done value after (Nat.lt_trans h₁ h) := rfl

@[simp] theorem behind_fault {α : Type} {m n : Nat} (d : Diagnostic) (after : Cursor)
    (h₁ : after.left ≤ m) (h : m < n) :
    (fault d after h₁ : Reading m α).behind h =
      fault d after (Nat.le_trans h₁ (Nat.le_of_lt h)) := rfl

@[simp] theorem map_done {α β : Type} {n : Nat} (f : α → β) (value : α) (after : Cursor)
    (h : after.left < n) : (done value after h).map f = done (f value) after h := rfl

@[simp] theorem map_fault {α β : Type} {n : Nat} (f : α → β) (d : Diagnostic) (after : Cursor)
    (h : after.left ≤ n) : (fault d after h : Reading n α).map f = fault d after h := rfl

end Reading

namespace Cursor

/-- Stops at the token under the cursor. -/
def failAt {α : Type} (c : Cursor) (why : SyntaxFault) : Reading c.left α :=
  .fault (c.peek.diagnose why) c (Nat.le_refl _)

/-- Reads a token of this kind, or stops. -/
def expect (c : Cursor) (kind : TokenKind) (why : SyntaxFault) : Reading c.left Token :=
  match c.take? (· == kind) with
  | some t => .done t.token t.after t.shorter
  | none => c.failAt why

/-- Moves on until a semicolon has just been read or a statement seems to begin, or to the end. -/
def seekStatement (c : Cursor) : Cursor :=
  match _h : c.rest with
  | [] => c
  | t :: rest =>
    -- Either sign of a boundary will do: the semicolon behind us or the keyword in front.
    if c.previous.map Token.kind = some .semicolon ∨ t.kind.beginsStatement then c
    else seekStatement { c with previous := some t, rest }
termination_by c.left
decreasing_by simp [left, _h]

/-- Where reading goes on after a fault: the token at the cursor is skipped, whatever it is. -/
def synchronize (c : Cursor) : Cursor :=
  c.advance.seekStatement

theorem left_seekStatement (c : Cursor) : c.seekStatement.left ≤ c.left := by
  fun_induction seekStatement c with
  | case1 => exact Nat.le_refl _
  | case2 => exact Nat.le_refl _
  | case3 c t rest h hn ih => exact Nat.le_trans ih (by simp [left, h])

theorem left_synchronize (c : Cursor) : c.synchronize.left ≤ c.left - 1 :=
  left_advance c ▸ left_seekStatement c.advance

theorem left_synchronize_report_lt {c after : Cursor} (d : Diagnostic)
    (noLonger : after.left ≤ c.left) (pos : 0 < c.left) :
    (after.report d).synchronize.left < c.left := by
  have := (after.report d).left_synchronize
  rw [left_report] at this
  omega

end Cursor

end ScriptLang

import ScriptLang.Proofs.Grammar.Sound

/-!
# The grammar is read

Whatever derives from the grammar is read without a fault, as the tree of the derivation, up to the
tokens behind it — as long as those could not go on with the phrase.

## Main definitions

* `Grammar.continues`, `Grammar.Stops` — which tokens go on with an expression
* `Reading.Yields` — a reading yields a value without a fault

## Main results

* `Grammar.Expression.reads` — expressions are read
* `Grammar.Declarations.reads` — declarations are read
* `Script.ofTokens_eq_iff` — a script is read without a fault exactly if it is a program
-/

namespace ScriptLang

/-! ### Readings without a fault -/

/-- The cursor `d` is where quiet reading from `c` has led, with `rest` to come. -/
structure Cursor.Reaches (c : Cursor) (rest : List Token) (d : Cursor) : Prop where
  rest : d.rest = rest
  reported : d.reported = c.reported
  last : d.last = c.last

namespace Cursor

variable {c d e : Cursor} {us rest : List Token} {t : Token} {test : TokenKind → Bool}

theorem Reaches.trans (h : c.Reaches us d) (h' : d.Reaches rest e) : c.Reaches rest e :=
  ⟨h'.rest, h'.reported.trans h.reported, h'.last.trans h.last⟩

theorem take?_of_rest (test : TokenKind → Bool) (hc : c.rest = t :: rest)
    (ht : test t.kind = true) :
    ∃ s : Taken c, c.take? test = some s ∧ s.token = t ∧ c.Reaches rest s.after := by
  cases h : c.take? test with
  | none => simp [take?_eq_none_iff.1 h t rest hc] at ht
  | some s =>
    have hs := of_take? h
    rw [hc, List.cons.injEq] at hs
    exact ⟨s, rfl, hs.2.1.1.symm, hs.2.1.2.symm, by rw [hs.2.2], by rw [hs.2.2]⟩

theorem take?_none_of_rest (hc : c.rest = t :: rest) (ht : test t.kind = false) :
    c.take? test = none :=
  take?_eq_none_iff.2 fun u us hu => by
    rw [hc, List.cons.injEq] at hu
    exact hu.1 ▸ ht

end Cursor

namespace Reading

variable {α β : Type} {m n : Nat} {c : Cursor} {u rest : List Token} {a : α} {b : β}

/-- A reading that began at `c` yields `a` without a fault, and `rest` is to come. -/
def Yields (c : Cursor) (a : α) (rest : List Token) (r : Reading n α) : Prop :=
  ∃ after shorter, r = done a after shorter ∧ c.Reaches rest after

theorem Yields.andThen {r : Reading n α}
    {next : (value : α) → (after : Cursor) → after.left < n → Reading n β}
    (hr : r.Yields c a u)
    (hn : ∀ after shorter, c.Reaches u after → (next a after shorter).Yields after b rest) :
    (r.andThen next).Yields c b rest := by
  obtain ⟨after, shorter, rfl, reach⟩ := hr
  obtain ⟨after', shorter', h, reach'⟩ := hn after shorter reach
  exact ⟨after', shorter', h, reach.trans reach'⟩

theorem Yields.behind {r : Reading m α} {lt : m < n} (hr : r.Yields c a rest) :
    (r.behind lt).Yields c a rest := by
  obtain ⟨after, shorter, rfl, reach⟩ := hr
  exact ⟨after, _, rfl, reach⟩

theorem Yields.map {f : α → β} {r : Reading n α} (hr : r.Yields c a rest) :
    (r.map f).Yields c (f a) rest := by
  obtain ⟨after, shorter, rfl, reach⟩ := hr
  exact ⟨after, shorter, rfl, reach⟩

theorem Yields.from {d : Cursor} {r : Reading n α} (hr : r.Yields d a rest)
    (h : c.Reaches u d) : r.Yields c a rest := by
  obtain ⟨after, shorter, rfl, reach⟩ := hr
  exact ⟨after, shorter, rfl, h.trans reach⟩

theorem yields_done {lt : c.left < n} (h : c.rest = rest) : (done a c lt).Yields c a rest :=
  ⟨c, lt, rfl, h, rfl, rfl⟩

theorem yields_expect {t : Token} {kind : TokenKind} (why : SyntaxFault) (hc : c.rest = t :: rest)
    (ht : t.kind = kind) : (c.expect kind why).Yields c t rest := by
  obtain ⟨s, hs, rfl, reach⟩ := Cursor.take?_of_rest (· == kind) hc (by simpa using ht)
  unfold Cursor.expect
  rw [hs]
  exact ⟨_, _, rfl, reach⟩

end Reading

/-! ### Where expressions end -/

namespace Grammar

/-- Whether a token of this kind goes on with an expression of a rank. -/
def continues : Rank → TokenKind → Prop
  | .assignment, k => k = .equal ∨ k = .leftParen ∨ ∃ m : Level, m.has k = true
  | .level l, k => k = .leftParen ∨ ∃ m : Level, m.rank ≤ Level.rank? l ∧ m.has k = true
  | .call, _ | .primary, _ => False

/-- None of the tokens behind an expression of a rank goes on with it. -/
def Stops (r : Rank) (rest : List Token) : Prop :=
  ∀ t us, rest = t :: us → ¬ continues r t.kind

variable {rest us : List Token} {l : Level} {k : TokenKind}

theorem Stops.level (h : Stops .assignment rest) (l : Option Level) : Stops (.level l) rest := by
  intro t us ht hk
  refine h t us ht ?_
  obtain hk | ⟨m, -, hm⟩ := hk
  · exact .inr (.inl hk)
  · exact .inr (.inr ⟨m, hm⟩)

theorem Stops.tighter (h : Stops (.level (some l)) rest) : Stops (.level l.tighter?) rest := by
  intro t us ht hk
  refine h t us ht ?_
  obtain hk | ⟨m, hle, hm⟩ := hk
  · exact .inl hk
  · exact .inr ⟨m, Nat.le_trans hle (Nat.le_of_lt (Level.rank?_tighter? l)), hm⟩

theorem Stops.take?_has {c : Cursor} (h : Stops (.level (some l)) rest) (hc : c.rest = rest) :
    c.take? l.has = none := by
  refine Cursor.take?_eq_none_iff.2 fun t us ht => ?_
  refine Bool.eq_false_iff.2 fun hk => h t us (hc ▸ ht) ?_
  exact .inr ⟨l, Nat.le_refl _, hk⟩

/-- An operator of a level does not go on with the operand before it. -/
theorem stops_operator {op : Token} (isOp : l.has op.kind = true) :
    Stops (.level l.tighter?) (op :: us) := by
  rintro t us' ht hk
  obtain ⟨rfl, rfl⟩ := List.cons.inj ht
  obtain hk | ⟨m, hle, hm⟩ := hk
  · rw [hk] at isOp
    cases l <;> simp [Level.has] at isOp
  · cases l <;> cases m <;> revert hle isOp hm <;> cases op.kind <;> decide

/-- Commas, semicolons and closing parentheses end expressions. -/
theorem stops_closing {t : Token}
    (h : t.kind = .comma ∨ t.kind = .semicolon ∨ t.kind = .rightParen) :
    Stops .assignment (t :: us) := by
  rintro t us' ht hk
  obtain ⟨rfl, rfl⟩ := List.cons.inj ht
  obtain hk | hk | ⟨m, hm⟩ := hk
  · simp [hk] at h
  · simp [hk] at h
  · obtain h | h | h := h <;> rw [h] at hm <;> cases m <;> simp [Level.has] at hm

/-- An equals sign ends the target of an assignment. -/
theorem stops_equal {t : Token} (h : t.kind = .equal) (l : Option Level) :
    Stops (.level l) (t :: us) := by
  rintro t us' ht hk
  obtain ⟨rfl, rfl⟩ := List.cons.inj ht
  obtain hk | ⟨m, -, hm⟩ := hk
  · simp [hk] at h
  · rw [h] at hm
    cases m <;> simp [Level.has] at hm

end Grammar

/-! ### Expressions -/

open Grammar Reading

/-- What it means that an expression of a rank is read.  Levels of operators and calls are read in a
loop, which may go on behind the expression: there the reader comes to the point where the loop
holds what has been read so far. -/
def Rank.Reads : Rank → Cursor → Expr → List Token → Prop
  | .assignment, c, e, rest => Stops .assignment rest → (Expr.read c).Yields c e rest
  | .level none, c, e, rest => Stops (.level none) rest → (Expr.readPrefixed c).Yields c e rest
  | .level (some l), c, e, rest =>
    Stops (.level l.tighter?) rest → ∃ d lt, c.Reaches rest d ∧
      Expr.readLevel (some l) c = Expr.readOperators l e d c.left lt
  | .call, c, e, rest =>
    ∃ d lt, c.Reaches rest d ∧ Expr.readPrefixed c = Expr.readCalls e d c.left lt
  | .primary, c, e, rest => (Expr.readPrimary c).Yields c e rest

variable {c : Cursor} {ts us rest : List Token} {e : Expr}

theorem Expr.readOperators_of_stops {l : Level} {d : Cursor} {bound : Nat} {lt : d.left < bound}
    (hd : d.rest = rest) (stops : Stops (.level (some l)) rest) :
    Expr.readOperators l e d bound lt = .done e d lt := by
  rw [Expr.readOperators, stops.take?_has hd]

/-- Where the operators of a level end, the level has been read. -/
theorem Rank.Reads.yields : ∀ {l : Option Level}, (Rank.level l).Reads c e rest →
    Stops (.level l) rest → (Expr.readLevel l c).Yields c e rest
  | none, h, stops => by
    rw [Expr.readLevel]
    exact h stops
  | some l, h, stops => by
    obtain ⟨d, lt, reach, h⟩ := h stops.tighter
    rw [h, Expr.readOperators_of_stops reach.rest stops]
    exact ⟨d, lt, rfl, reach⟩

theorem Expr.readPrimary_of_token {t : Token} (hc : c.rest = t :: rest)
    (h : Expr.ofToken? t = some e) : (Expr.readPrimary c).Yields c e rest := by
  have notParen : c.take? (· == .leftParen) = none := by
    refine Cursor.take?_none_of_rest hc (Bool.eq_false_iff.2 fun hk => ?_)
    have hk : t.kind = .leftParen := by simpa using hk
    simp [Expr.ofToken?, hk] at h
  obtain ⟨s, hs, rfl, reach⟩ := Cursor.take?_of_rest (fun _ => true) hc rfl
  rw [Expr.readPrimary, notParen, hs, Cursor.peek, hc]
  simp only [List.headD_cons, h]
  exact ⟨_, _, rfl, reach⟩

/-- An operand without a prefix operator is read at the level of prefix operators. -/
theorem Expr.readPrefixed_of_primary (h : (Expr.readPrimary c).Yields c e rest)
    (start : ∃ t us, c.rest = t :: us ∧ startsOperand t.kind = true) :
    Rank.call.Reads c e rest := by
  obtain ⟨t, us, hc, ht⟩ := start
  have notOp : c.take? (fun kind => kind == .bang || kind == .minus) = none := by
    refine Cursor.take?_none_of_rest hc (Bool.eq_false_iff.2 fun hk => ?_)
    obtain hk | hk : t.kind = .bang ∨ t.kind = .minus := by simpa using hk
    all_goals simp [startsOperand, hk] at ht
  obtain ⟨d, lt, hd, reach⟩ := h
  refine ⟨d, lt, reach, ?_⟩
  rw [Expr.readPrefixed, notOp, hd]
  rfl

theorem Rank.Reads.ofCall (h : Rank.call.Reads c e rest) : (Rank.level none).Reads c e rest := by
  intro stops
  obtain ⟨d, lt, reach, h⟩ := h
  have notParen : d.take? (· == .leftParen) = none := by
    refine Cursor.take?_eq_none_iff.2 fun t us ht => Bool.eq_false_iff.2 fun hk => ?_
    exact stops t us (reach.rest ▸ ht) (.inl (by simpa using hk))
  rw [h, Expr.readCalls, notParen]
  exact ⟨d, lt, rfl, reach⟩

theorem Rank.Reads.ofTighter {l : Level} (h : (Rank.level l.tighter?).Reads c e rest) :
    (Rank.level (some l)).Reads c e rest := by
  intro stops
  obtain ⟨d, lt, hd, reach⟩ := h.yields stops
  refine ⟨d, lt, reach, ?_⟩
  rw [Expr.readLevel, hd]
  rfl

/-- What is read at the level of prefix operators is read at every level. -/
theorem Rank.Reads.level (h : (Rank.level none).Reads c e rest) (l : Option Level) :
    (Rank.level l).Reads c e rest := by
  cases l with
  | none => exact h
  | some l => exact (Rank.Reads.level h l.tighter?).ofTighter
termination_by Level.rank? l
decreasing_by exact Level.rank?_tighter? l

theorem Rank.Reads.disjunction (h : (Rank.level (some .disjunction)).Reads c e rest) :
    Rank.assignment.Reads c e rest := by
  intro stops
  obtain ⟨d, lt, hd, reach⟩ := h.yields (stops.level _)
  have notEqual : d.take? (· == .equal) = none := by
    refine Cursor.take?_eq_none_iff.2 fun t us ht => Bool.eq_false_iff.2 fun hk => ?_
    exact stops t us (reach.rest ▸ ht) (.inl (by simpa using hk))
  rw [Expr.read, hd]
  simp only [andThen_done, notEqual]
  exact ⟨d, lt, rfl, reach⟩

theorem Rank.Reads.assign {ident equals : Token} {value : Expr}
    (hc : c.rest = ident :: equals :: ts) (isIdent : ident.kind = .ident)
    (isEquals : equals.kind = .equal)
    (right : ∀ d : Cursor, d.rest = ts → (Expr.read d).Yields d value rest) :
    (Expr.read c).Yields c (.assign ident value) rest := by
  have target : (Expr.readLevel (some .disjunction) c).Yields c (.name ident) (equals :: ts) := by
    have primary := Expr.readPrimary_of_token (e := .name ident) hc
      (by simp [Expr.ofToken?, isIdent])
    have call := Expr.readPrefixed_of_primary primary ⟨_, _, hc, by simp [startsOperand, isIdent]⟩
    exact (call.ofCall.level _).yields (stops_equal isEquals _)
  rw [Expr.read]
  refine target.andThen fun d lt reach => ?_
  obtain ⟨s, hs, rfl, reach'⟩ :=
    Cursor.take?_of_rest (· == .equal) reach.rest (by simpa using isEquals)
  simp only [hs]
  refine ((right s.after reach'.rest).behind.from reach').andThen fun d' lt' reach'' => ?_
  exact yields_done reach''.rest

theorem Rank.Reads.operation {l : Level} {op : Token} {left right : Expr}
    (first : (Rank.level (some l)).Reads c left (op :: us)) (isOp : l.has op.kind = true)
    (second : ∀ d : Cursor, d.rest = us → (Rank.level l.tighter?).Reads d right rest) :
    (Rank.level (some l)).Reads c (l.node op left right) rest := by
  intro stops
  obtain ⟨d, lt, reach, h⟩ := first (stops_operator isOp)
  obtain ⟨s, hs, rfl, reach'⟩ := Cursor.take?_of_rest l.has reach.rest isOp
  obtain ⟨d', lt', hd', reach''⟩ := (second s.after reach'.rest).yields stops
  refine ⟨d', Nat.lt_trans (Nat.lt_trans lt' s.shorter) lt, (reach.trans reach').trans reach'', ?_⟩
  rw [h, Expr.readOperators, hs]
  simp only [hd']
  rfl

theorem Rank.Reads.unary {op : Token} (hc : c.rest = op :: ts)
    (isOp : op.kind = .bang ∨ op.kind = .minus)
    (inner : ∀ d : Cursor, d.rest = ts → (Rank.level none).Reads d e rest) :
    (Rank.level none).Reads c (.unary op e) rest := by
  intro stops
  obtain ⟨s, hs, rfl, reach⟩ := Cursor.take?_of_rest (fun kind => kind == .bang || kind == .minus)
    hc (by simpa using isOp)
  rw [Expr.readPrefixed, hs]
  exact ((inner s.after reach.rest stops).behind.from reach).map

theorem Rank.Reads.callEmpty {callee : Expr} {opening closing : Token}
    (first : Rank.call.Reads c callee (opening :: closing :: rest))
    (isOpening : opening.kind = .leftParen) (isClosing : closing.kind = .rightParen) :
    Rank.call.Reads c (.call callee closing []) rest := by
  obtain ⟨d, lt, reach, h⟩ := first
  obtain ⟨s, hs, rfl, reach'⟩ :=
    Cursor.take?_of_rest (· == .leftParen) reach.rest (by simpa using isOpening)
  obtain ⟨s', hs', rfl, reach''⟩ :=
    Cursor.take?_of_rest (· == .rightParen) reach'.rest (by simpa using isClosing)
  refine ⟨s'.after, Nat.lt_trans (s'.further s.shorter) lt, (reach.trans reach').trans reach'', ?_⟩
  rw [h, Expr.readCalls, hs]
  simp only [hs']
  rfl

theorem Rank.Reads.call {callee : Expr} {opening closing : Token} {args : List Expr}
    (first : Rank.call.Reads c callee (opening :: us)) (isOpening : opening.kind = .leftParen)
    (second : ∀ d : Cursor, d.rest = us → d.take? (· == .rightParen) = none ∧
      (Expr.readArguments 0 d).Yields d (args, closing) rest) :
    Rank.call.Reads c (.call callee closing args) rest := by
  obtain ⟨d, lt, reach, h⟩ := first
  obtain ⟨s, hs, rfl, reach'⟩ :=
    Cursor.take?_of_rest (· == .leftParen) reach.rest (by simpa using isOpening)
  obtain ⟨hs', d', lt', hd', reach''⟩ := second s.after reach'.rest
  refine ⟨d', Nat.lt_trans (Nat.lt_trans lt' s.shorter) lt, (reach.trans reach').trans reach'', ?_⟩
  rw [h, Expr.readCalls, hs]
  simp only [hs', hd']
  rfl

theorem Expr.readPrimary_of_group {opening closing : Token} {inner : Expr}
    (hc : c.rest = opening :: ts) (isOpening : opening.kind = .leftParen)
    (body : ∀ d : Cursor, d.rest = ts → (Expr.read d).Yields d inner (closing :: rest))
    (isClosing : closing.kind = .rightParen) :
    (Expr.readPrimary c).Yields c (.group inner) rest := by
  obtain ⟨s, hs, rfl, reach⟩ :=
    Cursor.take?_of_rest (· == .leftParen) hc (by simpa using isOpening)
  rw [Expr.readPrimary, hs]
  refine ((body s.after reach.rest).behind.from reach).andThen fun d lt reach' => ?_
  exact (yields_expect _ reach'.rest isClosing).behind.map

/-- Expressions are not started by what closes a list of arguments. -/
theorem Grammar.Expression.take?_none {r : Rank} {kind : TokenKind} (h : Expression r ts e rest)
    (hc : c.rest = ts) (notStart : Grammar.starts .assignment kind = Bool.false) :
    c.take? (· == kind) = none := by
  obtain ⟨t, us, rfl, ht⟩ := h.starts
  refine Cursor.take?_none_of_rest hc (Bool.eq_false_iff.2 fun hk => ?_)
  have hk : t.kind = kind := by simpa using hk
  rw [← hk, starts_assignment ht] at notStart
  contradiction

theorem Grammar.Arguments.take?_none {args : List Expr} {kind : TokenKind}
    (h : Arguments ts args rest) (hc : c.rest = ts)
    (notStart : Grammar.starts .assignment kind = Bool.false) : c.take? (· == kind) = none := by
  cases h with
  | last first => exact first.take?_none hc notStart
  | more first => exact first.take?_none hc notStart

/-- A count below the limit is not reported. -/
theorem Cursor.reaches_limit {count : Nat} (few : count < maxArguments) (why : SyntaxFault) :
    c.Reaches c.rest (c.limit count why) :=
  ⟨rfl, by simp [Cursor.limit, Cursor.reportIf, Nat.not_le.2 few], rfl⟩

mutual

/-- What derives from the grammar of expressions is read. -/
theorem Grammar.Expression.reads : ∀ {r : Rank} {ts rest : List Token} {e : Expr},
    Expression r ts e rest → ∀ c : Cursor, c.rest = ts → r.Reads c e rest
  | _, _, _, _, .assign isIdent isEquals right, _, hc => fun stops =>
    Rank.Reads.assign hc isIdent isEquals fun d hd => right.reads d hd stops
  | _, _, _, _, .disjunction inner, c, hc => (inner.reads c hc).disjunction
  | _, _, _, _, .tighter inner, c, hc => (inner.reads c hc).ofTighter
  | _, _, _, _, .operation first isOp second, c, hc =>
    (first.reads c hc).operation isOp second.reads
  | _, _, _, _, .unary isOp inner, _, hc => Rank.Reads.unary hc isOp inner.reads
  | _, _, _, _, .ofCall inner, c, hc => (inner.reads c hc).ofCall
  | _, _, _, _, .ofPrimary inner, c, hc =>
    Expr.readPrefixed_of_primary (inner.reads c hc) (hc ▸ inner.starts)
  | _, _, _, _, .callEmpty first isOpening isClosing, c, hc =>
    (first.reads c hc).callEmpty isOpening isClosing
  | _, _, _, _, .call first isOpening second few isClosing, c, hc =>
    (first.reads c hc).call isOpening fun d hd =>
      ⟨second.take?_none hd rfl, second.reads rfl isClosing 0 d hd (by simpa using few)⟩
  | _, _, _, _, .true h, _, hc | _, _, _, _, .false h, _, hc | _, _, _, _, .nil h, _, hc
  | _, _, _, _, .name h, _, hc =>
    Expr.readPrimary_of_token hc (by simp [Expr.ofToken?, h])
  | _, _, _, _, .literal isLiteral, _, hc =>
    Expr.readPrimary_of_token hc (by rcases isLiteral with h | h <;> simp [Expr.ofToken?, h])
  | _, _, _, _, .group isOpening body isClosing, _, hc =>
    Expr.readPrimary_of_group hc isOpening
      (fun d hd => body.reads d hd (stops_closing (by simp [isClosing]))) isClosing

theorem Grammar.Arguments.reads : ∀ {ts us : List Token} {args : List Expr},
    Arguments ts args us → ∀ {closing : Token} {rest : List Token}, us = closing :: rest →
      closing.kind = .rightParen → ∀ (count : Nat) (c : Cursor), c.rest = ts →
        count + args.length ≤ maxArguments →
          (Expr.readArguments count c).Yields c (args, closing) rest
  | _, _, _, .last first, closing, rest, hu, isClosing, count, c, hc, few => by
    have stops : Stops .assignment (closing :: rest) := stops_closing (by simp [isClosing])
    rw [Expr.readArguments]
    refine ((first.reads (c.limit count _) hc (hu ▸ stops)).from
      (Cursor.reaches_limit few _)).andThen fun d lt reach => ?_
    have notComma : d.take? (· == .comma) = none :=
      Cursor.take?_none_of_rest (reach.rest.trans hu) (by simp [isClosing])
    simp only [notComma]
    exact (yields_expect _ (reach.rest.trans hu) isClosing).behind.map
  | _, _, _, .more first isComma later, closing, rest, hu, isClosing, count, c, hc, few => by
    simp only [List.length_cons] at few
    rw [Expr.readArguments]
    refine ((first.reads (c.limit count _) hc (stops_closing (by simp [isComma]))).from
      (Cursor.reaches_limit (by omega) _)).andThen fun d lt reach => ?_
    obtain ⟨s, hs, rfl, reach'⟩ :=
      Cursor.take?_of_rest (· == .comma) reach.rest (by simpa using isComma)
    simp only [hs]
    exact ((later.reads hu isClosing (count + 1) s.after reach'.rest (by omega)).behind.from
      reach').map

end

/-! ### Parts of statements -/

theorem Grammar.Until.reads {closing : TokenKind} {value : Option Expr}
    (h : Until closing ts value rest) (ends : closing = .semicolon ∨ closing = .rightParen)
    (why : SyntaxFault) (hc : c.rest = ts) :
    (Expr.readUntil closing why c).Yields c value rest := by
  unfold Expr.readUntil
  cases h with
  | none isClosing =>
    obtain ⟨s, hs, rfl, reach⟩ :=
      Cursor.take?_of_rest (· == closing) hc (by simpa using isClosing)
    rw [hs]
    exact ⟨_, _, rfl, reach⟩
  | some body isClosing =>
    have notClosing : c.take? (· == closing) = Option.none := by
      refine body.take?_none hc ?_
      obtain rfl | rfl := ends <;> rfl
    rw [notClosing]
    refine (body.reads c hc (stops_closing (by simp [isClosing, ends]))).andThen
      fun d lt reach => ?_
    exact (yields_expect why reach.rest isClosing).behind.map

theorem Grammar.Expression.readThen {closing : TokenKind} {t : Token}
    (body : Expression .assignment ts e (t :: rest)) (isClosing : t.kind = closing)
    (ends : closing = .semicolon ∨ closing = .rightParen) (why : SyntaxFault) (hc : c.rest = ts) :
    (Expr.readThen closing why c).Yields c e rest := by
  unfold Expr.readThen
  refine (body.reads c hc (stops_closing (by simp [isClosing, ends]))).andThen fun d lt reach => ?_
  exact (yields_expect why reach.rest isClosing).behind.map

theorem Grammar.Condition.reads (h : Condition ts e rest) (opening closing : SyntaxFault)
    (hc : c.rest = ts) : (Expr.readCondition opening closing c).Yields c e rest := by
  obtain ⟨isOpening, body, isClosing⟩ := h
  unfold Expr.readCondition
  refine (yields_expect opening hc isOpening).andThen fun d lt reach => ?_
  exact (body.readThen isClosing (.inr rfl) closing reach.rest).behind

theorem Grammar.Variable.reads {stmt : Stmt} (h : Variable ts stmt rest) (hc : c.rest = ts) :
    (Stmt.readVar c).Yields c stmt rest := by
  unfold Stmt.readVar
  cases h with
  | bare isIdent isSemicolon =>
    refine (yields_expect _ hc isIdent).andThen fun d lt reach => ?_
    have notString : d.check .string = false := by simp [Cursor.check, reach.rest, isSemicolon]
    have notEqual : d.take? (· == .equal) = none :=
      Cursor.take?_none_of_rest reach.rest (by simp [isSemicolon])
    simp only [notString, notEqual, Bool.false_eq_true, if_false]
    exact (yields_expect _ reach.rest isSemicolon).behind.map
  | initialised isIdent isEquals body isSemicolon =>
    refine (yields_expect _ hc isIdent).andThen fun d lt reach => ?_
    have notString : d.check .string = false := by simp [Cursor.check, reach.rest, isEquals]
    obtain ⟨s, hs, rfl, reach'⟩ :=
      Cursor.take?_of_rest (· == .equal) reach.rest (by simpa using isEquals)
    simp only [notString, hs, Bool.false_eq_true, if_false]
    exact ((body.readThen isSemicolon (.inl rfl) _ reach'.rest).behind.from reach').map

theorem Grammar.Parameters.reads {params : List Token} (h : Parameters ts params us) :
    ∀ {closing : Token} {rest : List Token}, us = closing :: rest → closing.kind = .rightParen →
      ∀ (count : Nat) (c : Cursor), c.rest = ts → count + params.length ≤ maxArguments →
        (Stmt.readParams count c).Yields c params rest := by
  induction h with
  | last isIdent =>
    intro closing rest hu isClosing count c hc few
    rw [Stmt.readParams]
    refine ((yields_expect _ (c := c.limit count .tooManyParameters) hc isIdent).from
      (Cursor.reaches_limit few _)).andThen fun d lt reach => ?_
    have notComma : d.take? (· == .comma) = none :=
      Cursor.take?_none_of_rest (reach.rest.trans hu) (by simp [isClosing])
    simp only [notComma]
    exact (yields_expect _ (reach.rest.trans hu) isClosing).behind.map
  | more isIdent isComma _ ih =>
    intro closing rest hu isClosing count c hc few
    simp only [List.length_cons] at few
    rw [Stmt.readParams]
    refine ((yields_expect _ (c := c.limit count .tooManyParameters) hc isIdent).from
      (Cursor.reaches_limit (by omega) _)).andThen fun d lt reach => ?_
    obtain ⟨s, hs, rfl, reach'⟩ :=
      Cursor.take?_of_rest (· == .comma) reach.rest (by simpa using isComma)
    simp only [hs]
    exact ((ih hu isClosing (count + 1) s.after reach'.rest (by omega)).behind.from reach').map

theorem Grammar.Head.reads {ident : Token} {params : List Token} (h : Head ts ident params rest)
    (hc : c.rest = ts) : (Stmt.readHead c).Yields c (ident, params) rest := by
  unfold Stmt.readHead
  cases h with
  | empty isIdent isOpening isClosing isBrace =>
    refine (yields_expect _ hc isIdent).andThen fun d lt reach => ?_
    refine (yields_expect _ reach.rest isOpening).behind.andThen fun d₂ lt₂ reach₂ => ?_
    obtain ⟨s, hs, rfl, reach₃⟩ :=
      Cursor.take?_of_rest (· == .rightParen) reach₂.rest (by simpa using isClosing)
    simp only [hs]
    refine Yields.andThen (a := []) ⟨_, _, rfl, reach₃⟩ fun d₄ lt₄ reach₄ => ?_
    exact (yields_expect _ reach₄.rest isBrace).behind.map
  | some isIdent isOpening body few isClosing isBrace =>
    refine (yields_expect _ hc isIdent).andThen fun d lt reach => ?_
    refine (yields_expect _ reach.rest isOpening).behind.andThen fun d₂ lt₂ reach₂ => ?_
    have notClosing : d₂.take? (· == .rightParen) = none := by
      cases body with
      | last h => exact Cursor.take?_none_of_rest reach₂.rest (by simp [h])
      | more h => exact Cursor.take?_none_of_rest reach₂.rest (by simp [h])
    simp only [notClosing]
    refine (body.reads rfl isClosing 0 d₂ reach₂.rest (by simpa using few)).behind.andThen
      fun d₃ lt₃ reach₃ => ?_
    exact (yields_expect _ reach₃.rest isBrace).behind.map

theorem Grammar.Clauses.reads {init : Option Stmt} {condition increment : Option Expr}
    (h : Clauses ts init condition increment rest) (hc : c.rest = ts) :
    (Stmt.readClauses c).Yields c (init, condition, increment) rest := by
  obtain @⟨_, _, us, _, _, _, _, _, isOpening, first, second, third⟩ := h
  unfold Stmt.readClauses
  refine (yields_expect _ hc isOpening).andThen fun d lt reach => ?_
  refine Yields.andThen (u := us) (a := init) (Yields.behind ?_) fun d₂ lt₂ reach₂ => ?_
  · cases first with
    | none isSemicolon =>
      obtain ⟨s, hs, rfl, reach'⟩ :=
        Cursor.take?_of_rest (· == .semicolon) reach.rest (by simpa using isSemicolon)
      simp only [hs]
      exact ⟨_, _, rfl, reach'⟩
    | var isVar body =>
      have notSemicolon : d.take? (· == .semicolon) = none :=
        Cursor.take?_none_of_rest reach.rest (by simp [isVar])
      obtain ⟨s, hs, rfl, reach'⟩ :=
        Cursor.take?_of_rest (· == .varWord) reach.rest (by simpa using isVar)
      simp only [notSemicolon, hs]
      exact ((body.reads reach'.rest).behind.from reach').map
    | expression body isSemicolon =>
      have notSemicolon : d.take? (· == .semicolon) = none := body.take?_none reach.rest rfl
      have notVar : d.take? (· == .varWord) = none := body.take?_none reach.rest rfl
      simp only [notSemicolon, notVar]
      exact (body.readThen isSemicolon (.inl rfl) _ reach.rest).map.map
  · refine (second.reads (.inl rfl) _ reach₂.rest).behind.andThen fun d₃ lt₃ reach₃ => ?_
    exact (third.reads (.inr rfl) _ reach₃.rest).behind.map

/-! ### Statements -/

/-- The next token is no `else`. -/
def Grammar.NoElse (ts : List Token) : Prop :=
  ∀ t us, ts = t :: us → t.kind ≠ .elseWord

theorem Grammar.Declaration.noElse {nearest : Prop} {f : Bool} {stmt : Stmt}
    (h : Declaration nearest f ts stmt rest) : NoElse ts := by
  obtain ⟨t, us, rfl, ht⟩ := h.starts
  rintro _ _ ⟨⟩ hk
  rw [hk] at ht
  contradiction

theorem Grammar.Declarations.noElse {nearest : Prop} {f : Bool} {stmts : List Stmt}
    (h : Declarations nearest f ts stmts rest) (hr : NoElse rest) : NoElse ts := by
  cases h with
  | nil => exact hr
  | cons first => exact first.noElse

/-- What reading a declaration without a fault yields. -/
def Resumed.Yields (stmt : Stmt) (rest : List Token) (r : Resumed c) : Prop :=
  r.stmt = some stmt ∧ c.Reaches rest r.after

theorem Reading.Yields.resume {stmt : Stmt} {r : Reading c.left Stmt} (h : r.Yields c stmt rest)
    (pos : 0 < c.left) : (r.resume pos).Yields stmt rest := by
  obtain ⟨after, shorter, rfl, reach⟩ := h
  exact ⟨rfl, reach⟩

theorem Grammar.Expression.readStatement {f : Bool} {semicolon : Token}
    (body : Expression .assignment ts e (semicolon :: rest))
    (isSemicolon : semicolon.kind = .semicolon) (hc : c.rest = ts) :
    (Stmt.read f c).Yields c (.expression e) rest := by
  have read : (Stmt.readExpression c).Yields c (.expression e) rest :=
    (body.readThen isSemicolon (.inl rfl) _ hc).map
  obtain ⟨t, us, rfl, ht⟩ := body.starts
  obtain ⟨s, hs, rfl, -⟩ := Cursor.take?_of_rest (fun _ => Bool.true) hc rfl
  rw [Stmt.read, hs]
  simp only
  split
  -- None of the words that lead to another statement can start an expression.
  case h_7 => exact read
  all_goals
    rename_i hk
    rw [hk] at ht
    contradiction

mutual

/-- What derives from the grammar of statements is read. -/
theorem Grammar.Statement.reads : ∀ {f o : Bool} {ts rest : List Token} {stmt : Stmt},
    Statement True f o ts stmt rest → (o = true → NoElse rest) → ∀ c : Cursor, c.rest = ts →
      (Stmt.read f c).Yields c stmt rest
  | _, _, _, _, _, .expression body isSemicolon, _, c, hc => body.readStatement isSemicolon hc
  | _, _, _, _, _, .print isPrint body isSemicolon, _, c, hc => by
    obtain ⟨s, hs, rfl, reach⟩ := Cursor.take?_of_rest (fun _ => Bool.true) hc rfl
    rw [Stmt.read, hs]
    simp only [isPrint]
    exact (body.readThen isSemicolon (.inl rfl) _ reach.rest).map.behind.from reach
  | _, _, _, _, _, .ret isReturn body, _, c, hc => by
    obtain ⟨s, hs, rfl, reach⟩ := Cursor.take?_of_rest (fun _ => Bool.true) hc rfl
    rw [Stmt.read, hs]
    simp only [isReturn]
    refine Yields.from (Yields.behind ?_) reach
    exact (body.reads (.inl rfl) _ reach.rest).map
  | _, _, _, _, _, .block isOpening body isClosing, _, c, hc => by
    obtain ⟨s, hs, rfl, reach⟩ := Cursor.take?_of_rest (fun _ => Bool.true) hc rfl
    rw [Stmt.read, hs]
    simp only [isOpening]
    exact ((body.readBody rfl isClosing s.after reach.rest).behind.from reach).map
  | _, _, _, _, _, .branch isIf first second, last, c, hc => by
    obtain ⟨s, hs, rfl, reach⟩ := Cursor.take?_of_rest (fun _ => Bool.true) hc rfl
    rw [Stmt.read, hs]
    simp only [isIf]
    refine ((first.reads _ _ reach.rest).behind.from reach).andThen fun d lt reach₁ => ?_
    refine (second.reads (fun _ => last rfl) d reach₁.rest).behind.andThen fun d₂ lt₂ reach₂ => ?_
    have notElse : d₂.take? (· == .elseWord) = none := by
      refine Cursor.take?_eq_none_iff.2 fun t us ht => Bool.eq_false_iff.2 fun hk => ?_
      exact last rfl t us (reach₂.rest ▸ ht) (by simpa using hk)
    simp only [notElse]
    exact yields_done reach₂.rest
  | _, _, _, _, _, .branchElse isIf first second closed isElse third, last, c, hc => by
    obtain ⟨s, hs, rfl, reach⟩ := Cursor.take?_of_rest (fun _ => Bool.true) hc rfl
    rw [Stmt.read, hs]
    simp only [isIf]
    refine ((first.reads _ _ reach.rest).behind.from reach).andThen fun d lt reach₁ => ?_
    refine (second.reads (fun ho => by simp [closed trivial] at ho) d reach₁.rest).behind.andThen
      fun d₂ lt₂ reach₂ => ?_
    obtain ⟨s', hs', rfl, reach₃⟩ :=
      Cursor.take?_of_rest (· == .elseWord) reach₂.rest (by simpa using isElse)
    simp only [hs']
    exact ((third.reads last s'.after reach₃.rest).behind.from reach₃).map
  | _, _, _, _, _, .loop isWhile first second, last, c, hc => by
    obtain ⟨s, hs, rfl, reach⟩ := Cursor.take?_of_rest (fun _ => Bool.true) hc rfl
    rw [Stmt.read, hs]
    simp only [isWhile]
    refine ((first.reads _ _ reach.rest).behind.from reach).andThen fun d lt reach₁ => ?_
    exact (second.reads last d reach₁.rest).behind.map
  | _, _, _, _, _, .forLoop isFor first second, last, c, hc => by
    obtain ⟨s, hs, rfl, reach⟩ := Cursor.take?_of_rest (fun _ => Bool.true) hc rfl
    rw [Stmt.read, hs, forTree_eq]
    simp only [isFor]
    refine ((first.reads reach.rest).behind.from reach).andThen fun d lt reach₁ => ?_
    exact (second.reads last d reach₁.rest).behind.map

theorem Grammar.Declaration.reads : ∀ {f : Bool} {ts rest : List Token} {stmt : Stmt},
    Declaration True f ts stmt rest → NoElse rest → ∀ (c : Cursor) (pos : 0 < c.left),
      c.rest = ts → (Stmt.readDeclaration f c pos).Yields stmt rest
  | _, _, _, _, .function isFun head body isClosing, _, c, pos, hc => by
    obtain ⟨s, hs, rfl, reach⟩ :=
      Cursor.take?_of_rest (· == .funWord) hc (by simpa using isFun)
    rw [Stmt.readDeclaration]
    simp only [hs]
    refine Yields.resume (Yields.from (Yields.behind ?_) reach) pos
    rw [Stmt.readFunction]
    refine (head.reads reach.rest).andThen fun d lt reach₁ => ?_
    exact (body.readBody rfl isClosing d reach₁.rest).behind.map
  | _, _, _, _, .var isVar body, _, c, pos, hc => by
    have notFun : c.take? (· == .funWord) = none :=
      Cursor.take?_none_of_rest hc (by simp [isVar])
    obtain ⟨s, hs, rfl, reach⟩ :=
      Cursor.take?_of_rest (· == .varWord) hc (by simpa using isVar)
    rw [Stmt.readDeclaration]
    simp only [notFun, hs]
    exact ((body.reads reach.rest).behind.from reach).resume pos
  | _, _, _, _, .statement (o := o) inner, hr, c, pos, hc => by
    -- The equation stays as it is: the recursion is on the derivation for these very tokens.
    obtain ⟨t, us, hts, ht⟩ := inner.starts
    have notFun : c.take? (· == .funWord) = none := by
      refine Cursor.take?_none_of_rest (hc.trans hts) (Bool.eq_false_iff.2 fun hk => ?_)
      simp [show t.kind = .funWord by simpa using hk, startsStatement, Grammar.starts,
        startsOperand] at ht
    have notVar : c.take? (· == .varWord) = none := by
      refine Cursor.take?_none_of_rest (hc.trans hts) (Bool.eq_false_iff.2 fun hk => ?_)
      simp [show t.kind = .varWord by simpa using hk, startsStatement, Grammar.starts,
        startsOperand] at ht
    rw [Stmt.readDeclaration]
    simp only [notFun, notVar]
    exact (inner.reads (fun _ => hr) c hc).resume pos

theorem Grammar.Declarations.readBody : ∀ {f : Bool} {ts us : List Token} {stmts : List Stmt},
    Declarations True f ts stmts us → ∀ {closing : Token} {rest : List Token},
      us = closing :: rest → closing.kind = .rightBrace → ∀ c : Cursor, c.rest = ts →
        (Stmt.readBody f c).Yields c stmts rest
  | _, _, _, _, .nil, closing, rest, hu, isClosing, c, hc => by
    obtain ⟨s, hs, rfl, reach⟩ :=
      Cursor.take?_of_rest (· == .rightBrace) (hc.trans hu) (by simpa using isClosing)
    rw [Stmt.readBody]
    split
    · simp_all
    · simp only [hs]
      exact ⟨_, _, rfl, reach⟩
  | _, _, _, _, .cons first later, closing, rest, hu, isClosing, c, hc => by
    have next : NoElse _ := later.noElse (by
      rw [hu]
      rintro _ _ ⟨⟩
      simp [isClosing])
    obtain ⟨t, us, hts, ht⟩ := first.starts
    have notClosing : c.take? (· == .rightBrace) = none := by
      refine Cursor.take?_none_of_rest (hc.trans hts) (Bool.eq_false_iff.2 fun hk => ?_)
      simp [show t.kind = .rightBrace by simpa using hk, startsDeclaration, startsStatement,
        Grammar.starts, startsOperand] at ht
    rw [Stmt.readBody]
    split
    · simp_all
    · rename_i hrest
      obtain ⟨hstmt, reach⟩ := first.reads next c (Cursor.left_pos hrest) hc
      simp only [notClosing, hstmt]
      exact ((later.readBody hu isClosing _ reach.rest).behind.from reach).map

end

/-! ### Scripts -/

theorem Grammar.Declarations.readAll : ∀ {f : Bool} {ts us : List Token} {stmts : List Stmt},
    Declarations True f ts stmts us → f = false → us = [] → ∀ c : Cursor, c.rest = ts →
      (Stmt.readAll c).1 = stmts ∧ (Stmt.readAll c).2.reported = c.reported
  | _, _, _, _, .nil, _, hu, c, hc => by
    rw [Stmt.readAll]
    split
    · exact ⟨rfl, rfl⟩
    · simp_all
  | _, _, _, _, .cons first later, hf, hu, c, hc => by
    have next : NoElse _ := later.noElse (by simp [hu, NoElse])
    obtain ⟨t, us, hts, -⟩ := first.starts
    rw [Stmt.readAll]
    split
    · simp_all
    · rename_i hrest
      subst hf
      obtain ⟨hstmt, reach⟩ := first.reads next c (Cursor.left_pos hrest) hc
      obtain ⟨hlater, quiet⟩ := later.readAll rfl hu _ reach.rest
      exact ⟨by simp [hstmt, hlater], quiet.trans reach.reported⟩

/-- A program is read without a fault, as the tree of its derivation. -/
theorem Script.ofTokens_complete {ts : List Token} {last : Token} {stmts : List Stmt}
    (inner : ∀ t ∈ ts, t.kind ≠ .eof) (isLast : last.kind = .eof) (h : Program True ts stmts) :
    Script.ofTokens (ts ++ [last]) = ⟨stmts, []⟩ := by
  obtain ⟨hstmts, quiet⟩ := Declarations.readAll h rfl rfl ⟨none, ts, last, []⟩ rfl
  rw [Script.ofTokens_append inner isLast, hstmts, quiet]

/-- Reading a script finds no fault exactly if its tokens derive from the grammar, with no more
parameters and arguments than there may be and every `return` in a function.  The statements are
then those of the one derivation in which every `else` belongs to the nearest `if`. -/
theorem Script.ofTokens_iff_program {ts : List Token} {last : Token}
    (inner : ∀ t ∈ ts, t.kind ≠ .eof) (isLast : last.kind = .eof) :
    ((Script.ofTokens (ts ++ [last])).diagnostics = [] ↔ ∃ stmts, Program False ts stmts) ∧
      ∀ stmts, Script.ofTokens (ts ++ [last]) = ⟨stmts, []⟩ ↔ Program True ts stmts := by
  refine ⟨⟨fun quiet => ?_, fun ⟨stmts, h⟩ => ?_⟩, fun stmts => ⟨fun h => ?_, fun h => ?_⟩⟩
  · exact ⟨_, Declarations.toAny (Script.ofTokens_sound inner isLast quiet)⟩
  · obtain ⟨stmts', h'⟩ := Declarations.toNearest h
    rw [Script.ofTokens_complete inner isLast h']
  · have sound := Script.ofTokens_sound inner isLast (by rw [h])
    rwa [h] at sound
  · exact Script.ofTokens_complete inner isLast h

/-- The tokens of `if (a) if (b) c; else d;`. -/
def Grammar.danglingElse : List Token :=
  [⟨.ifWord, "if", none, 1, ⟨0, 2⟩⟩, ⟨.leftParen, "(", none, 1, ⟨3, 4⟩⟩,
    ⟨.ident, "a", none, 1, ⟨4, 5⟩⟩, ⟨.rightParen, ")", none, 1, ⟨5, 6⟩⟩,
    ⟨.ifWord, "if", none, 1, ⟨7, 9⟩⟩, ⟨.leftParen, "(", none, 1, ⟨10, 11⟩⟩,
    ⟨.ident, "b", none, 1, ⟨11, 12⟩⟩, ⟨.rightParen, ")", none, 1, ⟨12, 13⟩⟩,
    ⟨.ident, "c", none, 1, ⟨14, 15⟩⟩, ⟨.semicolon, ";", none, 1, ⟨15, 16⟩⟩,
    ⟨.elseWord, "else", none, 1, ⟨17, 21⟩⟩, ⟨.ident, "d", none, 1, ⟨22, 23⟩⟩,
    ⟨.semicolon, ";", none, 1, ⟨23, 24⟩⟩]

/-- A name on its own is an expression of every rank. -/
theorem Grammar.Expression.ofName {t : Token} (h : t.kind = .ident) (rest : List Token) :
    Expression .assignment (t :: rest) (.name t) rest :=
  .disjunction <| .tighter (l := .disjunction) <| .tighter (l := .conjunction) <|
    .tighter (l := .equality) <| .tighter (l := .comparison) <| .tighter (l := .sum) <|
      .tighter (l := .product) <| .ofCall <| .ofPrimary <| .name h

/-- The `else` in `if (a) if (b) c; else d;` belongs to the second `if`. -/
theorem Script.ofTokens_danglingElse :
    (∀ t ∈ danglingElse, t.kind ≠ .eof) ∧
      (Script.ofTokens (danglingElse ++ [⟨.eof, "", none, 1, ⟨24, 24⟩⟩])) =
        ⟨[.branch (.name ⟨.ident, "a", none, 1, ⟨4, 5⟩⟩)
          (.branch (.name ⟨.ident, "b", none, 1, ⟨11, 12⟩⟩)
            (.expression (.name ⟨.ident, "c", none, 1, ⟨14, 15⟩⟩))
            (some (.expression (.name ⟨.ident, "d", none, 1, ⟨22, 23⟩⟩)))) none], []⟩ := by
  have inner : ∀ t ∈ danglingElse, t.kind ≠ .eof := by decide
  refine ⟨inner, ((Script.ofTokens_iff_program inner rfl).2 _).2 ?_⟩
  refine .cons (.statement (o := true) (.branch (o := false) rfl (.mk rfl (.ofName rfl _) rfl) ?_))
    .nil
  exact .branchElse (o := false) rfl (.mk rfl (.ofName rfl _) rfl)
    (.expression (.ofName rfl _) rfl) (fun _ => rfl) rfl (.expression (.ofName rfl _) rfl)

end ScriptLang

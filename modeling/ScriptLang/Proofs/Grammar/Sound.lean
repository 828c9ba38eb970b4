import ScriptLang.Proofs.Grammar

/-!
# Readers follow the grammar

Whatever a reader yields without a new fault derives from the grammar: the tokens at the cursor
start with the phrase, and the tokens at the cursor afterwards are behind it.

## Main definitions

* `Cursor.Leads` — reading has come from one cursor to another
* `Reading.Sound` — a reading yields a phrase, or reports why not

## Main results

* `Expr.read_sound`, `Stmt.readDeclaration_sound` — the readers of expressions and declarations
* `Stmt.readAll_sound` — without a fault, the tokens of a script are a program
-/

namespace ScriptLang

/-! ### Moving on -/

/-- The cursor `d` can be where reading from `c` has led: the end is the same, and no report was
lost. -/
structure Cursor.Leads (c d : Cursor) : Prop where
  last : d.last = c.last
  reported : c.reported <+: d.reported

namespace Cursor

variable {c d e : Cursor}

theorem Leads.refl (c : Cursor) : c.Leads c := ⟨rfl, List.prefix_rfl⟩

theorem Leads.trans (h : c.Leads d) (h' : d.Leads e) : c.Leads e :=
  ⟨h'.last.trans h.last, h.reported.trans h'.reported⟩

/-- If nothing was reported on the whole way, nothing was reported on the first part. -/
theorem Leads.quiet (h : c.Leads d) (h' : d.Leads e) (quiet : e.reported = c.reported) :
    d.reported = c.reported :=
  List.IsPrefix.eq_of_length_le (quiet ▸ h'.reported) h.reported.length_le

theorem leads_report (c : Cursor) (d : Diagnostic) : c.Leads (c.report d) :=
  ⟨rfl, List.prefix_append _ _⟩

theorem leads_reportIf (c : Cursor) (wrong : Bool) (d : Diagnostic) :
    c.Leads (c.reportIf wrong d) := by
  refine ⟨rfl, ?_⟩
  cases wrong <;> simp [reportIf]

/-- Nothing is reported if nothing is wrong. -/
theorem reportIf_quiet {wrong : Bool} {d : Diagnostic}
    (h : (c.reportIf wrong d).reported = c.reported) : wrong = false := by
  cases wrong with
  | false => rfl
  | true => simp [reportIf] at h

theorem leads_advance (c : Cursor) : c.Leads c.advance := by
  unfold advance
  split
  · exact .refl c
  · exact ⟨rfl, List.prefix_rfl⟩

theorem leads_seekStatement (c : Cursor) : c.Leads c.seekStatement := by
  fun_induction seekStatement c with
  | case1 | case2 => exact .refl _
  | case3 c t rest h hn ih =>
    have step : c.Leads { c with previous := some t, rest } := ⟨rfl, List.prefix_rfl⟩
    exact step.trans ih

theorem leads_synchronize (c : Cursor) : c.Leads c.synchronize :=
  (leads_advance c).trans (leads_seekStatement c.advance)

/-! ### Taking one token -/

section Take

variable {test : TokenKind → Bool}

/-- A token that is taken passes the test and was the next one; nothing else changes. -/
theorem of_take? {t : Taken c} (h : c.take? test = some t) :
    test t.token.kind = true ∧ c.rest = t.token :: t.after.rest ∧
      t.after = { c with previous := some t.token, rest := t.after.rest } := by
  unfold take? at h
  split at h
  · simp at h
  · split at h
    · simp only [Option.some.injEq] at h
      subst h
      exact ⟨‹_›, ‹_›, rfl⟩
    · simp at h

theorem rest_of_take? {t : Taken c} (h : c.take? test = some t) :
    c.rest = t.token :: t.after.rest :=
  (of_take? h).2.1

theorem leads_of_take? {t : Taken c} (h : c.take? test = some t) : c.Leads t.after := by
  rw [(of_take? h).2.2]
  exact ⟨rfl, List.prefix_rfl⟩

/-- A token is taken exactly if it passes the test. -/
theorem take?_eq_none_iff :
    c.take? test = none ↔ ∀ t rest, c.rest = t :: rest → test t.kind = false := by
  unfold take?
  split
  · rename_i h
    simp [h]
  · rename_i t rest h
    by_cases ht : test t.kind = true <;> simp_all

end Take

end Cursor

/-! ### Sound readings -/

namespace Reading

variable {α β : Type} {m n : Nat} {c d : Cursor}

/-- A reading that began at `c`: what it yields is related to the tokens behind it, unless a fault
was found on the way. -/
def Sound (c : Cursor) (D : α → List Token → Prop) : Reading n α → Prop
  | done value after _ => c.Leads after ∧ (after.reported = c.reported → D value after.rest)
  | fault _ after _ => c.Leads after

/-- A later part of a reading is sound for the whole if the parts before reported nothing. -/
theorem Sound.from {D E : α → List Token → Prop} {r : Reading n α} (hr : r.Sound d D)
    (h : c.Leads d) (hD : d.reported = c.reported → ∀ value rest, D value rest → E value rest) :
    r.Sound c E := by
  cases r with
  | done value after shorter =>
    refine ⟨h.trans hr.1, fun quiet => ?_⟩
    have quiet' := h.quiet hr.1 quiet
    exact hD quiet' _ _ (hr.2 (quiet.trans quiet'.symm))
  | fault diagnostic after noLonger => exact h.trans hr

theorem Sound.andThen {D : α → List Token → Prop} {E : β → List Token → Prop} {r : Reading n α}
    {next : (value : α) → (after : Cursor) → after.left < n → Reading n β} (hr : r.Sound c D)
    (hn : ∀ value after shorter,
      (next value after shorter).Sound after fun b rest => D value after.rest → E b rest) :
    (r.andThen next).Sound c E := by
  cases r with
  | done value after shorter =>
    exact (hn value after shorter).from hr.1 fun quiet _ _ h => h (hr.2 quiet)
  | fault diagnostic after noLonger => exact hr

theorem Sound.andThenBehind {D : α → List Token → Prop} {E : β → List Token → Prop}
    {r : Reading m α} {lt : m < n}
    {next : (value : α) → (after : Cursor) → after.left < m → Reading n β} (hr : r.Sound c D)
    (hn : ∀ value after shorter,
      (next value after shorter).Sound after fun b rest => D value after.rest → E b rest) :
    (r.andThenBehind lt next).Sound c E := by
  cases r with
  | done value after shorter =>
    exact (hn value after shorter).from hr.1 fun quiet _ _ h => h (hr.2 quiet)
  | fault diagnostic after noLonger => exact hr

theorem Sound.behind {D : α → List Token → Prop} {r : Reading m α} {lt : m < n}
    (hr : r.Sound c D) : (r.behind lt).Sound c D := by
  cases r <;> exact hr

theorem Sound.map {D : α → List Token → Prop} {E : β → List Token → Prop} {f : α → β}
    {r : Reading n α} (hr : r.Sound c D) (hD : ∀ value rest, D value rest → E (f value) rest) :
    (r.map f).Sound c E := by
  cases r with
  | done value after shorter => exact ⟨hr.1, fun quiet => hD _ _ (hr.2 quiet)⟩
  | fault diagnostic after noLonger => exact hr

theorem Sound.mono {D E : α → List Token → Prop} {r : Reading n α} (hr : r.Sound c D)
    (hD : ∀ value rest, D value rest → E value rest) : r.Sound c E :=
  hr.from (.refl c) fun _ => hD

/-- What is read behind a token that was taken. -/
theorem Sound.afterTaken {D E : α → List Token → Prop} {test : TokenKind → Bool}
    {t : Cursor.Taken c} {r : Reading n α} (hr : r.Sound t.after D) (h : c.take? test = some t)
    (hD : ∀ value rest, D value rest → E value rest) : r.Sound c E :=
  hr.from (Cursor.leads_of_take? h) fun _ => hD

theorem sound_done {D : α → List Token → Prop} {value : α} {lt : c.left < n}
    (h : D value c.rest) : (done value c lt).Sound c D :=
  ⟨.refl c, fun _ => h⟩

theorem sound_failAt {D : α → List Token → Prop} (c : Cursor) (why : SyntaxFault) :
    (c.failAt why : Reading c.left α).Sound c D :=
  Cursor.Leads.refl c

theorem sound_expect (c : Cursor) (kind : TokenKind) (why : SyntaxFault) :
    (c.expect kind why).Sound c fun t rest => c.rest = t :: rest ∧ t.kind = kind := by
  unfold Cursor.expect
  cases h : c.take? (· == kind) with
  | none => exact sound_failAt c why
  | some t =>
    have ht := Cursor.of_take? h
    exact ⟨Cursor.leads_of_take? h, fun _ => ⟨ht.2.1, by simpa using ht.1⟩⟩

end Reading

/-! ### Expressions -/

open Grammar Reading

theorem Expr.ofToken?_sound {t : Token} {e : Expr} (h : Expr.ofToken? t = some e)
    (rest : List Token) : Expression .primary (t :: rest) e rest := by
  unfold Expr.ofToken? at h
  split at h <;> simp only [Option.some.injEq, reduceCtorEq] at h <;> subst h
  · exact .false ‹_›
  · exact .true ‹_›
  · exact .nil ‹_›
  · exact .literal (.inl ‹_›)
  · exact .literal (.inr ‹_›)
  · exact .name ‹_›

/-- Only a name can be assigned to without a fault. -/
theorem Expr.assignment_sound {c : Cursor} {n : Nat} (target : Expr) (equals : Token)
    (value : Expr) (lt : c.left < n) :
    (target.assignment equals value c lt).Sound c fun e rest =>
      ∃ ident, target = .name ident ∧ e = .assign ident value ∧ rest = c.rest := by
  unfold Expr.assignment
  split
  · exact sound_done ⟨_, rfl, rfl, rfl⟩
  · refine ⟨c.leads_report _, fun quiet => ?_⟩
    simp [Cursor.report] at quiet

theorem Level.node_ne_name (l : Level) (op ident : Token) (left right : Expr) :
    l.node op left right ≠ .name ident := by
  cases l <;> simp [Level.node]

/-- An expression that is a name is a single token. -/
theorem Grammar.Expression.eq_of_name {ident : Token} :
    ∀ {r : Rank} {ts rest : List Token} {e : Expr}, Expression r ts e rest → e = .name ident →
      ts = ident :: rest ∧ ident.kind = .ident
  | _, _, _, _, .name isIdent, rfl => ⟨rfl, isIdent⟩
  | _, _, _, _, .disjunction inner, h => inner.eq_of_name h
  | _, _, _, _, .tighter inner, h => inner.eq_of_name h
  | _, _, _, _, .ofCall inner, h => inner.eq_of_name h
  | _, _, _, _, .ofPrimary inner, h => inner.eq_of_name h
  | _, _, _, _, .operation .., h => (Level.node_ne_name _ _ _ _ _ h).elim
  | _, _, _, _, .assign .., h | _, _, _, _, .unary .., h | _, _, _, _, .callEmpty .., h
  | _, _, _, _, .call .., h | _, _, _, _, .true .., h | _, _, _, _, .false .., h
  | _, _, _, _, .nil .., h | _, _, _, _, .literal .., h | _, _, _, _, .group .., h => nomatch h

mutual

theorem Expr.read_sound (c : Cursor) :
    (Expr.read c).Sound c fun e rest => Expression .assignment c.rest e rest := by
  rw [Expr.read]
  refine (Expr.readLevel_sound (some .disjunction) c).andThen fun target c₁ h₁ => ?_
  cases h : c₁.take? (· == .equal) with
  | none => exact sound_done .disjunction
  | some equals =>
    have isEquals : equals.token.kind = .equal := by simpa using (Cursor.of_take? h).1
    refine ((Expr.read_sound equals.after).behind.andThen fun value c₂ h₂ => ?_).afterTaken h
      (D := fun e rest => ∃ ident value, target = .name ident ∧ e = .assign ident value ∧
        Expression .assignment equals.after.rest value rest) ?_
    · refine (Expr.assignment_sound target equals.token value h₂).mono ?_
      rintro e rest ⟨ident, rfl, rfl, rfl⟩ right
      exact ⟨ident, value, rfl, rfl, right⟩
    · rintro e rest ⟨ident, value, rfl, rfl, right⟩ left
      obtain ⟨hc, isIdent⟩ := left.eq_of_name rfl
      rw [hc, Cursor.rest_of_take? h]
      exact .assign isIdent isEquals right
termination_by (c.left, 9)
decreasing_by
  · exact Prod.Lex.right _ (by decide)
  · exact Prod.Lex.left _ _ (equals.further h₁)

theorem Expr.readLevel_sound (level : Option Level) (c : Cursor) :
    (Expr.readLevel level c).Sound c fun e rest => Expression (.level level) c.rest e rest := by
  cases level with
  | none =>
    rw [Expr.readLevel]
    exact Expr.readPrefixed_sound c
  | some l =>
    rw [Expr.readLevel]
    refine (Expr.readLevel_sound l.tighter? c).andThen fun left c₁ h₁ => ?_
    refine (Expr.readOperators_sound l left c₁ c.left h₁).mono fun e rest h left => ?_
    exact h _ (.tighter left)
termination_by (c.left, 2 + Level.rank? level)
decreasing_by
  · exact Prod.Lex.right _ (by omega)
  · exact Prod.Lex.right _ (Nat.add_lt_add_left (Level.rank?_tighter? l) 2)
  · exact Prod.Lex.left _ _ h₁

theorem Expr.readOperators_sound (l : Level) (left : Expr) (c : Cursor) (bound : Nat)
    (lt : c.left < bound) :
    (Expr.readOperators l left c bound lt).Sound c fun e rest =>
      ∀ ts, Expression (.level (some l)) ts left c.rest →
        Expression (.level (some l)) ts e rest := by
  rw [Expr.readOperators]
  cases h : c.take? l.has with
  | none => exact sound_done fun _ left => left
  | some op =>
    refine ((Expr.readLevel_sound l.tighter? op.after).afterTaken h fun right rest second ts left =>
      ?_).behind.andThenBehind
        (D := fun right rest => ∀ ts, Expression (.level (some l)) ts left c.rest →
          Expression (.level (some l)) ts (l.node op.token left right) rest)
        fun right c₁ h₁ => ?_
    · rw [Cursor.rest_of_take? h] at left
      exact .operation left (Cursor.of_take? h).1 second
    · refine (Expr.readOperators_sound l (l.node op.token left right) c₁ bound _).mono
        fun e rest h hd ts left => ?_
      exact h ts (hd ts left)
termination_by (c.left, 0)
decreasing_by
  · exact Prod.Lex.left _ _ op.shorter
  · exact Prod.Lex.left _ _ h₁

theorem Expr.readPrefixed_sound (c : Cursor) :
    (Expr.readPrefixed c).Sound c fun e rest => Expression (.level none) c.rest e rest := by
  rw [Expr.readPrefixed]
  cases h : c.take? (fun kind => kind == .bang || kind == .minus) with
  | some op =>
    have isOp : op.token.kind = .bang ∨ op.token.kind = .minus := by
      simpa using (Cursor.of_take? h).1
    refine ((Expr.readPrefixed_sound op.after).behind.map fun operand rest inner => ?_).afterTaken h
      (D := fun e rest => Expression (.level none) c.rest e rest) fun _ _ h => h
    rw [Cursor.rest_of_take? h]
    exact .unary isOp inner
  | none =>
    refine (Expr.readPrimary_sound c).andThen fun callee c₁ h₁ => ?_
    refine (Expr.readCalls_sound callee c₁ c.left h₁).mono fun e rest h primary => ?_
    exact .ofCall (h _ (.ofPrimary primary))
termination_by (c.left, 1)
decreasing_by
  · exact Prod.Lex.right _ (by decide)
  · exact Prod.Lex.left _ _ h₁
  · exact Prod.Lex.left _ _ op.shorter

theorem Expr.readCalls_sound (callee : Expr) (c : Cursor) (bound : Nat) (lt : c.left < bound) :
    (Expr.readCalls callee c bound lt).Sound c fun e rest =>
      ∀ ts, Expression .call ts callee c.rest → Expression .call ts e rest := by
  rw [Expr.readCalls]
  cases h : c.take? (· == .leftParen) with
  | none => exact sound_done fun _ callee => callee
  | some opening =>
    have isOpening : opening.token.kind = .leftParen := by simpa using (Cursor.of_take? h).1
    have hc := Cursor.rest_of_take? h
    refine Sound.andThenBehind
      (D := fun args rest => ∀ ts, Expression .call ts callee c.rest →
        Expression .call ts (.call callee args.2 args.1) rest) ?_ fun args c₁ h₁ => ?_
    · refine Sound.behind (Sound.afterTaken (D := fun args rest =>
        ∀ ts, Expression .call ts callee c.rest →
          Expression .call ts (.call callee args.2 args.1) rest) ?_ h fun _ _ h => h)
      cases h' : opening.after.take? (· == .rightParen) with
      | some closing =>
        have isClosing : closing.token.kind = .rightParen := by simpa using (Cursor.of_take? h').1
        refine ⟨Cursor.leads_of_take? h', fun _ ts first => ?_⟩
        rw [hc, Cursor.rest_of_take? h'] at first
        exact .callEmpty first isOpening isClosing
      | none =>
        refine (Expr.readArguments_sound 0 opening.after).mono fun args rest h ts first => ?_
        rw [hc] at first
        exact .call first isOpening h.2.2 (by simpa using h.1) h.2.1
    · refine (Expr.readCalls_sound (.call callee args.2 args.1) c₁ bound _).mono
        fun e rest h hd ts first => ?_
      exact h ts (hd ts first)
termination_by (c.left, 0)
decreasing_by
  · exact Prod.Lex.left _ _ opening.shorter
  · exact Prod.Lex.left _ _ h₁

theorem Expr.readArguments_sound (count : Nat) (c : Cursor) :
    (Expr.readArguments count c).Sound c fun args rest =>
      count + args.1.length ≤ maxArguments ∧ args.2.kind = .rightParen ∧
        Arguments c.rest args.1 (args.2 :: rest) := by
  rw [Expr.readArguments]
  refine ((Expr.read_sound (c.limit count .tooManyArguments)).from (Cursor.leads_reportIf ..)
    (E := fun arg rest => count < maxArguments ∧ Expression .assignment c.rest arg rest)
    fun quiet arg rest first => ?_).andThen fun arg c₁ h₁ => ?_
  · have few := Cursor.reportIf_quiet quiet
    exact ⟨Nat.lt_of_not_le (of_decide_eq_false few), first⟩
  · cases h : c₁.take? (· == .comma) with
    | some comma =>
      have isComma : comma.token.kind = .comma := by simpa using (Cursor.of_take? h).1
      refine ((Expr.readArguments_sound (count + 1) comma.after).afterTaken h
        fun _ _ h => h).behind.map fun args rest later first => ?_
      rw [Cursor.rest_of_take? h] at first
      refine ⟨?_, later.2.1, .more first.2 isComma later.2.2⟩
      have := later.1
      simp only [List.length_cons]
      omega
    | none =>
      refine (sound_expect c₁ .rightParen _).behind.map fun closing rest hc first => ?_
      rw [hc.1] at first
      exact ⟨first.1, hc.2, .last first.2⟩
termination_by (c.left, 10)
decreasing_by
  · exact Prod.Lex.right _ (by decide)
  · exact Prod.Lex.left _ _ (comma.further h₁)

theorem Expr.readPrimary_sound (c : Cursor) :
    (Expr.readPrimary c).Sound c fun e rest => Expression .primary c.rest e rest := by
  rw [Expr.readPrimary]
  cases h : c.take? (· == .leftParen) with
  | some opening =>
    have isOpening : opening.token.kind = .leftParen := by simpa using (Cursor.of_take? h).1
    refine ((Expr.read_sound opening.after).behind.andThen fun inner c₁ h₁ => ?_).afterTaken h
      (D := fun e rest => Expression .primary c.rest e rest) fun _ _ h => h
    refine (sound_expect c₁ .rightParen _).behind.map fun closing rest hc body => ?_
    rw [hc.1] at body
    rw [Cursor.rest_of_take? h]
    exact .group isOpening body hc.2
  | none =>
    cases ht : c.take? (fun _ => true) with
    | none => cases Expr.ofToken? c.peek <;> exact sound_failAt c _
    | some t =>
      have hc := Cursor.rest_of_take? ht
      cases he : Expr.ofToken? c.peek with
      | none => exact sound_failAt c _
      | some expr =>
        refine ⟨Cursor.leads_of_take? ht, fun _ => ?_⟩
        rw [Cursor.peek, hc] at he
        rw [hc]
        exact Expr.ofToken?_sound he _
termination_by (c.left, 0)
decreasing_by exact Prod.Lex.left _ _ opening.shorter

end

/-! ### Parts of statements -/

theorem Expr.readUntil_sound (closing : TokenKind) (why : SyntaxFault) (c : Cursor) :
    (Expr.readUntil closing why c).Sound c fun e rest => Until closing c.rest e rest := by
  unfold Expr.readUntil
  cases h : c.take? (· == closing) with
  | some t =>
    refine ⟨Cursor.leads_of_take? h, fun _ => ?_⟩
    rw [Cursor.rest_of_take? h]
    exact .none (by simpa using (Cursor.of_take? h).1)
  | none =>
    refine (Expr.read_sound c).andThen fun e c₁ h₁ => ?_
    refine (sound_expect c₁ closing why).behind.map fun t rest ht body => ?_
    rw [ht.1] at body
    exact .some body ht.2

theorem Expr.readThen_sound (closing : TokenKind) (why : SyntaxFault) (c : Cursor) :
    (Expr.readThen closing why c).Sound c fun e rest =>
      ∃ t, t.kind = closing ∧ Expression .assignment c.rest e (t :: rest) := by
  unfold Expr.readThen
  refine (Expr.read_sound c).andThen fun e c₁ h₁ => ?_
  refine (sound_expect c₁ closing why).behind.map fun t rest ht body => ?_
  rw [ht.1] at body
  exact ⟨t, ht.2, body⟩

theorem Expr.readCondition_sound (opening closing : SyntaxFault) (c : Cursor) :
    (Expr.readCondition opening closing c).Sound c fun e rest => Condition c.rest e rest := by
  unfold Expr.readCondition
  refine (sound_expect c .leftParen opening).andThen fun t c₁ h₁ => ?_
  refine (Expr.readThen_sound .rightParen closing c₁).behind.mono fun e rest body ht => ?_
  obtain ⟨u, isClosing, body⟩ := body
  rw [ht.1]
  exact .mk ht.2 body isClosing

theorem Stmt.readExpression_sound (f : Bool) (c : Cursor) :
    (Stmt.readExpression c).Sound c fun stmt rest =>
      Statement True f false c.rest stmt rest ∧
        Initialiser c.rest (some stmt) rest := by
  unfold Stmt.readExpression
  refine (Expr.readThen_sound .semicolon _ c).map fun e rest body => ?_
  obtain ⟨t, isSemicolon, body⟩ := body
  exact ⟨.expression body isSemicolon, .expression body isSemicolon⟩

theorem Stmt.readPrint_sound (f : Bool) {keyword : Token}
    (isPrint : keyword.kind = .printWord) (c : Cursor) :
    (Stmt.readPrint keyword c).Sound c fun stmt rest =>
      Statement True f false (keyword :: c.rest) stmt rest := by
  unfold Stmt.readPrint
  refine (Expr.readThen_sound .semicolon _ c).map fun e rest body => ?_
  obtain ⟨t, isSemicolon, body⟩ := body
  exact .print isPrint body isSemicolon

theorem Stmt.readReturn_sound (f : Bool) {keyword : Token}
    (isReturn : keyword.kind = .returnWord) (c : Cursor) :
    (Stmt.readReturn f keyword c).Sound c fun stmt rest =>
      Statement True f false (keyword :: c.rest) stmt rest := by
  unfold Stmt.readReturn
  refine Sound.map (D := fun e rest => f = true ∧ Until .semicolon c.rest e rest) ?_ ?_
  · refine (Expr.readUntil_sound .semicolon _ _).from (Cursor.leads_reportIf ..)
      fun quiet e rest body => ⟨?_, body⟩
    simpa using Cursor.reportIf_quiet quiet
  · rintro e rest ⟨rfl, body⟩
    exact .ret isReturn body

theorem Stmt.readVar_sound (c : Cursor) :
    (Stmt.readVar c).Sound c fun stmt rest => Variable c.rest stmt rest := by
  unfold Stmt.readVar
  refine (sound_expect c .ident _).andThen fun ident c₁ h₁ => ?_
  split
  · exact (sound_failAt c₁ _).behind
  · cases h : c₁.take? (· == .equal) with
    | some equals =>
      have isEquals : equals.token.kind = .equal := by simpa using (Cursor.of_take? h).1
      refine (Sound.behind ?_).map (D := fun init rest => ∃ t, t.kind = .semicolon ∧
        Expression .assignment equals.after.rest init (t :: rest)) ?_
      · exact (Expr.readThen_sound .semicolon _ equals.after).afterTaken h fun _ _ h => h
      · rintro init rest ⟨t, isSemicolon, body⟩ ⟨hc, isIdent⟩
        rw [hc, Cursor.rest_of_take? h]
        exact .initialised isIdent isEquals body isSemicolon
    | none =>
      refine (sound_expect c₁ .semicolon _).behind.map fun t rest ht hident => ?_
      rw [hident.1, ht.1]
      exact .bare hident.2 ht.2

theorem Stmt.readParams_sound (count : Nat) (c : Cursor) :
    (Stmt.readParams count c).Sound c fun params rest =>
      count + params.length ≤ maxArguments ∧
        ∃ closing, closing.kind = .rightParen ∧ Parameters c.rest params (closing :: rest) := by
  rw [Stmt.readParams]
  refine ((sound_expect (c.limit count .tooManyParameters) .ident _).from
    (Cursor.leads_reportIf ..)
    (E := fun param rest => count < maxArguments ∧ c.rest = param :: rest ∧ param.kind = .ident)
    fun quiet param rest first => ?_).andThen fun param c₁ h₁ => ?_
  · have few := Cursor.reportIf_quiet quiet
    exact ⟨Nat.lt_of_not_le (of_decide_eq_false few), first⟩
  · cases h : c₁.take? (· == .comma) with
    | some comma =>
      have isComma : comma.token.kind = .comma := by simpa using (Cursor.of_take? h).1
      refine ((Stmt.readParams_sound (count + 1) comma.after).afterTaken h
        fun _ _ h => h).behind.map fun params rest later first => ?_
      obtain ⟨few, closing, isClosing, later⟩ := later
      rw [first.2.1, Cursor.rest_of_take? h]
      refine ⟨?_, closing, isClosing, .more first.2.2 isComma later⟩
      simp only [List.length_cons]
      omega
    | none =>
      refine (sound_expect c₁ .rightParen _).behind.map fun closing rest hc first => ?_
      rw [first.2.1, hc.1]
      exact ⟨first.1, closing, hc.2, .last first.2.2⟩
termination_by c.left
decreasing_by exact comma.further h₁

theorem Stmt.readHead_sound (c : Cursor) :
    (Stmt.readHead c).Sound c fun head rest => Head c.rest head.1 head.2 rest := by
  unfold Stmt.readHead
  refine (sound_expect c .ident _).andThen fun ident c₁ h₁ => ?_
  refine (sound_expect c₁ .leftParen _).behind.andThen fun opening c₂ h₂ => ?_
  refine Sound.andThen (D := fun params rest => ∀ brace us, rest = brace :: us →
    brace.kind = .leftBrace → c₁.rest = opening :: c₂.rest ∧ opening.kind = .leftParen →
      c.rest = ident :: c₁.rest ∧ ident.kind = .ident → Head c.rest ident params us) ?_
    fun params c₃ h₃ => ?_
  · refine Sound.behind ?_
    cases h : c₂.take? (· == .rightParen) with
    | some closing =>
      have isClosing : closing.token.kind = .rightParen := by simpa using (Cursor.of_take? h).1
      refine ⟨Cursor.leads_of_take? h, fun _ brace us hb isBrace hopening hident => ?_⟩
      rw [hident.1, hopening.1, Cursor.rest_of_take? h, hb]
      exact .empty hident.2 hopening.2 isClosing isBrace
    | none =>
      refine (Stmt.readParams_sound 0 c₂).mono fun params rest h brace us hb isBrace hopening
        hident => ?_
      obtain ⟨few, closing, isClosing, params⟩ := h
      subst hb
      rw [hident.1, hopening.1]
      exact .some hident.2 hopening.2 params (by simpa using few) isClosing isBrace
  · refine (sound_expect c₃ .leftBrace _).behind.map fun brace rest hb params hopening hident => ?_
    exact params brace rest hb.1 hb.2 hopening hident

theorem Stmt.readClauses_sound (c : Cursor) :
    (Stmt.readClauses c).Sound c fun clauses rest =>
      Clauses c.rest clauses.1 clauses.2.1 clauses.2.2 rest := by
  unfold Stmt.readClauses
  refine (sound_expect c .leftParen _).andThen fun opening c₁ h₁ => ?_
  refine Sound.andThen (D := fun init rest => Initialiser c₁.rest init rest) (Sound.behind ?_)
    fun init c₂ h₂ => ?_
  · cases h : c₁.take? (· == .semicolon) with
    | some t =>
      refine ⟨Cursor.leads_of_take? h, fun _ => ?_⟩
      rw [Cursor.rest_of_take? h]
      exact .none (by simpa using (Cursor.of_take? h).1)
    | none =>
      cases h' : c₁.take? (· == .varWord) with
      | some t =>
        have isVar : t.token.kind = .varWord := by simpa using (Cursor.of_take? h').1
        refine ((Stmt.readVar_sound t.after).afterTaken h' fun _ _ h => h).behind.map
          fun stmt rest body => ?_
        rw [Cursor.rest_of_take? h']
        exact .var isVar body
      | none =>
        exact (Stmt.readExpression_sound false c₁).map fun _ _ h => h.2
  · refine (Expr.readUntil_sound .semicolon _ c₂).behind.andThen fun condition c₃ h₃ => ?_
    refine (Expr.readUntil_sound .rightParen _ c₃).behind.map
      fun increment rest third second first hopening => ?_
    rw [hopening.1]
    exact .mk hopening.2 first second third

/-! ### Statements -/

/-- A fault that is reported makes the reports grow, so a declaration without one was read. -/
theorem Reading.resume_sound {c : Cursor} {D : Stmt → List Token → Prop}
    {r : Reading c.left Stmt} (hr : r.Sound c D) (pos : 0 < c.left) :
    c.Leads (r.resume pos).after ∧ ((r.resume pos).after.reported = c.reported →
      ∃ stmt, (r.resume pos).stmt = some stmt ∧ D stmt (r.resume pos).after.rest) := by
  cases r with
  | done stmt after shorter => exact ⟨hr.1, fun quiet => ⟨stmt, rfl, hr.2 quiet⟩⟩
  | fault d after noLonger =>
    have toReport : c.Leads (after.report d) := Cursor.Leads.trans hr (after.leads_report d)
    have toSync := (after.report d).leads_synchronize
    refine ⟨toReport.trans toSync, fun quiet => ?_⟩
    have quiet' := toReport.quiet toSync quiet
    have := congrArg List.length quiet'
    have := Cursor.Leads.reported hr |>.length_le
    simp only [Cursor.report, List.length_append, List.length_singleton] at *
    omega

/-- What is known of a statement that has been read: an `else` behind it would have been read with
it if it ended with an `if` that lacks one. -/
def Grammar.Greedy (f : Bool) (ts : List Token) (stmt : Stmt) (rest : List Token) : Prop :=
  ∃ o, Statement True f o ts stmt rest ∧
    (o = true → ∀ t us, rest = t :: us → t.kind ≠ .elseWord)

theorem Grammar.Greedy.of_closed {f : Bool} {ts rest : List Token} {stmt : Stmt}
    (h : Statement True f false ts stmt rest) : Greedy f ts stmt rest :=
  ⟨false, h, nofun⟩

mutual

theorem Stmt.readDeclaration_sound (f : Bool) (c : Cursor) (pos : 0 < c.left) :
    c.Leads (Stmt.readDeclaration f c pos).after ∧
      ((Stmt.readDeclaration f c pos).after.reported = c.reported →
        ∃ stmt, (Stmt.readDeclaration f c pos).stmt = some stmt ∧
          Declaration True f c.rest stmt (Stmt.readDeclaration f c pos).after.rest) := by
  rw [Stmt.readDeclaration]
  refine Reading.resume_sound (D := fun stmt rest => Declaration True f c.rest stmt rest) ?_ pos
  cases h : c.take? (· == .funWord) with
  | some t =>
    have isFun : t.token.kind = .funWord := by simpa using (Cursor.of_take? h).1
    refine ((Stmt.readFunction_sound t.after).behind).afterTaken h fun stmt rest body => ?_
    rw [Cursor.rest_of_take? h]
    exact body f t.token isFun
  | none =>
    cases h' : c.take? (· == .varWord) with
    | some t =>
      have isVar : t.token.kind = .varWord := by simpa using (Cursor.of_take? h').1
      refine ((Stmt.readVar_sound t.after).behind).afterTaken h' fun stmt rest body => ?_
      rw [Cursor.rest_of_take? h']
      exact .var isVar body
    | none =>
      refine (Stmt.read_sound f c).mono fun stmt rest h => ?_
      obtain ⟨o, inner, -⟩ := h
      exact .statement inner
termination_by (c.left, 2)
decreasing_by
  · exact Prod.Lex.right _ (by decide)
  · exact Prod.Lex.left _ _ t.shorter

theorem Stmt.readFunction_sound (c : Cursor) :
    (Stmt.readFunction c).Sound c fun stmt rest =>
      ∀ f (word : Token), word.kind = .funWord → Declaration True f (word :: c.rest) stmt rest := by
  rw [Stmt.readFunction]
  refine (Stmt.readHead_sound c).andThen fun head c₁ h₁ => ?_
  refine (Stmt.readBody_sound true c₁).behind.map fun stmts rest body head f word isFun => ?_
  obtain ⟨closing, isClosing, body⟩ := body
  exact .function isFun head body isClosing
termination_by (c.left, 1)
decreasing_by exact Prod.Lex.left _ _ h₁

theorem Stmt.readBody_sound (f : Bool) (c : Cursor) :
    (Stmt.readBody f c).Sound c fun stmts rest =>
      ∃ closing, closing.kind = .rightBrace ∧
        Declarations True f c.rest stmts (closing :: rest) := by
  rw [Stmt.readBody]
  split
  · exact sound_failAt c _
  · rename_i t us hrest
    cases h : c.take? (· == .rightBrace) with
    | some closing =>
      refine ⟨Cursor.leads_of_take? h, fun _ => ⟨closing.token, ?_, ?_⟩⟩
      · simpa using (Cursor.of_take? h).1
      · rw [Cursor.rest_of_take? h]
        exact .nil
    | none =>
      have first := Stmt.readDeclaration_sound f c (Cursor.left_pos hrest)
      refine ((Stmt.readBody_sound f _).from first.1 (E := fun stmts rest =>
        ∃ closing, closing.kind = .rightBrace ∧ Declarations True f c.rest
          ((Stmt.readDeclaration f c (Cursor.left_pos hrest)).stmt.toList ++ stmts)
            (closing :: rest)) fun quiet stmts rest later => ?_).behind.map fun _ _ h => h
      obtain ⟨stmt, hstmt, first⟩ := first.2 quiet
      obtain ⟨closing, isClosing, later⟩ := later
      rw [hstmt]
      exact ⟨closing, isClosing, .cons first later⟩
termination_by (c.left, 3)
decreasing_by
  · exact Prod.Lex.right _ (by decide)
  · exact Prod.Lex.left _ _ (Resumed.shorter _)

theorem Stmt.read_sound (f : Bool) (c : Cursor) :
    (Stmt.read f c).Sound c fun stmt rest => Greedy f c.rest stmt rest := by
  rw [Stmt.read]
  cases h : c.take? (fun _ => true) with
  | none => exact (Stmt.readExpression_sound f c).mono fun _ _ h => .of_closed h.1
  | some t =>
    have hc := Cursor.rest_of_take? h
    simp only
    split
    · rename_i isFor
      refine (((Stmt.readClauses_sound t.after).afterTaken h
        (E := fun clauses rest =>
          Clauses t.after.rest clauses.1 clauses.2.1 clauses.2.2 rest)
        fun _ _ h => h).behind).andThen fun clauses c₁ h₁ => ?_
      refine (Stmt.read_sound f c₁).behind.map fun body rest second first => ?_
      obtain ⟨o, second, last⟩ := second
      rw [hc, ← forTree_eq]
      exact ⟨o, .forLoop isFor first second, last⟩
    · rename_i isIf
      refine (((Expr.readCondition_sound _ _ t.after).afterTaken h
        (E := fun e rest => Condition t.after.rest e rest) fun _ _ h => h).behind).andThen
        fun condition c₁ h₁ => ?_
      refine (Stmt.read_sound f c₁).behind.andThen fun yes c₂ h₂ => ?_
      cases h' : c₂.take? (· == .elseWord) with
      | none =>
        refine sound_done fun second first => ?_
        obtain ⟨o, second, -⟩ := second
        rw [hc]
        refine ⟨true, .branch isIf first second, fun _ u us hu => ?_⟩
        simpa using Cursor.take?_eq_none_iff.1 h' u us hu
      | some other =>
        have isElse : other.token.kind = .elseWord := by simpa using (Cursor.of_take? h').1
        refine (((Stmt.read_sound f other.after).afterTaken h'
          (E := fun stmt rest => Greedy f other.after.rest stmt rest) fun _ _ h => h).behind).map
            fun no rest third second first => ?_
        obtain ⟨o', third, last⟩ := third
        obtain ⟨o, second, greedy⟩ := second
        rw [Cursor.rest_of_take? h'] at second greedy
        rw [hc]
        refine ⟨o', .branchElse isIf first second (fun _ => ?_) isElse third, last⟩
        exact Bool.eq_false_iff.2 fun ho => greedy ho _ _ rfl isElse
    · rename_i isPrint
      refine ((Stmt.readPrint_sound f isPrint t.after).behind).afterTaken h fun stmt rest body => ?_
      rw [hc]
      exact .of_closed body
    · rename_i isReturn
      refine ((Stmt.readReturn_sound f isReturn t.after).behind).afterTaken h
        fun stmt rest body => ?_
      rw [hc]
      exact .of_closed body
    · rename_i isWhile
      refine (((Expr.readCondition_sound _ _ t.after).afterTaken h
        (E := fun e rest => Condition t.after.rest e rest) fun _ _ h => h).behind).andThen
        fun condition c₁ h₁ => ?_
      refine (Stmt.read_sound f c₁).behind.map fun body rest second first => ?_
      obtain ⟨o, second, last⟩ := second
      rw [hc]
      exact ⟨o, .loop isWhile first second, last⟩
    · rename_i isBrace
      refine (((Stmt.readBody_sound f t.after).afterTaken h fun _ _ h => h).behind).map
        fun stmts rest body => ?_
      obtain ⟨closing, isClosing, body⟩ := body
      rw [hc]
      exact .of_closed (.block isBrace body isClosing)
    · exact (Stmt.readExpression_sound f c).mono fun _ _ h => .of_closed h.1
termination_by (c.left, 1)
decreasing_by
  · exact Prod.Lex.left _ _ h₁
  · exact Prod.Lex.left _ _ h₁
  · exact Prod.Lex.left _ _ (other.further h₂)
  · exact Prod.Lex.left _ _ h₁
  · exact Prod.Lex.left _ _ t.shorter

end

/-! ### Scripts -/

theorem Stmt.readAll_sound (c : Cursor) :
    c.Leads (Stmt.readAll c).2 ∧ ((Stmt.readAll c).2.reported = c.reported →
      Program True c.rest (Stmt.readAll c).1) := by
  rw [Stmt.readAll]
  split
  · rename_i hrest
    refine ⟨.refl c, fun _ => ?_⟩
    rw [hrest]
    exact .nil
  · rename_i t us hrest
    obtain ⟨toFirst, first⟩ := Stmt.readDeclaration_sound false c (Cursor.left_pos hrest)
    obtain ⟨toLast, later⟩ :=
      Stmt.readAll_sound (Stmt.readDeclaration false c (Cursor.left_pos hrest)).after
    refine ⟨toFirst.trans toLast, fun quiet => ?_⟩
    have quiet' := toFirst.quiet toLast quiet
    obtain ⟨stmt, hstmt, first⟩ := first quiet'
    simp only [hstmt]
    exact .cons first (later (quiet.trans quiet'.symm))
termination_by c.left
decreasing_by exact Resumed.shorter _

/-- The reader starts at the first token of a list that an end token closes. -/
theorem Cursor.start?_append {ts : List Token} {last : Token} (inner : ∀ t ∈ ts, t.kind ≠ .eof)
    (isLast : last.kind = .eof) : Cursor.start? (ts ++ [last]) = some ⟨none, ts, last, []⟩ := by
  have hbody : ∀ t ∈ ts, (t.kind != .eof) = true := by simpa using inner
  simp [Cursor.start?, List.takeWhile_append_of_pos hbody, List.dropWhile_append_of_pos hbody,
    isLast]

theorem Script.ofTokens_append {ts : List Token} {last : Token} (inner : ∀ t ∈ ts, t.kind ≠ .eof)
    (isLast : last.kind = .eof) :
    Script.ofTokens (ts ++ [last]) =
      ⟨(Stmt.readAll ⟨none, ts, last, []⟩).1, (Stmt.readAll ⟨none, ts, last, []⟩).2.reported⟩ := by
  rw [Script.ofTokens, Cursor.start?_append inner isLast]

/-- A script that is read without a fault is a program. -/
theorem Script.ofTokens_sound {ts : List Token} {last : Token} (inner : ∀ t ∈ ts, t.kind ≠ .eof)
    (isLast : last.kind = .eof) (quiet : (Script.ofTokens (ts ++ [last])).diagnostics = []) :
    Program True ts (Script.ofTokens (ts ++ [last])).stmts := by
  rw [Script.ofTokens_append inner isLast] at quiet ⊢
  exact (Stmt.readAll_sound ⟨none, ts, last, []⟩).2 quiet

end ScriptLang

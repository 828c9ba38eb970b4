import ScriptLang.Proofs.Input
import ScriptLang.Proofs.Layout
import ScriptLang.Proofs.Printing

/-!
# Single expressions and scripts that print them

Evaluating a text as a single expression and running the script that prints its value are two ways
through a session.  Here they are walked side by side.  If one of them finds a fault in the text, so
does the other.  Otherwise both ask the host the same questions and leave the same frames, and at
the end the script has written the text of the value, or both have failed in the same way.  The
token of such a failure stands six characters further on in the script if it is one of the text,
and is the same token if it belongs to a function that was declared in an earlier unit.

## Main definitions

* `Action.Beside` — actions that ask the same and end with the same results, wherever errors are
* `Correspondence.printed` — tokens of earlier functions, and tokens of the text in the script
* `Session.Holds` — the tokens of all functions that a session holds are of some kind
* `Session.PrintsResult` — how evaluating a text and running the script that prints it end

## Main results

* `eval_beside` — where its tokens stand has no influence on what an expression does
* `eval_printed` — the operand is evaluated as the text is, and fails at the same token
* `Session.evalExpression_printing` — a text in which no semicolon stands is evaluated as the script
  that prints it is run
-/

namespace ScriptLang

/-! ### Errors aside -/

namespace Action

variable {α β : Type}

/-- Wherever they start, the two actions ask the same and leave the same frames, and either both end
with one result or neither has a result. -/
def Beside (a a' : Action α) : Prop :=
  ∀ s, (a.on s).Follows (fun _ => False)
    (fun p p' => p.1.toOption = p'.1.toOption ∧ p.2 = p'.2) (a'.on s)

namespace Beside

theorem refl (a : Action α) : a.Beside a :=
  fun _ => .refl (Dialogue.ends_of_forall fun _ => ⟨rfl, rfl⟩)

theorem bind {a a' : Action α} {f f' : α → Action β} (h : a.Beside a')
    (next : ∀ x, (f x).Beside (f' x)) : (a >>= f).Beside (a' >>= f') := by
  intro s
  rw [on_bind, on_bind]
  refine (h s).bind ?_ fun _ never => never.elim
  rintro ⟨result, t⟩ ⟨result', t'⟩ ⟨results, frames⟩
  dsimp only at results frames
  subst frames
  cases result with
  | ok x =>
    cases result' with
    | ok x' =>
      obtain rfl : x = x' := Option.some.inj results
      exact next x t
    | error e' => cases results
  | error e =>
    cases result' with
    | ok x' => cases results
    | error e' => exact .done ⟨rfl, rfl⟩

theorem fail (t t' : Token) (fault fault' : RuntimeFault) :
    Beside (Action.fail t fault : Action α) (Action.fail t' fault') :=
  fun _ => .done ⟨rfl, rfl⟩

theorem ofResult (t t' : Token) (result : Except RuntimeFault α) :
    Beside (Action.ofResult t result) (Action.ofResult t' result) := by
  cases result with
  | ok x => exact refl _
  | error fault => exact fail t t' fault fault

theorem read {t t' : Token} (same : t.lexeme = t'.lexeme) :
    Beside (Action.read t) (Action.read t') := by
  intro s
  rw [on_read, on_read, Scopes.get, Scopes.get, same]
  cases s.find? t'.lexeme s.newest with
  | some value => exact .done ⟨rfl, rfl⟩
  | none => exact .done ⟨rfl, rfl⟩

theorem assign {t t' : Token} (same : t.lexeme = t'.lexeme) (value : Value) :
    Beside (Action.assign t value) (Action.assign t' value) := by
  intro s
  rw [on_assign, on_assign, Scopes.assign, Scopes.assign, same]
  cases s.resolve? t'.lexeme s.newest with
  | some i => exact .done ⟨rfl, rfl⟩
  | none => exact .done ⟨rfl, rfl⟩

theorem callBuiltin (b : Builtin) (args : List Value) (t t' : Token) :
    Beside (ScriptLang.callBuiltin b args t) (ScriptLang.callBuiltin b args t') := by
  intro s
  rw [on_callBuiltin, on_callBuiltin]
  have answers : (b.run args).Follows (fun _ => False) Eq (b.run args) :=
    .refl (Dialogue.ends_of_forall fun _ => rfl)
  refine answers.bind ?_ fun _ never => never.elim
  rintro result _ rfl
  cases result with
  | ok value => exact .done ⟨rfl, rfl⟩
  | error fault => exact .done ⟨rfl, rfl⟩

/-- The token at which a function is called matters for errors only. -/
theorem call (fuel : Nat) (f : Callable) (args : List Value) (t t' : Token) :
    Beside (ScriptLang.call fuel f args t) (ScriptLang.call fuel f args t') := by
  cases fuel with
  | zero => exact refl _
  | succ fuel =>
    cases f with
    | builtin b => exact callBuiltin b args t t'
    | user f => exact refl _

end Beside

end Action

section Evaluation

variable {r : Token → Token → Prop} (same : ∀ {t t' : Token}, r t t' → t.Alike t')
include same

/-- Expressions that differ only in the places of their tokens are evaluated in the same way, up to
where their errors are. -/
theorem eval_beside (fuel unit : Nat) :
    (∀ {e e' : Expr}, Expr.Alike r e e' → (eval fuel unit e).Beside (eval fuel unit e')) ∧
      ∀ {es es' : List Expr}, Expr.AllAlike r es es' →
        (evalAll fuel unit es).Beside (evalAll fuel unit es') := by
  induction fuel with
  | zero => exact ⟨fun _ => .refl _, fun _ => .refl _⟩
  | succ fuel ih =>
    obtain ⟨one, all⟩ := ih
    refine ⟨fun alike => ?_, fun alike => ?_⟩
    · cases alike with
      | constant c => exact .refl _
      | group inner => exact one inner
      | unary op operand =>
        refine (one operand).bind fun v => ?_
        rw [applyUnary_alike (same op).kind (.refl v)]
        exact .ofResult _ _ _
      | binary op left right =>
        refine (one left).bind fun v => (one right).bind fun w => ?_
        rw [applyBinary_alike (same op).kind (same op).lexeme (.refl v) (.refl w)]
        exact .ofResult _ _ _
      | logical op left right =>
        refine (one left).bind fun v => ?_
        rw [decidedBy_alike (same op).kind (.refl v)]
        split
        · exact .refl _
        · exact one right
      | name ident => exact .read (same ident).lexeme
      | assign ident value =>
        refine (one value).bind fun v => ?_
        exact (Action.Beside.assign (same ident).lexeme v).bind fun _ => .refl _
      | call callee paren args =>
        refine (one callee).bind fun v => ?_
        cases v with
        | callable f =>
          refine (all args).bind fun vs => ?_
          split
          · exact .call fuel f vs _ _
          · exact .fail _ _ _ _
        | _ => exact .fail _ _ _ _
    · cases alike with
      | nil => exact .refl _
      | cons first later =>
        exact (one first).bind fun v => (all later).bind fun vs => .refl _

end Evaluation

/-! ### Where errors are -/

/-- Two relations between the ends of two dialogues hold of the same ends. -/
theorem Dialogue.Follows.and {α β : Type} {R S : α → β → Prop} {d : Dialogue α} {d' : Dialogue β}
    (h : d.Follows (fun _ => False) R d') (g : d.Follows (fun _ => False) S d') :
    d.Follows (fun _ => False) (fun a b => R a b ∧ S a b) d' := by
  induction h with
  | stop never => exact never.elim
  | done h =>
    cases g with
    | stop never => exact never.elim
    | done g => exact .done ⟨h, g⟩
  | ask _ ih =>
    cases g with
    | ask g => exact .ask fun answer => ih answer (g answer)

/-- Two tokens of one unit are in the same place in the script exactly if they are in the text. -/
theorem span_iff_of_printed {n u : Nat} {P : Token → Prop} {source : String} {a a' b b' : Token}
    (ha : u < n ∧ P a ∧ a = a' ∨ u = n ∧ a.Printed source a')
    (hb : u < n ∧ P b ∧ b = b' ∨ u = n ∧ b.Printed source b') :
    a.span = b.span ↔ a'.span = b'.span := by
  -- The unit is either an earlier one or the text itself.
  obtain ⟨lt, -, rfl⟩ | ⟨rfl, -, rfl⟩ := ha <;> obtain ⟨lt', -, rfl⟩ | ⟨now, -, rfl⟩ := hb
  · rfl
  · omega
  · omega
  · obtain ⟨_, _, _, _, _, _⟩ := a
    obtain ⟨_, _, _, _, _, _⟩ := b
    simp [Token.behindPrint, Token.moved]

/-- Tokens of functions of the units before unit `n`, which satisfy `P`, stand for themselves, and
the tokens of a text, which is unit `n`, for the tokens of the script that they are. -/
def Correspondence.printed (n : Nat) (P : Token → Prop) (source : String) : Correspondence where
  token u u' t t' := u = u' ∧ (u < n ∧ P t ∧ t = t' ∨ u = n ∧ t.Printed source t')
  kind_eq := by
    rintro u _ t t' ⟨rfl, ⟨-, -, rfl⟩ | ⟨-, h⟩⟩
    · rfl
    · exact h.alike.kind
  lexeme_eq := by
    rintro u _ t t' ⟨rfl, ⟨-, -, rfl⟩ | ⟨-, h⟩⟩
    · rfl
    · exact h.alike.lexeme
  place_iff := by
    rintro u _ v _ a a' b b' ⟨rfl, ha⟩ ⟨rfl, hb⟩
    refine and_congr_right fun unit => ?_
    subst unit
    exact span_iff_of_printed ha hb

/-- Every function that a frame of the session holds was declared in an earlier unit, and all its
tokens satisfy `P`. -/
def Session.Holds (P : Token → Prop) (s : Session) : Prop :=
  ∀ (i : Nat) (f : Frame), s.scopes.frames[i]? = some f →
    Bindings.Alike (.diagonal fun u t => u < s.units ∧ P t) f.bindings f.bindings

/-- If tokens of earlier units are of some kind, then so are those of the functions that the session
holds.  In particular the kind can be that of all tokens, and in a new session it can be any. -/
theorem Session.Earlier.holds {P : Token → Prop} {s : Session} (earlier : s.Earlier)
    (kind : ∀ t, 0 < s.units → P t) : s.Holds P :=
  fun i f hf => Bindings.alike_of_madeBefore (earlier i f hf) fun _ t lt =>
    ⟨lt, kind t (Nat.zero_lt_of_lt lt)⟩

/-- The ends of the same evaluation in the text and in the script: the same value, or the same fault
at one token, which is either that of a function that was there before, or one of the text. -/
inductive Evaluated (P : Token → Prop) (source : String) :
    Except Stop Value → Except Stop Value → Prop where
  | value (v : Value) : Evaluated P source (.ok v) (.ok v)
  | held {e : RuntimeError} (known : P e.token) :
      Evaluated P source (.error (.error e)) (.error (.error e))
  | own {t : Token} {fault : RuntimeFault} (mem : t ∈ (scan source).tokens) :
      Evaluated P source (.error (.error ⟨t, fault⟩)) (.error (.error ⟨t.behindPrint, fault⟩))
  | outOfFuel : Evaluated P source (.error .outOfFuel) (.error .outOfFuel)

/-- The operand of the statement is evaluated as the text is: with the same answers of the host it
asks the same and leaves the same frames. -/
theorem eval_printed {P : Token → Prop} {source : String} {s : Session} (holds : s.Holds P)
    {e e' : Expr} (alike : Expr.Alike (Token.Printed source) e e') (fuel : Nat) :
    ((eval fuel s.units e).on s.scopes).Follows (fun _ => False)
      (fun p p' => Evaluated P source p.1 p'.1 ∧ p.2 = p'.2)
      ((eval fuel s.units e').on s.scopes) := by
  let K := Comparison.rooted (.printed s.units P source) False
  have wider : Expr.Alike (K.tokens.token s.units s.units) e e' :=
    alike.mono fun _ _ h => ⟨rfl, .inr ⟨rfl, h⟩⟩
  have frames : K.Alike (s.scopes.frames.size - 1) s.scopes s.scopes := by
    refine Comparison.rooted_alike fun i f hf => (holds i f hf).mono ?_
    exact fun _ _ _ _ h => ⟨h.1, .inl ⟨h.2.2.1, h.2.2.2, h.2.1⟩⟩
  have errors := ((K.agree (.inl rfl)).eval (n := fuel) Comparison.rooted_visible wider
    frames).mono_stop fun _ h => h.1
  have results := (eval_beside Token.Printed.alike fuel s.units).1 alike s.scopes
  refine (results.and errors).mono ?_
  rintro ⟨result, t⟩ ⟨result', t'⟩ ⟨⟨same, left⟩, outcome, -⟩
  dsimp only at same left outcome
  refine ⟨?_, left⟩
  cases outcome with
  | ok _ =>
    cases same
    exact .value _
  | error h =>
    cases h with
    | outOfFuel => exact .outOfFuel
    | @error error error' h =>
      obtain ⟨t, fault⟩ := error
      obtain ⟨t', fault'⟩ := error'
      obtain ⟨rfl, u, u', -, ⟨-, known, rfl⟩ | ⟨-, mem, rfl⟩⟩ := h
      · exact .held known
      · exact .own mem

/-! ### Sessions -/

namespace Session

variable {source : String} {s : Session}

/-- A text that is a single expression is evaluated as the next unit. -/
theorem on_evalExpression {e : Expr} (clean : (scan source).diagnostics = [])
    (read : Expr.ofTokens (scan source).tokens = (some e, [])) (fuel : Nat) (s : Session) :
    (evalExpression fuel source).on s =
      (eval fuel s.units e).on s.scopes >>= fun p =>
        .done (p.1.mapError .ofStop, ⟨p.2, s.units + 1⟩) := by
  simp only [evalExpression, clean, read, List.append_nil, SessionM.on_bind, on_nextUnit,
    on_perform, Dialogue.done_bind]

/-- Reading starts wherever there is a token. -/
theorem exists_start {tokens : List Token} (nonempty : tokens ≠ []) :
    ∃ c, Cursor.start? tokens = some c := by
  unfold Cursor.start?
  dsimp only
  split
  · exact ⟨_, rfl⟩
  · exact ⟨_, rfl⟩
  · next ends body =>
    -- No end token and no token in front of it: the list is empty.
    have all := List.takeWhile_append_dropWhile (p := (·.kind != .eof)) (l := tokens)
    rw [ends, List.getLast?_eq_none_iff.1 body] at all
    exact absurd all.symm nonempty

/-- Where there is no expression, there is a fault. -/
theorem faults_of_no_expression {tokens : List Token} (nonempty : tokens ≠ [])
    (none : (Expr.ofTokens tokens).1 = none) : (Expr.ofTokens tokens).2 ≠ [] := by
  obtain ⟨c, start⟩ := exists_start nonempty
  cases reading : Expr.read c with
  | fault d after _ =>
    simp only [Expr.ofTokens, start, reading]
    exact List.append_ne_nil_of_right_ne_nil _ (List.cons_ne_nil _ _)
  | done e after _ =>
    simp only [Expr.ofTokens, start, reading] at none ⊢
    by_cases ended : after.rest = []
    · rw [if_pos ended] at none
      cases none
    · rw [if_neg ended]
      exact List.append_ne_nil_of_right_ne_nil _ (List.cons_ne_nil _ _)

/-- Any other text is rejected, with one fault at least. -/
theorem on_evalExpression_faulty
    (faulty : ¬((scan source).diagnostics = [] ∧
      ∃ e, Expr.ofTokens (scan source).tokens = (some e, []))) (fuel : Nat) (s : Session) :
    ∃ ds, ds ≠ [] ∧
      (evalExpression fuel source).on s = .done (.error (.syntaxErrors ds), s) := by
  have nonempty : (scan source).tokens ≠ [] := by
    rw [tokens_scan]
    exact List.append_ne_nil_of_right_ne_nil _ (List.cons_ne_nil _ _)
  refine ⟨(scan source).diagnostics ++ (Expr.ofTokens (scan source).tokens).2, ?_, ?_⟩
  · intro noFault
    obtain ⟨clean, silent⟩ := List.append_eq_nil_iff.1 noFault
    cases tree : (Expr.ofTokens (scan source).tokens).1 with
    | none => exact faults_of_no_expression nonempty tree silent
    | some e => exact faulty ⟨clean, e, Prod.ext tree silent⟩
  · unfold evalExpression
    dsimp only
    split
    · next e tree noFault =>
      obtain ⟨clean, silent⟩ := List.append_eq_nil_iff.1 noFault
      exact absurd ⟨clean, e, Prod.ext tree silent⟩ faulty
    · rfl

/-- A script with faults is rejected. -/
theorem on_run_faulty (faulty : ¬Faultless source) (fuel : Nat) (s : Session) :
    (run fuel {} source).on s = .done (.error (.syntaxErrors (faultsOf source)), s) := by
  rw [run_eq, prepare, rejectIf, if_pos (faultless_iff.not.1 faulty)]
  rfl

/-- A single `print` statement evaluates its operand and writes the text of the value. -/
theorem run_print {w : World} (works : w.Works) (fuel unit : Nat) (word : Token) (e : Expr)
    (t : Scopes) :
    ((execAll (fuel + 2) unit [.print word e]).on t).run w =
      match ((eval fuel unit e).on t).run w with
      | ((.ok v, t'), w') => ((.ok .normal, t'), w'.wrote (Text.encode (v.text ++ "\n")))
      | ((.error stop, t'), w') => ((.error stop, t'), w') := by
  rw [execAll, Action.on_bind, Dialogue.run_bind, exec, Action.on_bind, Dialogue.run_bind]
  have kept := works.run ((eval fuel unit e).on t)
  generalize ((eval fuel unit e).on t).run w = p at kept ⊢
  obtain ⟨⟨result, t'⟩, w'⟩ := p
  cases result with
  | error stop => rfl
  | ok v =>
    dsimp only
    rw [Action.on_bind, Action.on_request, Dialogue.run_bind, Dialogue.run, World.answer,
      World.write_unbounded kept.unbounded]
    rfl

/-- How evaluating a text and running the script that prints it end: `w` is the world before. -/
inductive PrintsResult (P : Token → Prop) (source : String) (s : Session) (w : World) :
    (Except RunError Value × Session) × World → (Except RunError Unit × Session) × World →
      Prop where
  /-- Both texts are rejected, and nothing has happened. -/
  | rejected {ds ds' : List Diagnostic} (some : ds ≠ []) (some' : ds' ≠ []) :
      PrintsResult P source s w ((.error (.syntaxErrors ds), s), w)
        ((.error (.syntaxErrors ds'), s), w)
  /-- Both fail at a token of a function that was there before. -/
  | held {e : RuntimeError} {s' : Session} {w' : World} (known : P e.token) :
      PrintsResult P source s w ((.error (.runtime e), s'), w') ((.error (.runtime e), s'), w')
  /-- Both fail at a token of the text, which stands six characters further on in the script. -/
  | own {t : Token} {fault : RuntimeFault} {s' : Session} {w' : World}
      (mem : t ∈ (scan source).tokens) :
      PrintsResult P source s w ((.error (.runtime ⟨t, fault⟩), s'), w')
        ((.error (.runtime ⟨t.behindPrint, fault⟩), s'), w')
  | outOfFuel {s' : Session} {w' : World} :
      PrintsResult P source s w ((.error .outOfFuel, s'), w') ((.error .outOfFuel, s'), w')
  /-- The script has written the text of the value and a line break. -/
  | value {v : Value} {s' : Session} {w' : World} :
      PrintsResult P source s w ((.ok v, s'), w')
        ((.ok (), s'), w'.wrote (Text.encode (v.text ++ "\n")))

/-- A text in which no semicolon stands is evaluated as the script that prints it is run. -/
theorem evalExpression_printing (none : ∀ t ∈ (scan source).tokens, t.kind ≠ .semicolon)
    {P : Token → Prop} (holds : s.Holds P) {w : World} (works : w.Works) (fuel : Nat) :
    PrintsResult P source s w (((evalExpression fuel source).on s).run w)
      (((run (fuel + 2) {} (printScript source)).on s).run w) := by
  by_cases single : (scan source).diagnostics = [] ∧
      ∃ e, Expr.ofTokens (scan source).tokens = (some e, [])
  · obtain ⟨clean, e, read⟩ := single
    obtain ⟨faultless, e', script, alike⟩ := stmtsOf_printing none clean read
    rw [on_evalExpression clean read, Dialogue.run_bind, run_run faultless, script]
    have follows := (eval_printed holds alike fuel).run w
    obtain never | ⟨⟨evaluated, frames⟩, worlds⟩ := follows
    · exact never.elim
    · rw [run_print works]
      have kept := works.run ((eval fuel s.units e').on s.scopes)
      generalize ((eval fuel s.units e).on s.scopes).run w = p at evaluated frames worlds ⊢
      generalize ((eval fuel s.units e').on s.scopes).run w = p' at evaluated frames worlds kept ⊢
      obtain ⟨⟨result, t⟩, w'⟩ := p
      obtain ⟨⟨result', t'⟩, w''⟩ := p'
      dsimp only at evaluated frames worlds kept
      subst frames worlds
      cases evaluated with
      | value v =>
        -- Writing changes nothing about whether the output can be passed on.
        have written : (w'.wrote (Text.encode (v.text ++ "\n"))).Works :=
          ⟨kept.unbounded, kept.flushes⟩
        dsimp only [close]
        rw [written.answer_flush]
        exact .value
      | held known => exact .held known
      | own mem => exact .own mem
      | outOfFuel => exact .outOfFuel
  · have faulty : ¬Faultless (printScript source) :=
      fun faultless => single (faultless_of_printing none faultless)
    obtain ⟨ds, some, rejected⟩ := on_evalExpression_faulty single fuel s
    rw [rejected, on_run_faulty faulty]
    exact .rejected some (faultless_iff.not.1 faulty)

/-- A name that nothing is bound to, and a comment behind it. -/
def unbound : String :=
  "gone // for good"

/-- A new session holds no function with tokens, so the errors of the two runs are errors of the
text. -/
theorem evalExpression_printing_unbound :
    start.Holds (fun _ => False) ∧
      PrintsResult (fun _ => False) unbound start {} (((evalExpression 5 unbound).on start).run {})
        (((run 7 {} (printScript unbound)).on start).run {}) := by
  have tokens : (scan unbound).tokens =
      [⟨.ident, "gone", none, 1, ⟨0, 4⟩⟩, ⟨.eof, "", none, 1, ⟨16, 16⟩⟩] := by
    decide +kernel
  have holds : start.Holds fun _ => False :=
    atRest_start.earlier_frames.holds fun _ impossible => absurd impossible (Nat.lt_irrefl 0)
  refine ⟨holds, evalExpression_printing ?_ holds ⟨rfl, rfl⟩ 5⟩
  rw [tokens]
  decide

end Session

end ScriptLang

import Mathlib
import ScriptLang.Proofs.AtRest
import ScriptLang.Proofs.Execution
import ScriptLang.Proofs.Likeness.Read
import ScriptLang.Proofs.Scan

/-!
# Layout

Blanks, line breaks and comments keep tokens apart and say nothing else.  Two texts with the same
tokens are listed alike, rejected alike and run alike: only the lines and the spans in what is
reported, and in the functions that are left behind, tell them apart.

## Main definitions

* `SameTokens` — texts whose tokens say the same, one by one
* `Correspondence.relaid` — which tokens of the two texts stand for each other
* `RunError.Alike`, `Session.Alike` — what runs of the two texts end with and leave behind

## Main results

* `Stmt.Alike.render_eq` — trees that are alike are listed alike
* `Session.run_sameTokens` — texts with the same tokens run alike
-/

namespace ScriptLang

/-! ### Listings -/

theorem Token.Alike.describe_eq {t t' : Token} (h : t.Alike t') : t.describe = t'.describe := by
  rw [describe, describe, h.kind, h.lexeme, h.literal]

theorem map_eq_of_forall₂ {α β γ : Type} {R : α → β → Prop} {f : α → γ} {g : β → γ}
    (same : ∀ x y, R x y → f x = g y) {xs : List α} {ys : List β} (h : List.Forall₂ R xs ys) :
    xs.map f = ys.map g := by
  rw [← List.forall₂_eq_eq_eq, List.forall₂_map_left_iff, List.forall₂_map_right_iff]
  exact h.imp same

variable {r : Token → Token → Prop}

mutual

theorem Expr.Alike.render_eq (same : ∀ t t', r t t' → t.lexeme = t'.lexeme) : ∀ {e e' : Expr},
    Expr.Alike r e e' → e.render = e'.render
  | _, _, .constant _ => rfl
  | _, _, .group h => by rw [Expr.render, Expr.render, h.render_eq same]
  | _, _, .unary ht h => by rw [Expr.render, Expr.render, same _ _ ht, h.render_eq same]
  | _, _, .binary ht hl hr | _, _, .logical ht hl hr => by
    rw [Expr.render, Expr.render, same _ _ ht, hl.render_eq same, hr.render_eq same]
  | _, _, .name ht => same _ _ ht
  | _, _, .assign ht h => by rw [Expr.render, Expr.render, same _ _ ht, h.render_eq same]
  | _, _, .call h _ ha => by
    rw [Expr.render, Expr.render, h.render_eq same, ha.renderEach_eq same]

theorem Expr.AllAlike.renderEach_eq (same : ∀ t t', r t t' → t.lexeme = t'.lexeme) :
    ∀ {es es' : List Expr}, Expr.AllAlike r es es' → Expr.renderEach es = Expr.renderEach es'
  | _, _, .nil => rfl
  | _, _, .cons h later => by
    rw [Expr.renderEach, Expr.renderEach, h.render_eq same, later.renderEach_eq same]

end

mutual

/-- Trees that are alike are listed alike. -/
theorem Stmt.Alike.render_eq (same : ∀ t t', r t t' → t.lexeme = t'.lexeme) : ∀ {s s' : Stmt},
    Stmt.Alike r s s' → s.render = s'.render
  | _, _, .expression h => by rw [Stmt.render, Stmt.render, h.render_eq same]
  | _, _, .print _ h => by rw [Stmt.render, Stmt.render, h.render_eq same]
  | _, _, .var ht .none => by rw [Stmt.render, Stmt.render, same _ _ ht]
  | _, _, .var ht (.some h) => by
    rw [Stmt.render, Stmt.render, same _ _ ht, h.render_eq same]
  | _, _, .block h => by rw [Stmt.render, Stmt.render, h.renderEach_eq same]
  | _, _, .branch hc hy => by
    rw [Stmt.render, Stmt.render, hc.render_eq same, hy.render_eq same, Stmt.renderElse]
  | _, _, .branchElse hc hy hn => by
    rw [Stmt.render, Stmt.render, hc.render_eq same, hy.render_eq same, Stmt.renderElse,
      Stmt.renderElse, hn.render_eq same]
  | _, _, .loop hc hb => by
    rw [Stmt.render, Stmt.render, hc.render_eq same, hb.render_eq same]
  | _, _, .function ht hp hb => by
    rw [Stmt.render, Stmt.render, same _ _ ht, map_eq_of_forall₂ same hp, hb.renderEach_eq same]
  | _, _, .ret _ .none => by rw [Stmt.render, Stmt.render]
  | _, _, .ret _ (.some h) => by rw [Stmt.render, Stmt.render, h.render_eq same]

theorem Stmt.AllAlike.renderEach_eq (same : ∀ t t', r t t' → t.lexeme = t'.lexeme) :
    ∀ {ss ss' : List Stmt}, Stmt.AllAlike r ss ss' → Stmt.renderEach ss = Stmt.renderEach ss'
  | _, _, .nil => rfl
  | _, _, .cons h later => by
    rw [Stmt.renderEach, Stmt.renderEach, h.render_eq same, later.renderEach_eq same]

end

theorem Stmt.AllAlike.map_render_eq (same : ∀ t t', r t t' → t.lexeme = t'.lexeme) :
    ∀ {ss ss' : List Stmt}, Stmt.AllAlike r ss ss' → ss.map Stmt.render = ss'.map Stmt.render
  | _, _, .nil => rfl
  | _, _, .cons h later => by
    rw [List.map_cons, List.map_cons, h.render_eq same, later.map_render_eq same]

/-! ### Texts with the same tokens -/

/-- Texts whose tokens say the same one by one, wherever they stand. -/
def SameTokens (source source' : String) : Prop :=
  List.Forall₂ Token.Alike (scan source).tokens (scan source').tokens

/-- Tokens with the same number in two texts. -/
def Token.Counterpart (source source' : String) (t t' : Token) : Prop :=
  ∃ i : Nat, (scan source).tokens[i]? = some t ∧ (scan source').tokens[i]? = some t'

/-- A text has one token in a place. -/
theorem index_unique {source : String} {i j : Nat} {t u : Token}
    (ht : (scan source).tokens[i]? = some t) (hu : (scan source).tokens[j]? = some u)
    (same : t.span = u.span) : i = j := by
  have hi : ((scan source).tokens.map Token.span)[i]? = some t.span := by
    rw [List.getElem?_map, ht, Option.map_some]
  have hj : ((scan source).tokens.map Token.span)[j]? = some t.span := by
    rw [List.getElem?_map, hu, Option.map_some, same]
  have lt := (List.getElem?_eq_some_iff.1 hi).1
  exact (List.getElem?_inj lt (nodup_span_scan source)).1 (hi.trans hj.symm)

variable {source source' : String}

namespace Token.Counterpart

variable {t t' u u' : Token}

/-- Tokens in one place have their counterparts in one place. -/
theorem span_eq_iff (h : Counterpart source source' t t') (g : Counterpart source source' u u') :
    t.span = u.span ↔ t'.span = u'.span := by
  obtain ⟨i, ht, ht'⟩ := h
  obtain ⟨j, hu, hu'⟩ := g
  constructor
  · intro same
    obtain rfl := index_unique ht hu same
    rw [Option.some.inj (ht'.symm.trans hu')]
  · intro same
    obtain rfl := index_unique ht' hu' same
    rw [Option.some.inj (ht.symm.trans hu)]

end Token.Counterpart

namespace SameTokens

variable (same : SameTokens source source')
include same

theorem alike {t t' : Token} (h : Token.Counterpart source source' t t') : t.Alike t' := by
  obtain ⟨i, ht, ht'⟩ := h
  obtain ⟨lt, rfl⟩ := List.getElem?_eq_some_iff.1 ht
  obtain ⟨lt', rfl⟩ := List.getElem?_eq_some_iff.1 ht'
  exact (List.forall₂_iff_get.1 same).2 i lt lt'

/-- Each token has its counterpart. -/
theorem counterparts : List.Forall₂ (Token.Counterpart source source') (scan source).tokens
    (scan source').tokens := by
  refine List.forall₂_iff_get.2 ⟨same.length_eq, fun i lt lt' => ⟨i, ?_, ?_⟩⟩
  · exact List.getElem?_eq_getElem lt
  · exact List.getElem?_eq_getElem lt'

/-- The end tokens are counterparts, and so are the tokens before them. -/
theorem inner_and_last :
    List.Forall₂ (Token.Counterpart source source') (scanInner source) (scanInner source') ∧
      Token.Counterpart source source' (scanEnd source) (scanEnd source') := by
  have all := same.counterparts
  rw [tokens_scan, tokens_scan, ← List.forall₂_reverse_iff, List.reverse_concat,
    List.reverse_concat, List.forall₂_cons, List.forall₂_reverse_iff] at all
  exact ⟨all.2, all.1⟩

/-- Such texts have trees that are alike, and the same faults at counterparts. -/
theorem script :
    Stmt.AllAlike (Token.Counterpart source source') (Script.stmtsOf source)
        (Script.stmtsOf source') ∧
      List.Forall₂ (Diagnostic.Alike (Token.Counterpart source source'))
        (Script.ofTokens (scan source).tokens).diagnostics
        (Script.ofTokens (scan source').tokens).diagnostics := by
  obtain ⟨inner, last⟩ := same.inner_and_last
  have script := Script.ofTokens_alike same.alike inner last
    (fun _ => kind_ne_eof_of_mem_scanInner) rfl
  rwa [← tokens_scan, ← tokens_scan] at script

end SameTokens

/-- In units before unit `n` tokens stand for themselves, and in unit `n`, which is the one text in
one run and the other text in the other, they stand for their counterparts. -/
def Token.Relaid (n : Nat) (source source' : String) (u u' : Nat) (t t' : Token) : Prop :=
  u = u' ∧ (u < n ∧ t = t' ∨ u = n ∧ Counterpart source source' t t')

/-- Which tokens of two texts stand for each other. -/
def Correspondence.relaid (n : Nat) (same : SameTokens source source') : Correspondence where
  token := Token.Relaid n source source'
  kind_eq := by
    rintro u _ t t' ⟨rfl, ⟨_, rfl⟩ | ⟨_, h⟩⟩
    · rfl
    · exact (same.alike h).kind
  lexeme_eq := by
    rintro u _ t t' ⟨rfl, ⟨_, rfl⟩ | ⟨_, h⟩⟩
    · rfl
    · exact (same.alike h).lexeme
  place_iff := by
    rintro u _ v _ a a' b b' ⟨rfl, ha⟩ ⟨rfl, hb⟩
    refine and_congr_right fun unit => ?_
    subst unit
    -- Both tokens belong to one unit, which is either an earlier one or the text itself.
    obtain ⟨lt, rfl⟩ | ⟨rfl, ha⟩ := ha <;> obtain ⟨lt', rfl⟩ | ⟨now, hb⟩ := hb
    · rfl
    · omega
    · omega
    · exact ha.span_eq_iff hb

theorem Correspondence.diagonal_le_relaid {n : Nat} (same : SameTokens source source') (u u' : Nat)
    (t t' : Token) (h : (diagonal fun u _ => u < n).token u u' t t') :
    (relaid n same).token u u' t t' :=
  ⟨h.1, .inl ⟨h.2.2, h.2.1⟩⟩

/-! ### Ends of runs -/

/-- Errors that say the same, wherever they point: the same syntax errors at places that read the
same, or one fault at tokens that stand for each other. -/
inductive RunError.Alike (C : Correspondence) : RunError → RunError → Prop where
  | syntaxErrors {ds ds' : List Diagnostic}
      (h : List.Forall₂ (fun d d' => d.fault = d'.fault ∧ d.place = d'.place) ds ds') :
      RunError.Alike C (.syntaxErrors ds) (.syntaxErrors ds')
  | runtime {e e' : RuntimeError} (h : e.Alike C e') : RunError.Alike C (.runtime e) (.runtime e')
  | output (why : IoError) : RunError.Alike C (.output why) (.output why)
  | outOfFuel : RunError.Alike C .outOfFuel .outOfFuel

/-- Related results, or errors that are alike. -/
inductive RunError.ResultAlike (C : Correspondence) {α α' : Type} (R : α → α' → Prop) :
    Except RunError α → Except RunError α' → Prop where
  | ok {x : α} {x' : α'} (h : R x x') : ResultAlike C R (.ok x) (.ok x')
  | error {e e' : RunError} (h : e.Alike C e') : ResultAlike C R (.error e) (.error e')

/-- Frames enclosed alike whose bindings are alike. -/
structure Frame.Alike (C : Correspondence) (f f' : Frame) : Prop where
  bindings : Bindings.Alike C f.bindings f'.bindings
  enclosing : f.enclosing = f'.enclosing

/-- Sessions with the same names in the same frames, and with values that are alike. -/
structure Session.Alike (C : Correspondence) (s s' : Session) : Prop where
  globals : Bindings.Alike C s.scopes.globals s'.scopes.globals
  frames : ∀ i : Nat, Option.Rel (Frame.Alike C) s.scopes.frames[i]? s'.scopes.frames[i]?
  units : s.units = s'.units

/-- Ends of runs that say the same and leave sessions that are alike. -/
structure Session.EndsAlike (C : Correspondence) {α α' : Type} (R : α → α' → Prop)
    (p : Except RunError α × Session) (p' : Except RunError α' × Session) : Prop where
  result : RunError.ResultAlike C R p.1 p'.1
  session : p.2.Alike C p'.2

/-- Every function that a frame of the session holds was declared in an earlier unit. -/
def Session.Earlier (s : Session) : Prop :=
  ∀ (i : Nat) (f : Frame), s.scopes.frames[i]? = some f → ∀ p ∈ f.bindings, p.2.MadeBefore s.units

namespace Session

variable {C : Correspondence}

theorem AtRest.earlier_frames {s : Session} (rest : s.AtRest) : s.Earlier := by
  intro i f hf
  have lt := (Array.getElem?_eq_some_iff.1 hf).1
  have single : s.scopes.frames.size = 1 := rest.outermost
  obtain rfl : i = 0 := by omega
  have globals := s.scopes.getElem?_id s.scopes.oldest
  cases hf.symm.trans globals
  exact rest.earlier

theorem alike_of_frames {t t' : Scopes} {k u : Nat}
    (h : (Comparison.rooted C False).Alike k t t') : Session.Alike C ⟨t, u⟩ ⟨t', u⟩ where
  globals := h.globals
  frames i := by
    have frame := h.frame (Comparison.rooted_place.2 (Eq.refl i))
    dsimp only
    generalize t.frames[i]? = f at frame ⊢
    generalize t'.frames[i]? = f' at frame ⊢
    cases frame with
    | none => exact .none
    | @some f f' hf =>
      refine .some ⟨hf.bindings, ?_⟩
      have links := hf.enclosing
      generalize f.enclosing = link at links ⊢
      generalize f'.enclosing = link' at links ⊢
      cases links with
      | none => rfl
      | some place => rw [Comparison.rooted_place.1 place]
  units := rfl

/-! ### Steps -/

variable {s : Session}

/-- What an earlier unit has left behind is alike to itself. -/
theorem Earlier.frames (earlier : s.Earlier) (same : SameTokens source source') :
    (Comparison.rooted (.relaid s.units same) False).Alike (s.scopes.frames.size - 1) s.scopes
      s.scopes := by
  refine Comparison.rooted_alike fun i f hf => ?_
  exact (Bindings.alike_of_madeBefore (earlier i f hf) fun _ _ h => h).mono
    (Correspondence.diagonal_le_relaid same)

theorem Earlier.alike (earlier : s.Earlier) (same : SameTokens source source') :
    s.Alike (.relaid s.units same) s :=
  alike_of_frames (earlier.frames same)

/-- Lines that are the same for both texts are written in the same way. -/
theorem writeIf_follows (wanted : Bool) (lines : List String) (s : Session) :
    ((writeIf wanted lines).on s).Follows (fun _ => False)
      (fun p p' => p = p' ∧ (p = (.ok (), s) ∨ ∃ why, p = (.error (.output why), s)))
      ((writeIf wanted lines).on s) :=
  .refl ((writeIf_ends wanted lines s).mono fun _ h => ⟨rfl, h⟩)

section Faults

variable (same : SameTokens source source') (clean : (scan source).diagnostics = [])
  (clean' : (scan source').diagnostics = [])
include same clean clean'

/-- Where there are no faults in the characters, the faults of the texts are alike. -/
theorem faultsOf_alike :
    List.Forall₂ (Diagnostic.Alike (Token.Counterpart source source')) (faultsOf source)
      (faultsOf source') := by
  rw [faultsOf, faultsOf, clean, clean', List.nil_append, List.nil_append]
  exact same.script.2

/-- The faults of the texts are reported in the same words. -/
theorem syntaxErrors_alike (C : Correspondence) :
    RunError.Alike C (.syntaxErrors (faultsOf source)) (.syntaxErrors (faultsOf source')) := by
  refine .syntaxErrors ((faultsOf_alike same clean clean').imp ?_)
  rintro _ _ ⟨t, t', fault, counterpart, rfl, rfl⟩
  have alike := same.alike counterpart
  refine ⟨rfl, ?_⟩
  simp only [Token.diagnose, Token.place, alike.kind, alike.lexeme]

/-- Two texts with the same tokens are prepared alike. -/
theorem prepare_sameTokens (listings : Listings) (s : Session) (C : Correspondence) :
    ((prepare listings source).on s).Follows (fun _ => False)
      (fun p p' =>
        RunError.ResultAlike C (Stmt.AllAlike (Token.Counterpart source source')) p.1 p'.1 ∧
          p.2 = s ∧ p'.2 = s)
      ((prepare listings source').on s) := by
  have faults := faultsOf_alike same clean clean'
  have tokens : (scan source).tokens.map Token.describe =
      (scan source').tokens.map Token.describe :=
    map_eq_of_forall₂ (fun _ _ h => h.describe_eq) same
  have tree : (Script.stmtsOf source).map Stmt.render = (Script.stmtsOf source').map Stmt.render :=
    same.script.1.map_render_eq fun _ _ h => (same.alike h).lexeme
  unfold prepare
  rw [SessionM.on_bind, SessionM.on_bind, tokens]
  refine (writeIf_follows listings.tokens _ s).bind ?_ fun _ never => never.elim
  rintro p _ ⟨rfl, rfl | ⟨why, rfl⟩⟩
  -- The texts have equally many faults, so both are rejected or neither is.
  · by_cases none : faultsOf source = []
    · have none' : faultsOf source' = [] := by
        rwa [none, List.forall₂_nil_left_iff] at faults
      rw [rejectIf, rejectIf, if_neg (not_not_intro none), if_neg (not_not_intro none'), pure_bind,
        pure_bind, tree]
      dsimp only
      rw [SessionM.on_bind, SessionM.on_bind]
      refine (writeIf_follows listings.tree _ s).bind ?_ fun _ never => never.elim
      rintro p _ ⟨rfl, rfl | ⟨why, rfl⟩⟩
      · exact .done ⟨.ok same.script.1, rfl, rfl⟩
      · exact .done ⟨.error (.output why), rfl, rfl⟩
    · have some' : faultsOf source' ≠ [] := by
        intro none'
        rw [none', List.forall₂_nil_right_iff] at faults
        exact none faults
      rw [rejectIf, rejectIf, if_pos none, if_pos some']
      exact .done ⟨.error (syntaxErrors_alike same clean clean' C), rfl, rfl⟩
  · exact .done ⟨.error (.output why), rfl, rfl⟩

end Faults

/-- Trees of two texts with the same tokens run alike as the next unit. -/
theorem runStmts_sameTokens (same : SameTokens source source') (earlier : s.Earlier) (fuel : Nat)
    {stmts stmts' : List Stmt}
    (alike : Stmt.AllAlike (Token.Counterpart source source') stmts stmts') :
    ((runStmts fuel stmts).on s).Follows (fun _ => False)
      (EndsAlike (.relaid s.units same) Eq) ((runStmts fuel stmts').on s) := by
  let K := Comparison.rooted (.relaid s.units same) False
  have wider : Stmt.AllAlike (K.tokens.token s.units s.units) stmts stmts' :=
    alike.mono fun _ _ h => ⟨rfl, .inr ⟨rfl, h⟩⟩
  have follows : ((execAll fuel s.units stmts).on s.scopes).Follows (fun _ => False)
      (fun p p' => K.Outcome (Flow.Alike K.tokens) p.1 p'.1 ∧
        K.Alike (s.scopes.frames.size - 1) p.2 p'.2)
      ((execAll fuel s.units stmts').on s.scopes) :=
    ((K.agree (.inl rfl)).execAll Comparison.rooted_visible wider
      (earlier.frames same)).mono_stop fun _ h => h.1
  rw [on_runStmts, on_runStmts]
  refine follows.bind ?_ fun _ never => never.elim
  rintro ⟨result, t⟩ ⟨result', t'⟩ ⟨outcome, frames⟩
  refine .done ⟨?_, alike_of_frames frames⟩
  cases outcome with
  | ok _ => exact .ok rfl
  | error h =>
    cases h with
    | error h => exact .error (.runtime h)
    | outOfFuel => exact .error .outOfFuel

/-- Layout has no influence on meaning.  Take two texts without a fault in their characters whose
tokens say the same one by one.  With any listings, in any session, which holds functions of earlier
units only, with any answers of the host and any amount of fuel, running the one asks of the host
what running the other asks; in particular it writes and reads the same.  Both end with the same
syntax errors, or in the same way with errors that are alike, and what they leave behind is alike
too.  So a world in memory is the same afterwards. -/
theorem run_sameTokens (same : SameTokens source source') (clean : (scan source).diagnostics = [])
    (clean' : (scan source').diagnostics = []) (earlier : s.Earlier) (fuel : Nat)
    (listings : Listings) :
    ((run fuel listings source).on s).Follows (fun _ => False) (EndsAlike (.relaid s.units same) Eq)
        ((run fuel listings source').on s) ∧
      ∀ w : World,
        EndsAlike (.relaid s.units same) Eq (((run fuel listings source).on s).run w).1
            (((run fuel listings source').on s).run w).1 ∧
          (((run fuel listings source).on s).run w).2 =
            (((run fuel listings source').on s).run w).2 := by
  have follows : ((run fuel listings source).on s).Follows (fun _ => False)
      (EndsAlike (.relaid s.units same) Eq) ((run fuel listings source').on s) := by
    rw [run_eq, run_eq, SessionM.on_bind, SessionM.on_bind]
    let C := Correspondence.relaid s.units same
    refine (prepare_sameTokens same clean clean' listings s C).bind ?_ fun _ never => never.elim
    rintro ⟨result, t⟩ ⟨result', t'⟩ ⟨prepared, left, left'⟩
    dsimp only at prepared left left'
    subst left left'
    cases prepared with
    | error h => exact .done ⟨.error h, earlier.alike same⟩
    | ok stmts =>
      dsimp only
      rw [SessionM.on_bind, SessionM.on_bind]
      refine (runStmts_sameTokens same earlier fuel stmts).bind ?_ fun _ never => never.elim
      rintro ⟨result, t⟩ ⟨result', t'⟩ ⟨ended, sessions⟩
      cases ended with
      | error h => exact .done ⟨.error h, sessions⟩
      | ok _ =>
        rw [on_flush, on_flush]
        refine .ask fun answer => .done ?_
        cases answer with
        | ok _ => exact ⟨.ok rfl, sessions⟩
        | error why => exact ⟨.error (.output why), sessions⟩
  refine ⟨follows, fun w => ?_⟩
  exact (follows.run w).resolve_left id

/-- Three tokens on one line. -/
def together : String :=
  "print nil;"

/-- The same tokens on two lines, with a comment between them. -/
def apart : String :=
  "print // nothing\n  nil;"

theorem sameTokens_together_apart : SameTokens together apart := by
  have tokens : (scan together).tokens =
      [⟨.printWord, "print", none, 1, ⟨0, 5⟩⟩, ⟨.nilWord, "nil", none, 1, ⟨6, 9⟩⟩,
        ⟨.semicolon, ";", none, 1, ⟨9, 10⟩⟩, ⟨.eof, "", none, 1, ⟨10, 10⟩⟩] := by
    decide +kernel
  have tokens' : (scan apart).tokens =
      [⟨.printWord, "print", none, 1, ⟨0, 5⟩⟩, ⟨.nilWord, "nil", none, 2, ⟨19, 22⟩⟩,
        ⟨.semicolon, ";", none, 2, ⟨22, 23⟩⟩, ⟨.eof, "", none, 2, ⟨23, 23⟩⟩] := by
    decide +kernel
  rw [SameTokens, tokens, tokens']
  exact .cons ⟨rfl, rfl, rfl⟩ (.cons ⟨rfl, rfl, rfl⟩ (.cons ⟨rfl, rfl, rfl⟩
    (.cons ⟨rfl, rfl, rfl⟩ .nil)))

/-- In a new session the two layouts end alike and leave one world. -/
theorem run_together_apart :
    EndsAlike (.relaid 0 sameTokens_together_apart) Eq (((run 9 {} together).on start).run {}).1
        (((run 9 {} apart).on start).run {}).1 ∧
      (((run 9 {} together).on start).run {}).2 = (((run 9 {} apart).on start).run {}).2 := by
  have clean : (scan together).diagnostics = [] := by
    unfold together
    cbv
  have clean' : (scan apart).diagnostics = [] := by
    unfold apart
    cbv
  exact (run_sameTokens sameTokens_together_apart clean clean' atRest_start.earlier_frames 9
    {}).2 {}

end Session

end ScriptLang

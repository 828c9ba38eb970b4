import Mathlib
import ScriptLang.Proofs.Equality
import ScriptLang.Proofs.History

/-!
# Functions and their declarations

Every declared function that arises in the history of a session has been made by executing one
certain declaration in the text of one certain unit.  It does not matter how often that declaration
has been executed, or how often the function has been copied since: two functions are equal exactly
if they were made by executing the same declaration.  Declarations that read alike make different
functions, and so does one text that is run twice.

## Main definitions

* `Session.Site` — a declaration in the text of a unit
* `Session.Creates` — executing the declaration at a site makes a function

## Main results

* `Session.Lived.arises_iff` — the functions that arise are those that were made
* `Session.Lived.beq_iff` — functions are equal if they were made at one site
* `Session.equality_by_declaration` — equality of values as a whole
-/

namespace ScriptLang

variable {M N : UserFunction → Prop} {v : Value}

theorem Task.Given.among {task : Task} (h : task.Given M) (takes : task.Takes v) : v.Among M := by
  cases task with
  | stmt | stmts | expr | exprs => exact takes.elim
  | call f args paren =>
    obtain rfl | mem := takes
    · exact h.1
    · exact h.2 v mem

theorem Task.Yields.among {task : Task} {x : task.Result} (h : task.Yields M x)
    (comes : task.ComesTo v x) : v.Among M := by
  cases task with
  | stmt | stmts =>
    cases comes
    exact h
  | expr | call =>
    cases comes
    exact h
  | exprs u es => exact h v comes

/-- A piece of work that fits comes across nothing but what was made. -/
theorem Provenance.Fits.among {P : Provenance} {w : Work} (fits : P.Fits w) (h : w.Meets v) :
    v.Among P.Made := by
  cases h with
  | found h => exact fits.scopes v h
  | given h => exact fits.given.among h
  | left ends h => exact (Dialogue.Ends.of_mayEnd fits.keeps ends).1 v h
  | yielded ends h => exact (fits.keeps.of_mayEnd ends).2.among h

namespace Session

/-! ### Sites -/

/-- A declaration in the text of a unit: the number of the step that has run the unit, and the
number of the declaration among those of the text. -/
structure Site where
  step : Nat
  declaration : Nat
  deriving DecidableEq

/-- In a history, the declaration at a site has been executed, and its name has then meant this
function. -/
def Creates (h : List Step) (site : Site) (f : UserFunction) : Prop :=
  ∃ x decl n s t, h[site.step]? = some x ∧
    (Stmt.allFunctions x.stmts)[site.declaration]? = some decl ∧
    Underway h ⟨n, .stmt x.before.units (.function decl.ident decl.params decl.body), s⟩ ∧
    ((exec n x.before.units (.function decl.ident decl.params decl.body)).on s).MayEnd
      (.ok .normal, t) ∧
    t.get decl.ident t.newest = .ok (.callable (.user f))

/-- Whether a function was made in a history. -/
def Made (h : List Step) (f : UserFunction) : Prop :=
  ∃ site, Creates h site f

variable {h : List Step} {s : Session} {f g : UserFunction} {site site' : Site}

theorem Underway.append {w : Work} (underway : Underway h w) (later : List Step) :
    Underway (h ++ later) w := by
  obtain ⟨x, mem, begun⟩ := underway
  exact ⟨x, List.mem_append_left _ mem, begun⟩

/-- What was made stays made, at the same site. -/
theorem Creates.append (creates : Creates h site f) (later : List Step) :
    Creates (h ++ later) site f := by
  obtain ⟨x, decl, n, s, t, step, declaration, underway, rest⟩ := creates
  refine ⟨x, decl, n, s, t, ?_, declaration, underway.append later, rest⟩
  rw [List.getElem?_append_left (List.getElem?_eq_some_iff.1 step).1, step]

theorem Made.append (made : Made h f) (later : List Step) : Made (h ++ later) f :=
  ⟨made.choose, made.choose_spec.append later⟩

/-- The function made at a site is the declaration there, in the unit that it belongs to. -/
theorem Creates.eq (creates : Creates h site f) :
    ∃ x decl, h[site.step]? = some x ∧
      (Stmt.allFunctions x.stmts)[site.declaration]? = some decl ∧
      f = ⟨x.before.units, decl⟩ := by
  obtain ⟨x, decl, n, s, t, step, declaration, -, ends, got⟩ := creates
  have made := get_of_mayEnd_function ends
  rw [got] at made
  cases made
  exact ⟨x, decl, step, declaration, rfl⟩

/-- A function that was made is what some name means. -/
theorem Creates.arises (creates : Creates h site f) : Arises h (.callable (.user f)) := by
  obtain ⟨x, decl, n, s, t, -, -, underway, ends, got⟩ := creates
  exact .work underway (.left ends (Scopes.holds_of_get got))

/-! ### Where functions come from -/

/-- The work, the declarations and the functions of a history. -/
def provenance (h : List Step) : Provenance where
  Done := Underway h
  Declared u d := ∃ x ∈ h, x.before.units = u ∧ d ∈ Stmt.allFunctions x.stmts
  Made := Made h
  turns := by
    rintro w w' ⟨x, mem, v, begins, path⟩ starts
    exact ⟨x, mem, v, begins, path.tail starts⟩
  makes := by
    rintro n _ decl s t ⟨x, mem, rfl, declared⟩ done ends
    obtain ⟨i, step⟩ := List.mem_iff_getElem?.1 mem
    obtain ⟨j, declaration⟩ := List.mem_iff_getElem?.1 declared
    exact ⟨⟨i, j⟩, x, decl, n, s, t, step, declaration, done, ends, get_of_mayEnd_function ends⟩
  known := by
    rintro f ⟨site, creates⟩
    obtain ⟨x, decl, step, declaration, rfl⟩ := creates.eq
    exact ⟨x, List.mem_of_getElem? step, rfl, List.mem_of_getElem? declaration⟩
  body := by
    rintro _ d e ⟨x, mem, rfl, declared⟩ he
    exact ⟨x, mem, rfl, Stmt.mem_allFunctions_of_body he _ declared⟩

/-- A step that has been given nothing but what was made. -/
structure Step.Sound (M : UserFunction → Prop) (x : Step) : Prop where
  scopes : x.before.scopes.Among M
  given : x.move.Given M

theorem Move.Given.mono {m : Move} (h : m.Given M) (sub : ∀ f, M f → N f) : m.Given N := by
  cases m with
  | run | runStmts | evalExpression => trivial
  | callFunction fuel f args paren => exact ⟨h.1.mono sub, fun v hv => (h.2 v hv).mono sub⟩
  | insert name value => exact Value.Among.mono h sub

namespace Step

variable {x : Step}

theorem Sound.mono (h : x.Sound M) (sub : ∀ f, M f → N f) : x.Sound N :=
  ⟨h.scopes.mono sub, h.given.mono sub⟩

/-- What a sound step has the evaluator begin fits. -/
theorem Begins.fits {w : Work} (begins : x.Begins w) (mem : x ∈ h) (sound : x.Sound (Made h)) :
    (provenance h).Fits w := by
  have done : Underway h w := ⟨x, mem, w, begins, .refl⟩
  cases begins with
  | run move numbered | runStmts move numbered =>
    have stmts : x.stmts = x.move.stmts := if_neg numbered
    rw [move] at stmts
    exact ⟨done, fun d hd => ⟨x, mem, rfl, stmts ▸ hd⟩, trivial, sound.scopes⟩
  | evalExpression => exact ⟨done, trivial, trivial, sound.scopes⟩
  | callFunction move =>
    have given := sound.given
    rw [move] at given
    exact ⟨done, trivial, given, sound.scopes⟩

/-- Behind a sound step no name means a function but one that was made. -/
theorem Sound.after (sound : x.Sound (Made h)) (mem : x ∈ h) :
    x.after.scopes.Among (Made h) := by
  have work {w : Work} {result : Except Stop w.task.Result} {t : Scopes} (begins : x.Begins w)
      (ends : w.dialogue.MayEnd (result, t)) : t.Among (Made h) :=
    (Dialogue.Ends.of_mayEnd (begins.fits mem sound).keeps ends).1
  have changes := x.changes
  obtain ⟨before, move, result, after, ends⟩ := x
  dsimp only at changes
  cases changes with
  | nothing => exact sound.scopes
  | insert name value => exact sound.scopes.insert sound.given _ _
  | run ended => exact work (.run rfl (Nat.succ_ne_self _)) ended
  | runStmts ended => exact work (.runStmts rfl (Nat.succ_ne_self _)) ended
  | evalExpression read ended => exact work (.evalExpression rfl read (Nat.succ_ne_self _)) ended
  | callFunction ended => exact work (.callFunction rfl) ended

end Step

theorem among_start : start.scopes.Among M := by
  intro v hv
  obtain ⟨x, found⟩ := Scopes.holds_ofBindings hv
  obtain ⟨b, -, pair⟩ := List.mem_map.1 (Bindings.mem_of_find? found)
  cases pair
  exact Value.among_builtin b

/-- Nothing arises where all steps are sound but what was made. -/
theorem Arises.among (arises : Arises h v) (sound : ∀ x ∈ h, x.Sound (Made h)) :
    v.Among (Made h) := by
  cases arises with
  | start holds => exact among_start v holds
  | after mem holds => exact (sound _ mem).after mem v holds
  | work underway meets =>
    obtain ⟨x, mem, w, begins, path⟩ := underway
    exact ((begins.fits mem (sound x mem)).reflTransGen path).among meets

namespace Lived

/-- All steps of a session are sound, and when it is left no name means a function but one that was
made. -/
theorem sound (lived : Lived h s) : (∀ x ∈ h, x.Sound (Made h)) ∧ s.scopes.Among (Made h) := by
  induction lived with
  | start => exact ⟨fun _ hx => (List.not_mem_nil hx).elim, among_start⟩
  | @step h s lived x before fair ih =>
    obtain ⟨sound, among⟩ := ih
    subst before
    have later (f : UserFunction) (made : Made h f) : Made (h ++ [x]) f := made.append _
    have sound' : ∀ y ∈ h ++ [x], y.Sound (Made (h ++ [x])) := by
      intro y hy
      obtain hy | hy := List.mem_append.1 hy
      · exact (sound y hy).mono later
      · obtain rfl := List.mem_singleton.1 hy
        -- What a host hands over has arisen before, so it had been made then.
        exact ⟨among.mono later, fair.given.mono fun f arises => later f (arises.among sound)⟩
    have mem : x ∈ h ++ [x] := List.mem_append_right _ (List.mem_singleton_self x)
    exact ⟨sound', (sound' x mem).after mem⟩

/-- The declared functions that arise in a session are those that were made there. -/
theorem arises_iff (lived : Lived h s) : Arises h (.callable (.user f)) ↔ Made h f :=
  ⟨fun arises => arises.among lived.sound.1, fun ⟨_, creates⟩ => creates.arises⟩

/-- Two functions are equal if they were made at the same site, and only then. -/
theorem beq_iff (lived : Lived h s) (hf : Creates h site f) (hg : Creates h site' g) :
    (Value.callable (.user f) == .callable (.user g)) = true ↔ site = site' := by
  obtain ⟨x, d, step, declaration, rfl⟩ := hf.eq
  obtain ⟨y, e, step', declaration', rfl⟩ := hg.eq
  rw [Value.user_beq_iff]
  constructor
  · rintro ⟨units, places⟩
    have lt := Step.units_lt (List.mem_of_getElem? declaration)
    have lt' := Step.units_lt (List.mem_of_getElem? declaration')
    have steps := lived.eq_of_units_eq step step' lt lt' units
    rw [steps, step', Option.some.injEq] at step
    subst step
    -- In one unit the place of its name tells a declaration from all others.
    have nodup := lived.nodup_functions y (List.mem_of_getElem? step')
    have declarations : site.declaration = site'.declaration := by
      have inside := (List.getElem?_eq_some_iff.1 declaration).1
      rw [← List.length_map fun d : FunDecl => d.ident.span] at inside
      refine (List.getElem?_inj inside nodup).1 ?_
      rw [List.getElem?_map, List.getElem?_map, declaration, declaration', Option.map_some,
        Option.map_some, places]
    cases site
    cases site'
    exact congrArg₂ Site.mk steps declarations
  · rintro rfl
    rw [step, Option.some.injEq] at step'
    subst step'
    rw [declaration, Option.some.injEq] at declaration'
    exact ⟨rfl, by rw [declaration']⟩

end Lived

/-! ### Equality as a whole -/

/-- Equality of values is symmetric and transitive, reflexive but on what is no number, and never
true of values of different types, nor of a declared function and a built-in one; the operators of
scripts decide it and its negation.  Built-in functions are equal if they are the same one, which
has a name of its own.  In any session, the declared functions that arise are those that have been
made by executing the declaration at some site, and they are equal if it was the same site, and only
then: the same declaration in the text of the same unit. -/
theorem equality_by_declaration :
    (∀ v w : Value, (v == w) = (w == v)) ∧
    (∀ u v w : Value, (u == v) = true → (v == w) = true → (u == w) = true) ∧
    (∀ v : Value, (v == v) = !v.isNaN) ∧
    (∀ v w : Value, (v == w) = true → v.typeName = w.typeName) ∧
    (∀ (f : UserFunction) (b : Builtin),
      (Value.callable (.user f) == .callable (.builtin b)) = false) ∧
    (∀ a b : Builtin,
      ((Value.callable (.builtin a) == .callable (.builtin b)) = true ↔ a = b) ∧
        (a.name = b.name → a = b)) ∧
    (∀ (op : Token) (v w : Value),
      (op.kind = .equalEqual → applyBinary op v w = .ok (.bool (v == w))) ∧
        (op.kind = .bangEqual → applyBinary op v w = .ok (.bool (!(v == w))))) ∧
    ∀ (h : List Step) (s : Session), Lived h s →
      (∀ f, Arises h (.callable (.user f)) ↔ ∃ site, Creates h site f) ∧
      ∀ site site' f g, Creates h site f → Creates h site' g →
        ((Value.callable (.user f) == .callable (.user g)) = true ↔ site = site') :=
  ⟨fun _ _ => BEq.comm, fun _ _ _ => BEq.trans, Value.beq_self, fun _ _ => Value.typeName_eq_of_beq,
    Value.user_beq_builtin, fun _ _ => ⟨Value.builtin_beq_iff, fun h => Builtin.name_injective h⟩,
    fun _ v w => ⟨fun h => applyBinary_equal h v w, fun h => applyBinary_unequal h v w⟩,
    fun _ _ lived => ⟨fun _ => lived.arises_iff, fun _ _ _ _ hf hg => lived.beq_iff hf hg⟩⟩

/-- A script that declares a function in a block. -/
def declaring : String :=
  "\x7b fun f() \x7b\x7d \x7d"

/-- The declaration in that script. -/
def declaration : FunDecl :=
  ⟨⟨.ident, "f", none, 1, ⟨6, 7⟩⟩, [], []⟩

theorem stmtsOf_declaring :
    Script.stmtsOf declaring =
      [.block [.function declaration.ident declaration.params declaration.body]] := by
  unfold declaring
  cbv

theorem faultless_declaring : Faultless declaring :=
  ⟨by cbv, by cbv⟩

/-- A script without a fault is given a number. -/
theorem units_run {source : String} (faultless : Faultless source) (fuel : Nat) (s : Session)
    (w : World) : (((run fuel {} source).on s).run w).1.2.units = s.units + 1 := by
  rw [run_run faultless]
  generalize ((execAll fuel s.units (Script.stmtsOf source)).on s.scopes).run w = p
  obtain ⟨⟨result, t⟩, w'⟩ := p
  cases result <;> rfl

/-- The step of a host in memory that runs the script in some session. -/
def declaringStep (s : Session) : Step where
  before := s
  move := .run 9 {} declaring
  result := (((run 9 {} declaring).on s).run {}).1.1
  after := (((run 9 {} declaring).on s).run {}).1.2
  ends := Dialogue.mayEnd_run _ _

/-- Wherever such a step stands in a history, it makes a function. -/
theorem creates_declaringStep {i : Nat} (step : h[i]? = some (declaringStep s)) :
    Creates h ⟨i, 0⟩ ⟨s.units, declaration⟩ := by
  have numbered : (declaringStep s).after.units ≠ (declaringStep s).before.units :=
    fun same => Nat.succ_ne_self _ ((units_run faultless_declaring 9 s {}).symm.trans same)
  have stmts : (declaringStep s).stmts = Script.stmtsOf declaring := if_neg numbered
  have begins := Step.Begins.run (x := declaringStep s) rfl numbered
  rw [stmtsOf_declaring] at stmts begins
  -- The statements turn to the block, the block to its body, and that to the declaration.
  have path : Relation.ReflTransGen Work.Starts
      ⟨9, .stmts s.units
        [.block [.function declaration.ident declaration.params declaration.body]], s.scopes⟩
      ⟨6, .stmt s.units (.function declaration.ident declaration.params declaration.body),
        s.scopes.push s.scopes.newest⟩ :=
    .head .first (.head .block (.head .first .refl))
  -- The block has a frame of its own, where no name is bound yet.
  have free : ((s.scopes.push s.scopes.newest).bindings
      (s.scopes.push s.scopes.newest).newest).binds declaration.ident.lexeme = false := by
    rw [Scopes.bindings_push_newest]
    rfl
  have ends := (mayEnd_function (u := s.units)).2 ⟨(by decide : 6 ≠ 0), free, rfl⟩
  refine ⟨declaringStep s, declaration, 6, _, _, step, ?_, ?_, ends, get_of_mayEnd_function ends⟩
  · rw [stmts]
    rfl
  · exact ⟨_, List.mem_of_getElem? step, _, begins, path⟩

/-- Run twice, the script makes two functions that have one declaration and are not equal. -/
theorem equality_by_declaration_declaring :
    ∃ h s f g, Lived h s ∧ Arises h (.callable (.user f)) ∧ Arises h (.callable (.user g)) ∧
      f.decl = g.decl ∧
      applyBinary ⟨.bangEqual, "!=", none, 1, ⟨0, 2⟩⟩ (.callable (.user f)) (.callable (.user g)) =
        .ok (.bool true) := by
  let first := declaringStep start
  let second := declaringStep first.after
  have fair (h : List Step) (s : Session) : (declaringStep s).move.Fair h :=
    ⟨trivial, .inr ⟨declaring, rfl⟩⟩
  have lived : Lived [first, second] second.after :=
    .step (.step .start first rfl (fair _ _)) second rfl (fair _ _)
  have one : Creates [first, second] ⟨0, 0⟩ ⟨start.units, declaration⟩ := creates_declaringStep rfl
  have two : Creates [first, second] ⟨1, 0⟩ ⟨first.after.units, declaration⟩ :=
    creates_declaringStep rfl
  obtain ⟨-, -, -, -, -, -, operators, sessions⟩ := equality_by_declaration
  obtain ⟨arises, equal⟩ := sessions _ _ lived
  have unequal := mt (equal _ _ _ _ one two).1 (by decide)
  refine ⟨_, _, _, _, lived, (arises _).2 ⟨_, one⟩, (arises _).2 ⟨_, two⟩, rfl, ?_⟩
  rw [(operators _ _ _).2 rfl, Bool.eq_false_iff.2 unequal, Bool.not_false]

end Session

end ScriptLang

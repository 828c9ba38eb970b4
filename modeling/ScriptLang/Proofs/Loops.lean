import ScriptLang.Proofs.EmptyFrames
import ScriptLang.Proofs.Fuel
import ScriptLang.Proofs.Passage
import ScriptLang.Proofs.Returns
import ScriptLang.Proofs.Scoping.Sound

/-!
# Loops with clauses

A `for` loop is read as a `while` loop in a block.  What it means is said here without this detour:
the initialiser runs in a frame of its own, and then the condition, the body and the increment take
turns in that frame.  The tree that is read does the same.  It runs the body and the increment in
one more frame, but as no declaration can be the body of a loop, that frame stays empty, and empty
frames are not noticed.

## Main definitions

* `runTurn`, `runTurns`, `runFor` — what a `for` loop means
* `Reading.Gives` — what holds of a value that has been read

## Main results

* `Stmt.read_declares` — a statement that is read where no declaration can stand declares nothing
* `exec_step`, `exec_turns` — a turn, and all turns, of the tree that is read
* `Stmt.read_for` — a `for` loop that has been read runs as `runFor` says
-/

namespace ScriptLang

/-! ### What a loop with clauses means -/

/-- Whether a loop goes on: an absent condition always holds. -/
def holds (fuel unit : Nat) : Option Expr → Action Bool
  | none => return true
  | some condition => return (← eval fuel unit condition).isTruthy

/-- One turn: the body, and unless it returns or fails the increment. -/
def runTurn (fuel unit : Nat) (increment : Option Expr) (body : Stmt) : Action Flow := do
  match ← exec fuel unit body with
  | .returned value => return .returned value
  | .normal =>
    match increment with
    | none => return .normal
    | some increment =>
      let _ ← eval fuel unit increment
      return .normal

/-- Turns, as long as the condition holds and none of them returns. -/
def runTurns : Nat → Nat → Option Expr → Option Expr → Stmt → Action Flow
  | 0, _, _, _, _ => throw .outOfFuel
  | fuel + 1, unit, condition, increment, body => do
    if ← holds fuel unit condition then
      match ← runTurn fuel unit increment body with
      | .returned value => return .returned value
      | .normal => runTurns fuel unit condition increment body
    else return .normal

/-- A `for` loop: in a frame of its own it runs the initialiser, if there is any, and then turns. -/
def runFor (fuel unit : Nat) (init : Option Stmt) (condition increment : Option Expr)
    (body : Stmt) : Action Flow :=
  Action.inBlock do
    match init with
    | none => runTurns fuel unit condition increment body
    | some init =>
      let _ ← exec fuel unit init
      runTurns fuel unit condition increment body

/-! ### Reading statements that declare nothing -/

namespace Reading

variable {α β : Type} {m n : Nat} {V W : α → Prop}

/-- What has been read satisfies `V`, if nothing was wrong with it. -/
def Gives (V : α → Prop) : Reading n α → Prop
  | done value _ _ => V value
  | fault .. => True

theorem gives_any (r : Reading n α) : r.Gives fun _ => True := by
  cases r <;> trivial

theorem Gives.behind {r : Reading m α} {lt : m < n} (h : r.Gives V) : (r.behind lt).Gives V := by
  cases r <;> exact h

theorem Gives.map {f : α → β} {W : β → Prop} {r : Reading n α} (h : r.Gives V)
    (hf : ∀ value, V value → W (f value)) : (r.map f).Gives W := by
  cases r with
  | done value after shorter => exact hf value h
  | fault diagnostic after noLonger => trivial

theorem Gives.andThen {W : β → Prop} {r : Reading n α}
    {next : (value : α) → (after : Cursor) → after.left < n → Reading n β} (h : r.Gives V)
    (hn : ∀ value after shorter, V value → (next value after shorter).Gives W) :
    (r.andThen next).Gives W := by
  cases r with
  | done value after shorter => exact hn value after shorter h
  | fault diagnostic after noLonger => trivial

end Reading

open Reading

/-- Whatever the initialiser is, a `for` loop declares no more than its body. -/
theorem Stmt.declares_forLoop (init : Option Stmt) (condition increment : Option Expr)
    {body : Stmt} (none : body.declares = []) :
    (Stmt.forLoop init condition increment body).declares = [] := by
  cases init with
  | some init => rfl
  | none =>
    cases increment with
    | none => exact none
    | some increment => rfl

/-- Where a statement has to stand that is no declaration, none that declares anything is read. -/
theorem Stmt.read_declares (inFunction : Bool) (c : Cursor) :
    (Stmt.read inFunction c).Gives fun stmt => stmt.declares = [] := by
  have expression : (Stmt.readExpression c).Gives fun stmt => stmt.declares = [] :=
    (gives_any _).map fun _ _ => rfl
  rw [Stmt.read]
  cases h : c.take? (fun _ => true) with
  | none => exact expression
  | some t =>
    simp only
    split
    · refine (gives_any _).behind.andThen fun clauses c₁ h₁ _ => ?_
      exact (Stmt.read_declares inFunction c₁).behind.map fun body none =>
        Stmt.declares_forLoop _ _ _ none
    · refine (gives_any _).behind.andThen fun condition c₁ h₁ _ => ?_
      refine (Stmt.read_declares inFunction c₁).behind.andThen fun yes c₂ h₂ hyes => ?_
      cases h' : c₂.take? (· == .elseWord) with
      | none => exact hyes
      | some other =>
        refine (Stmt.read_declares inFunction other.after).behind.map fun no hno => ?_
        exact List.append_eq_nil_iff.2 ⟨hyes, hno⟩
    · exact ((gives_any _).map fun _ _ => rfl : (Stmt.readPrint t.token t.after).Gives _).behind
    · exact ((gives_any _).map fun _ _ => rfl :
        (Stmt.readReturn inFunction t.token t.after).Gives _).behind
    · refine (gives_any _).behind.andThen fun condition c₁ h₁ _ => ?_
      exact (Stmt.read_declares inFunction c₁).behind.map fun body none => none
    · exact (gives_any _).behind.map fun _ _ => rfl
    · exact expression
termination_by c.left
decreasing_by
  · exact h₁
  · exact h₁
  · exact other.further h₂
  · exact h₁

/-- A loop that starts with `for` has been read clause by clause, and then its body. -/
theorem Stmt.exists_clauses {inFunction : Bool} {c after : Cursor} {stmt : Stmt}
    {shorter : after.left < c.left} (isFor : c.check .forWord = true)
    (read : Stmt.read inFunction c = .done stmt after shorter) :
    ∃ init condition increment c₁ h₁ body h₂,
      Stmt.readClauses c.advance = .done (init, condition, increment) c₁ h₁ ∧
      Stmt.read inFunction c₁ = .done body after h₂ ∧
      stmt = Stmt.forLoop init condition increment body := by
  rw [Stmt.read] at read
  cases taken : c.take? (fun _ => true) with
  | none =>
    have rest : c.rest = [] := by
      unfold Cursor.take? at taken
      split at taken
      · assumption
      · simp at taken
    simp [Cursor.check, rest] at isFor
  | some t =>
    obtain ⟨-, rest, behind⟩ := Cursor.of_take? taken
    have kind : t.token.kind = .forWord := by
      simpa [Cursor.check, rest] using isFor
    have advance : c.advance = t.after := by
      rw [behind, Cursor.advance, rest]
    rw [taken] at read
    simp only [kind] at read
    rw [advance]
    cases clauses : Stmt.readClauses t.after with
    | fault diagnostic c₁ h₁ =>
      rw [clauses] at read
      cases read
    | done value c₁ h₁ =>
      rw [clauses, behind_done, andThen_done] at read
      cases body : Stmt.read inFunction c₁ with
      | fault diagnostic c₂ h₂ =>
        rw [body] at read
        cases read
      | done stmt c₂ h₂ =>
        rw [body, behind_done, map_done] at read
        cases read
        exact ⟨value.1, value.2.1, value.2.2, c₁, h₁, stmt, h₂, rfl, body, rfl⟩

theorem Cursor.isWay_any : IsWay fun _ _ => True where
  refl _ := trivial
  trans _ _ := trivial
  step _ := trivial
  report _ _ := trivial

/-- The initialiser that has been read is a declaration of a variable or an expression. -/
theorem Stmt.isInitialiser_of_readClauses {c after : Cursor} {init : Option Stmt}
    {condition increment : Option Expr} {shorter : after.left < c.left}
    (read : Stmt.readClauses c = .done (init, condition, increment) after shorter) :
    ∀ stmt ∈ init, stmt.IsInitialiser := by
  have along := Stmt.readClauses_along Cursor.isWay_any c
  rw [read] at along
  exact along.1

theorem Stmt.IsInitialiser.returns {stmt : Stmt} (h : stmt.IsInitialiser) : stmt.returns = [] := by
  cases stmt with
  | var | expression => rfl
  | print | block | branch | loop | function | ret => exact h.elim

/-! ### Results that are known -/

/-- What goes on behind an action only matters behind the results that it has. -/
theorem Action.Yields.bind_congr {α β : Type} {P : α → Prop} {a : Action α} {f g : α → Action β}
    (h : a.Yields P) (same : ∀ x, P x → f x = g x) : a >>= f = a >>= g := by
  refine Action.ext fun s => ?_
  rw [Action.on_bind, Action.on_bind]
  refine (h s).bind_congr ?_
  rintro ⟨result, t⟩ hx
  cases result with
  | ok x =>
    dsimp only
    rw [same x (hx x rfl)]
  | error e => rfl

/-- Where nothing is left to do, a statement ends as it does. -/
theorem bind_normal (a : Action Flow) :
    (do
      match ← a with
      | .returned value => return .returned value
      | .normal => return .normal) = a := by
  have same := (Action.Yields.any a).bind_congr (g := pure) (f := fun flow =>
    match flow with
    | .returned value => pure (.returned value)
    | .normal => pure .normal) fun flow _ => by cases flow <;> rfl
  rw [same, bind_pure]

/-- Two statements, one behind the other, go on where they are out of fuel if both do. -/
theorem Action.ExtendedBy.andThen {a a' b b' : Action Flow} (h : a.ExtendedBy a')
    (next : b.ExtendedBy b') :
    Action.ExtendedBy
      (do
        match ← a with
        | .returned value => return .returned value
        | .normal => b)
      (do
        match ← a' with
        | .returned value => return .returned value
        | .normal => b') := by
  refine h.bind fun flow => ?_
  cases flow with
  | returned value => exact .refl _
  | normal => exact next

/-! ### One statement on its own -/

theorem execAll_single (n u : Nat) (stmt : Stmt) :
    execAll (n + 2) u [stmt] = exec (n + 1) u stmt :=
  bind_normal _

theorem execAll_single_there (n u : Nat) (stmt : Stmt) :
    (execAll n u [stmt]).ExtendedBy (exec n u stmt) := by
  match n with
  | 0 => exact .exhausted _
  | 1 => exact .exhausted _
  | n + 2 =>
    rw [execAll_single]
    exact exec_extendedBy (Nat.le_succ _) u stmt

theorem execAll_single_back (n u : Nat) (stmt : Stmt) :
    (exec n u stmt).ExtendedBy (execAll (n + 1) u [stmt]) := by
  match n with
  | 0 => exact .exhausted _
  | n + 1 =>
    rw [execAll_single]
    exact .refl _

/-- What an expression statement does. -/
def evalOnly (n u : Nat) (e : Expr) : Action Flow := do
  let _ ← eval n u e
  return .normal

theorem exec_expression_there (n u : Nat) (e : Expr) :
    (exec n u (.expression e)).ExtendedBy (evalOnly n u e) := by
  match n with
  | 0 => exact .exhausted _
  | n + 1 => exact (eval_extendedBy (Nat.le_succ n) u e).bind fun _ => .refl _

/-! ### Turns -/

section Turns

variable (u : Nat) (condition increment : Option Expr) {body : Stmt}

/-- The body of the `while` loop that a `for` loop is read as. -/
def Stmt.step (increment : Option Expr) (body : Stmt) : Stmt :=
  match increment with
  | none => body
  | some increment => .block [body, .expression increment]

/-- The `while` loop that a `for` loop is read as, without the initialiser. -/
def Stmt.turns (condition increment : Option Expr) (body : Stmt) : Stmt :=
  .loop (condition.getD (.constant (.bool true))) (Stmt.step increment body)

theorem Stmt.forLoop_none : Stmt.forLoop none condition increment body =
    Stmt.turns condition increment body := rfl

theorem Stmt.forLoop_some (init : Stmt) : Stmt.forLoop (some init) condition increment body =
    .block [init, Stmt.turns condition increment body] := rfl

/-- The frame around the body and the increment is not noticed. -/
theorem exec_step (n : Nat) (increment : Expr) (none : body.declares = []) :
    exec (n + 1) u (Stmt.step (some increment) body) =
      execAll n u [body, .expression increment] := by
  have declares : Stmt.allDeclare [body, .expression increment] = [] := by
    rw [Stmt.allDeclare_cons, none]
    rfl
  exact inBlock_execAll n u declares

theorem exec_step_there (n : Nat) (none : body.declares = []) :
    (exec n u (Stmt.step increment body)).ExtendedBy (runTurn n u increment body) := by
  cases increment with
  | none =>
    have same : runTurn n u .none body = exec n u body := bind_normal _
    rw [same]
    exact .refl _
  | some increment =>
    match n with
    | 0 => exact .exhausted _
    | 1 =>
      rw [exec_step u 0 increment none]
      exact .exhausted _
    | n + 2 =>
      rw [exec_step u (n + 1) increment none]
      have first := exec_extendedBy (show n ≤ n + 2 by omega) u body
      have second := (execAll_single_there n u (.expression increment)).trans
        (exec_expression_there n u increment)
      refine first.andThen (second.trans ?_)
      exact (eval_extendedBy (by omega) u increment).bind fun _ => .refl _

theorem exec_step_back (n : Nat) (none : body.declares = []) :
    (runTurn n u increment body).ExtendedBy (exec (n + 4) u (Stmt.step increment body)) := by
  cases increment with
  | none =>
    have same : runTurn n u .none body = exec n u body := bind_normal _
    rw [same]
    exact exec_extendedBy (by omega) u body
  | some increment =>
    rw [exec_step u (n + 3) increment none]
    have first := exec_extendedBy (show n ≤ n + 2 by omega) u body
    have second : (evalOnly n u increment).ExtendedBy (execAll (n + 2) u [.expression increment]) :=
      execAll_single_back (n + 1) u (.expression increment)
    exact first.andThen second

theorem holds_there {n m : Nat} (le : n ≤ m) {yes yes' no : Action Flow}
    (next : yes.ExtendedBy yes') :
    Action.ExtendedBy
      (do if (← eval n u (condition.getD (.constant (.bool true)))).isTruthy then yes else no)
      (do if ← holds m u condition then yes' else no) := by
  cases condition with
  | none =>
    match n with
    | 0 => exact .exhausted _
    | n + 1 => exact next
  | some condition =>
    rw [holds, bind_assoc]
    refine (eval_extendedBy le u condition).bind fun v => ?_
    rw [pure_bind]
    split
    · exact next
    · exact .refl _

theorem holds_back {n m : Nat} (lt : n < m) {yes yes' no : Action Flow}
    (next : yes.ExtendedBy yes') :
    Action.ExtendedBy
      (do if ← holds n u condition then yes else no)
      (do if (← eval m u (condition.getD (.constant (.bool true)))).isTruthy then yes'
          else no) := by
  cases condition with
  | none =>
    match m with
    | m + 1 => exact next
  | some condition =>
    rw [holds, bind_assoc]
    refine (eval_extendedBy (Nat.le_of_lt lt) u condition).bind fun v => ?_
    rw [pure_bind]
    split
    · exact next
    · exact .refl _

theorem exec_turns_there (n : Nat) (none : body.declares = []) :
    (exec n u (Stmt.turns condition increment body)).ExtendedBy
      (runTurns n u condition increment body) := by
  induction n with
  | zero => exact .exhausted _
  | succ n ih =>
    exact holds_there u condition (Nat.le_refl n)
      ((exec_step_there u increment n none).andThen ih)

theorem exec_turns_back (n : Nat) (none : body.declares = []) :
    (runTurns n u condition increment body).ExtendedBy
      (exec (n + 5) u (Stmt.turns condition increment body)) := by
  induction n with
  | zero => exact .exhausted _
  | succ n ih =>
    have turn := (exec_step_back u increment n none).trans
      (exec_extendedBy (Nat.le_succ _) u _)
    exact holds_back u condition (by omega) (turn.andThen ih)

/-- Turns declare nothing, so they need no frame of their own. -/
theorem inBlock_runTurns (n : Nat) (none : body.declares = []) :
    Action.inBlock (runTurns n u condition increment body) =
      runTurns n u condition increment body := by
  have holds_overlooks (n : Nat) : (holds n u condition).Overlooks 0 := by
    cases condition with
    | none => exact .pure true
    | some condition => exact ((overlooking n).eval u condition).bind fun _ => .pure _
  have turn_overlooks (n : Nat) : (runTurn n u increment body).Overlooks 0 := by
    refine ((overlooking n).exec u body (.inr none)).bind fun flow => ?_
    cases flow with
    | returned value => exact .pure _
    | normal =>
      cases increment with
      | none => exact .pure _
      | some increment => exact ((overlooking n).eval u increment).bind fun _ => .pure _
  have turns_overlook : (runTurns n u condition increment body).Overlooks 0 := by
    induction n with
    | zero => exact .throw _
    | succ n ih =>
      refine (holds_overlooks n).bind fun go => ?_
      split
      · refine (turn_overlooks n).bind fun flow => ?_
        cases flow with
        | returned value => exact .pure _
        | normal => exact ih
      · exact .pure _
  exact turns_overlook.inBlock_eq

end Turns

/-! ### Loops -/

section Loops

variable {init : Option Stmt} (condition increment : Option Expr) {body : Stmt}

/-- The initialiser runs to its end, or fails. -/
theorem execAll_init {stmt : Stmt} (isInit : stmt.IsInitialiser) (n u : Nat) (later : List Stmt) :
    execAll (n + 1) u (stmt :: later) = (do
      let _ ← exec n u stmt
      execAll n u later) := by
  refine (exec_normal n u isInit.returns).bind_congr ?_
  rintro _ rfl
  rfl

theorem exec_forLoop_there (isInit : ∀ stmt ∈ init, stmt.IsInitialiser) (none : body.declares = [])
    (n u : Nat) :
    (exec n u (Stmt.forLoop init condition increment body)).ExtendedBy
      (runFor n u init condition increment body) := by
  cases init with
  | none =>
    have same : runFor n u .none condition increment body =
        runTurns n u condition increment body := inBlock_runTurns u condition increment n none
    rw [same, Stmt.forLoop_none]
    exact exec_turns_there u condition increment n none
  | some init =>
    rw [Stmt.forLoop_some]
    match n with
    | 0 => exact .exhausted _
    | n + 1 =>
      refine Action.ExtendedBy.inBlock ?_
      match n with
      | 0 => exact .exhausted _
      | n + 1 =>
        rw [execAll_init (isInit init rfl)]
        refine (exec_extendedBy (by omega) u init).bind fun _ => ?_
        have turns := (execAll_single_there n u (Stmt.turns condition increment body)).trans
          (exec_extendedBy (show n ≤ n + 2 by omega) u _)
        exact turns.trans (exec_turns_there u condition increment (n + 2) none)

theorem exec_forLoop_back (isInit : ∀ stmt ∈ init, stmt.IsInitialiser) (none : body.declares = [])
    (n u : Nat) :
    (runFor n u init condition increment body).ExtendedBy
      (exec (n + 8) u (Stmt.forLoop init condition increment body)) := by
  have turns := exec_turns_back u condition increment n none
  cases init with
  | none =>
    have same : runFor n u .none condition increment body =
        runTurns n u condition increment body := inBlock_runTurns u condition increment n none
    rw [same, Stmt.forLoop_none]
    exact turns.trans (exec_extendedBy (by omega) u _)
  | some init =>
    rw [Stmt.forLoop_some]
    refine Action.ExtendedBy.inBlock ?_
    rw [execAll_init (isInit init rfl)]
    refine (exec_extendedBy (by omega) u init).bind fun _ => ?_
    exact turns.trans (execAll_single_back (n + 5) u _)

/-- The tree that is read asks the host what the loop asks it, and ends in the same way. -/
theorem sameEnds_forLoop (isInit : ∀ stmt ∈ init, stmt.IsInitialiser) (none : body.declares = [])
    (u : Nat) :
    Action.SameEnds (fun n => exec n u (Stmt.forLoop init condition increment body))
      (fun n => runFor n u init condition increment body) where
  there n := ⟨n, exec_forLoop_there condition increment isInit none n u⟩
  back n := ⟨n + 8, exec_forLoop_back condition increment isInit none n u⟩

end Loops

/-- Whatever a `for` loop that is read is made of, running the tree is the same as running the loop:
with every answer of the host they ask the same, and they end in the same way and leave the same
frames; so with a host in memory they come to the same results, write the same and read the same.
The frame in which the body and the increment run stays empty, so that both see what the frame of
the loop sees, and no name that the loop declares is there after it. -/
theorem Stmt.read_for {inFunction : Bool} {c after : Cursor} {stmt : Stmt}
    {shorter : after.left < c.left} (isFor : c.check .forWord = true)
    (read : Stmt.read inFunction c = .done stmt after shorter) :
    ∃ init condition increment c₁ h₁ body h₂,
      Stmt.readClauses c.advance = .done (init, condition, increment) c₁ h₁ ∧
      Stmt.read inFunction c₁ = .done body after h₂ ∧
      ∀ u : Nat,
        Action.SameEnds (fun n => exec n u stmt)
          (fun n => runFor n u init condition increment body) ∧
        (∀ s w p, p.1.1 ≠ .error .outOfFuel → ((∃ n, ((exec n u stmt).on s).run w = p) ↔
          ∃ n, ((runFor n u init condition increment body).on s).run w = p)) ∧
        (∀ s : Scopes, s.Hollow (s.push s.newest) ∧ ∀ t, s.Hollow t →
          (∀ n, ((exec n u body).on t).Ends fun p => s.Hollow p.2) ∧
          (∀ n, ∀ e ∈ increment, ((eval n u e).on t).Ends fun p => s.Hollow p.2) ∧
          ∀ name, ∀ i : t.Id, i.val = s.newest.val →
            t.resolve? name t.newest = t.resolve? name i) ∧
        ∀ n s, ((exec n u stmt).on s).Ends fun p => ∀ i x, p.2.BindsAt i x ↔ s.BindsAt i x := by
  obtain ⟨init, condition, increment, c₁, h₁, body, h₂, clauses, inner, rfl⟩ :=
    exists_clauses isFor read
  have isInit := isInitialiser_of_readClauses clauses
  have none : body.declares = [] := by
    have gives := read_declares inFunction c₁
    rwa [inner] at gives
  refine ⟨init, condition, increment, c₁, h₁, body, h₂, clauses, inner, fun u => ?_⟩
  have same := sameEnds_forLoop condition increment isInit none u
  refine ⟨same, same.run, fun s => ⟨s.hollow_push_newest, fun t hollow => ⟨fun n => ?_,
    fun n e _ => ?_, fun name i around => ?_⟩⟩, fun n s => ?_⟩
  · have gains := exec_gains n u body
    rw [none] at gains
    exact gains.hollow hollow
  · exact (eval_gains n u e).hollow hollow
  · exact hollow.resolve? name around
  · have gains := exec_gains n u (Stmt.forLoop init condition increment body)
    rw [declares_forLoop init condition increment none] at gains
    exact (gains s).mono fun p unchanged i x => unchanged.bindsAt_iff

/-- The cursor before `for (var i;; i) i;`. -/
def Cursor.atLoop : Cursor where
  previous := none
  rest := [⟨.forWord, "for", none, 1, ⟨0, 3⟩⟩, ⟨.leftParen, "(", none, 1, ⟨4, 5⟩⟩,
    ⟨.varWord, "var", none, 1, ⟨5, 8⟩⟩, ⟨.ident, "i", none, 1, ⟨9, 10⟩⟩,
    ⟨.semicolon, ";", none, 1, ⟨10, 11⟩⟩, ⟨.semicolon, ";", none, 1, ⟨11, 12⟩⟩,
    ⟨.ident, "i", none, 1, ⟨13, 14⟩⟩, ⟨.rightParen, ")", none, 1, ⟨14, 15⟩⟩,
    ⟨.ident, "i", none, 1, ⟨16, 17⟩⟩, ⟨.semicolon, ";", none, 1, ⟨17, 18⟩⟩]
  last := ⟨.eof, "", none, 1, ⟨18, 18⟩⟩
  reported := []

/-- Read as a tree, this loop runs as it is written, and the `i` that it declares is not there after
it. -/
theorem Stmt.read_for_atLoop :
    ∃ stmt after shorter, Stmt.read false Cursor.atLoop = .done stmt after shorter ∧
      ∃ init condition increment body, ∀ u : Nat,
        Action.SameEnds (fun n => exec n u stmt)
          (fun n => runFor n u init condition increment body) ∧
        ∀ n s, ((exec n u stmt).on s).Ends fun p => ∀ i, p.2.BindsAt i "i" ↔ s.BindsAt i "i" := by
  have isFor : Cursor.atLoop.check .forWord = true := by cbv
  have hasValue : ¬(Stmt.read false Cursor.atLoop).Gives fun _ => False := by
    unfold Cursor.atLoop
    cbv
  cases read : Stmt.read false Cursor.atLoop with
  | fault d after h =>
    rw [read] at hasValue
    exact absurd trivial hasValue
  | done stmt after shorter =>
    obtain ⟨init, condition, increment, _, _, body, _, -, -, runs⟩ := Stmt.read_for isFor read
    refine ⟨stmt, after, shorter, rfl, init, condition, increment, body, fun u => ?_⟩
    obtain ⟨same, -, -, names⟩ := runs u
    exact ⟨same, fun n s => (names n s).mono fun p unchanged i => unchanged i "i"⟩

end ScriptLang

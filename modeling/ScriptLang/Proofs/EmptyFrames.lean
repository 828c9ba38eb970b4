import ScriptLang.Proofs.Names

/-!
# Empty frames

An empty frame between the others cannot be noticed, as long as nothing is declared in it: names are
looked up through it, and what is assigned is assigned in other frames.  So a run goes the same way
whether there is such a frame or not, and a block in which nothing is declared does what its
statements do without a frame of their own.

## Main definitions

* `Scopes.Padded` — the same open frames, with an empty one in between
* `Action.Overlooks` — an action does not notice such a frame
* `Scopes.Hollow` — frames whose newest one is the empty frame of a block

## Main results

* `Scopes.Padded.resolve?` — names are found in the same frames
* `overlooking` — the evaluator does not notice empty frames
* `Action.Overlooks.inBlock_eq` — what does not notice them needs no frame of its own
* `Action.Gains.hollow` — the frame of a block without declarations stays empty
-/

namespace ScriptLang

/-! ### Numbers of frames -/

/-- The number that frame `i` has when frame `k` is left out.  For frame `k` itself it is that of
the frame before it. -/
def Scopes.cut (k i : Nat) : Nat :=
  if i < k then i else i - 1

/-- The frame with another numbering of the frames around it. -/
def Frame.relink (g : Nat → Nat) (f : Frame) : Frame where
  bindings := f.bindings
  enclosing := f.enclosing.map g

theorem Scopes.cut_of_lt {k i : Nat} (h : i < k) : cut k i = i :=
  if_pos h

theorem Scopes.cut_of_le {k i : Nat} (h : k ≤ i) : cut k i = i - 1 :=
  if_neg (Nat.not_lt.2 h)

theorem Scopes.cut_eq_cut_iff {k i j : Nat} (hi : i ≠ k) (hj : j ≠ k) :
    cut k i = cut k j ↔ i = j := by
  unfold cut
  split <;> split <;> omega

/-- Links to frames before frame `k` are the same without it. -/
theorem Frame.relink_cut {k : Nat} {f : Frame} (h : ∀ p, f.enclosing = some p → p < k) :
    f.relink (Scopes.cut k) = f := by
  obtain ⟨bindings, link⟩ := f
  cases link with
  | none => rfl
  | some p => simp only [relink, Option.map_some, Scopes.cut_of_lt (h p rfl)]

/-! ### An empty frame in between -/

/-- The frames of `s'` are those of `s` and an empty one, which is frame `k`.  It is enclosed by the
frame before it, and there are `d` newer ones. -/
structure Scopes.Padded (k d : Nat) (s s' : Scopes) : Prop where
  pos : 0 < k
  size : s.frames.size = k + d
  size' : s'.frames.size = k + d + 1
  empty : s'.frames[k]? = some ⟨[], some (k - 1)⟩
  frame : ∀ i, i ≠ k → s.frames[cut k i]? = s'.frames[i]?.map (Frame.relink (cut k))

namespace Scopes.Padded

variable {k d : Nat} {s s' : Scopes}

theorem cut_lt (h : Padded k d s s') (i : s'.Id) : cut k i < s.frames.size := by
  have pos := h.pos
  have size := h.size
  have size' := h.size'
  have lt := i.isLt
  unfold cut
  split <;> omega

/-- The frame of `s` that a frame of `s'` stands for; the empty one stands for the one around it. -/
def origin (h : Padded k d s s') (i : s'.Id) : s.Id :=
  ⟨cut k i, h.cut_lt i⟩

theorem origin_val (h : Padded k d s s') (i : s'.Id) : (h.origin i).val = cut k i := rfl

theorem origin_newest (h : Padded k d s s') : h.origin s'.newest = s.newest := by
  have pos := h.pos
  have size := h.size
  have size' := h.size'
  apply Fin.ext
  rw [origin_val, newest_val, newest_val, cut_of_le (by omega)]
  omega

theorem origin_oldest (h : Padded k d s s') : h.origin s'.oldest = s.oldest :=
  Fin.ext (cut_of_lt h.pos)

/-- With newer frames than the empty one, that one is not the newest. -/
theorem newest_ne (h : Padded k d s s') (newer : 0 < d) : s'.newest.val ≠ k := by
  have size' := h.size'
  rw [newest_val]
  omega

theorem bindings_eq (h : Padded k d s s') {i : s'.Id} (other : i.val ≠ k) :
    s.bindings (h.origin i) = s'.bindings i ∧
      s.enclosing (h.origin i) = (s'.enclosing i).map (cut k) := by
  have frame := h.frame i other
  have left := s.getElem?_id (h.origin i)
  rw [h.origin_val, frame, s'.getElem?_id i, Option.map_some,
    Option.some.injEq, Frame.relink, Frame.mk.injEq] at left
  exact ⟨left.1.symm, left.2.symm⟩

theorem empty_eq (h : Padded k d s s') {i : s'.Id} (here : i.val = k) :
    s'.bindings i = [] ∧ s'.enclosing i = some (k - 1) := by
  have frame := s'.getElem?_id i
  rw [here, h.empty, Option.some.injEq, Frame.mk.injEq] at frame
  exact ⟨frame.1.symm, frame.2.symm⟩

/-! ### Looking up names -/

/-- No name is found in the empty frame. -/
theorem ne_of_resolve? (h : Padded k d s s') {name : String} {i j : s'.Id}
    (found : s'.resolve? name i = some j) : j.val ≠ k := by
  intro here
  have bound := binds_of_resolve? found
  rw [(h.empty_eq here).1] at bound
  cases bound

/-- Names are found in the same frames with the empty frame as without it. -/
theorem resolve? (h : Padded k d s s') (name : String) (i : s'.Id) :
    s.resolve? name (h.origin i) = (s'.resolve? name i).map h.origin := by
  induction hn : i.val using Nat.strongRecOn generalizing i with
  | ind n ih =>
    by_cases here : i.val = k
    · -- The way outwards from the empty frame is that from the frame around it.
      obtain ⟨bindings, link⟩ := h.empty_eq here
      have unbound : (s'.bindings i).binds name = false := by rw [bindings]; rfl
      have before : k - 1 < i.val := lt_of_enclosing link
      have around : cut k i = cut k (k - 1) := by
        rw [here, cut_of_le (Nat.le_refl k), cut_of_lt (Nat.sub_lt h.pos Nat.one_pos)]
      have same : h.origin i = h.origin ⟨k - 1, Nat.lt_trans before i.isLt⟩ := Fin.ext around
      rw [resolve?_of_enclosing unbound link, same]
      exact ih (k - 1) (hn ▸ before) _ rfl
    · obtain ⟨bindings, link⟩ := h.bindings_eq here
      cases bound : (s'.bindings i).binds name with
      | true =>
        rw [resolve?_of_binds bound, resolve?_of_binds (bindings ▸ bound)]
        rfl
      | false =>
        cases outer : s'.enclosing i with
        | none =>
          rw [outer, Option.map_none] at link
          rw [resolve?_of_last bound outer, resolve?_of_last (bindings ▸ bound) link]
          rfl
        | some p =>
          rw [outer, Option.map_some] at link
          rw [resolve?_of_enclosing bound outer, resolve?_of_enclosing (bindings ▸ bound) link]
          exact ih p (hn ▸ lt_of_enclosing outer) ⟨p, _⟩ rfl

theorem find? (h : Padded k d s s') (name : String) (i : s'.Id) :
    s.find? name (h.origin i) = s'.find? name i := by
  unfold Scopes.find?
  rw [h.resolve?]
  cases found : s'.resolve? name i with
  | none => rfl
  | some j =>
    rw [Option.map_some, Option.bind_some, Option.bind_some,
      (h.bindings_eq (h.ne_of_resolve? found)).1]

theorem get (h : Padded k d s s') (ident : Token) :
    s.get ident s.newest = s'.get ident s'.newest := by
  unfold Scopes.get
  rw [← h.origin_newest, h.find?]

/-! ### Opening, closing and changing frames -/

/-- A change of any other frame than the empty one leaves the empty one as it is. -/
theorem modify (h : Padded k d s s') {i : s'.Id} (other : i.val ≠ k) (f : Bindings → Bindings) :
    Padded k d (s.modify (h.origin i) f) (s'.modify i f) where
  pos := h.pos
  size := by rw [size_modify, h.size]
  size' := by rw [size_modify, h.size']
  empty := by rw [getElem?_modify, if_neg other, h.empty]
  frame j hj := by
    rw [getElem?_modify, getElem?_modify, h.frame j hj]
    simp only [h.origin_val, cut_eq_cut_iff other hj]
    split
    · rw [Option.map_map, Option.map_map]
      rfl
    · rfl

theorem push (h : Padded k d s s') (i : s'.Id) :
    Padded k (d + 1) (s.push (h.origin i)) (s'.push i) where
  pos := h.pos
  size := by rw [size_push, h.size, Nat.add_assoc]
  size' := by rw [size_push, h.size', ← Nat.add_assoc]
  empty := by
    have size' := h.size'
    rw [getElem?_push, if_neg (by omega), h.empty]
  frame j hj := by
    have pos := h.pos
    have size := h.size
    have size' := h.size'
    have top : cut k j = s.frames.size ↔ j = s'.frames.size := by
      unfold cut
      split <;> omega
    rw [getElem?_push, getElem?_push, h.frame j hj]
    simp only [top]
    split
    · rfl
    · rfl

theorem pop (h : Padded k (d + 1) s s') : Padded k d s.pop s'.pop := by
  have pos := h.pos
  have size := h.size
  have size' := h.size'
  have more : 1 < s.frames.size := by omega
  have more' : 1 < s'.frames.size := by omega
  refine ⟨pos, ?_, ?_, ?_, fun j hj => ?_⟩
  · rw [size_pop more]
    omega
  · rw [size_pop more']
    omega
  · rw [getElem?_pop more', if_pos (by omega), h.empty]
  · have below : cut k j < s.frames.size - 1 ↔ j < s'.frames.size - 1 := by
      unfold cut
      split <;> omega
    rw [getElem?_pop more, getElem?_pop more', h.frame j hj]
    simp only [below]
    split
    · rfl
    · rfl

end Scopes.Padded

/-- A frame that has just been opened for a block is an empty one. -/
theorem Scopes.padded_push_newest (s : Scopes) :
    Padded s.frames.size 0 s (s.push s.newest) where
  pos := s.pos
  size := rfl
  size' := s.size_push s.newest
  empty := by rw [getElem?_push, if_pos rfl, newest_val]
  frame i hi := by
    rw [getElem?_push, if_neg hi]
    rcases Nat.lt_or_gt_of_ne hi with old | beyond
    · have links : ∀ p, s.frames[i].enclosing = some p → p < s.frames.size :=
        fun p link => Nat.lt_trans (s.older i old p link) old
      rw [cut_of_lt old, Array.getElem?_eq_getElem old, Option.map_some, Frame.relink_cut links]
    · rw [cut_of_le (Nat.le_of_lt beyond), Array.getElem?_eq_none (by omega),
        Array.getElem?_eq_none (by omega)]
      rfl

/-- Without the empty frame, if it is the newest, the frames are those without it. -/
theorem Scopes.Padded.pop_eq {k : Nat} {s s' : Scopes} (h : Padded k 0 s s') : s'.pop = s := by
  have pos := h.pos
  have size := h.size
  have size' := h.size'
  have more : 1 < s'.frames.size := by omega
  have frames : s'.pop.frames = s.frames := by
    refine Array.ext_getElem? fun i => ?_
    rw [getElem?_pop more]
    by_cases old : i < k
    · have lt : i < s'.frames.size := by omega
      have links : ∀ p, s'.frames[i].enclosing = some p → p < k :=
        fun p link => Nat.lt_trans (s'.older i lt p link) old
      have frame := h.frame i (Nat.ne_of_lt old)
      rw [cut_of_lt old, Array.getElem?_eq_getElem lt, Option.map_some,
        Frame.relink_cut links] at frame
      rw [if_pos (by omega), frame, Array.getElem?_eq_getElem lt]
    · rw [if_neg (by omega), Array.getElem?_eq_none (by omega)]
  obtain ⟨_, _, _⟩ := s
  cases e : s'.pop with
  | mk frames' pos' older' =>
    rw [e] at frames
    subst frames
    rfl

/-! ### Actions -/

/-- Started with an empty frame among the others, of which `d` are newer, the action asks the same,
ends in the same way and leaves the same frames as without it, and that frame empty. -/
def Action.Overlooks {α : Type} (d : Nat) (a : Action α) : Prop :=
  ∀ ⦃k : Nat⦄ ⦃s s' : Scopes⦄, s.Padded k d s' →
    (a.on s).Follows (fun _ => False) (fun p p' => p.1 = p'.1 ∧ p.2.Padded k d p'.2) (a.on s')

namespace Action.Overlooks

variable {α β : Type} {d : Nat} {a : Action α}

/-- What leaves the frames as they are, and does not look at them, overlooks empty ones. -/
theorem of_done {r : Except Stop α} (h : ∀ s, a.on s = .done (r, s)) : a.Overlooks d := by
  intro k s s' padded
  rw [h, h]
  exact .done ⟨rfl, padded⟩

theorem pure (x : α) : (Pure.pure x : Action α).Overlooks d :=
  of_done fun _ => rfl

theorem throw (e : Stop) : (MonadExcept.throw e : Action α).Overlooks d :=
  of_done fun _ => rfl

theorem bind {f : α → Action β} (h : a.Overlooks d) (next : ∀ x, (f x).Overlooks d) :
    (a >>= f).Overlooks d := by
  intro k s s' padded
  rw [Action.on_bind, Action.on_bind]
  refine (h padded).bind ?_ fun _ never => never.elim
  rintro ⟨result, t⟩ ⟨_, t'⟩ ⟨rfl, padded'⟩
  cases result with
  | ok x => exact next x padded'
  | error e => exact .done ⟨rfl, padded'⟩

theorem request (r : Request) : (Action.request r).Overlooks d :=
  fun _ _ _ padded => .ask fun _ => .done ⟨rfl, padded⟩

theorem read (ident : Token) : (Action.read ident).Overlooks d := by
  intro k s s' padded
  rw [Action.on_read, Action.on_read, padded.get]
  exact .done ⟨rfl, padded⟩

theorem assign (ident : Token) (value : Value) : (Action.assign ident value).Overlooks d := by
  intro k s s' padded
  rw [Action.on_assign, Action.on_assign, Scopes.assign, Scopes.assign, ← padded.origin_newest,
    padded.resolve?]
  cases found : s'.resolve? ident.lexeme s'.newest with
  | none => exact .done ⟨rfl, padded⟩
  | some j => exact .done ⟨rfl, padded.modify (padded.ne_of_resolve? found) _⟩

/-- A declaration does not notice an empty frame unless it stands in it. -/
theorem define (newer : 0 < d) (ident : Token) (value : Value) :
    (Action.define ident value).Overlooks d := by
  intro k s s' padded
  have other := padded.newest_ne newer
  rw [Action.on_define, Action.on_define, Scopes.define, Scopes.define, ← padded.origin_newest,
    (padded.bindings_eq other).1]
  split
  · exact .done ⟨rfl, padded⟩
  · exact .done ⟨rfl, padded.modify other _⟩

theorem inBlock (h : a.Overlooks (d + 1)) : (Action.inBlock a).Overlooks d := by
  intro k s s' padded
  rw [Action.on_inBlock, Action.on_inBlock, ← padded.origin_newest]
  refine (h (padded.push s'.newest)).bind ?_ fun _ never => never.elim
  rintro p p' ⟨result, padded'⟩
  exact .done ⟨result, padded'.pop⟩

theorem inCall (h : a.Overlooks (d + 1)) : (Action.inCall a).Overlooks d := by
  intro k s s' padded
  rw [Action.on_inCall, Action.on_inCall, ← padded.origin_oldest]
  refine (h (padded.push s'.oldest)).bind ?_ fun _ never => never.elim
  rintro p p' ⟨result, padded'⟩
  exact .done ⟨result, padded'.pop⟩

theorem ofResult (token : Token) (result : Except RuntimeFault α) :
    (Action.ofResult token result).Overlooks d :=
  of_done (Action.on_ofResult token result)

theorem callBuiltin (b : Builtin) (args : List Value) (paren : Token) :
    (callBuiltin b args paren).Overlooks d := by
  intro k s s' padded
  rw [Action.on_callBuiltin, Action.on_callBuiltin]
  have same : Dialogue.Follows (fun _ => False) Eq (b.run args) (b.run args) :=
    .refl (Dialogue.ends_of_forall fun _ => rfl)
  refine same.bind ?_ fun _ never => never.elim
  rintro result _ rfl
  exact .done ⟨rfl, padded⟩

theorem bindParams (newer : 0 < d) (params : List Token) (args : List Value) :
    (bindParams params args).Overlooks d := by
  induction params generalizing args with
  | nil => exact pure ()
  | cons param params ih =>
    cases args with
    | nil => exact pure ()
    | cons arg args => exact (define newer param arg).bind fun _ => ih args

end Action.Overlooks

/-! ### The evaluator -/

/-- With some fuel the evaluator overlooks empty frames, except that no declaration may stand in
one. -/
structure Overlooking (n : Nat) : Prop where
  exec : ∀ {d : Nat} (u : Nat) (stmt : Stmt), 0 < d ∨ stmt.declares = [] →
    (exec n u stmt).Overlooks d
  execAll : ∀ {d : Nat} (u : Nat) (stmts : List Stmt), 0 < d ∨ Stmt.allDeclare stmts = [] →
    (execAll n u stmts).Overlooks d
  eval : ∀ {d : Nat} (u : Nat) (e : Expr), (eval n u e).Overlooks d
  evalAll : ∀ {d : Nat} (u : Nat) (es : List Expr), (evalAll n u es).Overlooks d
  call : ∀ {d : Nat} (f : Callable) (args : List Value) (paren : Token),
    (call n f args paren).Overlooks d

namespace Overlooking

theorem zero : Overlooking 0 where
  exec _ _ _ := .throw .outOfFuel
  execAll _ _ _ := .throw .outOfFuel
  eval _ _ := .throw .outOfFuel
  evalAll _ _ := .throw .outOfFuel
  call _ _ _ := .throw .outOfFuel

variable {n d : Nat} (h : Overlooking n)
include h

theorem exec_succ (u : Nat) (stmt : Stmt) (allowed : 0 < d ∨ stmt.declares = []) :
    (ScriptLang.exec (n + 1) u stmt).Overlooks d := by
  cases stmt with
  | expression e => exact (h.eval u e).bind fun _ => .pure _
  | print word e =>
    refine (h.eval u e).bind fun v => (Action.Overlooks.request _).bind fun answer => ?_
    cases answer with
    | ok _ => exact .pure _
    | error why => exact .throw _
  | var ident init =>
    have newer : 0 < d := allowed.resolve_right (List.cons_ne_nil _ _)
    cases init with
    | none => exact (Action.Overlooks.define newer ident _).bind fun _ => .pure _
    | some e =>
      refine (h.eval u e).bind fun v => ?_
      exact (Action.Overlooks.define newer ident v).bind fun _ => .pure _
  | block body => exact .inBlock (h.execAll u body (.inl d.succ_pos))
  | branch condition yes no =>
    refine (h.eval u condition).bind fun v => ?_
    cases no with
    | none =>
      split
      · exact h.exec u yes allowed
      · exact .pure _
    | some no =>
      have both : 0 < d ∨ yes.declares = [] ∧ no.declares = [] :=
        allowed.imp_right List.append_eq_nil_iff.1
      split
      · exact h.exec u yes (both.imp_right And.left)
      · exact h.exec u no (both.imp_right And.right)
  | loop condition body =>
    refine (h.eval u condition).bind fun v => ?_
    split
    · refine (h.exec u body allowed).bind fun flow => ?_
      cases flow with
      | returned v => exact .pure _
      | normal => exact h.exec u (.loop condition body) allowed
    · exact .pure _
  | function ident params body =>
    have newer : 0 < d := allowed.resolve_right (List.cons_ne_nil _ _)
    exact (Action.Overlooks.define newer ident _).bind fun _ => .pure _
  | ret word value =>
    cases value with
    | none => exact .pure _
    | some e => exact (h.eval u e).bind fun v => .pure _

theorem execAll_succ (u : Nat) (stmts : List Stmt)
    (allowed : 0 < d ∨ Stmt.allDeclare stmts = []) :
    (ScriptLang.execAll (n + 1) u stmts).Overlooks d := by
  cases stmts with
  | nil => exact .pure _
  | cons stmt later =>
    have both : 0 < d ∨ stmt.declares = [] ∧ Stmt.allDeclare later = [] :=
      allowed.imp_right List.append_eq_nil_iff.1
    refine (h.exec u stmt (both.imp_right And.left)).bind fun flow => ?_
    cases flow with
    | returned v => exact .pure _
    | normal => exact h.execAll u later (both.imp_right And.right)

theorem eval_succ (u : Nat) (e : Expr) : (ScriptLang.eval (n + 1) u e).Overlooks d := by
  cases e with
  | constant c => exact .pure _
  | group inner => exact h.eval u inner
  | name ident => exact .read ident
  | assign ident value =>
    refine (h.eval u value).bind fun v => ?_
    exact (Action.Overlooks.assign ident v).bind fun _ => .pure _
  | logical op left right =>
    refine (h.eval u left).bind fun v => ?_
    split
    · exact .pure _
    · exact h.eval u right
  | unary op operand => exact (h.eval u operand).bind fun v => .ofResult op _
  | binary op left right =>
    exact (h.eval u left).bind fun v => (h.eval u right).bind fun w => .ofResult op _
  | call callee paren args =>
    refine (h.eval u callee).bind fun v => ?_
    cases v with
    | callable f =>
      refine (h.evalAll u args).bind fun vs => ?_
      split
      · exact h.call f vs paren
      · exact .throw _
    | _ => exact .throw _

theorem evalAll_succ (u : Nat) (es : List Expr) :
    (ScriptLang.evalAll (n + 1) u es).Overlooks d := by
  cases es with
  | nil => exact .pure _
  | cons e later =>
    exact (h.eval u e).bind fun v => (h.evalAll u later).bind fun vs => .pure _

theorem call_succ (f : Callable) (args : List Value) (paren : Token) :
    (ScriptLang.call (n + 1) f args paren).Overlooks d := by
  cases f with
  | builtin b => exact .callBuiltin b args paren
  | user f =>
    -- Whatever the body declares, it declares in the frame of the call.
    have newer : 0 < d + 1 := d.succ_pos
    refine .inCall ((Action.Overlooks.bindParams newer f.decl.params args).bind fun _ => ?_)
    refine (h.execAll f.unit f.decl.body (.inl newer)).bind fun flow => ?_
    cases flow with
    | returned v => exact .pure _
    | normal => exact .pure _

/-- One more step. -/
theorem succ : Overlooking (n + 1) :=
  ⟨h.exec_succ, h.execAll_succ, h.eval_succ, h.evalAll_succ, h.call_succ⟩

end Overlooking

/-- The evaluator overlooks empty frames. -/
theorem overlooking (n : Nat) : Overlooking n := by
  induction n with
  | zero => exact .zero
  | succ n ih => exact ih.succ

/-! ### Blocks without declarations -/

/-- What does not notice an empty frame needs no frame of its own. -/
theorem Action.Overlooks.inBlock_eq {α : Type} {a : Action α} (h : a.Overlooks 0) :
    Action.inBlock a = a := by
  refine Action.ext fun s => ?_
  have follows := h s.padded_push_newest
  -- At every end the frame of the block is closed, and what is left are the frames without it.
  have same : Dialogue.Follows (fun _ => False) (fun p p' => p = (p'.1, p'.2.pop))
      (a.on s) (a.on (s.push s.newest)) :=
    follows.mono fun p p' alike => Prod.ext alike.1 alike.2.pop_eq.symm
  have equal := same.map_eq (f := id)
  rw [id_map] at equal
  rw [Action.on_inBlock, equal, map_eq_pure_bind]
  rfl

theorem inBlock_execAll (n u : Nat) {stmts : List Stmt} (none : Stmt.allDeclare stmts = []) :
    Action.inBlock (execAll n u stmts) = execAll n u stmts :=
  ((overlooking n).execAll u stmts (.inr none)).inBlock_eq

/-! ### The frame of a block without declarations -/

/-- The newest frame is the one that has been opened in `s` for a block, and nothing is bound in
it. -/
structure Scopes.Hollow (s t : Scopes) : Prop where
  size : t.frames.size = s.frames.size + 1
  empty : t.frames[s.frames.size]? = some ⟨[], some s.newest⟩

theorem Scopes.hollow_push_newest (s : Scopes) : s.Hollow (s.push s.newest) :=
  ⟨s.size_push s.newest, by rw [getElem?_push, if_pos rfl]⟩

/-- From within an empty block, names are seen as from the frame around it. -/
theorem Scopes.Hollow.resolve? {s t : Scopes} (h : s.Hollow t) (name : String) {i : t.Id}
    (around : i.val = s.newest.val) : t.resolve? name t.newest = t.resolve? name i := by
  have newest : t.newest.val = s.frames.size := by
    rw [newest_val, h.size, Nat.add_sub_cancel]
  have frame := t.getElem?_id t.newest
  rw [newest, h.empty, Option.some.injEq, Frame.mk.injEq] at frame
  have unbound : (t.bindings t.newest).binds name = false := by
    rw [← frame.1]
    rfl
  rw [resolve?_of_enclosing unbound frame.2.symm]
  congr 1
  exact Fin.ext around.symm

/-- What binds no name leaves the frame of a block empty. -/
theorem Action.Gains.hollow {α : Type} {a : Action α} (h : a.Gains []) {s t : Scopes}
    (hollow : s.Hollow t) : (a.on t).Ends fun p => s.Hollow p.2 := by
  refine (h t).mono fun p gains => ⟨gains.size.trans hollow.size, ?_⟩
  have frame := gains.frame s.frames.size
  rw [hollow.empty, ite_self] at frame
  generalize p.2.frames[s.frames.size]? = g at frame ⊢
  cases frame with
  | @some _ g gains =>
    obtain ⟨bindings, link⟩ := g
    have link' : link = some s.newest.val := gains.enclosing
    cases bindings with
    | nil => rw [link']
    | cons first later =>
      have bound : Bindings.binds (first :: later) first.1 = true := by
        simp [Bindings.binds, Bindings.find?]
      rcases gains.new bound with old | new
      · cases old
      · cases new

end ScriptLang

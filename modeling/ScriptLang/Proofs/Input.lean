import ScriptLang.Proofs.Execution
import ScriptLang.Proofs.Output

/-!
# Dialogues that read no input

What has been written before and what is left to read is no concern of a dialogue that does not ask
for a line of the input, as long as the output takes everything.  Such a dialogue goes the same way
with another host that differs in these alone.

## Main definitions

* `World.between` — the same host between another output so far and another input to come
* `World.Works` — an output that takes everything and passes it on
* `Dialogue.ReadsNothing` — a dialogue with a host asks for no line of the input
* `ExecutesAlone` — statements end in some way and ask for no line of the input
* `ExecutesThrough` — sections of statements that end normally, and what each of them writes

## Main results

* `Dialogue.run_between` — a dialogue that reads nothing goes the same way
* `Dialogue.Follows.readsNothing` — what follows a dialogue that reads nothing reads nothing
* `ExecutesAlone.append` — statements behind others go on where these end
* `ExecutesAlone.alike` — statements that are alike end alike
* `ExecutesAlone.sections` — statements in sections, and where their end comes
-/

namespace ScriptLang

namespace World

/-- The same host, which has written something else so far and has something else left to read. -/
def between (w : World) (written : Array UInt8) (unread : List UInt8) : World :=
  { w with written, unread }

theorem withFiles_between (w : World) (a : Array UInt8) (b : List UInt8)
    (result : Except IoError Files) :
    (w.between a b).withFiles result =
      ((w.withFiles result).1, (w.withFiles result).2.between a b) := by
  cases result <;> rfl

theorem serve_between (a : Array UInt8) (b : List UInt8) (w : World) (call : Shell.Call) :
    (w.between a b).serve call = ((w.serve call).1, (w.serve call).2.between a b) := by
  cases call with
  | writeFile path content append => exact w.withFiles_between a b _
  | change change => exact w.withFiles_between a b _
  | _ => rfl

/-- A request is answered in the same way, unless it asks for a line of the input. -/
theorem answer_between {r : Request} {w : World} (unbounded : w.capacity = none)
    (other : r ≠ .readLine) (a : Array UInt8) (b : List UInt8) :
    (w.between a b).answer r = ((w.answer r).1, (w.answer r).2.between (a ++ r.bytes) b) := by
  rcases r.write_or_silent with ⟨text, rfl⟩ | silent
  · simp only [answer, write, unbounded, between, Request.bytes]
    rfl
  · rw [silent.bytes, Array.appendList_nil]
    cases r with
    | write text => exact silent.elim
    | readLine => exact absurd rfl other
    | writeFile path content append => exact w.withFiles_between a b _
    | shell command => exact run_serve_map (serve_between a b) _ w
    | _ => rfl

/-! ### Output that works -/

/-- Whether the output takes everything and passes it on. -/
structure Works (w : World) : Prop where
  unbounded : w.capacity = none
  flushes : w.flushFails = false

theorem flushFails_withFiles (w : World) (result : Except IoError Files) :
    (w.withFiles result).2.flushFails = w.flushFails := by
  cases result <;> rfl

theorem flushFails_serve (w : World) (call : Shell.Call) :
    (w.serve call).2.flushFails = w.flushFails := by
  cases call with
  | writeFile path content append => exact w.flushFails_withFiles _
  | change change => exact w.flushFails_withFiles _
  | _ => rfl

theorem flushFails_answer (w : World) (r : Request) :
    (w.answer r).2.flushFails = w.flushFails := by
  cases r with
  | write text =>
    simp only [answer, write]
    split
    · rfl
    · split <;> rfl
  | writeFile path content append => exact w.flushFails_withFiles _
  | shell command =>
    simp only [answer]
    generalize Shell.shell command = p
    exact run_serve_keeps flushFails_serve p w
  | _ => rfl

namespace Works

variable {w : World} (works : w.Works)
include works

theorem answer (r : Request) : (w.answer r).2.Works :=
  ⟨(output_answer works.unbounded r).2, (w.flushFails_answer r).trans works.flushes⟩

theorem run {α : Type} (d : Dialogue α) : (d.run w).2.Works := by
  induction d generalizing w with
  | done result => exact works
  | ask r next ih => exact ih _ (works.answer r)

/-- The output can be passed on. -/
theorem answer_flush : (w.answer .flush).1 = .ok () := by
  rw [World.answer, works.flushes]
  rfl

end Works

end World

/-! ### Dialogues -/

namespace Dialogue

variable {α β : Type} {w : World}

/-- Whether a dialogue with a host in memory asks for no line of the input. -/
def ReadsNothing : Dialogue α → World → Prop
  | done _, _ => True
  | ask r next, w => r ≠ .readLine ∧ (next (w.answer r).1).ReadsNothing (w.answer r).2

theorem readsNothing_bind {d : Dialogue α} {f : α → Dialogue β} :
    (d >>= f).ReadsNothing w ↔
      d.ReadsNothing w ∧ (f (d.run w).1).ReadsNothing (d.run w).2 := by
  induction d generalizing w with
  | done result => exact (iff_of_eq (true_and _)).symm
  | ask r next ih =>
    rw [ask_bind, ReadsNothing, ReadsNothing, ih, and_assoc]
    rfl

/-- What follows a dialogue that reads nothing, and does not stop early, reads nothing. -/
theorem Follows.readsNothing {stops : α → Prop} {R : α → β → Prop} {d : Dialogue α}
    {d' : Dialogue β} (h : Follows stops R d d') (goesOn : ¬stops (d.run w).1)
    (reads : d.ReadsNothing w) : d'.ReadsNothing w := by
  induction h generalizing w with
  | stop stopped => exact absurd stopped goesOn
  | done _ => trivial
  | ask _ ih => exact ⟨reads.1, ih _ goesOn reads.2⟩

/-- A dialogue that reads nothing goes the same way, whatever has been written before and whatever
is left to read. -/
theorem run_between {d : Dialogue α} (unbounded : w.capacity = none) (reads : d.ReadsNothing w)
    (a : Array UInt8) (b : List UInt8) :
    d.run (w.between a b) = ((d.run w).1, (d.run w).2.between (a ++ d.output w) b) := by
  induction d generalizing w a with
  | done result =>
    rw [output, Array.appendList_nil]
    rfl
  | ask r next ih =>
    have answer := World.answer_between unbounded reads.1 a b
    have later := ih (w.answer r).1 (World.output_answer unbounded r).2 reads.2 (a ++ r.bytes)
    rw [run_ask, answer, later, output, appendList_assoc]
    rfl

end Dialogue

/-! ### Statements -/

variable {n m u u' : Nat} {stmts stmts' : List Stmt} {s s' : Scopes} {w : World}
  {p : (Except Stop Flow × Scopes) × World}

/-- With this much fuel the statements, started with some frames in some world, end in this way, and
ask for no line of the input. -/
structure ExecutesAlone (n u : Nat) (stmts : List Stmt) (s : Scopes) (w : World)
    (p : (Except Stop Flow × Scopes) × World) : Prop where
  run : ((execAll n u stmts).on s).run w = p
  ended : p.1.1 ≠ .error .outOfFuel
  reads : ((execAll n u stmts).on s).ReadsNothing w

/-- What is done behind the first one of several statements. -/
def execAll.behind (n u : Nat) (later : List Stmt) :
    Except Stop Flow × Scopes → Dialogue (Except Stop Flow × Scopes)
  | (.ok .normal, t) => (execAll n u later).on t
  | (.ok (.returned value), t) => .done (.ok (.returned value), t)
  | (.error e, t) => .done (.error e, t)

theorem on_execAll_cons (n u : Nat) (stmt : Stmt) (later : List Stmt) (s : Scopes) :
    (execAll (n + 1) u (stmt :: later)).on s =
      (exec n u stmt).on s >>= execAll.behind n u later := by
  rw [execAll, Action.on_bind]
  congr 1
  funext p
  rcases p with ⟨_ | ⟨_ | _⟩, _⟩ <;> rfl

namespace ExecutesAlone

theorem executes (h : ExecutesAlone n u stmts s w p) : ExecutesTo u stmts s w p :=
  ⟨n, h.run, h.ended⟩

theorem mono (h : ExecutesAlone n u stmts s w p) (le : n ≤ m) : ExecutesAlone m u stmts s w p := by
  obtain ⟨rfl, ended, reads⟩ := h
  exact ⟨execAll_fuel le ended, ended, (execAll_extendedBy le u stmts s).readsNothing ended reads⟩

/-- Where the statements of a list end normally the statements behind them go on, with the same
fuel, and everywhere else they are left out. -/
theorem append {first second : List Stmt} (h : ExecutesAlone n u (first ++ second) s w p) :
    (∃ t w', ExecutesAlone n u first s w ((.ok .normal, t), w') ∧
        ExecutesAlone n u second t w' p) ∨
      ExecutesAlone n u first s w p ∧ p.1.1 ≠ .ok .normal := by
  -- The induction is on the first list, and each of its statements takes one unit of fuel.
  induction first generalizing n s w with
  | nil =>
    cases n with
    -- Without fuel nothing would have ended.
    | zero => exact absurd (congrArg (fun p => p.1.1) h.run).symm h.ended
    | succ n => exact .inl ⟨s, w, ⟨rfl, nofun, trivial⟩, h⟩
  | cons stmt first ih =>
    cases n with
    | zero => exact absurd (congrArg (fun p => p.1.1) h.run).symm h.ended
    | succ n =>
      obtain ⟨run, ended, reads⟩ := h
      rw [List.cons_append, on_execAll_cons] at run reads
      rw [Dialogue.run_bind] at run
      obtain ⟨readsOne, readsLater⟩ := Dialogue.readsNothing_bind.1 reads
      generalize one : ((exec n u stmt).on s).run w = q at run readsLater
      obtain ⟨⟨result, t⟩, w'⟩ := q
      -- What the statement leads to, with any statements behind it.
      have begins (later : List Stmt) :
          ((execAll (n + 1) u (stmt :: later)).on s).run w =
            (execAll.behind n u later (result, t)).run w' := by
        rw [on_execAll_cons, Dialogue.run_bind, one]
      have beginsReading (later : List Stmt)
          (h : (execAll.behind n u later (result, t)).ReadsNothing w') :
          ((execAll (n + 1) u (stmt :: later)).on s).ReadsNothing w := by
        rw [on_execAll_cons, Dialogue.readsNothing_bind, one]
        exact ⟨readsOne, h⟩
      match result with
      | .error e =>
        refine .inr ⟨⟨(begins first).trans run, ended, beginsReading first trivial⟩, ?_⟩
        rw [← run]
        exact nofun
      | .ok (.returned value) =>
        refine .inr ⟨⟨(begins first).trans run, ended, beginsReading first trivial⟩, ?_⟩
        rw [← run]
        exact nofun
      | .ok .normal =>
        obtain ⟨t', w'', hfirst, hsecond⟩ | ⟨hfirst, abnormal⟩ := ih ⟨run, ended, readsLater⟩
        · refine .inl ⟨t', w'', ⟨(begins first).trans hfirst.run, hfirst.ended, ?_⟩, ?_⟩
          · exact beginsReading first hfirst.reads
          · exact hsecond.mono (Nat.le_succ n)
        · exact .inr ⟨⟨(begins first).trans hfirst.run, ended, beginsReading first hfirst.reads⟩,
            abnormal⟩

/-- Statements that are alike end alike. -/
theorem alike {K : Comparison} {k : Nat} (strict : ¬K.lenient) (frames : K.Alike k s s')
    (visible : K.Visible k) (hstmts : Stmt.AllAlike (K.tokens.token u u') stmts stmts')
    (h : ExecutesAlone n u stmts s w p) :
    ∃ r t, ExecutesAlone n u' stmts' s' w ((r, t), p.2) ∧
      K.Outcome (Flow.Alike K.tokens) p.1.1 r ∧ K.Alike k p.1.2 t := by
  obtain ⟨rfl, ended, reads⟩ := h
  obtain ⟨outcome, frames', world⟩ := execAll_run_alike strict frames visible hstmts n w
  have follows := (K.agree (.inl (Eq.refl n))).execAll visible hstmts frames
  have reads' := follows.readsNothing (fun stopped => strict stopped.1) reads
  refine ⟨_, _, ⟨Prod.ext rfl world.symm, ?_, reads'⟩, outcome, frames'⟩
  exact fun stopped => ended (outcome.outOfFuel_iff.2 stopped)

/-- What has been written before and what is left to read do not matter. -/
theorem between (h : ExecutesAlone n u stmts s w p) (unbounded : w.capacity = none) :
    ∃ out : List UInt8, p.2.written = w.written ++ out ∧ ∀ a b,
      ((execAll n u stmts).on s).run (w.between a b) = (p.1, p.2.between (a ++ out) b) := by
  obtain ⟨rfl, _, reads⟩ := h
  exact ⟨((execAll n u stmts).on s).output w, Dialogue.written_run _ unbounded,
    fun a b => Dialogue.run_between unbounded reads a b⟩

end ExecutesAlone

/-! ### Statements in sections -/

/-- Sections that end normally one after the other, in one unit, and what each of them writes. -/
inductive ExecutesThrough (n u : Nat) :
    List (List Stmt) → Scopes → World → List (List UInt8) → Scopes → World → Prop
  | nil {t : Scopes} {w : World} : ExecutesThrough n u [] t w [] t w
  | cons {stmts : List Stmt} {sections : List (List Stmt)} {t t' t'' : Scopes} {w w' w'' : World}
      {out : List UInt8} {outs : List (List UInt8)}
      (first : ExecutesAlone n u stmts t w ((.ok .normal, t'), w'))
      (written : w'.written = w.written ++ out)
      (later : ExecutesThrough n u sections t' w' outs t'' w'') :
      ExecutesThrough n u (stmts :: sections) t w (out :: outs) t'' w''

/-- Sections one behind the other all end normally, or there is one that the end comes in. -/
theorem ExecutesAlone.sections {sections : List (List Stmt)} (unbounded : w.capacity = none)
    (h : ExecutesAlone n u sections.flatten s w p) :
    (∃ outs, p.1.1 = .ok .normal ∧ ExecutesThrough n u sections s w outs p.1.2 p.2) ∨
      ∃ i stmts outs t w', sections[i]? = some stmts ∧
        ExecutesThrough n u (sections.take i) s w outs t w' ∧
        ExecutesAlone n u stmts t w' p ∧ p.1.1 ≠ .ok .normal := by
  induction sections generalizing s w with
  | nil =>
    cases n with
    | zero => exact absurd (congrArg (fun p => p.1.1) h.run).symm h.ended
    | succ n =>
      obtain rfl := h.run
      exact .inl ⟨[], rfl, .nil⟩
  | cons stmts sections ih =>
    obtain ⟨t, w', hfirst, hlater⟩ | ⟨hfirst, abnormal⟩ := h.append
    · obtain ⟨out, written, -⟩ := hfirst.between unbounded
      have unbounded' : w'.capacity = none := by
        have kept := Dialogue.capacity_run ((execAll n u stmts).on s) unbounded
        rwa [hfirst.run] at kept
      obtain ⟨outs, normal, through⟩ | ⟨i, stmts', outs, t', w'', h, through, last, abnormal⟩ :=
        ih unbounded' hlater
      · exact .inl ⟨out :: outs, normal, .cons hfirst written through⟩
      · exact .inr ⟨i + 1, stmts', out :: outs, t', w'', h, .cons hfirst written through, last,
          abnormal⟩
    · exact .inr ⟨0, stmts, [], s, w, rfl, .nil, hfirst, abnormal⟩

end ScriptLang

/-
  RowQuery — what a run sends, operation by operation.

  The log of a run is cut into one block per operation. The queries of a block are told by
  the operation and its collection; the answers decide only whether a batch stops after its
  begin, and whether it ends with a commit or a rollback.

  * `Operation.Silent`: the operations that send nothing;
  * `Turn`: the block and the result of one operation, `Turns` those of a run;
  * `Backend.Tracks`: what is known of a backend that has a transaction open or not;
  * `Operation.turn`, `Operation.inTurn_turns`: what any backend is sent, by one operation
    and by a run, and that it is left without an open transaction.
-/
import RowQuery.Database.Session
import RowQuery.Proofs.Collection.Sent

namespace RowQuery

variable {α σ : Type}

namespace Operation

/-- The operations that send nothing: no records to add, no rows to update, and the removal
    of all rows if it is refused. -/
def Silent (c : Collection) : Operation → Prop
  | insert [] => True
  | update (.compiled []) => True
  | remove (.compiled f) =>
    f.isUnconditioned = true ∧ c.options.policy.unconditionedRemove = .refuse
  | _ => False

/-- The text of an operation that is a whole statement. -/
def raw? : Operation → Option String
  | find (.raw sql) | count (.raw sql) | remove (.raw sql) | update (.raw sql) => some sql
  | _ => none

end Operation

/-! ## Turns -/

/-- **The turn of an operation**: what it ends with from a state, and the block that it adds
    to the log. -/
structure Turn (c : Collection) (b : Backend σ) (op : Operation) (s : σ)
    (result : Except StoreError Answer) (block : List Request) : Prop where
  silent : op.Silent c → block = []
  /-- A single statement is sent once. -/
  single : op.channel = .pool → ¬ op.Silent c →
    ∃ q, op.statements c = [q] ∧ block = [.query .pool q]
  refused : op.channel = .transaction → ∀ e, (b.control .begin s).1 = .error e →
    block = [.control .begin]
  /-- A batch that has begun sends all its statements, whatever is answered, and ends. -/
  batch : op.channel = .transaction → (b.control .begin s).1 = .ok () →
    ∃ last, (last = .commit ∨ last = .rollback) ∧
      block = .control .begin :: (op.statements c).map (.query .transaction) ++ [.control last]
  raw : ∀ sql, op.raw? = some sql → block = [.query .pool ⟨sql, []⟩]
  failed : ∀ q e, block = [.query .pool q] → (b.query .pool q s).1 = .error e →
    result = .error (.execution c.table q.sql e)

/-- **The turns of operations** one after the other, each from the state that the one before
    it has left. -/
inductive Turns (c : Collection) (b : Backend σ) : List Operation → σ →
    List (Except StoreError Answer) → List (List Request) → Prop
  | nil {s : σ} : Turns c b [] s [] []
  | cons {op : Operation} {ops : List Operation} {s : σ} {result : Except StoreError Answer}
      {results : List (Except StoreError Answer)} {block : List Request}
      {blocks : List (List Request)} (turn : Turn c b op s result block)
      (turns : Turns c b ops ((op.dialogue c).run b s).state results blocks) :
      Turns c b (op :: ops) s (result :: results) (block :: blocks)

/-! ## One operation -/

namespace Operation

variable {b : Backend σ} {s : σ} {c : Collection}

theorem log_executeAnd (q : Statement) (read : Reply → Except StoreError α) :
    ((c.executeAnd q read).run b s).log = [.query .pool q] := by
  rw [c.run_executeAnd]

theorem value_executeAnd_of_error {q : Statement} {e : DriverError}
    (read : Reply → Except StoreError α) (h : (b.query .pool q s).1 = .error e) :
    ((c.executeAnd q read).run b s).value = .error (.execution c.table q.sql e) := by
  rw [c.run_executeAnd, h]
  rfl

/-- **The turn of a single statement.** -/
theorem turn_single {op : Operation} {q : Statement} (toAnswer : α → Answer)
    (read : Reply → Except StoreError α)
    (dialogue_eq : op.dialogue c = answering toAnswer (c.executeAnd q read))
    (statements_eq : op.statements c = [q]) (channel_eq : op.channel = .pool)
    (speaks : ¬ op.Silent c) (raw_eq : ∀ sql, op.raw? = some sql → q = .raw sql) :
    Turn c b op s ((op.dialogue c).run b s).value ((op.dialogue c).run b s).log := by
  rw [dialogue_eq, run_answering, log_executeAnd]
  constructor
  · intro h
    exact absurd h speaks
  · intro _ _
    exact ⟨q, statements_eq, rfl⟩
  · intro h
    simp [channel_eq] at h
  · intro h
    simp [channel_eq] at h
  · intro sql hsql
    rw [raw_eq sql hsql]
    rfl
  · intro q' e hq he
    obtain rfl : q = q' := by simpa using hq
    simp only [value_executeAnd_of_error read he]
    rfl

theorem turn_silent {op : Operation} (silent : op.Silent c) (hrun : ∃ r, op.dialogue c = .done r)
    (channel_eq : op.channel = .pool) (raw_eq : op.raw? = none) :
    Turn c b op s ((op.dialogue c).run b s).value ((op.dialogue c).run b s).log := by
  obtain ⟨r, hr⟩ := hrun
  rw [hr, Dialogue.run]
  constructor <;> simp_all

/-- **The turn of a batch.** -/
theorem turn_batch {fs : List UpdateClauses} (h : 2 ≤ fs.length) :
    Turn c b (update (.compiled fs)) s (((update (.compiled fs)).dialogue c).run b s).value
      (((update (.compiled fs)).dialogue c).run b s).log := by
  have hlog : (((update (.compiled fs)).dialogue c).run b s).log =
      ((c.updateTogether fs).run b s).log := by
    rw [dialogue, run_answering, c.run_update_of_two_le b s h]
  rw [hlog]
  obtain ⟨f, g, rest, rfl⟩ : ∃ f g rest, fs = f :: g :: rest := by
    rcases fs with _ | ⟨f, _ | ⟨g, rest⟩⟩
    · cases h
    · exact absurd h (Nat.not_succ_le_self 1)
    · exact ⟨f, g, rest, rfl⟩
  constructor
  · intro hs
    simp [Silent] at hs
  · intro hc
    simp [channel] at hc
  · intro _ e he
    rw [c.run_updateTogether_of_error b s he]
  · intro _ hok
    exact c.log_updateTogether_of_ok b s (f :: g :: rest) hok
  · intro sql hsql
    simp [raw?] at hsql
  · intro q e hq
    cases hb : (b.control .begin s).1 with
    | error e => simp [c.run_updateTogether_of_error b s hb] at hq
    | ok u => simp [c.run_updateTogether_of_ok b s hb] at hq

/-- The removal of all rows sends nothing if it is refused. -/
theorem dialogue_of_refused {f : RemoveClauses}
    (h : f.isUnconditioned = true ∧ c.options.policy.unconditionedRemove = .refuse) :
    (remove (.compiled f)).dialogue c = .done (.error (.unconditionedRemove c.table)) := by
  simp [dialogue, Collection.remove, h, answering, Dialogue.bind, Except.map]

theorem dialogue_of_not_refused {f : RemoveClauses}
    (h : ¬ (f.isUnconditioned = true ∧ c.options.policy.unconditionedRemove = .refuse)) :
    (remove (.compiled f)).dialogue c = answering .removed
      (c.delete ⟨assemble c.deleteHead [some f.filter.text], f.filter.values⟩) := by
  simp [dialogue, Collection.remove, h]

/-- **Every operation keeps to its turn**, whatever the backend answers. -/
theorem turn (c : Collection) (op : Operation) (b : Backend σ) (s : σ) :
    Turn c b op s ((op.dialogue c).run b s).value ((op.dialogue c).run b s).log := by
  cases op with
  | find input =>
    refine turn_single _ _ rfl rfl rfl (by simp [Silent]) ?_
    cases input <;> simp [raw?, Collection.findStatement]
  | count input =>
    refine turn_single _ _ rfl rfl rfl (by simp [Silent]) ?_
    cases input <;> simp [raw?, Collection.countStatement]
  | aggregate a => exact turn_single _ _ rfl rfl rfl (by simp [Silent]) (by simp [raw?])
  | insert records =>
    cases records with
    | nil => exact turn_silent (by simp [Silent]) ⟨_, rfl⟩ rfl rfl
    | cons r rs => exact turn_single _ _ rfl rfl rfl (by simp [Silent]) (by simp [raw?])
  | remove input =>
    cases input with
    | raw sql => exact turn_single _ _ rfl rfl rfl (by simp [Silent]) (by simp [raw?])
    | compiled f =>
      by_cases h : f.isUnconditioned = true ∧ c.options.policy.unconditionedRemove = .refuse
      · exact turn_silent h ⟨_, dialogue_of_refused h⟩ rfl rfl
      · exact turn_single _ _ (dialogue_of_not_refused h) (by simp [statements, h]) rfl h
          (by simp [raw?])
  | removeAll => exact turn_single _ _ rfl rfl rfl (by simp [Silent]) (by simp [raw?])
  | update input =>
    cases input with
    | raw sql => exact turn_single _ _ rfl rfl rfl (by simp [Silent]) (by simp [raw?])
    | compiled fs =>
      rcases fs with _ | ⟨f, _ | ⟨g, fs⟩⟩
      · exact turn_silent (by simp [Silent]) ⟨_, rfl⟩ rfl rfl
      · exact turn_single _ _ rfl rfl rfl (by simp [Silent]) (by simp [raw?])
      · exact turn_batch (by simp)

/-! ## Runs -/

theorem statements_of_silent {op : Operation} (h : op.Silent c) : op.statements c = [] := by
  cases op with
  | insert records => cases records <;> simp_all [Silent, statements]
  | remove input => cases input <;> simp_all [Silent, statements]
  | update input =>
    cases input with
    | raw sql => simp [Silent] at h
    | compiled fs => cases fs <;> simp_all [Silent, statements]
  | _ => simp [Silent] at h

end Operation

/-- The statements of a block are those of its operation, unless it is a batch that has not
    begun. -/
theorem Turn.statements_eq {c : Collection} {b : Backend σ} {op : Operation} {s : σ}
    {result : Except StoreError Answer} {block : List Request} (h : Turn c b op s result block) :
    block = [.control .begin] ∨
      block.filterMap Request.statement? = (op.statements c).map (op.channel, ·) := by
  cases hc : op.channel with
  | pool =>
    by_cases hs : op.Silent c
    · simp [h.silent hs, Operation.statements_of_silent hs]
    · obtain ⟨q, hq, hblock⟩ := h.single hc hs
      simp [hq, hblock, Request.statement?]
  | transaction =>
    cases hb : (b.control .begin s).1 with
    | error e => exact Or.inl (h.refused hc e hb)
    | ok u =>
      obtain ⟨last, -, hblock⟩ := h.batch hc hb
      exact Or.inr (hblock ▸ Request.statements_batch .begin last _)

/-- Two blocks have the same statements, as far as both come to them. -/
def SameStatements (block block' : List Request) : Prop :=
  block = [.control .begin] ∨ block' = [.control .begin] ∨
    block.filterMap Request.statement? = block'.filterMap Request.statement?

/-- **The answers do not choose the statements** of a run. -/
theorem Turns.sameStatements {σ' : Type} {c : Collection} {b : Backend σ} {b' : Backend σ'}
    {ops : List Operation} {s : σ} {s' : σ'} {results results' : List (Except StoreError Answer)}
    {blocks blocks' : List (List Request)} (h : Turns c b ops s results blocks)
    (h' : Turns c b' ops s' results' blocks') : List.Forall₂ SameStatements blocks blocks' := by
  induction h generalizing s' results' blocks' with
  | nil =>
    cases h'
    exact .nil
  | cons turn _ ih =>
    cases h' with
    | cons turn' turns' =>
      refine .cons ?_ (ih turns')
      rcases turn.statements_eq with h | h
      · exact Or.inl h
      · rcases turn'.statements_eq with h' | h'
        · exact Or.inr (Or.inl h')
        · exact Or.inr (Or.inr (h.trans h'.symm))

/-! ## Open transactions -/

/-- **Whether a transaction is open** is told by the controls and their answers. -/
structure Backend.Tracks (b : Backend σ) (Open : σ → Prop) : Prop where
  query : ∀ channel q s, Open (b.query channel q s).2 ↔ Open s
  refused : ∀ s e, (b.control .begin s).1 = .error e → (Open (b.control .begin s).2 ↔ Open s)
  commit : ∀ s, ¬ Open (b.control .commit s).2
  rollback : ∀ s, ¬ Open (b.control .rollback s).2

/-- **A session has a transaction open** between its begin and its end. -/
theorem Session.tracks : Session.backend.Tracks fun s => s.transaction ≠ none where
  query := by
    rintro channel q ⟨d, transaction⟩
    cases transaction with
    | none => cases channel <;> exact Iff.rfl
    | some copy =>
      cases channel with
      | pool => exact Iff.rfl
      | transaction => exact iff_of_true (Option.some_ne_none _) (Option.some_ne_none copy)
  refused := by
    rintro ⟨d, transaction⟩ e h
    cases transaction with
    | none => cases h
    | some copy => exact Iff.rfl
  commit := by rintro ⟨d, _ | copy⟩ h <;> exact h rfl
  rollback := by rintro ⟨d, _ | copy⟩ h <;> exact h rfl

/-- The state of a backend after requests. -/
def Backend.after (b : Backend σ) : List Request → σ → σ
  | [], s => s
  | .query channel q :: rs, s => b.after rs (b.query channel q s).2
  | .control which :: rs, s => b.after rs (b.control which s).2

theorem Backend.after_append (b : Backend σ) (rs rs' : List Request) (s : σ) :
    b.after (rs ++ rs') s = b.after rs' (b.after rs s) := by
  induction rs generalizing s with
  | nil => rfl
  | cons r rs ih => cases r <;> simp [after, ih]

/-- The log of a dialogue tells the state that it ends in. -/
theorem Dialogue.state_run (b : Backend σ) (d : Dialogue α) (s : σ) :
    (d.run b s).state = b.after (d.run b s).log s := by
  induction d generalizing s with
  | done a => rfl
  | query channel q next ih => simp [run, Backend.after, ih]
  | control which next ih => simp [run, Backend.after, ih]

/-- **A turn leaves no transaction open.** -/
theorem Turn.closed {c : Collection} {b : Backend σ} {op : Operation} {s : σ}
    {result : Except StoreError Answer} {block : List Request} (h : Turn c b op s result block)
    {Open : σ → Prop} (tracks : b.Tracks Open) (hs : ¬ Open s) : ¬ Open (b.after block s) := by
  cases hc : op.channel with
  | pool =>
    by_cases hsilent : op.Silent c
    · rwa [h.silent hsilent]
    · obtain ⟨q, -, rfl⟩ := h.single hc hsilent
      simpa [Backend.after, tracks.query] using hs
  | transaction =>
    cases hb : (b.control .begin s).1 with
    | error e =>
      rw [h.refused hc e hb]
      simpa [Backend.after, tracks.refused s e hb] using hs
    | ok u =>
      obtain ⟨last, rfl | rfl, rfl⟩ := h.batch hc hb
      · simpa [Backend.after, Backend.after_append] using tracks.commit _
      · simpa [Backend.after, Backend.after_append] using tracks.rollback _

namespace Operation

theorem exists_turns (c : Collection) (ops : List Operation) (b : Backend σ) (s : σ) :
    ∃ blocks, ((inTurn c ops).run b s).log = blocks.flatten ∧
      Turns c b ops s ((inTurn c ops).run b s).value blocks := by
  induction ops generalizing s with
  | nil => exact ⟨[], rfl, .nil⟩
  | cons op ops ih =>
    obtain ⟨blocks, hlog, hturns⟩ := ih ((op.dialogue c).run b s).state
    refine ⟨((op.dialogue c).run b s).log :: blocks, ?_, ?_⟩
    · simp [inTurn, Dialogue.run_bind, Dialogue.run, hlog]
    · simpa [inTurn, Dialogue.run_bind, Dialogue.run] using .cons (op.turn c b s) hturns

theorem closed_inTurn (c : Collection) (ops : List Operation) {b : Backend σ} {s : σ}
    {Open : σ → Prop} (tracks : b.Tracks Open) (hs : ¬ Open s) :
    ¬ Open ((inTurn c ops).run b s).state := by
  induction ops generalizing s with
  | nil => exact hs
  | cons op ops ih =>
    have hop := (op.turn c b s).closed tracks hs
    rw [← Dialogue.state_run] at hop
    simpa [inTurn, Dialogue.run_bind, Dialogue.run] using ih hop

/-- **What a run sends is decided by its operations.** The log is one block after the other,
    with the same statements whatever the backend answers, and no transaction is left open. -/
theorem inTurn_turns (c : Collection) (ops : List Operation) (b : Backend σ) (s : σ) :
    (∃ blocks, ((inTurn c ops).run b s).log = blocks.flatten ∧
      Turns c b ops s ((inTurn c ops).run b s).value blocks ∧
      ∀ (σ' : Type) (b' : Backend σ') (s' : σ') (results' : List (Except StoreError Answer))
        (blocks' : List (List Request)), Turns c b' ops s' results' blocks' →
          List.Forall₂ SameStatements blocks blocks') ∧
      ∀ Open : σ → Prop, b.Tracks Open → ¬ Open s → ¬ Open ((inTurn c ops).run b s).state := by
  obtain ⟨blocks, hlog, hturns⟩ := exists_turns c ops b s
  exact ⟨⟨blocks, hlog, hturns, fun _ _ _ _ _ h' => hturns.sameStatements h'⟩,
    fun _ tracks hs => closed_inTurn c ops tracks hs⟩

/-- No records to add, a batch that is rolled back, and a whole statement, on a session. -/
theorem inTurn_turns_session :
    let c : Collection := ⟨"items", .default⟩
    let f : UpdateClauses := ⟨["qty = ?"], [.int 1], ⟨"WHERE id = ?", [.int 7]⟩⟩
    let wrong : UpdateClauses := ⟨["nope = ?"], [.int 1], ⟨"WHERE id = ?", [.int 7]⟩⟩
    let ops : List Operation :=
      [insert [], update (.compiled [wrong, f]), find (.raw "SELECT * FROM items")]
    let s : Session := .ofDatabase ⟨[⟨"items", [⟨"id", .integer, false⟩, ⟨"qty", .integer, false⟩],
      some 0, true, 7, [⟨7, [.int 7, .int 5]⟩]⟩]⟩
    let o := (inTurn c ops).run Session.backend s
    s.transaction = none ∧ o.state.transaction = none ∧
      (∃ blocks, o.log = blocks.flatten ∧ Turns c Session.backend ops s o.value blocks) ∧
      o.log = [.control .begin,
        .query .transaction ⟨"UPDATE items SET nope = ? WHERE id = ?", [.int 1, .int 7]⟩,
        .query .transaction ⟨"UPDATE items SET qty = ? WHERE id = ?", [.int 1, .int 7]⟩,
        .control .rollback, .query .pool (.raw "SELECT * FROM items")] := by
  intro c f wrong ops s o
  obtain ⟨⟨blocks, hlog, hturns, -⟩, hclosed⟩ := inTurn_turns c ops Session.backend s
  have hopen : ¬ o.state.transaction ≠ none := hclosed _ Session.tracks (fun h => h rfl)
  exact ⟨rfl, Decidable.not_not.1 hopen, ⟨blocks, hlog, hturns⟩, by decide +kernel⟩

end Operation

end RowQuery

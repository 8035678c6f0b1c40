/-
  RowQuery — the statements that an operation sends, all of them and in order.

  What an operation sends depends on the answers at one point only: a batch whose begin
  fails sends no statement. All other statements are sent whatever is answered to them.

  * `Outcome.sent` are the statements that a dialogue has sent, each with its channel;
  * `Operation.channel`, `Operation.Begins`: where an operation sends its statements, and
    whether it comes to that;
  * `Operation.sent_of_begins`, `Operation.sent_of_not_begins`: what is sent, and nothing
    else is (`mem_statements_of_mem_log`);
  * `Operation.inTurn`: several operations, one after the other.
-/
import RowQuery.Proofs.Collection.Operation

namespace RowQuery

variable {α σ : Type}

/-- The statement of a request, and where it is sent. -/
def Request.statement? : Request → Option (Channel × Statement)
  | query channel q => some (channel, q)
  | control _ => none

theorem Request.statements_batch (first last : Control) (qs : List Statement) :
    (control first :: qs.map (query .transaction) ++ [control last]).filterMap statement? =
      qs.map (.transaction, ·) := by
  have hquery : statement? ∘ query .transaction = some ∘ (.transaction, ·) := rfl
  simp only [List.cons_append, List.filterMap_cons, statement?, List.filterMap_append,
    List.filterMap_map, hquery, List.filterMap_eq_map, List.filterMap_nil, List.append_nil]

/-- The statements that a dialogue has sent, in order. -/
def Dialogue.Outcome.sent (o : Dialogue.Outcome α σ) : List (Channel × Statement) :=
  o.log.filterMap Request.statement?

theorem Dialogue.Outcome.mem_sent {o : Dialogue.Outcome α σ} {channel : Channel} {q : Statement} :
    (channel, q) ∈ o.sent ↔ .query channel q ∈ o.log := by
  rw [sent, List.mem_filterMap]
  constructor
  · rintro ⟨r, hr, hq⟩
    cases r with
    | query channel' q' =>
      obtain ⟨rfl, rfl⟩ := Prod.mk.inj (Option.some.inj hq)
      exact hr
    | control which => cases hq
  · intro h
    exact ⟨_, h, rfl⟩

namespace Operation

/-- Where an operation sends its statements: a batch on its transaction, all else on the
    pool. -/
def channel : Operation → Channel
  | update (.compiled (_ :: _ :: _)) => .transaction
  | _ => .pool

/-- An operation comes to its statements: if it is a batch, its begin succeeds. -/
def Begins (op : Operation) (b : Backend σ) (s : σ) : Prop :=
  op.channel = .transaction → (b.control .begin s).1 = .ok ()

end Operation

/-! ## Single statements and batches -/

namespace Collection

variable (c : Collection) (b : Backend σ) (s : σ)

/-- **A single statement** is sent once, on the pool, and its answer is read. -/
theorem run_executeAnd (q : Statement) (read : Reply → Except StoreError α) :
    (c.executeAnd q read).run b s =
      ⟨((b.query .pool q s).1.mapError (c.executionError q.sql)).bind read, [.query .pool q],
        (b.query .pool q s).2⟩ := by
  rw [executeAnd, Dialogue.run_bind, execute, Dialogue.ask_bind,
    Dialogue.run_query]
  cases (b.query .pool q s).1 <;> rfl

theorem sent_executeAnd (q : Statement) (read : Reply → Except StoreError α) :
    ((c.executeAnd q read).run b s).sent = [(.pool, q)] := by
  rw [run_executeAnd]
  rfl

variable {b s} in
theorem run_executeAnd_of_ok {q : Statement} {reply : Reply} (h : (b.query .pool q s).1 = .ok reply)
    (read : Reply → Except StoreError α) :
    (c.executeAnd q read).run b s = ⟨read reply, [.query .pool q], (b.query .pool q s).2⟩ := by
  rw [run_executeAnd, h]
  rfl

variable {c b s} in
/-- An operation of one statement that succeeds was answered. -/
theorem executeAnd_eq_ok {q : Statement} {read : Reply → Except StoreError α} {a : α}
    (h : ((c.executeAnd q read).run b s).value = .ok a) :
    ∃ answer, (b.query .pool q s).1 = .ok answer ∧ read answer = .ok a ∧
      ((c.executeAnd q read).run b s).state = (b.query .pool q s).2 := by
  cases hanswer : (b.query .pool q s).1 with
  | error e =>
    rw [run_executeAnd, hanswer] at h
    cases h
  | ok answer =>
    rw [c.run_executeAnd_of_ok hanswer] at h ⊢
    exact ⟨answer, rfl, h, rfl⟩

/-- A batch whose begin succeeds sends all its statements, and the control that ends it. -/
theorem log_updateTogether_of_ok (fs : List UpdateClauses)
    (h : (b.control .begin s).1 = .ok ()) :
    ∃ last, (last = .commit ∨ last = .rollback) ∧ ((c.updateTogether fs).run b s).log =
      .control .begin :: (fs.map c.updateStatement).map (.query .transaction) ++
        [.control last] := by
  rw [c.run_updateTogether_of_ok b s h]
  rcases all_succeeded_or_firstFailure (c.sentAnswers b s fs) with ⟨rs, hrs⟩ | ⟨e, he⟩
  · rw [c.concluded_of_success b s hrs]
    exact ⟨.commit, Or.inl rfl, rfl⟩
  · rw [c.concluded_of_failure b s he]
    exact ⟨.rollback, Or.inr rfl, rfl⟩

/-- The statements of a batch are all sent, in order, once its begin has succeeded. -/
theorem sent_updateTogether_of_ok {fs : List UpdateClauses}
    (h : (b.control .begin s).1 = .ok ()) :
    ((c.updateTogether fs).run b s).sent = (fs.map c.updateStatement).map (.transaction, ·) := by
  obtain ⟨last, -, hlog⟩ := c.log_updateTogether_of_ok b s fs h
  rw [Dialogue.Outcome.sent, hlog, Request.statements_batch]

theorem sent_updateTogether_of_error {fs : List UpdateClauses} {e : DriverError}
    (h : (b.control .begin s).1 = .error e) : ((c.updateTogether fs).run b s).sent = [] := by
  rw [c.run_updateTogether_of_error b s h]
  rfl

end Collection

/-! ## Operations -/

namespace Operation

variable {b : Backend σ} {s : σ}

theorem run_answering (toAnswer : α → Answer) (d : Dialogue (Except StoreError α)) :
    (answering toAnswer d).run b s =
      ⟨(d.run b s).value.map toAnswer, (d.run b s).log, (d.run b s).state⟩ :=
  d.run_bind_done _ b s

theorem sent_answering (toAnswer : α → Answer) (d : Dialogue (Except StoreError α)) :
    ((answering toAnswer d).run b s).sent = (d.run b s).sent := by
  rw [run_answering]
  rfl

/-- An operation of one statement that is answered. -/
theorem run_of_ok (c : Collection) {q : Statement} {reply : Reply}
    (h : (b.query .pool q s).1 = .ok reply) (read : Reply → Except StoreError α)
    (toAnswer : α → Answer) :
    (answering toAnswer (c.executeAnd q read)).run b s =
      ⟨(read reply).map toAnswer, [.query .pool q], (b.query .pool q s).2⟩ := by
  rw [run_answering, c.run_executeAnd_of_ok h]

theorem sent_update_of_two_le (c : Collection) {fs : List UpdateClauses} (h : 2 ≤ fs.length) :
    ((dialogue c (update (.compiled fs))).run b s).sent =
      ((c.updateTogether fs).run b s).sent := by
  rw [dialogue, sent_answering, c.run_update_of_two_le b s h]
  rfl

/-- **All statements of an operation are sent**, once and in order, whatever is answered to
    them. -/
theorem sent_of_begins (c : Collection) {op : Operation} (h : op.Begins b s) :
    ((op.dialogue c).run b s).sent = (op.statements c).map (op.channel, ·) := by
  cases op with
  | find input | count input | aggregate a | removeAll =>
    rw [dialogue, sent_answering]
    exact c.sent_executeAnd b s _ _
  | insert records =>
    rw [dialogue, sent_answering]
    cases records with
    | nil => rfl
    | cons r rs => exact c.sent_executeAnd b s _ _
  | remove input =>
    rw [dialogue, sent_answering]
    cases input with
    | raw sql => exact c.sent_executeAnd b s _ _
    | compiled f =>
      rw [Collection.remove, statements]
      split
      · rfl
      · exact c.sent_executeAnd b s _ _
  | update input =>
    cases input with
    | raw sql =>
      rw [dialogue, sent_answering]
      exact c.sent_executeAnd b s _ _
    | compiled fs =>
      rcases fs with _ | ⟨f, _ | ⟨g, fs⟩⟩
      · rfl
      · rw [dialogue, sent_answering]
        exact c.sent_executeAnd b s _ _
      · rw [sent_update_of_two_le c (by simp), c.sent_updateTogether_of_ok b s (h rfl)]
        rfl

/-- A batch whose begin fails sends no statement. -/
theorem sent_of_not_begins (c : Collection) {op : Operation} (h : ¬ op.Begins b s) :
    ((op.dialogue c).run b s).sent = [] := by
  have hchannel : op.channel = .transaction := by
    by_contra hno
    exact h fun hyes => absurd hyes hno
  have hbegin : (b.control .begin s).1 ≠ .ok () := fun hok => h fun _ => hok
  match op, hchannel with
  | update (.compiled (f :: g :: fs)), _ =>
    cases hb : (b.control .begin s).1 with
    | ok u => exact absurd hb hbegin
    | error e =>
      rw [sent_update_of_two_le c (by simp), c.sent_updateTogether_of_error b s hb]

/-- **Nothing is sent but the statements of the operation.** -/
theorem mem_statements_of_mem_log {c : Collection} {op : Operation} {channel : Channel}
    {q : Statement} (h : .query channel q ∈ ((op.dialogue c).run b s).log) :
    q ∈ op.statements c := by
  have hsent := Dialogue.Outcome.mem_sent.2 h
  by_cases hb : op.Begins b s
  · rw [sent_of_begins c hb] at hsent
    obtain ⟨q', hq', heq⟩ := List.mem_map.1 hsent
    cases heq
    exact hq'
  · rw [sent_of_not_begins c hb] at hsent
    cases hsent

/-! ## Runs -/

/-- The dialogue of operations one after the other: a failure of one does not keep the next
    from being played. -/
def inTurn (c : Collection) : List Operation → Dialogue (List (Except StoreError Answer))
  | [] => .done []
  | op :: ops => (op.dialogue c).bind fun r => (inTurn c ops).bind fun rs => .done (r :: rs)

theorem sent_inTurn_cons (c : Collection) (op : Operation) (ops : List Operation) :
    ((inTurn c (op :: ops)).run b s).sent =
      ((op.dialogue c).run b s).sent ++
        ((inTurn c ops).run b ((op.dialogue c).run b s).state).sent := by
  rw [inTurn, Dialogue.run_bind]
  simp only [Dialogue.run_bind, Dialogue.run, List.append_nil, Dialogue.Outcome.sent,
    List.filterMap_append]

/-- **A run sends nothing but the statements of its operations.** -/
theorem mem_statements_of_mem_sent {c : Collection} {ops : List Operation} {channel : Channel}
    {q : Statement} (h : (channel, q) ∈ ((inTurn c ops).run b s).sent) :
    ∃ op ∈ ops, q ∈ op.statements c := by
  induction ops generalizing s with
  | nil => cases h
  | cons op ops ih =>
    rw [sent_inTurn_cons, List.mem_append] at h
    rcases h with h | h
    · have hlog := Dialogue.Outcome.mem_sent.1 h
      exact ⟨op, List.mem_cons_self, mem_statements_of_mem_log hlog⟩
    · obtain ⟨op', hop', hq⟩ := ih h
      exact ⟨op', List.mem_cons_of_mem _ hop', hq⟩

end Operation

end RowQuery

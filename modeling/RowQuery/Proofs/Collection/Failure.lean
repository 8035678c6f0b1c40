/-
  RowQuery — how an operation fails, and what it leaves behind.

  An operation that ends with an error has sent one statement or none: it was refused before
  anything was sent, its statement was refused, or a count was answered with something else
  than a number. An update of several rows ends with no error; what failed is part of its
  result.

  * `Operation.Fails`: the ways to fail, each with what was sent;
  * `Operation.fails_of_error`: there are no others;
  * `Backend.Steady`: what is assumed of a backend: a command that fails has no effect, nor has a
    query, nor what is done in a transaction until it is committed;
  * `Operation.published_of_error`, `Operation.published_of_failure`: what fails leaves
    everything as it was.
-/
import RowQuery.Proofs.Collection.Atomicity
import RowQuery.Proofs.Collection.Blocks
import RowQuery.Proofs.Database.Selecting
import RowQuery.Proofs.Statement.Clauses

namespace RowQuery

variable {α σ S : Type}

/-! ## Ways to fail -/

namespace Operation

/-- **The ways to fail** of an operation, with its error and the requests it has sent. -/
inductive Fails (c : Collection) (b : Backend σ) (s : σ) :
    Operation → StoreError → List Request → Prop
  /-- The removal of all rows is refused, and nothing is sent. -/
  | refused {f : RemoveClauses}
      (h : f.isUnconditioned = true ∧ c.options.policy.unconditionedRemove = .refuse) :
      Fails c b s (remove (.compiled f)) (.unconditionedRemove c.table) []
  /-- The only statement fails. -/
  | executing {op : Operation} {q : Statement} {e : DriverError} (hq : op.statements c = [q])
      (h : (b.query .pool q s).1 = .error e) :
      Fails c b s op (.execution c.table q.sql e) [.query .pool q]
  /-- The statement of a count is answered, but not with a number. -/
  | counting (input : Input CountClauses) :
      Fails c b s (count input) (.nonNumericCount c.table) [.query .pool (c.countStatement input)]

variable {c : Collection} {b : Backend σ} {s : σ} {op : Operation} {e : StoreError}

/-- An operation of a single statement fails with the statement, or with its answer. -/
theorem fails_of_single {q : Statement} {toAnswer : α → Answer} {read : Reply → Except StoreError α}
    (hq : op.statements c = [q])
    (hread : ∀ reply e, read reply = .error e → Fails c b s op e [.query .pool q])
    (h : ((answering toAnswer (c.executeAnd q read)).run b s).value = .error e) :
    Fails c b s op e ((answering toAnswer (c.executeAnd q read)).run b s).log := by
  cases hanswer : (b.query .pool q s).1 with
  | error e' =>
    rw [run_answering] at h ⊢
    simp only [value_executeAnd_of_error read hanswer] at h
    cases h
    rw [log_executeAnd]
    exact .executing hq hanswer
  | ok reply =>
    rw [run_of_ok c hanswer] at h ⊢
    cases hreply : read reply with
    | error e' =>
      simp only [hreply] at h
      cases h
      exact hread reply _ hreply
    | ok a =>
      simp only [hreply] at h
      cases h

/-- **There are no other ways to fail.** -/
theorem fails_of_error (h : ((op.dialogue c).run b s).value = .error e) :
    Fails c b s op e ((op.dialogue c).run b s).log := by
  cases op with
  | find input | aggregate f | removeAll => exact fails_of_single rfl (by rintro _ _ ⟨⟩) h
  | count input =>
    refine fails_of_single rfl ?_ h
    intro reply e he
    split at he <;> cases he
    exact .counting input
  | insert records =>
    cases records with
    | nil => cases h
    | cons r rs =>
      refine fails_of_single rfl ?_ h
      intro reply e he
      split at he
      · cases he
      · split at he <;> cases he
  | remove input =>
    cases input with
    | raw sql => exact fails_of_single rfl (by rintro _ _ ⟨⟩) h
    | compiled f =>
      by_cases hf : f.isUnconditioned = true ∧ c.options.policy.unconditionedRemove = .refuse
      · rw [dialogue_of_refused hf] at h ⊢
        cases h
        exact .refused hf
      · rw [dialogue_of_not_refused hf] at h ⊢
        exact fails_of_single (by simp [statements, hf]) (by rintro _ _ ⟨⟩) h
  | update input =>
    cases input with
    | raw sql => exact fails_of_single rfl (by rintro _ _ ⟨⟩) h
    | compiled fs =>
      rcases fs with _ | ⟨f, _ | ⟨g, fs⟩⟩
      · cases h
      · exact fails_of_single rfl (by rintro _ _ ⟨⟩) h
      · rw [dialogue, run_answering, c.run_update_of_two_le b s (by simp)] at h
        cases h

theorem not_failure_of_updateOne {q : Statement} {stage : Stage} {message : String} :
    ((c.updateOne q).run b s).value ≠ .ok (.failure stage message) := by
  intro h
  obtain ⟨reply, -, hreply, -⟩ := Collection.executeAnd_eq_ok h
  cases hreply

/-- **Only a batch tells of a failure** in its result. -/
theorem exists_batch_of_failure {stage : Stage} {message : String}
    (h : ((op.dialogue c).run b s).value = .ok (.updated (.failure stage message))) :
    ∃ fs, 2 ≤ fs.length ∧ op = update (.compiled fs) := by
  cases op with
  | update input =>
    rw [dialogue, run_answering] at h
    obtain ⟨stats, hstats, hanswer⟩ := except_map_eq_ok.1 h
    cases hanswer
    cases input with
    | raw sql => exact absurd hstats not_failure_of_updateOne
    | compiled fs =>
      rcases fs with _ | ⟨f, _ | ⟨g, fs⟩⟩
      · cases hstats
      · exact absurd hstats not_failure_of_updateOne
      · exact ⟨_, by simp, rfl⟩
  | _ =>
    rw [dialogue, run_answering] at h
    obtain ⟨a, -, hanswer⟩ := except_map_eq_ok.1 h
    cases hanswer

end Operation

/-! ## What is left behind -/

/-- **Statements that begin with UPDATE.** -/
def Statement.Updates (q : Statement) : Prop := "UPDATE ".toList <+: q.sql.toList

/-- **A steady backend**: it publishes a store, and takes some statements for one command each,
    among them all whose texts have no semicolon. A text may hold more than one command, of which
    the first ones have their effect even if the last one fails; so only of those that are one
    command is anything assumed. -/
structure Backend.Steady (b : Backend σ) (S : Type) where
  published : σ → S
  /-- Whether the backend takes a statement for one command. -/
  One : Statement → Prop
  one_of_notMem : ∀ {q}, ';' ∉ q.sql.toList → One q
  /-- A command that fails has no effect. -/
  failing : ∀ {q s e}, One q → (b.query .pool q s).1 = .error e →
    published (b.query .pool q s).2 = published s
  selecting : ∀ {q} s, One q → q.Selects → published (b.query .pool q s).2 = published s
  /-- What is updated in a transaction is not published. -/
  updating : ∀ {q} s, One q → q.Updates →
    published (b.query .transaction q s).2 = published s
  began : ∀ s, published (b.control .begin s).2 = published s
  uncommitted : ∀ {s e}, (b.control .commit s).1 = .error e →
    published (b.control .commit s).2 = published s
  rolledBack : ∀ s, published (b.control .rollback s).2 = published s

/-- **A session is steady**: it takes for one command what has no semicolon before its last
    token. -/
def Session.steady : Session.backend.Steady Database where
  published := Session.published
  One := Statement.Single
  one_of_notMem := Statement.single_of_notMem
  failing := by
    rintro q ⟨d, transaction⟩ e hone h
    cases transaction with
    | none => exact Database.run_of_error hone (except_map_eq_error.1 h)
    | some copy => rfl
  selecting := by
    rintro q ⟨d, transaction⟩ hone h
    cases transaction with
    | none => exact Database.run_of_selects hone h.expand
    | some copy => rfl
  updating := by rintro q ⟨d, _ | copy⟩ - - <;> rfl
  began := transactional.begin_published
  uncommitted := transactional.commit_error _ _
  rolledBack := transactional.rollback_published

namespace Collection

theorem selects_countStatement (c : Collection) (f : CountClauses) :
    (c.countStatement (.compiled f)).Selects := by
  obtain ⟨rest, hrest⟩ := exists_assemble_eq
    ("SELECT COUNT(*) AS " ++ RowCount.column ++ " FROM " ++ c.table) [some f.filter.text]
  rw [Statement.Selects, countStatement, hrest]
  simp only [String.toList_append, List.append_assoc]
  exact ⟨_, rfl⟩

theorem updates_updateStatement (c : Collection) (f : UpdateClauses) :
    (c.updateStatement f).Updates := by
  obtain ⟨rest, hrest⟩ := exists_assemble_eq ("UPDATE " ++ c.table ++ " SET " ++ f.set)
    [some f.filter.text]
  rw [Statement.Updates, updateStatement, hrest]
  simp only [String.toList_append, List.append_assoc]
  exact ⟨_, rfl⟩

variable {b : Backend σ} (t : b.Steady S) (c : Collection)

/-- Updates in a transaction publish nothing. -/
theorem published_queryAll {qs : List Statement} (hqs : ∀ q ∈ qs, t.One q ∧ q.Updates) (s : σ) :
    t.published (b.queryAll .transaction qs s).2 = t.published s := by
  induction qs generalizing s with
  | nil => rfl
  | cons q qs ih =>
    obtain ⟨⟨hone, hupdates⟩, hqs⟩ := List.forall_mem_cons.1 hqs
    exact (ih hqs _).trans (t.updating s hone hupdates)

/-- A batch that fails has published nothing. -/
theorem published_updateTogether {fs : List UpdateClauses} {s : σ}
    (hone : ∀ q ∈ fs.map c.updateStatement, t.One q) {stage : Stage} {message : String}
    (h : ((c.updateTogether fs).run b s).value = .failure stage message) :
    t.published ((c.updateTogether fs).run b s).state = t.published s := by
  have hqs : ∀ q ∈ fs.map c.updateStatement, t.One q ∧ q.Updates := by
    intro q hq
    refine ⟨hone q hq, ?_⟩
    obtain ⟨f, -, rfl⟩ := List.mem_map.1 hq
    exact c.updates_updateStatement f
  have hsent : t.published (c.sentState b s fs) = t.published s :=
    (published_queryAll t hqs _).trans (t.began s)
  cases hbegin : (b.control .begin s).1 with
  | error e =>
    rw [c.run_updateTogether_of_error b s hbegin]
    exact t.began s
  | ok u =>
    rw [c.run_updateTogether_of_ok b s hbegin] at h ⊢
    rcases all_succeeded_or_firstFailure (c.sentAnswers b s fs) with ⟨rs, hrs⟩ | ⟨e, he⟩
    · rw [c.concluded_of_success b s hrs] at h ⊢
      cases hcommit : (b.control .commit (c.sentState b s fs)).1 with
      | error e => exact (t.uncommitted hcommit).trans hsent
      | ok u => simp [hcommit] at h
    · rw [c.concluded_of_failure b s he]
      exact (t.rolledBack _).trans hsent

end Collection

namespace Operation

variable {b : Backend σ} (t : b.Steady S) {c : Collection} {s : σ} {op : Operation}

/-- **An operation that ends with an error leaves everything as it was**, if each of its
    statements is one command. -/
theorem published_of_error (hone : ∀ q ∈ op.statements c, t.One q) (hraw : op.raw? = none)
    {e : StoreError} (h : ((op.dialogue c).run b s).value = .error e) :
    t.published ((op.dialogue c).run b s).state = t.published s := by
  have hfails := fails_of_error h
  rw [Dialogue.state_run]
  -- one case for each way to fail, with what was sent
  generalize ((op.dialogue c).run b s).log = log at hfails
  cases hfails with
  | refused h => rfl
  | executing hq herror =>
    rw [hq] at hone
    exact t.failing (List.forall_mem_singleton.1 hone) herror
  | counting input =>
    cases input with
    | raw sql => cases hraw
    | compiled f =>
      exact t.selecting s (List.forall_mem_singleton.1 hone) (c.selects_countStatement f)

/-- **An update that tells of a failure leaves everything as it was**, if each of its statements
    is one command. -/
theorem published_of_failure (hone : ∀ q ∈ op.statements c, t.One q) {stage : Stage}
    {message : String}
    (h : ((op.dialogue c).run b s).value = .ok (.updated (.failure stage message))) :
    t.published ((op.dialogue c).run b s).state = t.published s := by
  obtain ⟨fs, hfs, rfl⟩ := exists_batch_of_failure h
  rw [dialogue, run_answering, c.run_update_of_two_le b s hfs] at h ⊢
  exact Collection.published_updateTogether t c hone (Answer.updated.inj (Except.ok.inj h))

end Operation

end RowQuery

/-
  RowQuery — updates of several rows are all or nothing.

  A transactional backend carries out statements on a store: those of the pool on the
  published one, those of a transaction on a copy of it, which a commit publishes. Nothing
  else changes what is published. A statement is carried out alike in both places.

  * `Transactional` are the laws of such a backend, `Session.transactional` says that
    sessions keep them;
  * `Collection.updateEach` sends row updates one after the other, each on its own;
  * `Collection.update_allOrNothing`: a batch that fails has changed nothing, and one that
    succeeds has done what the row updates do one after the other.
-/
import RowQuery.Database.Session
import RowQuery.Proofs.Collection.Batch

namespace RowQuery

variable {σ S : Type}

/-- **A transactional backend**: its state holds a published store and perhaps a copy of it.
    A statement that fails may leave anything in the copy, as long as it does so in any
    store. -/
structure Transactional (b : Backend σ) (S : Type) where
  /-- What a statement does to a store. -/
  exec : Statement → S → Except DriverError Reply × S
  published : σ → S
  /-- The copy that the open transaction works on. -/
  copy? : σ → Option S
  /-- Whether the pool has a connection to give. -/
  free : σ → Prop
  pool : ∀ q s, free s → (b.query .pool q s).1 = (exec q (published s)).1 ∧
    published (b.query .pool q s).2 = (exec q (published s)).2 ∧ free (b.query .pool q s).2
  transaction : ∀ q s d, copy? s = some d → (b.query .transaction q s).1 = (exec q d).1 ∧
    copy? (b.query .transaction q s).2 = some (exec q d).2 ∧
    published (b.query .transaction q s).2 = published s
  begin_ok : ∀ s, (b.control .begin s).1 = .ok () → free s ∧
    copy? (b.control .begin s).2 = some (published s)
  begin_published : ∀ s, published (b.control .begin s).2 = published s
  commit_ok : ∀ s d, copy? s = some d → (b.control .commit s).1 = .ok () →
    published (b.control .commit s).2 = d
  commit_error : ∀ s e, (b.control .commit s).1 = .error e →
    published (b.control .commit s).2 = published s
  rollback_published : ∀ s, published (b.control .rollback s).2 = published s

/-- Sessions are transactional; their pool is free while no transaction is open. -/
def Session.transactional : Transactional Session.backend Database where
  exec q d := d.execute q
  published := Session.published
  copy? := Session.transaction
  free s := s.transaction = none
  pool q s h := by
    obtain ⟨d, copy⟩ := s
    obtain rfl : copy = none := h
    exact ⟨rfl, rfl, rfl⟩
  transaction q s d h := by
    obtain ⟨p, copy⟩ := s
    obtain rfl : copy = some d := h
    exact ⟨rfl, rfl, rfl⟩
  begin_ok s h := by
    obtain ⟨d, copy⟩ := s
    cases copy with
    | none => exact ⟨rfl, rfl⟩
    | some copy => cases h
  begin_published s := by
    obtain ⟨d, copy⟩ := s
    cases copy <;> rfl
  commit_ok s d h _ := by
    obtain ⟨p, copy⟩ := s
    obtain rfl : copy = some d := h
    rfl
  commit_error s e h := by
    obtain ⟨d, copy⟩ := s
    cases copy with
    | none => rfl
    | some copy => cases h
  rollback_published s := by
    obtain ⟨d, copy⟩ := s
    cases copy <;> rfl

namespace Transactional

variable {b : Backend σ} (t : Transactional b S)

/-- The answers to statements that are carried out one after the other, and the store after
    the last of them. -/
def execAll : List Statement → S → List (Except DriverError Reply) × S
  | [], d => ([], d)
  | q :: qs, d =>
    let first := t.exec q d
    let others := execAll qs first.2
    (first.1 :: others.1, others.2)

theorem length_execAll (qs : List Statement) (d : S) : (t.execAll qs d).1.length = qs.length := by
  induction qs generalizing d with
  | nil => rfl
  | cons q qs ih => rw [execAll, List.length_cons, ih, List.length_cons]

/-- Statements on a transaction are carried out on its copy. -/
theorem queryAll_transaction (qs : List Statement) {s : σ} {d : S} (h : t.copy? s = some d) :
    (b.queryAll .transaction qs s).1 = (t.execAll qs d).1 ∧
      t.copy? (b.queryAll .transaction qs s).2 = some (t.execAll qs d).2 ∧
      t.published (b.queryAll .transaction qs s).2 = t.published s := by
  induction qs generalizing s d with
  | nil => exact ⟨rfl, h, rfl⟩
  | cons q qs ih =>
    obtain ⟨hanswer, hcopy, hpublished⟩ := t.transaction q s d h
    obtain ⟨hanswers, hcopies, hothers⟩ := ih hcopy
    refine ⟨?_, hcopies, hothers.trans hpublished⟩
    rw [Backend.queryAll, execAll, hanswer, hanswers]

end Transactional

namespace Collection

variable (c : Collection) {b : Backend σ} (t : Transactional b S)

/-! ## Row updates one after the other -/

/-- Updates rows by each of some clauses on their own, one after the other. -/
def updateEach : List UpdateClauses → Dialogue (List (Except StoreError UpdateStats))
  | [] => .done []
  | f :: fs => (c.update (.compiled [f])).bind fun first =>
    (updateEach fs).bind fun others => .done (first :: others)

/-- The result of a row update on its own, by the answer to its statement. -/
def updateResult (f : UpdateClauses) : Except DriverError Reply → Except StoreError UpdateStats
  | .ok reply => .ok (.success reply.affectedRows)
  | .error e => .error (c.executionError (c.updateStatement f).sql e)

/-- A row update on its own is its statement on the pool. -/
theorem run_update_single (b : Backend σ) (f : UpdateClauses) (s : σ) :
    (c.update (.compiled [f])).run b s =
      ⟨c.updateResult f (b.query .pool (c.updateStatement f) s).1,
        [.query .pool (c.updateStatement f)], (b.query .pool (c.updateStatement f) s).2⟩ := by
  rw [update, updateOne, executeAnd, Dialogue.run_bind, execute, Dialogue.ask_bind,
    Dialogue.run_query]
  cases (b.query .pool (c.updateStatement f) s).1 <;> rfl

/-- Row updates one after the other are carried out on the published store. -/
theorem run_updateEach (fs : List UpdateClauses) {s : σ} (h : t.free s) :
    ((c.updateEach fs).run b s).value = List.zipWith c.updateResult fs
        (t.execAll (fs.map c.updateStatement) (t.published s)).1 ∧
      t.published ((c.updateEach fs).run b s).state =
        (t.execAll (fs.map c.updateStatement) (t.published s)).2 := by
  induction fs generalizing s with
  | nil => exact ⟨rfl, rfl⟩
  | cons f fs ih =>
    obtain ⟨hanswer, hpublished, hfree⟩ := t.pool (c.updateStatement f) s h
    -- the others start from what the first one has published
    obtain ⟨hvalues, hstate⟩ := ih hfree
    rw [hpublished] at hvalues hstate
    rw [updateEach, Dialogue.run_bind, run_update_single]
    simp only [Dialogue.run_bind, Dialogue.run, List.map_cons, Transactional.execAll,
      List.zipWith_cons_cons]
    rw [hanswer, hvalues]
    exact ⟨rfl, hstate⟩

/-- Row updates all succeed if and only if their statements do. -/
theorem zipWith_updateResult_eq_ok {fs : List UpdateClauses}
    {answers : List (Except DriverError Reply)} (hlen : answers.length = fs.length)
    {ns : List UInt64} :
    List.zipWith c.updateResult fs answers = ns.map (fun n => .ok (.success n)) ↔
      ∃ rs : List Reply, answers = rs.map .ok ∧ ns = rs.map Reply.affectedRows := by
  induction fs generalizing answers ns with
  | nil =>
    obtain rfl := List.eq_nil_of_length_eq_zero hlen
    constructor
    · intro h
      exact ⟨[], rfl, List.map_eq_nil_iff.1 h.symm⟩
    · rintro ⟨rs, hrs, rfl⟩
      rw [List.map_eq_nil_iff.1 hrs.symm]
      rfl
  | cons f fs ih =>
    obtain ⟨answer, answers, rfl⟩ := List.exists_cons_of_length_eq_add_one hlen
    have hrest := @ih answers (Nat.succ.inj hlen)
    constructor
    · intro h
      cases ns with
      | nil => cases h
      | cons n ns =>
        obtain ⟨hfirst, hothers⟩ := List.cons.inj h
        obtain ⟨rs, rfl, rfl⟩ := hrest.1 hothers
        cases answer with
        | error e => cases hfirst
        | ok reply =>
          cases hfirst
          exact ⟨reply :: rs, rfl, rfl⟩
    · rintro ⟨rs, hrs, rfl⟩
      cases rs with
      | nil => cases hrs
      | cons r rs =>
        obtain ⟨rfl, hothers⟩ := List.cons.inj hrs
        have hvalues := hrest.2 ⟨rs, hothers, rfl⟩
        rw [List.zipWith_cons_cons, hvalues]
        rfl

/-! ## The batch -/

/-- After a begin that succeeds the statements of a batch are carried out on a copy of what is
    published. -/
theorem sent_of_begin_ok {s : σ} (h : (b.control .begin s).1 = .ok ()) (fs : List UpdateClauses) :
    c.sentAnswers b s fs = (t.execAll (fs.map c.updateStatement) (t.published s)).1 ∧
      t.copy? (c.sentState b s fs) =
        some (t.execAll (fs.map c.updateStatement) (t.published s)).2 ∧
      t.published (c.sentState b s fs) = t.published s := by
  obtain ⟨-, hcopy⟩ := t.begin_ok s h
  obtain ⟨hanswers, hcopies, hpublished⟩ := t.queryAll_transaction (fs.map c.updateStatement) hcopy
  exact ⟨hanswers, hcopies, hpublished.trans (t.begin_published s)⟩

/-- A batch failed and has changed nothing. -/
structure Unchanged (s : σ) (o : Dialogue.Outcome UpdateStats σ) : Prop where
  failed : ∃ stage message, o.value = .failure stage message
  published : t.published o.state = t.published s

variable {s : σ} {fs : List UpdateClauses}

theorem unchanged_of_begin_error {e : DriverError} (h : (b.control .begin s).1 = .error e) :
    Unchanged t s ((c.updateTogether fs).run b s) := by
  rw [c.run_updateTogether_of_error b s h]
  exact ⟨⟨.begin, e.message, rfl⟩, t.begin_published s⟩

theorem unchanged_of_firstFailure {e : DriverError} (h : (b.control .begin s).1 = .ok ())
    (he : FirstFailure (c.sentAnswers b s fs) e) :
    Unchanged t s ((c.updateTogether fs).run b s) := by
  obtain ⟨-, -, hpublished⟩ := c.sent_of_begin_ok t h fs
  rw [c.run_updateTogether_of_ok b s h, c.concluded_of_failure b s he]
  exact ⟨⟨.statement, e.message, rfl⟩, (t.rollback_published _).trans hpublished⟩

theorem unchanged_of_commit_error {rs : List Reply} {e : DriverError}
    (h : (b.control .begin s).1 = .ok ()) (hrs : c.sentAnswers b s fs = rs.map .ok)
    (he : (b.control .commit (c.sentState b s fs)).1 = .error e) :
    Unchanged t s ((c.updateTogether fs).run b s) := by
  obtain ⟨-, -, hpublished⟩ := c.sent_of_begin_ok t h fs
  rw [c.run_updateTogether_of_ok b s h, c.concluded_of_success b s hrs, he]
  exact ⟨⟨.commit, e.message, rfl⟩, (t.commit_error _ e he).trans hpublished⟩

/-- A batch that is committed publishes what its statements did to the copy. -/
theorem run_updateTogether_of_commit_ok {rs : List Reply} (h : (b.control .begin s).1 = .ok ())
    (hrs : c.sentAnswers b s fs = rs.map .ok)
    (hcommit : (b.control .commit (c.sentState b s fs)).1 = .ok ()) :
    ((c.updateTogether fs).run b s).value = .success (rs.map Reply.affectedRows).sum ∧
      t.published ((c.updateTogether fs).run b s).state =
        (t.execAll (fs.map c.updateStatement) (t.published s)).2 := by
  obtain ⟨-, hcopy, -⟩ := c.sent_of_begin_ok t h fs
  rw [c.run_updateTogether_of_ok b s h, c.concluded_of_success b s hrs, hcommit]
  exact ⟨rfl, t.commit_ok _ _ hcopy hcommit⟩

/-- What a batch ends with: it fails and has changed nothing, or it is committed. -/
theorem unchanged_or_committed (s : σ) (fs : List UpdateClauses) :
    Unchanged t s ((c.updateTogether fs).run b s) ∨
      ∃ rs : List Reply, (b.control .begin s).1 = .ok () ∧ c.sentAnswers b s fs = rs.map .ok ∧
        (b.control .commit (c.sentState b s fs)).1 = .ok () := by
  cases hbegin : (b.control .begin s).1 with
  | error e => exact Or.inl (c.unchanged_of_begin_error t hbegin)
  | ok u =>
    rcases all_succeeded_or_firstFailure (c.sentAnswers b s fs) with ⟨rs, hrs⟩ | ⟨e, he⟩
    · cases hcommit : (b.control .commit (c.sentState b s fs)).1 with
      | error e => exact Or.inl (c.unchanged_of_commit_error t hbegin hrs hcommit)
      | ok u => exact Or.inr ⟨rs, rfl, hrs, rfl⟩
    · exact Or.inl (c.unchanged_of_firstFailure t hbegin he)

/-- Row updates one after the other all succeed if and only if the statements of the batch do. -/
theorem updateEach_eq_ok_iff (t : Transactional b S) (h : (b.control .begin s).1 = .ok ())
    {ns : List UInt64} :
    ((c.updateEach fs).run b s).value = ns.map (fun n => .ok (.success n)) ↔
      ∃ rs : List Reply, c.sentAnswers b s fs = rs.map .ok ∧ ns = rs.map Reply.affectedRows := by
  obtain ⟨hfree, -⟩ := t.begin_ok s h
  obtain ⟨hvalues, -⟩ := c.run_updateEach t fs hfree
  obtain ⟨hanswers, -, -⟩ := c.sent_of_begin_ok t h fs
  have hlen : (c.sentAnswers b s fs).length = fs.length := by
    rw [hanswers, t.length_execAll, List.length_map]
  rw [hvalues, ← hanswers]
  exact c.zipWith_updateResult_eq_ok hlen

/-- **What it means that a batch is all or nothing**, and agrees with its row updates one after
    the other. -/
structure AllOrNothing (fs : List UpdateClauses) (s : σ) : Prop where
  failed : ∀ stage message,
    ((c.update (.compiled fs)).run b s).value = .ok (.failure stage message) →
      t.published ((c.update (.compiled fs)).run b s).state = t.published s
  succeeded : ∀ n, ((c.update (.compiled fs)).run b s).value = .ok (.success n) →
    t.published ((c.update (.compiled fs)).run b s).state =
        t.published ((c.updateEach fs).run b s).state ∧
      ∃ ns : List UInt64,
        ((c.updateEach fs).run b s).value = ns.map (fun k => .ok (.success k)) ∧ n = ns.sum
  success_iff : (b.control .begin s).1 = .ok () →
    (b.control .commit (c.sentState b s fs)).1 = .ok () →
      ((∃ n, ((c.update (.compiled fs)).run b s).value = .ok (.success n)) ↔
        ∃ ns : List UInt64,
          ((c.updateEach fs).run b s).value = ns.map fun k => .ok (.success k))

/-- **A batch is all or nothing**, on every transactional backend and from every state. -/
theorem update_allOrNothing (h : 2 ≤ fs.length) (s : σ) : AllOrNothing c t fs s := by
  have hbatch : (c.update (.compiled fs)).run b s =
      ⟨.ok ((c.updateTogether fs).run b s).value, ((c.updateTogether fs).run b s).log,
        ((c.updateTogether fs).run b s).state⟩ := by
    rw [c.update_of_two_le h, Dialogue.run_bind]
    simp only [Dialogue.run, List.append_nil]
  rcases c.unchanged_or_committed t s fs with
    ⟨⟨stage, m, hvalue⟩, hpublished⟩ | ⟨rs, hbegin, hrs, hcommit⟩
  · constructor
    · intro _ _ _
      rw [hbatch]
      exact hpublished
    · intro n hn
      rw [hbatch, hvalue] at hn
      cases hn
    · intro hbegin hcommit
      rw [hbatch, hvalue]
      constructor
      · rintro ⟨n, hn⟩
        cases hn
      · rintro ⟨ns, hns⟩
        -- the copy gave the same answers, so the batch was committed
        obtain ⟨rs, hrs, -⟩ := (c.updateEach_eq_ok_iff t hbegin).1 hns
        obtain ⟨hsuccess, -⟩ := c.run_updateTogether_of_commit_ok t hbegin hrs hcommit
        rw [hsuccess] at hvalue
        cases hvalue
  · obtain ⟨hsuccess, hstate⟩ := c.run_updateTogether_of_commit_ok t hbegin hrs hcommit
    obtain ⟨hfree, -⟩ := t.begin_ok s hbegin
    obtain ⟨-, halone⟩ := c.run_updateEach t fs hfree
    have hvalues := (c.updateEach_eq_ok_iff t hbegin).2 ⟨rs, hrs, rfl⟩
    constructor
    · intro _ _ hf
      rw [hbatch, hsuccess] at hf
      cases hf
    · intro n hn
      rw [hbatch, hsuccess] at hn
      cases hn
      rw [hbatch, halone]
      exact ⟨hstate, _, hvalues, rfl⟩
    · intro _ _
      rw [hbatch, hsuccess]
      exact ⟨fun _ => ⟨_, hvalues⟩, fun _ => ⟨_, rfl⟩⟩

/-- Two batches on a table of three rows: one of a row update and an update of a list of rows, which
    is committed, and one with an update between these that fails. -/
theorem update_allOrNothing_session :
    let c : Collection := ⟨"items", .default⟩
    let columns : List Database.Column := [⟨"id", .integer, false⟩, ⟨"qty", .integer, false⟩]
    let holding (x y z : Int64) : Session := .ofDatabase ⟨[⟨"items", columns, some 0, true, 9,
      [⟨7, [.int 7, .int x]⟩, ⟨8, [.int 8, .int y]⟩, ⟨9, [.int 9, .int z]⟩]⟩]⟩
    let f : UpdateClauses := ⟨["qty = ?"], [.int 1], ⟨"WHERE id = ?", [.int 7]⟩⟩
    let wrong : UpdateClauses := ⟨["nope = ?"], [.int 1], ⟨"WHERE id = ?", [.int 7]⟩⟩
    let g : UpdateClauses := ⟨["qty = ?"], [.int 2], ⟨"WHERE id IN ?", [.list [.int 8, .int 9]]⟩⟩
    let committed := (c.update (.compiled [f, g])).run Session.backend (holding 5 5 5)
    let failed := (c.update (.compiled [f, wrong, g])).run Session.backend (holding 5 5 5)
    let reason := "error returned from database: (code: 1) no such column: nope"
    2 ≤ [f, g].length ∧ AllOrNothing c Session.transactional [f, g] (holding 5 5 5) ∧
      committed.value = .ok (.success 3) ∧ committed.state = holding 1 2 2 ∧
      2 ≤ [f, wrong, g].length ∧
      AllOrNothing c Session.transactional [f, wrong, g] (holding 5 5 5) ∧
      failed.value = .ok (.failure .statement reason) ∧ failed.state = holding 5 5 5 := by
  intro c columns holding f wrong g committed failed reason
  have htwo : 2 ≤ [f, g].length := by decide
  have hthree : 2 ≤ [f, wrong, g].length := by decide
  obtain ⟨hvalue, hstate⟩ : committed.value = .ok (.success 3) ∧ committed.state = holding 1 2 2 := by
    decide +kernel
  obtain ⟨hvalue', hstate'⟩ : failed.value = .ok (.failure .statement reason) ∧
      failed.state = holding 5 5 5 := by
    decide +kernel
  exact ⟨htwo, c.update_allOrNothing Session.transactional htwo _, hvalue, hstate,
    hthree, c.update_allOrNothing Session.transactional hthree _, hvalue', hstate'⟩

end Collection

end RowQuery

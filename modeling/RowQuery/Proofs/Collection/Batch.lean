/-
  RowQuery — the protocol of an update of several rows.

  A batch is played against any backend: its answers to the begin, to each statement, and
  to the control that ends the transaction may be anything, and may depend on all that
  was sent before.

  * `Backend.queryAll` are the answers to statements sent one after the other;
  * `run_updateTogether_of_ok`, `run_updateTogether_of_error`: what a batch sends and
    ends with, after a begin that succeeds or fails;
  * `BatchProtocol` is the protocol, `update_batchProtocol` that updates keep to it.
-/
import Mathlib.Data.UInt
import RowQuery.Backend.Script
import RowQuery.Collection.Write

namespace RowQuery

variable {α σ : Type}

/-- A dialogue whose value is changed at the end. -/
theorem Dialogue.run_bind_done {β : Type} (d : Dialogue α) (f : α → β) (b : Backend σ) (s : σ) :
    (d.bind fun a => .done (f a)).run b s =
      ⟨f (d.run b s).value, (d.run b s).log, (d.run b s).state⟩ := by
  rw [run_bind]
  simp only [run, List.append_nil]

/-- The answers to statements that are sent one after the other, and the state after the
    last of them. -/
def Backend.queryAll (b : Backend σ) (channel : Channel) :
    List Statement → σ → List (Except DriverError Reply) × σ
  | [], s => ([], s)
  | q :: qs, s =>
    let first := b.query channel q s
    let others := b.queryAll channel qs first.2
    (first.1 :: others.1, others.2)

/-! ## The statements of a batch -/

/-- Whether a request was answered without a failure. -/
def Succeeded (answer : Except DriverError α) : Prop := ∃ a, answer = .ok a

/-- The failure at a place is the first one among answers. -/
def FirstFailure (answers : List (Except DriverError Reply)) (e : DriverError) : Prop :=
  ∃ i : Nat, answers[i]? = some (.error e) ∧ ∀ j < i, ∃ a, answers[j]? = some a ∧ Succeeded a

/-- Answers all succeed, or there is a first failure among them. -/
theorem all_succeeded_or_firstFailure (answers : List (Except DriverError Reply)) :
    (∃ rs : List Reply, answers = rs.map .ok) ∨ ∃ e, FirstFailure answers e := by
  induction answers with
  | nil => exact Or.inl ⟨[], rfl⟩
  | cons a answers ih =>
    cases a with
    | error e => exact Or.inr ⟨e, 0, rfl, fun j hj => absurd hj (by omega)⟩
    | ok r =>
      rcases ih with ⟨rs, rfl⟩ | ⟨e, i, hi, hlt⟩
      · exact Or.inl ⟨r :: rs, rfl⟩
      · refine Or.inr ⟨e, i + 1, by simpa using hi, fun j hj => ?_⟩
        cases j with
        | zero => exact ⟨_, rfl, r, rfl⟩
        | succ j => simpa using hlt j (by omega)

theorem FirstFailure.not_all_succeeded {answers : List (Except DriverError Reply)} {e : DriverError}
    (h : FirstFailure answers e) : ¬ ∀ a ∈ answers, Succeeded a := by
  obtain ⟨i, hi, -⟩ := h
  intro hall
  obtain ⟨r, hr⟩ := hall _ (List.mem_of_getElem? hi)
  cases hr

namespace Collection

/-- All statements are sent on the transaction, in order, whatever their answers. -/
theorem run_sendAll (b : Backend σ) (qs : List Statement) (s : σ) :
    (sendAll qs).run b s =
      ⟨(b.queryAll .transaction qs s).1, qs.map (.query .transaction),
        (b.queryAll .transaction qs s).2⟩ := by
  induction qs generalizing s with
  | nil => rfl
  | cons q qs ih =>
    rw [sendAll, Dialogue.run_query]
    simp only [Dialogue.run_bind, ih, Dialogue.run, Backend.queryAll, List.map_cons,
      List.append_nil]

/-- A tally of answers without a failure is the number of rows that they tell of. -/
theorem tally_map_ok (rs : List Reply) :
    tally (rs.map .ok) = .ok (rs.map Reply.affectedRows).sum := by
  induction rs with
  | nil => rfl
  | cons r rs ih => rw [List.map_cons, tally, ih, List.map_cons, List.sum_cons]

theorem tally_of_firstFailure {answers : List (Except DriverError Reply)} {e : DriverError}
    (h : FirstFailure answers e) : tally answers = .error e := by
  obtain ⟨i, hi, hlt⟩ := h
  induction answers generalizing i with
  | nil => simp at hi
  | cons a answers ih =>
    cases i with
    | zero =>
      rw [List.getElem?_cons_zero, Option.some.injEq] at hi
      rw [hi, tally]
    | succ i =>
      obtain ⟨a', ha', r, hr⟩ := hlt 0 (by omega)
      rw [List.getElem?_cons_zero, Option.some.injEq] at ha'
      have hrest := ih i (by simpa using hi) fun j hj => by simpa using hlt (j + 1) (by omega)
      rw [ha', hr, tally, hrest]

/-! ## The transaction -/

variable (c : Collection) (b : Backend σ) (s : σ)

/-- An update of several rows is a batch. -/
theorem update_of_two_le {fs : List UpdateClauses} (h : 2 ≤ fs.length) :
    c.update (.compiled fs) = (c.updateTogether fs).bind fun stats => .done (.ok stats) := by
  match fs, h with
  | f :: g :: fs, _ => rfl

theorem run_update_of_two_le {fs : List UpdateClauses} (h : 2 ≤ fs.length) :
    (c.update (.compiled fs)).run b s =
      ⟨.ok ((c.updateTogether fs).run b s).value, ((c.updateTogether fs).run b s).log,
        ((c.updateTogether fs).run b s).state⟩ := by
  rw [c.update_of_two_le h, Dialogue.run_bind_done]

/-- After a begin that fails nothing else is sent. -/
theorem run_updateTogether_of_error {fs : List UpdateClauses} {e : DriverError}
    (h : (b.control .begin s).1 = .error e) :
    (c.updateTogether fs).run b s =
      ⟨.failure .begin e.message, [.control .begin], (b.control .begin s).2⟩ := by
  rw [updateTogether, Dialogue.run_control, h]
  rfl

/-- The state of a backend after the begin and the statements of a batch. -/
def sentState (fs : List UpdateClauses) : σ :=
  (b.queryAll .transaction (fs.map c.updateStatement) (b.control .begin s).2).2

/-- The answers of a backend to the statements of a batch. -/
def sentAnswers (fs : List UpdateClauses) : List (Except DriverError Reply) :=
  (b.queryAll .transaction (fs.map c.updateStatement) (b.control .begin s).2).1

/-- What conclusion a batch comes to once its statements are answered. -/
def concluded (fs : List UpdateClauses) : Dialogue.Outcome UpdateStats σ :=
  (conclude (tally (c.sentAnswers b s fs))).run b (c.sentState b s fs)

/-- After a begin that succeeds all statements are sent, and then the conclusion. -/
theorem run_updateTogether_of_ok {fs : List UpdateClauses} (h : (b.control .begin s).1 = .ok ()) :
    (c.updateTogether fs).run b s =
      ⟨(c.concluded b s fs).value,
        .control .begin :: (fs.map c.updateStatement).map (.query .transaction) ++
          (c.concluded b s fs).log,
        (c.concluded b s fs).state⟩ := by
  rw [updateTogether, Dialogue.run_control, h]
  simp only [Dialogue.run_bind, run_sendAll, concluded, sentAnswers, sentState, List.cons_append]

theorem concluded_of_failure {fs : List UpdateClauses} {e : DriverError}
    (h : FirstFailure (c.sentAnswers b s fs) e) :
    c.concluded b s fs =
      ⟨.failure .statement e.message, [.control .rollback],
        (b.control .rollback (c.sentState b s fs)).2⟩ := by
  rw [concluded, tally_of_firstFailure h]
  rfl

theorem concluded_of_success {fs : List UpdateClauses} {rs : List Reply}
    (h : c.sentAnswers b s fs = rs.map .ok) :
    c.concluded b s fs =
      ⟨match (b.control .commit (c.sentState b s fs)).1 with
        | .ok () => .success (rs.map Reply.affectedRows).sum
        | .error e => .failure .commit e.message,
        [.control .commit], (b.control .commit (c.sentState b s fs)).2⟩ := by
  rw [concluded, h, tally_map_ok, conclude, Dialogue.run_control]
  cases (b.control .commit (c.sentState b s fs)).1 <;> rfl

end Collection

/-! ## The protocol -/

/-- **The protocol of a batch** of statements, by what the backend answered to the begin, to
    each statement, and to the commit; the answer to a rollback does not matter. -/
structure BatchProtocol (qs : List Statement) (begun : Except DriverError Unit)
    (answers : List (Except DriverError Reply)) (committed : Except DriverError Unit)
    (value : Except StoreError UpdateStats) (log : List Request) : Prop where
  /-- It does not end with an error. -/
  answered : ∃ stats, value = .ok stats
  begin_failed : ∀ e, begun = .error e →
    log = [.control .begin] ∧ value = .ok (.failure .begin e.message)
  /-- Each statement is sent once and in order, though some fail, and then one control. -/
  sent : begun = .ok () → ∃ last, (last = .commit ∨ last = .rollback) ∧
    log = .control .begin :: qs.map (.query .transaction) ++ [.control last] ∧
    (last = .commit ↔ ∀ a ∈ answers, Succeeded a)
  success_iff : (∃ n, value = .ok (.success n)) ↔
    begun = .ok () ∧ (∀ a ∈ answers, Succeeded a) ∧ committed = .ok ()
  modified : ∀ n, value = .ok (.success n) →
    ∃ rs : List Reply, answers = rs.map .ok ∧ n = (rs.map Reply.affectedRows).sum
  modified_absent : ∀ stats, value = .ok stats → (∀ n, stats ≠ .success n) →
    stats.modified? = none
  statement_failed : begun = .ok () → (∃ a ∈ answers, ¬ Succeeded a) →
    ∃ e, FirstFailure answers e ∧ value = .ok (.failure .statement e.message)
  commit_failed : begun = .ok () → (∀ a ∈ answers, Succeeded a) → ∀ e, committed = .error e →
    value = .ok (.failure .commit e.message)

theorem UpdateStats.modified?_eq_none {stats : UpdateStats} (h : ∀ n, stats ≠ .success n) :
    stats.modified? = none := by
  cases stats with
  | success n => exact absurd rfl (h n)
  | failure stage message => rfl

section
variable {qs : List Statement} {answers : List (Except DriverError Reply)}
  {committed : Except DriverError Unit}

theorem BatchProtocol.of_begin_failed {e : DriverError} :
    BatchProtocol qs (.error e) answers committed (.ok (.failure .begin e.message))
      [.control .begin] where
  answered := ⟨_, rfl⟩
  begin_failed e' h := by obtain rfl := Except.error.inj h; exact ⟨rfl, rfl⟩
  sent h := by cases h
  success_iff := ⟨fun ⟨n, h⟩ => (by cases h), fun h => (by cases h.1)⟩
  modified n h := by cases h
  modified_absent stats _ h := UpdateStats.modified?_eq_none h
  statement_failed h := by cases h
  commit_failed h := by cases h

theorem BatchProtocol.of_statement_failed {e : DriverError} (h : FirstFailure answers e) :
    BatchProtocol qs (.ok ()) answers committed (.ok (.failure .statement e.message))
      (.control .begin :: qs.map (.query .transaction) ++ [.control .rollback]) where
  answered := ⟨_, rfl⟩
  begin_failed e' h := by cases h
  sent _ := ⟨.rollback, Or.inr rfl, rfl,
    ⟨fun h' => (by cases h'), fun hall => absurd hall h.not_all_succeeded⟩⟩
  success_iff := ⟨fun ⟨n, h⟩ => (by cases h), fun h' => absurd h'.2.1 h.not_all_succeeded⟩
  modified n h := by cases h
  modified_absent stats _ h := UpdateStats.modified?_eq_none h
  statement_failed _ _ := ⟨e, h, rfl⟩
  commit_failed _ hall := absurd hall h.not_all_succeeded

theorem BatchProtocol.of_all_succeeded {rs : List Reply} :
    BatchProtocol qs (.ok ()) (rs.map .ok) committed
      (.ok (match committed with
        | .ok () => .success (rs.map Reply.affectedRows).sum
        | .error e => .failure .commit e.message))
      (.control .begin :: qs.map (.query .transaction) ++ [.control .commit]) := by
  have hall : ∀ a ∈ rs.map (Except.ok (ε := DriverError)), Succeeded a := by
    rintro a ha
    obtain ⟨r, -, rfl⟩ := List.mem_map.1 ha
    exact ⟨r, rfl⟩
  constructor
  · exact ⟨_, rfl⟩
  · intro e h
    cases h
  · intro _
    exact ⟨.commit, Or.inl rfl, rfl, fun _ => hall, fun _ => rfl⟩
  · cases committed with
    | error e => exact ⟨fun ⟨n, h⟩ => (by cases h), fun h => (by cases h.2.2)⟩
    | ok u => exact ⟨fun _ => ⟨rfl, hall, rfl⟩, fun _ => ⟨_, rfl⟩⟩
  · intro n h
    cases committed with
    | error e => cases h
    | ok u => cases h; exact ⟨rs, rfl, rfl⟩
  · intro stats _ h
    exact UpdateStats.modified?_eq_none h
  · rintro _ ⟨a, ha, hn⟩
    exact absurd (hall a ha) hn
  · intro _ _ e h
    rw [h]

end

/-- **Updates of several rows keep to the protocol**, whatever the backend answers. -/
theorem Collection.update_batchProtocol (c : Collection) {fs : List UpdateClauses}
    (h : 2 ≤ fs.length) (b : Backend σ) (s : σ) :
    BatchProtocol (fs.map c.updateStatement) (b.control .begin s).1 (c.sentAnswers b s fs)
      (b.control .commit (c.sentState b s fs)).1 ((c.update (.compiled fs)).run b s).value
      ((c.update (.compiled fs)).run b s).log := by
  rw [c.update_of_two_le h, Dialogue.run_bind]
  simp only [Dialogue.run, List.append_nil]
  cases hb : (b.control .begin s).1 with
  | error e =>
    rw [c.run_updateTogether_of_error b s hb]
    exact .of_begin_failed
  | ok u =>
    rw [c.run_updateTogether_of_ok b s hb]
    rcases all_succeeded_or_firstFailure (c.sentAnswers b s fs) with ⟨rs, hrs⟩ | ⟨e, he⟩
    · rw [c.concluded_of_success b s hrs, hrs]
      exact .of_all_succeeded
    · rw [c.concluded_of_failure b s he]
      exact .of_statement_failed he

/-- A batch whose second statement of three fails, and its rollback too. -/
theorem Collection.update_second_of_three_fails :
    let f : UpdateClauses := ⟨["qty = ?"], [.int 1], ⟨"WHERE id = ?", [.int 7]⟩⟩
    let c : Collection := ⟨"items", .default⟩
    let replies := [.ok (.header 2 none), .error (.plain "no room"), .ok (.header 1 none)]
    let script : Script := ⟨replies, none, none, some "gone"⟩
    let o := (c.update (.compiled [f, f, f])).run Script.backend script
    2 ≤ [f, f, f].length ∧
      BatchProtocol ([f, f, f].map c.updateStatement) (.ok ()) replies (.ok ()) o.value o.log ∧
      o.value = .ok (.failure .statement "no room") := by
  intro f c replies script o
  have h : 2 ≤ [f, f, f].length := by decide
  exact ⟨h, c.update_batchProtocol h Script.backend script, rfl⟩

end RowQuery

/-
  RowQuery — a run that fails leaves the database as it was.

  A run reads its settings, decodes the text of its request and compiles it, all before it
  sends anything (`prepare`). What comes after that is the dialogue of an operation on a
  collection, which has few ways to fail.

  * `Operation.prepared`, `prepare`: what is done before anything is sent;
  * `dialogue_run`: a run is its preparation, and then an operation on a collection;
  * `Harmless`: what a failure of a run means, and that it has changed nothing;
  * `run_harmless`: all runs without a whole statement are harmless, if each statement that they
    send is one command; `not_harmless_second_command`: others may not be.
-/
import RowQuery.Proofs.Cli.DryRun
import RowQuery.Proofs.Collection.Failure

namespace RowQuery

variable {α β σ S : Type}

theorem Dialogue.bind_bind {γ : Type} (d : Dialogue α) (f : α → Dialogue β) (g : β → Dialogue γ) :
    (d.bind f).bind g = d.bind fun a => (f a).bind g := by
  induction d with
  | done a => rfl
  | query channel q next ih => simp [bind, ih]
  | control which next ih => simp [bind, ih]

namespace Cli

/-! ## Before anything is sent -/

/-- The JSON value of an answer. -/
def answerJson : Answer → Json
  | .rows rs => recordsToJson rs
  | .count n => countJson n
  | .removed stats => stats.toJson
  | .updated stats => stats.toJson

namespace Operation

/-- The text of an operation that is a whole statement. -/
def raw? : Operation → Option String
  | find (.raw sql) | count (.raw sql) | remove (.raw sql) | update (.raw sql) => some sql
  | _ => none

/-- **An operation on a collection**, once its request is decoded and compiled. -/
def prepared (w : Surroundings) (p : Policy) : Operation → Except Failure RowQuery.Operation
  | find input =>
    (inputClauses w FindRequest.decoder FindRequest.compile input).map .find
  | count input =>
    (inputClauses w CountRequest.decoder CountRequest.compile input).map .count
  | remove input =>
    (inputClauses w RemoveRequest.decoder RemoveRequest.compile input).map .remove
  | removeAll => .ok .removeAll
  | update input =>
    (inputClauses w UpdateRequest.decoder (UpdateRequest.compile p) input).map .update
  | insert records => (decodeArgument w (.list Record.decoder) records).map .insert
  | aggregate request =>
    (clausesOf w AggregateRequest.decoder AggregateRequest.compile request).map .aggregate

end Operation

/-- **The preparation of a run**: its collection, and the operation on it. -/
def prepare (w : Surroundings) (t : Target) (op : Operation) :
    Except Failure (Collection × RowQuery.Operation) := do
  let c ← collectionOf w t
  return (c, ← op.prepared w c.options.policy)

theorem resultOf_answering (toAnswer : α → Answer) (d : Dialogue (Except StoreError α)) :
    resultOf answerJson (RowQuery.Operation.answering toAnswer d) =
      resultOf (fun a => answerJson (toAnswer a)) d := by
  rw [resultOf, RowQuery.Operation.answering, Dialogue.bind_bind]
  congr 1
  funext r
  cases r <;> rfl

theorem Operation.dialogue_eq_prepared (w : Surroundings) (c : Collection) (op : Operation) :
    op.dialogue w c = orFail (op.prepared w c.options.policy) fun o =>
      resultOf answerJson (o.dialogue c) := by
  cases op with
  | removeAll => exact (resultOf_answering .removed c.removeAll).symm
  | _ =>
    simp only [dialogue, prepared, orFail_map, RowQuery.Operation.dialogue, resultOf_answering,
      answerJson]

theorem orFail_bind (e : Except Failure α) (f : α → Except Failure β)
    (next : β → Dialogue (Except Failure Json)) :
    orFail (e >>= f) next = orFail e fun a => orFail (f a) next := by
  cases e <;> rfl

/-- **A run is its preparation, and then an operation on a collection.** -/
theorem dialogue_run (w : Surroundings) (t : Target) (op : Operation) :
    (Task.run t op).dialogue w =
      orFail (prepare w t op) fun p => resultOf answerJson (p.2.dialogue p.1) := by
  rw [Task.dialogue, prepare, orFail_bind]
  congr 1
  funext c
  rw [op.dialogue_eq_prepared, orFail_bind]
  rfl

/-! ## Whole statements -/

theorem inputClauses_eq_ok {w : Surroundings} {d : Decoder α} {compile : α → Except RequestError β}
    {input : Input String} {i : Input β} (h : inputClauses w d compile input = .ok i) :
    (∃ sql, input = .raw sql ∧ i = .raw sql) ∨ ∃ f, i = .compiled f := by
  cases input with
  | raw sql =>
    cases h
    exact Or.inl ⟨sql, rfl, rfl⟩
  | compiled argument =>
    obtain ⟨f, -, rfl⟩ := except_map_eq_ok.1 h
    exact Or.inr ⟨f, rfl⟩

/-- An operation that is given as a request is none that is given as a whole statement. -/
theorem Operation.raw?_of_prepared {w : Surroundings} {p : Policy} {op : Operation}
    {o : RowQuery.Operation} (hraw : op.raw? = none) (h : op.prepared w p = .ok o) :
    o.raw? = none := by
  cases op with
  | removeAll =>
    cases h
    rfl
  | insert _ | aggregate _ =>
    obtain ⟨a, -, rfl⟩ := except_map_eq_ok.1 h
    rfl
  | find _ | count _ | remove _ | update _ =>
    obtain ⟨i, hi, rfl⟩ := except_map_eq_ok.1 h
    rcases inputClauses_eq_ok hi with ⟨sql, rfl, rfl⟩ | ⟨f, rfl⟩
    · cases hraw
    · rfl

/-! ## What is told of a result -/

variable {r : Except StoreError Answer}

theorem told_eq_error {f : Failure} :
    (r.map answerJson).mapError Failure.ofStore = .error f ↔ ∃ e, r = .error e ∧ f = .ofStore e := by
  cases r with
  | error e => simp [Except.map, except_mapError_error, eq_comm]
  | ok a => simp [Except.map, except_mapError_ok]

theorem told_eq_ok {j : Json} :
    (r.map answerJson).mapError Failure.ofStore = .ok j ↔ ∃ a, r = .ok a ∧ j = answerJson a := by
  cases r with
  | error e => simp [Except.map, except_mapError_error]
  | ok a => simp [Except.map, except_mapError_ok, eq_comm]

/-- **A result tells of a failure** if it is that of an update that failed. -/
theorem exists_failure_of_status {a : Answer}
    (h : (answerJson a).textAt? "status" = some "failure") :
    ∃ stage message, a = .updated (.failure stage message) := by
  cases a with
  | rows rs => cases h
  | count n => cases n <;> cases h
  | removed stats => exact absurd (Option.some.inj h) (by decide)
  | updated stats =>
    cases stats with
    | success n => exact absurd (Option.some.inj h) (by decide)
    | failure stage message => exact ⟨stage, message, rfl⟩

/-! ## Runs that fail -/

/-- **What a failure of a run means**: an error comes from the preparation, or is one of the few
    that an operation ends with; and nothing that is published has changed. -/
structure Harmless (w : Surroundings) (target : Target) (op : Operation) {b : Backend σ}
    (t : b.Steady S) (s : σ) (o : Dialogue.Outcome (Except Failure Json) σ) : Prop where
  /-- What is wrong with the settings or the request is told before anything is sent. -/
  unsent : ∀ f, prepare w target op = .error f → o = ⟨.error f, [], s⟩
  /-- All other errors are those of an operation on a collection. -/
  fails : ∀ c p f, prepare w target op = .ok (c, p) → o.value = .error f →
    ∃ e, f = .ofStore e ∧ p.Fails c b s e o.log
  failed : ∀ f, o.value = .error f → t.published o.state = t.published s
  rolledBack : ∀ j, o.value = .ok j → j.textAt? "status" = some "failure" →
    t.published o.state = t.published s

variable {w : Surroundings} {target : Target} {op : Operation} {b : Backend σ} {t : b.Steady S}

/-- A run that is not prepared is harmless. -/
theorem harmless_of_error {f : Failure} (hp : prepare w target op = .error f) (s : σ) :
    Harmless w target op t s (((Task.run target op).dialogue w).run b s) := by
  rw [dialogue_run, hp]
  constructor
  · intro f' hf
    obtain rfl := Except.error.inj (hp.symm.trans hf)
    rfl
  · intro c p f' hp'
    rw [hp] at hp'
    cases hp'
  · intro _ _
    rfl
  · intro _ _ _
    rfl

/-- A run that is prepared is harmless, since the operation on the collection is. -/
theorem harmless_of_prepared {c : Collection} {p : RowQuery.Operation}
    (hone : ∀ q ∈ p.statements c, t.One q) (hraw : p.raw? = none)
    (hp : prepare w target op = .ok (c, p)) (s : σ) :
    Harmless w target op t s (((Task.run target op).dialogue w).run b s) := by
  rw [dialogue_run, hp, orFail, run_resultOf]
  constructor
  · intro f hf
    rw [hp] at hf
    cases hf
  · intro c' p' f hp' hf
    obtain ⟨rfl, rfl⟩ := Prod.mk.inj (Except.ok.inj (hp.symm.trans hp'))
    obtain ⟨e, he, rfl⟩ := told_eq_error.1 hf
    exact ⟨e, rfl, p.fails_of_error he⟩
  · intro f hf
    obtain ⟨e, he, -⟩ := told_eq_error.1 hf
    exact RowQuery.Operation.published_of_error t hone hraw he
  · intro j hj hstatus
    obtain ⟨a, ha, rfl⟩ := told_eq_ok.1 hj
    obtain ⟨stage, message, rfl⟩ := exists_failure_of_status hstatus
    exact RowQuery.Operation.published_of_failure t hone ha

theorem prepare_cases (w : Surroundings) (target : Target) {op : Operation}
    (hraw : op.raw? = none) :
    (∃ f, prepare w target op = .error f) ∨
      ∃ c p, prepare w target op = .ok (c, p) ∧ p.raw? = none := by
  cases hp : prepare w target op with
  | error f => exact Or.inl ⟨f, rfl⟩
  | ok p =>
    obtain ⟨c, -, h⟩ := except_bind_eq_ok.1 hp
    obtain ⟨o, ho, h⟩ := except_bind_eq_ok.1 h
    cases h
    exact Or.inr ⟨c, o, rfl, Operation.raw?_of_prepared hraw ho⟩

/-- **A failed run leaves the database as it was**, if each statement that it would send is one
    command. Whatever the settings, the table, the policy and the request are, and from whatever
    state: a run that is not given as a whole statement and ends with an error, or with an update
    that failed, has changed nothing; and what is wrong with the request is told before anything
    is sent. -/
theorem run_harmless (w : Surroundings) (target : Target) (op : Operation) (t : b.Steady S)
    (hraw : op.raw? = none)
    (hone : ∀ c p, prepare w target op = .ok (c, p) → ∀ q ∈ p.statements c, t.One q) (s : σ) :
    Harmless w target op t s (((Task.run target op).dialogue w).run b s) := by
  rcases prepare_cases w target hraw with ⟨f, hp⟩ | ⟨c, p, hp, hp'⟩
  · exact harmless_of_error hp s
  · exact harmless_of_prepared (hone c p hp) hp' hp s

/-- A batch whose second row names no column: its first row is changed, and then is not. -/
theorem run_harmless_second_row :
    let w : Surroundings := ⟨fun _ => .error "no file", fun _ => none⟩
    let target : Target := ⟨"items", "id", none⟩
    let op : Operation := .update (.compiled ("[[\x7b\"qty\":1\x7d,\x7b\"nope\":2\x7d]," ++
      "[\x7b\"field\":\"id\",\"operator\":\"eq\",\"value\":7\x7d]]"))
    let d : Database := ⟨[⟨"items", [⟨"id", .integer, false⟩, ⟨"qty", .integer, false⟩], some 0,
      true, 7, [⟨7, [.int 7, .int 5]⟩]⟩]⟩
    let o := ((Task.run target op).dialogue w).run Session.backend (.ofDatabase d)
    let reason := "error returned from database: (code: 1) no such column: nope"
    op.raw? = none ∧
      (∀ c p, prepare w target op = .ok (c, p) → ∀ q ∈ p.statements c, Session.steady.One q) ∧
      Harmless w target op Session.steady (.ofDatabase d) o ∧
      o.value = .ok (UpdateStats.failure .statement reason).toJson ∧
      o.log.length = 4 ∧ o.state = .ofDatabase d := by
  intro w target op d o reason
  have hstatements : (prepare w target op).map (fun p => p.2.statements p.1) =
      .ok [⟨"UPDATE items SET qty = ? WHERE id = ?", [.int 1, .int 7]⟩,
        ⟨"UPDATE items SET nope = ? WHERE id = ?", [.int 2, .int 7]⟩] := by decide +kernel
  have hone : ∀ c p, prepare w target op = .ok (c, p) →
      ∀ q ∈ p.statements c, Session.steady.One q := by
    intro c p hp q hq
    rw [hp] at hstatements
    have hsent : p.statements c = _ := Except.ok.inj hstatements
    rw [hsent] at hq
    refine Session.steady.one_of_notMem ?_
    revert q
    decide
  exact ⟨rfl, hone, run_harmless w target op Session.steady rfl hone _, by decide +kernel⟩

/-- The name of a field may hold the end of a command, and another one: the count is answered
    with no number, and the rows of another table are gone. -/
theorem not_harmless_second_command :
    let w : Surroundings := ⟨fun _ => .ok "\x7b\"nonNumericCount\":\"error\"\x7d", fun _ => none⟩
    let target : Target := ⟨"t", "id", some "policy"⟩
    let op : Operation := .count (.compiled ("\x7b\"condition\":\x7b\"field\":" ++
      "\"0 GROUP BY id; DELETE FROM u WHERE id\",\"operator\":\"gt\",\"value\":0\x7d\x7d"))
    let columns : List Database.Column := [⟨"id", .integer, false⟩, ⟨"name", .text, true⟩]
    let rows : List Database.Row := [⟨1, [.int 1, .text "a"]⟩, ⟨2, [.int 2, .text "b"]⟩]
    let d : Database := ⟨[⟨"t", columns, some 0, true, 0, []⟩, ⟨"u", columns, some 0, true, 2, rows⟩]⟩
    let o := ((Task.run target op).dialogue w).run Session.backend (.ofDatabase d)
    op.raw? = none ∧ o.value = .error (.ofStore (.nonNumericCount "t")) ∧
      o.state = .ofDatabase
        ⟨[⟨"t", columns, some 0, true, 0, []⟩, ⟨"u", columns, some 0, true, 2, []⟩]⟩ ∧
      ¬ Harmless w target op Session.steady (.ofDatabase d) o := by
  intro w target op columns rows d o
  obtain ⟨hvalue, hstate⟩ : o.value = .error (.ofStore (.nonNumericCount "t")) ∧
      o.state = .ofDatabase
        ⟨[⟨"t", columns, some 0, true, 0, []⟩, ⟨"u", columns, some 0, true, 2, []⟩]⟩ := by
    decide +kernel
  refine ⟨rfl, hvalue, hstate, ?_⟩
  intro h
  have hpublished := h.failed _ hvalue
  rw [hstate] at hpublished
  exact absurd hpublished (by decide)

end Cli

end RowQuery

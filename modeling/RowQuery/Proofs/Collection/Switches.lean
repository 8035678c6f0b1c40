/-
  RowQuery — what the switches of a policy decide, and what they do not.

  Each switch is looked at in one place: for payloads beyond the last condition, for a removal
  without a condition, and for a count that is no integer. Two collections on the same table
  that differ in their policies send the same and answer the same, call by call, until a call
  comes to such a place, and the switch that is looked at there is one in which they differ.

  * `Call.dialogue`: what is asked of a collection, compiled under its own policy;
  * `Call.Consults`: the switch that a call looks at;
  * `Call.run_eq`: one call, `Collection.play_eq`: calls one after the other;
  * `Collection.switches_decide_only_fallbacks`: **a switch decides its own fallback only**.
-/
import RowQuery.Backend.Script
import RowQuery.Proofs.Collection.Removal
import RowQuery.Proofs.Request.Pairing

namespace RowQuery

variable {σ : Type}

/-! ## Switches -/

/-- The switches of a policy. -/
inductive Switch where
  | surplusPayload
  | unconditionedRemove
  | nonNumericCount

/-- Two policies have a switch in the same setting. -/
def Switch.Agrees (p q : Policy) : Switch → Prop
  | surplusPayload => p.surplusPayload = q.surplusPayload
  | unconditionedRemove => p.unconditionedRemove = q.unconditionedRemove
  | nonNumericCount => p.nonNumericCount = q.nonNumericCount

/-! ## Calls -/

/-- What is asked of a collection: a demand that is compiled under its policy, an operation on
    clauses that are given, on a whole statement or on records, or a control. -/
inductive Call where
  | demand (d : Demand)
  | operation (op : Operation)
  | control (which : Control)

/-- What a call ends with. -/
inductive Ending where
  /-- The demand was refused before anything was sent. -/
  | refused (e : RequestError)
  | answered (r : Except StoreError Answer)
  | controlled (r : Except StoreError Unit)
deriving DecidableEq

namespace Call

/-- The dialogue of a call. -/
def dialogue (c : Collection) : Call → Dialogue Ending
  | demand d =>
    match d.compile c.options.policy with
    | .ok op => (op.dialogue c).bind fun r => .done (.answered r)
    | .error e => .done (.refused e)
  | operation op => (op.dialogue c).bind fun r => .done (.answered r)
  | control which => (c.control which).bind fun r => .done (.controlled r)

/-- A call is a count of these clauses, or of this statement. -/
inductive Counts : Call → Input CountClauses → Prop
  | demand {r : CountRequest} {f : CountClauses} (compiles : r.compile = .ok f) :
      Counts (.demand (.count r)) (.compiled f)
  | operation (input : Input CountClauses) : Counts (.operation (.count input)) input

end Call

/-- An answer has a count: an integer in the column `count` of its first row or, if that column
    is missing, in its first column. -/
def Reply.HasCount (reply : Reply) : Prop :=
  ∃ row rest n, reply.toRows = row :: rest ∧
    (row.get? RowCount.column = some (.int n) ∨
      row.get? RowCount.column = none ∧ row.values.head? = some (.int n))

/-- **The switch that a call looks at**, played against a backend from a state. -/
inductive Call.Consults (c : Collection) (b : Backend σ) (s : σ) : Call → Switch → Prop
  | update {r : UpdateRequest} (more : r.conditions.length < r.updates.length) :
      Consults c b s (.demand (.update r)) .surplusPayload
  | remove {r : RemoveRequest} (none : r.condition = none) :
      Consults c b s (.demand (.remove r)) .unconditionedRemove
  | removeClauses {f : RemoveClauses} (none : f.isUnconditioned = true) :
      Consults c b s (.operation (.remove (.compiled f))) .unconditionedRemove
  | count {call : Call} {input : Input CountClauses} {reply : Reply} (counts : call.Counts input)
      (answered : (b.query .pool (c.countStatement input) s).1 = .ok reply)
      (no : ¬ reply.HasCount) : Consults c b s call .nonNumericCount

/-! ## Places where a switch is looked at -/

theorem RowCount.ofRows_eq_exact_iff {rows : List Record} {n : Int64} :
    ofRows rows = .exact n ↔ ∃ row rest, rows = row :: rest ∧
      (row.get? column = some (.int n) ∨
        row.get? column = none ∧ row.values.head? = some (.int n)) := by
  cases rows with
  | nil => simp [ofRows]
  | cons row rest =>
    simp only [ofRows, List.head?_cons, Option.bind_some]
    rcases hcolumn : row.get? column with _ | v
    · rcases hfirst : row.values.head? with _ | w
      · simp [hcolumn, hfirst]
      · cases w <;> simp [hcolumn, hfirst]
    · cases v <;> simp [hcolumn]

theorem RowCount.ofRows_eq_nonNumeric_iff {reply : Reply} :
    ofRows reply.toRows = .nonNumeric ↔ ¬ reply.HasCount := by
  constructor
  · rintro h ⟨row, rest, n, hrows, hrow⟩
    have hexact := ofRows_eq_exact_iff.2 ⟨row, rest, hrows, hrow⟩
    rw [h] at hexact
    cases hexact
  · intro h
    cases hrows : ofRows reply.toRows with
    | nonNumeric => rfl
    | exact n =>
      obtain ⟨row, rest, hreply, hrow⟩ := ofRows_eq_exact_iff.1 hrows
      exact absurd ⟨row, rest, n, hreply, hrow⟩ h

/-- Only the setting for payloads beyond the last condition counts for an update. -/
theorem UpdateRequest.compile_of_agrees {p q : Policy} (h : p.surplusPayload = q.surplusPayload)
    (r : UpdateRequest) : r.compile p = r.compile q := by
  refine compile_congr rfl (fun _ => Iff.rfl) fun last last' hl hl' i _ => ?_
  obtain rfl := Option.some.inj (hl.symm.trans hl')
  rw [Policy.conditionFor, Policy.conditionFor, h]

namespace Collection

/-- **The same table under two policies**, with the same primary key. -/
structure Twins (c c' : Collection) : Prop where
  table : c.table = c'.table
  primaryKey : c.options.primaryKey = c'.options.primaryKey

variable {c c' : Collection}

theorem Twins.delete (h : c.Twins c') (q : Statement) : c.delete q = c'.delete q := by
  obtain ⟨t, k, p⟩ := c
  obtain ⟨rfl, rfl⟩ := h
  rfl

theorem Twins.control (h : c.Twins c') (which : Control) : c.control which = c'.control which := by
  obtain ⟨t, k, p⟩ := c
  obtain ⟨rfl, rfl⟩ := h
  rfl

theorem Twins.executionError (h : c.Twins c') : c.executionError = c'.executionError := by
  obtain ⟨t, k, p⟩ := c
  obtain ⟨rfl, rfl⟩ := h
  rfl

theorem Twins.countStatement (h : c.Twins c') (input : Input CountClauses) :
    c.countStatement input = c'.countStatement input := by
  obtain ⟨t, k, p⟩ := c
  obtain ⟨rfl, rfl⟩ := h
  rfl

/-- Only removals and counts look at the policy. -/
theorem Twins.dialogue_eq (h : c.Twins c') {op : Operation}
    (hremove : ∀ input, op ≠ .remove input) (hcount : ∀ input, op ≠ .count input) :
    op.dialogue c = op.dialogue c' := by
  obtain ⟨t, k, p⟩ := c
  obtain ⟨rfl, rfl⟩ := h
  cases op with
  | find _ | aggregate _ | removeAll => rfl
  | insert records => cases records <;> rfl
  | update input => rcases input with (_ | ⟨f, _ | ⟨g, fs⟩⟩) | sql <;> rfl
  | remove input => exact absurd rfl (hremove input)
  | count input => exact absurd rfl (hcount input)

/-- A removal with a condition is sent under either policy, and so is one that both allow. -/
theorem Twins.remove (h : c.Twins c') {input : Input RemoveClauses}
    (hinput : ∀ f, input = .compiled f → f.isUnconditioned = true →
      c.options.policy.unconditionedRemove = c'.options.policy.unconditionedRemove) :
    c.remove input = c'.remove input := by
  cases input with
  | raw sql => exact h.delete _
  | compiled f =>
    rw [Collection.remove, Collection.remove, deleteHead, deleteHead, h.table, h.delete]
    by_cases hf : f.isUnconditioned = true
    · rw [hinput f rfl hf]
    · simp only [hf, Bool.false_and, Bool.false_eq_true, if_false]

/-- What a count ends with when the answer has none. -/
def nonNumeric (c : Collection) : Except StoreError RowCount :=
  match c.options.policy.nonNumericCount with
  | .sentinel => .ok .nonNumeric
  | .error => .error (.nonNumericCount c.table)

/-- **A count** that is answered, whether the answer has a count or not. -/
theorem run_count_of_ok (c : Collection) {b : Backend σ} {s : σ} {input : Input CountClauses}
    {reply : Reply} (h : (b.query .pool (c.countStatement input) s).1 = .ok reply) :
    (c.count input).run b s =
      ⟨match RowCount.ofRows reply.toRows with
        | .exact n => .ok (.exact n)
        | .nonNumeric => c.nonNumeric,
      [.query .pool (c.countStatement input)],
      (b.query .pool (c.countStatement input) s).2⟩ := by
  rw [count, run_executeAnd_of_ok c h, nonNumeric]
  cases RowCount.ofRows reply.toRows <;> cases c.options.policy.nonNumericCount <;> rfl

theorem Twins.run_count (h : c.Twins c') {b : Backend σ} {s : σ} {input : Input CountClauses}
    (hinput : ∀ reply, (b.query .pool (c.countStatement input) s).1 = .ok reply →
      ¬ reply.HasCount → c.options.policy.nonNumericCount = c'.options.policy.nonNumericCount) :
    (c.count input).run b s = (c'.count input).run b s := by
  have hstatement := h.countStatement input
  cases hanswer : (b.query .pool (c.countStatement input) s).1 with
  | error e =>
    have hanswer' := hstatement ▸ hanswer
    rw [count, count, run_executeAnd, run_executeAnd, hanswer, hanswer', hstatement,
      h.executionError]
    rfl
  | ok reply =>
    rw [c.run_count_of_ok hanswer, c'.run_count_of_ok (hstatement ▸ hanswer), hstatement]
    cases hrows : RowCount.ofRows reply.toRows with
    | exact n => rfl
    | nonNumeric =>
      have hagree := hinput reply hanswer (RowCount.ofRows_eq_nonNumeric_iff.1 hrows)
      rw [nonNumeric, nonNumeric, hagree, h.table]

end Collection

/-! ## One call -/

namespace Call

variable {c c' : Collection} {b : Backend σ} {s : σ}

/-- The clauses of a removal have no text exactly if its request has no condition. -/
theorem condition_eq_none_of_isUnconditioned {r : RemoveRequest} {f : RemoveClauses}
    (hf : r.compile = .ok f) (h : f.isUnconditioned = true) : r.condition = none :=
  (RemoveRequest.text_eq_empty_iff hf).1 (String.isEmpty_iff.1 h)

/-- **Two policies that agree on a switch compile alike** what looks at no other. -/
theorem compile_eq {d : Demand} {p q : Policy}
    (h : ∀ r, d = .update r → r.conditions.length < r.updates.length →
      p.surplusPayload = q.surplusPayload) : d.compile p = d.compile q := by
  cases d with
  | update r =>
    have hr : r.compile p = r.compile q := by
      rcases Nat.lt_or_ge r.conditions.length r.updates.length with hlt | hge
      · exact UpdateRequest.compile_of_agrees (h r rfl hlt) r
      · exact UpdateRequest.compile_of_length_le hge
    rw [Demand.compile, Demand.compile, hr]
  | _ => rfl

/-- Only a request for a removal is compiled to one. -/
theorem exists_remove_of_compile {d : Demand} {p : Policy} {f : RemoveClauses}
    (h : d.compile p = .ok (.remove (.compiled f))) : ∃ r, d = .remove r ∧ r.compile = .ok f := by
  cases d with
  | insert records => cases h
  | remove r =>
    obtain ⟨f', hf', heq⟩ := except_map_eq_ok.1 h
    cases heq
    exact ⟨r, rfl, hf'⟩
  | find r | count r | aggregate r | update r =>
    obtain ⟨_, -, heq⟩ := except_map_eq_ok.1 h
    cases heq

/-- Only a request for a count is compiled to one. -/
theorem exists_count_of_compile {d : Demand} {p : Policy} {input : Input CountClauses}
    (h : d.compile p = .ok (.count input)) :
    ∃ r f, d = .count r ∧ r.compile = .ok f ∧ input = .compiled f := by
  cases d with
  | insert records => cases h
  | count r =>
    obtain ⟨f, hf, heq⟩ := except_map_eq_ok.1 h
    cases heq
    exact ⟨r, f, rfl, hf, rfl⟩
  | find r | remove r | aggregate r | update r =>
    obtain ⟨_, -, heq⟩ := except_map_eq_ok.1 h
    cases heq

/-- An operation is played alike unless it comes to a place where the policies differ. -/
theorem run_operation (h : c.Twins c') {op : Operation}
    (hremove : ∀ f, op = .remove (.compiled f) → f.isUnconditioned = true →
      c.options.policy.unconditionedRemove = c'.options.policy.unconditionedRemove)
    (hcount : ∀ input, op = .count input → ∀ reply,
      (b.query .pool (c.countStatement input) s).1 = .ok reply → ¬ reply.HasCount →
        c.options.policy.nonNumericCount = c'.options.policy.nonNumericCount) :
    (op.dialogue c).run b s = (op.dialogue c').run b s := by
  cases op with
  | find _ | aggregate _ | removeAll | insert _ | update _ =>
    -- these know nothing of the policy
    rw [h.dialogue_eq (by simp) (by simp)]
  | remove input =>
    have hinput : c.remove input = c'.remove input := by
      refine h.remove ?_
      rintro f rfl
      exact hremove f rfl
    rw [Operation.dialogue, Operation.dialogue, hinput]
  | count input =>
    have hinput := h.run_count (hcount input rfl)
    rw [Operation.dialogue, Operation.dialogue, Operation.run_answering, Operation.run_answering,
      hinput]

/-- **One call is played alike** if the policies agree on the switch that it looks at. -/
theorem run_eq (h : c.Twins c') {call : Call}
    (hcall : ∀ w, call.Consults c b s w → w.Agrees c.options.policy c'.options.policy) :
    (call.dialogue c).run b s = (call.dialogue c').run b s := by
  cases call with
  | control which => rw [dialogue, dialogue, h.control]
  | operation op =>
    have hop : (op.dialogue c).run b s = (op.dialogue c').run b s := by
      refine run_operation h ?_ ?_
      · rintro f rfl hf
        exact hcall _ (.removeClauses hf)
      · rintro input rfl reply hreply hno
        exact hcall _ (.count (.operation input) hreply hno)
    rw [dialogue, dialogue, Dialogue.run_bind, Dialogue.run_bind, hop]
  | demand d =>
    have hcompile : d.compile c.options.policy = d.compile c'.options.policy := by
      refine compile_eq ?_
      rintro r rfl hr
      exact hcall _ (.update hr)
    rw [dialogue, dialogue, ← hcompile]
    cases hd : d.compile c.options.policy with
    | error e => rfl
    | ok op =>
      have hop : (op.dialogue c).run b s = (op.dialogue c').run b s := by
        refine run_operation h ?_ ?_
        · rintro f rfl hf
          obtain ⟨r, rfl, hr⟩ := exists_remove_of_compile hd
          exact hcall _ (.remove (condition_eq_none_of_isUnconditioned hr hf))
        · rintro input rfl reply hreply hno
          obtain ⟨r, f, rfl, hr, rfl⟩ := exists_count_of_compile hd
          exact hcall _ (.count (.demand hr) hreply hno)
      rw [Dialogue.run_bind, Dialogue.run_bind, hop]

/-- A call that is a count is played as one. -/
theorem Counts.run_dialogue {call : Call} {input : Input CountClauses} (h : call.Counts input) :
    (call.dialogue c).run b s =
      let o := (c.count input).run b s
      ⟨.answered (o.value.map .count), o.log, o.state⟩ := by
  cases h with
  | operation =>
    rw [dialogue, Dialogue.run_bind_done, Operation.dialogue, Operation.run_answering]
  | @demand r f compiles =>
    have hcompile : (Demand.count r).compile c.options.policy = .ok (.count (.compiled f)) :=
      except_map_eq_ok.2 ⟨f, compiles, rfl⟩
    rw [dialogue, hcompile]
    simp only [Dialogue.run_bind_done, Operation.dialogue, Operation.run_answering]

end Call

/-! ## Calls one after the other -/

namespace Collection

variable {c c' : Collection} {b : Backend σ}

/-- Calls played one after the other: what each ends with, what it has sent, and the state
    after it. -/
def play (c : Collection) (b : Backend σ) : List Call → σ → List (Dialogue.Outcome Ending σ)
  | [], _ => []
  | call :: calls, s =>
    (call.dialogue c).run b s :: play c b calls ((call.dialogue c).run b s).state

/-- The state after calls. -/
def stateAfter (c : Collection) (b : Backend σ) : List Call → σ → σ
  | [], s => s
  | call :: calls, s => stateAfter c b calls ((call.dialogue c).run b s).state

/-- None of the calls looks at a switch in which the policies differ. -/
def Undivided (c c' : Collection) (b : Backend σ) : List Call → σ → Prop
  | [], _ => True
  | call :: calls, s =>
    (∀ w, call.Consults c b s w → w.Agrees c.options.policy c'.options.policy) ∧
      Undivided c c' b calls ((call.dialogue c).run b s).state

theorem length_play (calls : List Call) (s : σ) : (c.play b calls s).length = calls.length := by
  induction calls generalizing s with
  | nil => rfl
  | cons call calls ih => rw [play, List.length_cons, ih, List.length_cons]

theorem play_append (before after : List Call) (s : σ) :
    c.play b (before ++ after) s =
      c.play b before s ++ c.play b after (c.stateAfter b before s) := by
  induction before generalizing s with
  | nil => rfl
  | cons call before ih => rw [List.cons_append, play, ih, play, List.cons_append, stateAfter]

/-- **Calls are played alike** until the policies are divided over one of them. -/
theorem play_eq (h : c.Twins c') {calls : List Call} {s : σ} (hcalls : Undivided c c' b calls s) :
    c.play b calls s = c'.play b calls s ∧ c.stateAfter b calls s = c'.stateAfter b calls s := by
  induction calls generalizing s with
  | nil => exact ⟨rfl, rfl⟩
  | cons call calls ih =>
    obtain ⟨hcall, hrest⟩ := hcalls
    have hstep := Call.run_eq h hcall
    obtain ⟨hplay, hstate⟩ := ih hrest
    rw [play, play, stateAfter, stateAfter, ← hstep, hplay, hstate]
    exact ⟨rfl, rfl⟩

/-- **What becomes of a count whose answer has none.** -/
structure FallsBack (c : Collection) (b : Backend σ) (s : σ) (input : Input CountClauses)
    (o : Dialogue.Outcome Ending σ) : Prop where
  log : o.log = [.query .pool (c.countStatement input)]
  state : o.state = (b.query .pool (c.countStatement input) s).2
  sentinel : c.options.policy.nonNumericCount = .sentinel →
    o.value = .answered (.ok (.count .nonNumeric))
  error : c.options.policy.nonNumericCount = .error →
    o.value = .answered (.error (.nonNumericCount c.table))

theorem fallsBack_of_counts {call : Call} {input : Input CountClauses} (hcall : call.Counts input)
    {s : σ} {reply : Reply} (hreply : (b.query .pool (c.countStatement input) s).1 = .ok reply)
    (hno : ¬ reply.HasCount) : c.FallsBack b s input ((call.dialogue c).run b s) := by
  rw [hcall.run_dialogue, c.run_count_of_ok hreply, RowCount.ofRows_eq_nonNumeric_iff.2 hno]
  constructor
  · rfl
  · rfl
  · intro hpolicy
    simp only [nonNumeric, hpolicy]
    rfl
  · intro hpolicy
    simp only [nonNumeric, hpolicy]
    rfl

/-- **A switch decides its own fallback only.** Two collections on the same table and primary
    key that are played against the same backend do not differ up to the first call that looks
    at a switch in which their policies differ: an update with more payloads than conditions, a
    removal without a condition, or a count that is answered without one. Even that count is
    sent alike, and only its result is that of the policy. -/
theorem switches_decide_only_fallbacks (h : c.Twins c') (b : Backend σ) (s : σ)
    {before : List Call} (hbefore : Undivided c c' b before s) (call : Call) (after : List Call) :
    let t := c.stateAfter b before s
    let step := (call.dialogue c).run b t
    let step' := (call.dialogue c').run b t
    (∃ os rest rest', os.length = before.length ∧
      c.play b (before ++ call :: after) s = os ++ step :: rest ∧
      c'.play b (before ++ call :: after) s = os ++ step' :: rest') ∧
    ((∀ w, call.Consults c b t w → w.Agrees c.options.policy c'.options.policy) →
      step = step') ∧
    ∀ input reply, call.Counts input → (b.query .pool (c.countStatement input) t).1 = .ok reply →
      ¬ reply.HasCount → step.log = step'.log ∧ step.state = step'.state ∧
        c.FallsBack b t input step ∧ c'.FallsBack b t input step' := by
  intro t step step'
  obtain ⟨hplay, hstate⟩ := play_eq h hbefore
  refine ⟨⟨c.play b before s, c.play b after step.state, c'.play b after step'.state,
    length_play before s, play_append before _ s, ?_⟩, ?_, ?_⟩
  · rw [play_append, ← hplay, ← hstate]
    rfl
  · exact Call.run_eq h
  · intro input reply hcall hreply hno
    have hstatement := h.countStatement input
    have hfirst := c.fallsBack_of_counts hcall hreply hno
    have hsecond := c'.fallsBack_of_counts hcall (hstatement ▸ hreply) hno
    refine ⟨?_, ?_, hfirst, hsecond⟩
    · rw [hfirst.log, hsecond.log, hstatement]
    · rw [hfirst.state, hsecond.state, hstatement]

/-- An update whose payloads all have a condition and a removal with one, and then a count that
    is answered with a text, between the policies that differ in all switches. -/
theorem switches_decide_only_fallbacks_text_count :
    let c : Collection := ⟨"items", "id", .default⟩
    let c' : Collection := ⟨"items", "id", ⟨.reject, .deleteAll, .error⟩⟩
    let condition : Condition := .leaf ⟨"id", .eq, .int 1⟩
    let before : List Call := [.demand (.update ⟨[.ofList [("name", .null)]], [condition]⟩),
      .demand (.remove ⟨some condition⟩)]
    let script : Script := ⟨[.ok (.header 1 none), .error (.plain "locked"),
      .ok (.rows [.ofList [("total", .int 2), ("count", .text "2")]])], none, none, none⟩
    let q : Statement := ⟨"SELECT COUNT(*) AS count FROM items WHERE 1=1", []⟩
    Undivided c c' Script.backend before script ∧
      (c.play Script.backend (before ++ [.demand (.count ⟨none⟩)]) script).take 2 =
        (c'.play Script.backend (before ++ [.demand (.count ⟨none⟩)]) script).take 2 ∧
      (∃ o, (c.play Script.backend (before ++ [.demand (.count ⟨none⟩)]) script)[2]? = some o ∧
        o.log = [.query .pool q] ∧ o.value = .answered (.ok (.count .nonNumeric))) ∧
      ∃ o, (c'.play Script.backend (before ++ [.demand (.count ⟨none⟩)]) script)[2]? = some o ∧
        o.log = [.query .pool q] ∧ o.value = .answered (.error (.nonNumericCount "items")) := by
  intro c c' condition before script q
  have htwins : c.Twins c' := ⟨rfl, rfl⟩
  have hbefore : Undivided c c' Script.backend before script := by
    refine ⟨?_, ?_, True.intro⟩
    · intro w hw
      cases hw with
      | update more => exact absurd more (by decide)
      | count counts => cases counts
    · intro w hw
      cases hw with
      | remove none => cases none
      | count counts => cases counts
  obtain ⟨⟨os, rest, rest', hos, hfirst, hsecond⟩, -, hcount⟩ :=
    switches_decide_only_fallbacks htwins Script.backend script hbefore
      (.demand (.count ⟨none⟩)) []
  have hno : ¬ (Reply.rows [.ofList [("total", .int 2), ("count", .text "2")]]).HasCount := by
    rw [← RowCount.ofRows_eq_nonNumeric_iff]
    rfl
  obtain ⟨-, -, hc, hc'⟩ := hcount _ _ (.demand rfl) rfl hno
  have htwo : os.length = 2 := hos
  have hnext : ∀ (o : Dialogue.Outcome Ending Script) os', (os ++ o :: os')[2]? = some o := by
    intro o os'
    rw [← htwo]
    simp
  refine ⟨hbefore, ?_, ⟨_, ?_, hc.log, hc.sentinel rfl⟩, ⟨_, ?_, hc'.log, hc'.error rfl⟩⟩
  · rw [hfirst, hsecond, List.take_left' htwo, List.take_left' htwo]
  · rw [hfirst, hnext]
  · rw [hsecond, hnext]

end Collection

end RowQuery

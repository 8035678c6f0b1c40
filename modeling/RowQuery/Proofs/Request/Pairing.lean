/-
  RowQuery — the payloads of an update and their conditions.

  Payload `i` goes with condition `i`, and what a payload beyond the last condition goes with
  is up to the policy.  Of several things to refuse, the one of the first payload is told; a
  condition beyond the last payload is never looked at, so it may be malformed.

  * `Policy.refusal?` is what a single payload is refused for;
  * `Policy.compilePairs_eq_error_iff`: an update is refused for its first refused payload;
  * `UpdateRequest.compile_congr`: nothing counts of the conditions and of the policy but the
    condition that each payload gets;
  * `UpdateRequest.fitted` has a condition for each payload, the last one written out;
  * `UpdateRequest.paired`: all of it, for any number of payloads and conditions.
-/
import Mathlib.Data.List.TakeDrop
import RowQuery.Proofs.Except
import RowQuery.Proofs.Request.Compile

namespace RowQuery

/-! ## Items of lists -/

section Items

variable {α : Type} {n : Nat}

theorem findSome?_range_eq_some_iff {f : Nat → Option α} {a : α} :
    (List.range n).findSome? f = some a ↔ ∃ i < n, f i = some a ∧ ∀ k < i, f k = none := by
  induction n with
  | zero => simp
  | succ n ih =>
    rw [List.range_succ, List.findSome?_append, Option.or_eq_some_iff, ih,
      List.findSome?_singleton, List.findSome?_eq_none_iff]
    simp only [List.mem_range]
    constructor
    · rintro (⟨i, hi, hf⟩ | ⟨hnone, hf⟩)
      · exact ⟨i, Nat.lt_succ_of_lt hi, hf⟩
      · exact ⟨n, Nat.lt_succ_self n, hf, hnone⟩
    · rintro ⟨i, hi, hf, hnone⟩
      rcases Nat.lt_succ_iff_lt_or_eq.1 hi with hi | rfl
      · exact Or.inl ⟨i, hi, hf, hnone⟩
      · exact Or.inr ⟨hnone, hf⟩

theorem getElem?_takeD_of_lt {l : List α} {a : α} {i : Nat} (h : i < n) :
    (l.takeD n a)[i]? = some (l[i]?.getD a) := by
  induction n generalizing l i with
  | zero => cases h
  | succ n ih =>
    rw [List.takeD_succ]
    cases i with
    | zero => rw [List.getElem?_cons_zero, List.head?_eq_getElem?]
    | succ i =>
      rw [List.getElem?_cons_succ, ih (Nat.lt_of_succ_lt_succ h), List.getElem?_tail]

/-- The last item stands for all that a list does not have. -/
theorem getElem?_min_of_getLast? {l : List α} {last : α} (hl : l.getLast? = some last) (i : Nat) :
    l[min i (l.length - 1)]? = some (l[i]?.getD last) := by
  by_cases hi : i < l.length
  · rw [Nat.min_eq_left (Nat.le_sub_one_of_lt hi), List.getElem?_eq_getElem hi]
    rfl
  · rw [Nat.min_eq_right (by omega), ← List.getLast?_eq_getElem?, hl,
      List.getElem?_eq_none (Nat.le_of_not_lt hi)]
    rfl

end Items

/-! ## What a payload is refused for -/

/-- What a condition is refused for. -/
def Condition.refusal? (c : Condition) : Option RequestError :=
  match c.compile with
  | .ok _ => none
  | .error e => some (.condition e)

/-- **What the payload of an index is refused for**: for its own condition, or if it has none,
    for the last one or for that alone. -/
def Policy.refusal? (p : Policy) (conditions : List Condition) (index : Nat) :
    Option RequestError :=
  match conditions[index]? with
  | some own => own.refusal?
  | none =>
    match p.surplusPayload with
    | .reuseLast => conditions.getLast?.bind Condition.refusal?
    | .reject => some (.unpairedPayload index conditions.length)

theorem Record.compileUpdate_eq_error {r : Record} {c : Condition} {e : RequestError} :
    r.compileUpdate c = .error e ↔ c.refusal? = some e := by
  rw [compileUpdate, Condition.refusal?]
  cases c.compile <;> simp

namespace Policy

variable {p : Policy} {conditions : List Condition} {last : Condition} {index : Nat}

theorem refusal?_of_getElem? {own : Condition} (h : conditions[index]? = some own) :
    p.refusal? conditions index = own.refusal? := by
  rw [refusal?, h]

theorem refusal?_of_reject (hp : p.surplusPayload = .reject) (h : conditions.length ≤ index) :
    p.refusal? conditions index = some (.unpairedPayload index conditions.length) := by
  rw [refusal?, List.getElem?_eq_none h, hp]

/-- The condition of a payload is found and compiled, or the payload is refused. -/
theorem compileUpdate_eq_error_iff (hl : conditions.getLast? = some last) {fields : Record}
    {e : RequestError} :
    (p.conditionFor conditions last index >>= fields.compileUpdate) = .error e ↔
      p.refusal? conditions index = some e := by
  rw [except_bind_eq_error, conditionFor, refusal?]
  cases conditions[index]? with
  | some own => simp [Record.compileUpdate_eq_error]
  | none => cases p.surplusPayload <;> simp [hl, Record.compileUpdate_eq_error]

/-- **Several payloads are refused for the first one that is refused alone.** -/
theorem compilePairs_eq_error_iff (hl : conditions.getLast? = some last) {updates : List Record}
    {e : RequestError} :
    p.compilePairs conditions last index updates = .error e ↔
      (List.range' index updates.length).findSome? (p.refusal? conditions) = some e := by
  induction updates generalizing index with
  | nil => simp [compilePairs]
  | cons fields rest ih =>
    have hstep : p.compilePairs conditions last index (fields :: rest) =
        ((p.conditionFor conditions last index >>= fields.compileUpdate) >>= fun f =>
          (p.compilePairs conditions last (index + 1) rest).map (f :: ·)) := by
      rw [compilePairs, bind_assoc]
      rfl
    have hhead : p.refusal? conditions index = none ↔
        ∃ f, (p.conditionFor conditions last index >>= fields.compileUpdate) = .ok f :=
      (except_exists_ok_iff fun _ => compileUpdate_eq_error_iff hl).symm
    rw [hstep, except_bind_eq_error, compileUpdate_eq_error_iff hl]
    simp only [except_map_eq_error, ih, exists_and_right, ← hhead]
    rw [List.length_cons, List.range'_succ, List.findSome?_cons]
    cases p.refusal? conditions index <;> simp

/-- Nothing counts of the conditions and of the policy but what each payload gets. -/
theorem compilePairs_congr {q : Policy} {conditions' : List Condition} {last' : Condition}
    {updates : List Record}
    (h : ∀ i, index ≤ i → i < index + updates.length →
      p.conditionFor conditions last i = q.conditionFor conditions' last' i) :
    p.compilePairs conditions last index updates =
      q.compilePairs conditions' last' index updates := by
  induction updates generalizing index with
  | nil => rfl
  | cons fields rest ih =>
    rw [List.length_cons] at h
    rw [compilePairs, compilePairs, h index (Nat.le_refl index) (by omega),
      ih fun i hi hlt => h i (by omega) (by omega)]

/-- The own condition of a payload does not depend on the policy. -/
theorem conditionFor_of_getElem? {own : Condition} (h : conditions[index]? = some own) :
    p.conditionFor conditions last index = .ok own := by
  rw [conditionFor, h]

theorem conditionFor_of_reuseLast (hp : p.surplusPayload = .reuseLast) :
    p.conditionFor conditions last index = .ok (conditions[index]?.getD last) := by
  rw [conditionFor, hp]
  cases conditions[index]? <;> rfl

end Policy

/-! ## Whole updates -/

namespace UpdateRequest

variable {p q : Policy} {r : UpdateRequest} {last : Condition}

/-- **The update with a condition for each payload**: those beyond the last payload are left
    out, and the last condition is written out for the payloads beyond it. -/
def fitted (r : UpdateRequest) : UpdateRequest :=
  { r with conditions := r.conditions.getLast?.elim [] (r.conditions.takeD r.updates.length) }

theorem compile_of_updates_eq_nil (h : r.updates = []) : r.compile p = .ok [] := by
  rw [compile, h]
  rfl

theorem compile_of_conditions_eq_nil (hu : r.updates ≠ []) (hc : r.conditions = []) :
    r.compile p = .error (.condition (.malformed .noCondition)) := by
  have hsome : r.updates.isEmpty = false := by simpa using hu
  rw [compile, hsome, hc]
  rfl

theorem compile_of_getLast? (hl : r.conditions.getLast? = some last) :
    r.compile p = p.compilePairs r.conditions last 0 r.updates := by
  rw [compile, hl]
  cases r.updates <;> rfl

/-- **Updates of the same payloads come out alike** if their payloads have the same
    conditions. -/
theorem compile_congr {r' : UpdateRequest} (hu : r.updates = r'.updates)
    (hnone : r.updates ≠ [] → (r.conditions = [] ↔ r'.conditions = []))
    (h : ∀ last last', r.conditions.getLast? = some last → r'.conditions.getLast? = some last' →
      ∀ i < r.updates.length,
        p.conditionFor r.conditions last i = q.conditionFor r'.conditions last' i) :
    r.compile p = r'.compile q := by
  by_cases hnil : r.updates = []
  · rw [compile_of_updates_eq_nil hnil, compile_of_updates_eq_nil (hu ▸ hnil)]
  by_cases hc : r.conditions = []
  · have hc' : r'.conditions = [] := (hnone hnil).1 hc
    rw [compile_of_conditions_eq_nil hnil hc, compile_of_conditions_eq_nil (hu ▸ hnil) hc']
  · have hc' : r'.conditions ≠ [] := fun h => hc ((hnone hnil).2 h)
    have hl := List.getLast?_eq_some_getLast hc
    have hl' := List.getLast?_eq_some_getLast hc'
    rw [compile_of_getLast? hl, compile_of_getLast? hl', ← hu]
    exact Policy.compilePairs_congr fun i _ hi => h _ _ hl hl' i (by omega)

/-- An update is refused for the first payload that is. -/
theorem compile_eq_error_iff (hne : r.conditions ≠ []) {e : RequestError} :
    r.compile p = .error e ↔
      (List.range r.updates.length).findSome? (p.refusal? r.conditions) = some e := by
  have hl := List.getLast?_eq_some_getLast hne
  rw [compile_of_getLast? hl, List.range_eq_range', Policy.compilePairs_eq_error_iff hl]

theorem length_of_compile {fs : List UpdateClauses} (h : r.compile p = .ok fs) :
    fs.length = r.updates.length := by
  by_cases hu : r.updates = []
  · rw [compile_of_updates_eq_nil hu] at h
    cases h
    rw [hu]
    rfl
  by_cases hc : r.conditions = []
  · rw [compile_of_conditions_eq_nil hu hc] at h
    cases h
  have hl := List.getLast?_eq_some_getLast hc
  rw [compile_of_getLast? hl] at h
  rw [← (Policy.compilePairs_forall₂ h).length_eq, List.length_map, List.length_zipIdx]

/-- Row update `i` is that of payload `i` and its condition. -/
theorem row_of_compile {fs : List UpdateClauses} (h : r.compile p = .ok fs) {i : Nat}
    {f : UpdateClauses} (hf : fs[i]? = some f) :
    ∃ fields c, r.updates[i]? = some fields ∧
      r.conditions[min i (r.conditions.length - 1)]? = some c ∧ fields.compileUpdate c = .ok f := by
  obtain ⟨⟨fields, c⟩, hpair, hrow⟩ := exists_getElem?_of_forall₂ (compile_forall₂ h) hf
  rw [pairs] at hpair
  cases hl : r.conditions.getLast? with
  | none =>
    rw [hl] at hpair
    cases hpair
  | some last =>
    simp only [hl, List.getElem?_map, List.getElem?_zipIdx, Option.map_map, Nat.zero_add,
      Option.map_eq_some_iff, Function.comp_apply, Prod.mk.injEq] at hpair
    obtain ⟨_, hu, rfl, rfl⟩ := hpair
    exact ⟨_, _, hu, getElem?_min_of_getLast? hl i, hrow⟩

/-- To reuse the last condition is to have it written out. -/
theorem compile_fitted (hp : p.surplusPayload = .reuseLast) : r.compile p = r.fitted.compile q := by
  refine compile_congr rfl (fun hu => ?_) fun last last' hl hl' i hi => ?_
  · cases hl : r.conditions.getLast? with
    | none => simp [fitted, List.getLast?_eq_none_iff.1 hl]
    | some last =>
      have hne : r.conditions ≠ [] := fun h => by simp [h] at hl
      have hfitted : r.conditions.takeD r.updates.length last ≠ [] := by
        rw [← List.length_pos_iff, List.takeD_length]
        exact List.length_pos_iff.2 hu
      simp [fitted, hl, hne, hfitted]
  · rw [Policy.conditionFor_of_reuseLast hp]
    refine (Policy.conditionFor_of_getElem? ?_).symm
    rw [fitted, hl, Option.elim_some, getElem?_takeD_of_lt hi]

/-- The policy counts only for payloads beyond the last condition. -/
theorem compile_of_length_le (h : r.updates.length ≤ r.conditions.length) :
    r.compile p = r.compile q := by
  refine compile_congr rfl (fun _ => Iff.rfl) fun last last' _ _ i hi => ?_
  have hown := List.getElem?_eq_getElem (Nat.lt_of_lt_of_le hi h)
  rw [Policy.conditionFor_of_getElem? hown, Policy.conditionFor_of_getElem? hown]

/-- Conditions beyond the last payload are not looked at. -/
theorem compile_take : r.compile p =
    (⟨r.updates, r.conditions.take r.updates.length⟩ : UpdateRequest).compile p := by
  rcases Nat.lt_or_ge r.conditions.length r.updates.length with hlt | hge
  · rw [List.take_of_length_le (Nat.le_of_lt hlt)]
  · refine compile_congr rfl (fun hu => by simp [hu]) fun last last' _ _ i hi => ?_
    have hown := List.getElem?_eq_getElem (Nat.lt_of_lt_of_le hi hge)
    have htaken : (r.conditions.take r.updates.length)[i]? = some _ :=
      (List.getElem?_take_of_lt hi).trans hown
    rw [Policy.conditionFor_of_getElem? hown, Policy.conditionFor_of_getElem? htaken]

/-- With too few conditions a strict policy refuses the update: for the first condition that
    is malformed, and else for the first payload without one. -/
theorem compile_of_reject (hp : p.surplusPayload = .reject) (hne : r.conditions ≠ [])
    (hlt : r.conditions.length < r.updates.length) :
    r.compile p = .error ((r.conditions.findSome? Condition.refusal?).getD
      (.unpairedPayload r.conditions.length r.conditions.length)) := by
  rw [compile_eq_error_iff hne, findSome?_range_eq_some_iff]
  cases hfirst : r.conditions.findSome? Condition.refusal? with
  | some e =>
    obtain ⟨before, c, after, hsplit, hc, hbefore⟩ := List.findSome?_eq_some_iff.1 hfirst
    have hlength : before.length < r.conditions.length := by simp [hsplit]
    have hown : r.conditions[before.length]? = some c := by simp [hsplit]
    refine ⟨before.length, Nat.lt_trans hlength hlt, ?_, fun k hk => ?_⟩
    · rw [Policy.refusal?_of_getElem? hown, hc, Option.getD_some]
    · have hearlier : r.conditions[k]? = some before[k] := by
        rw [hsplit, List.getElem?_append_left hk, List.getElem?_eq_getElem hk]
      rw [Policy.refusal?_of_getElem? hearlier]
      exact hbefore _ (List.getElem_mem hk)
  | none =>
    rw [List.findSome?_eq_none_iff] at hfirst
    refine ⟨r.conditions.length, hlt, ?_, fun k hk => ?_⟩
    · rw [Policy.refusal?_of_reject hp (Nat.le_refl _), Option.getD_none]
    · rw [Policy.refusal?_of_getElem? (List.getElem?_eq_getElem hk)]
      exact hfirst _ (List.getElem_mem hk)

/-- **How an update comes out**, by its payloads and its conditions. -/
structure Paired (p : Policy) (r : UpdateRequest) : Prop where
  /-- Without payloads there is nothing to update, whatever the conditions. -/
  noPayload : r.updates = [] → r.compile p = .ok []
  /-- Payloads without any condition are refused. -/
  noCondition : r.updates ≠ [] → r.conditions = [] →
    r.compile p = .error (.condition (.malformed .noCondition))
  /-- Row update `i` sets what payload `i` says, in its order, where condition `i` or else the
      last one holds. -/
  rows : ∀ fs, r.compile p = .ok fs → fs.length = r.updates.length ∧
    ∀ (i : Nat) (f : UpdateClauses), fs[i]? = some f → ∃ fields c clause,
      r.updates[i]? = some fields ∧ r.conditions[min i (r.conditions.length - 1)]? = some c ∧
      f.assignments = fields.entries.map (fun e => e.1 ++ " = ?") ∧
      f.values = fields.entries.map (fun e => e.2) ∧
      c.compile = .ok clause ∧ f.filter = clause.filter
  /-- An update compiles if no payload is refused. -/
  compiles : r.conditions ≠ [] →
    ((∃ fs, r.compile p = .ok fs) ↔ ∀ i < r.updates.length, p.refusal? r.conditions i = none)
  /-- Else the refusal is that of the first payload that is refused. -/
  refused : r.conditions ≠ [] → ∀ e, r.compile p = .error e ↔
    ∃ i < r.updates.length, p.refusal? r.conditions i = some e ∧
      ∀ k < i, p.refusal? r.conditions k = none
  /-- To reuse the last condition is to have it written out, and then the policy is idle. -/
  reused : p.surplusPayload = .reuseLast → ∀ q, r.compile p = r.fitted.compile q
  /-- The policy is idle if there are as many conditions as payloads. -/
  enough : r.updates.length ≤ r.conditions.length → ∀ q, r.compile p = r.compile q
  /-- A strict policy refuses an update with too few conditions: for the first condition that
      is malformed, and else for the first payload without one. -/
  rejected : p.surplusPayload = .reject → r.conditions ≠ [] →
    r.conditions.length < r.updates.length →
    r.compile p = .error ((r.conditions.findSome? Condition.refusal?).getD
      (.unpairedPayload r.conditions.length r.conditions.length))
  /-- Conditions beyond the last payload are not looked at. -/
  unread : r.compile p =
    (⟨r.updates, r.conditions.take r.updates.length⟩ : UpdateRequest).compile p

/-- **Payloads and conditions are paired by their index**, under each policy and for any number
    of both. -/
theorem paired (p : Policy) (r : UpdateRequest) : r.Paired p where
  noPayload := compile_of_updates_eq_nil
  noCondition := compile_of_conditions_eq_nil
  rows fs h := by
    refine ⟨length_of_compile h, fun i f hf => ?_⟩
    obtain ⟨fields, c, hu, hc, hrow⟩ := row_of_compile h hf
    obtain ⟨clause, hclause, rfl⟩ := Record.compileUpdate_eq_ok.1 hrow
    exact ⟨fields, c, clause, hu, hc, List.map_map, rfl, hclause, rfl⟩
  compiles hne := by
    rw [except_exists_ok_iff fun _ => compile_eq_error_iff hne, List.findSome?_eq_none_iff]
    simp only [List.mem_range]
  refused hne _ := by rw [compile_eq_error_iff hne, findSome?_range_eq_some_iff]
  reused hp _ := compile_fitted hp
  enough h _ := compile_of_length_le h
  rejected := compile_of_reject
  unread := compile_take

/-- A strict policy does not mind an empty group beyond the last payload. -/
example :
    let own : Condition := .leaf ⟨"id", .eq, .int 7⟩
    (⟨[.ofList [("b", .int 1), ("a", .int 2)]], [own, .group .and []]⟩ : UpdateRequest).compile
        { Policy.default with surplusPayload := .reject } =
      .ok [⟨["b = ?", "a = ?"], [.int 1, .int 2], ⟨"WHERE id = ?", [.int 7]⟩⟩] := by
  rfl

end UpdateRequest

end RowQuery

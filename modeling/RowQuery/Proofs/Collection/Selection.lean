/-
  RowQuery — what a condition selects, for all that reads or removes.

  A missing condition is written in three ways: as no clause, as a clause without text and
  as a clause that always holds. A condition is written in one way for all: find, count,
  aggregate and removal have the same WHERE clause with the same values.

  * `Statement.on`: a statement on the rows of a WHERE clause;
  * `Demand.Selects`: the demands that are made with a condition;
  * `Backend.PicksRows`: a backend that goes through the rows of a table and takes those of
    the WHERE clause;
  * `Demand.Answers`: a demand is compiled and played, and answered;
  * `Collection.selection_agrees`: a count is the number of rows found, which a removal
    takes away, and leaves the others where they are.
-/
import RowQuery.Proofs.Collection.Sent
import RowQuery.Proofs.Statement.Clauses

namespace RowQuery

variable {σ : Type}

/-! ## Statements on the rows of a clause -/

namespace Statement

/-- A statement on the rows of a WHERE clause, on all rows without one. -/
def on (head : String) (filter : Option Clause) (tail : String) : Statement :=
  ⟨head ++ behind (filter.map Clause.text) ++ tail, filter.elim [] Clause.values⟩

/-- The statement that asks for rows in an order. -/
def select (table : String) (filter : Option Clause) (orderBy : Option String) : Statement :=
  .on ("SELECT * FROM " ++ table) filter (behind orderBy)

/-- The statement that asks for the number of rows. -/
def selectCount (table : String) (filter : Option Clause) : Statement :=
  .on ("SELECT COUNT(*) AS count FROM " ++ table) filter ""

/-- The statement that removes rows. -/
def delete (table : String) (filter : Option Clause) : Statement :=
  .on ("DELETE FROM " ++ table) filter ""

end Statement

/-! ## Demands with a condition -/

namespace Demand

/-- The demands with an optional condition: of each kind that has one, whatever else is
    asked for. -/
inductive Selects (o : Option Condition) : Demand → Prop where
  | find (sort : Option SortOrder) (limit offset : Option UInt64) :
    Selects o (.find ⟨o, sort, limit, offset⟩)
  | count : Selects o (.count ⟨o⟩)
  | aggregate {r : AggregateRequest} (h : r.condition = o) : Selects o (.aggregate r)
  | remove : Selects o (.remove ⟨o⟩)

/-- What is before the WHERE clause of a demand. -/
def head (table : String) : Demand → String
  | find _ => "SELECT * FROM " ++ table
  | count _ => "SELECT COUNT(*) AS count FROM " ++ table
  | aggregate r =>
    "SELECT " ++ (if r.selected.isEmpty then "*" else ", ".intercalate r.selected) ++ " FROM " ++
      table
  | remove _ => "DELETE FROM " ++ table
  | _ => ""

/-- What is after the WHERE clause of a demand. -/
def tail : Demand → String
  | find r => behind (r.sort.bind SortOrder.orderBy?) ++ behind (limitClause? r.limit r.offset)
  | aggregate r =>
    behind (r.groupBy.bind groupByClause?) ++ behind (r.sort.bind SortOrder.orderBy?)
  | _ => ""

end Demand

theorem Condition.filter?_of_ok {cond : Condition} {w : Clause} (h : cond.compile = .ok w) :
    Condition.filter? (some cond) = .ok (some w.filter) := by
  rw [Condition.filter?, h]

theorem Condition.filter?_of_error {cond : Condition} {e : ConditionError}
    (h : cond.compile = .error e) : Condition.filter? (some cond) = .error (.condition e) := by
  rw [Condition.filter?, h]

/-- A condition that is refused is refused for all demands. -/
theorem Demand.compile_of_error {cond : Condition} {e : ConditionError}
    (h : cond.compile = .error e) {d : Demand} (hd : d.Selects (some cond)) (p : Policy) :
    d.compile p = .error (.condition e) := by
  have hfilter := Condition.filter?_of_error h
  cases hd with
  | find sort limit offset =>
    rw [compile, FindRequest.compile, hfilter]
    rfl
  | count =>
    rw [compile, CountRequest.compile, Condition.compileOrAlways, h]
    rfl
  | aggregate hr =>
    rw [compile, AggregateRequest.compile, hr, hfilter]
    rfl
  | remove =>
    rw [compile, RemoveRequest.compile, hfilter]
    rfl

/-! ## Compiled statements -/

namespace Collection

variable (c : Collection)

theorem findStatement_eq (f : FindClauses) :
    c.findStatement (.compiled f) =
      .on ("SELECT * FROM " ++ c.table) f.filter (behind f.orderBy ++ behind f.limit) := by
  change Statement.mk (assemble ("SELECT * FROM " ++ c.table) _) _ = _
  rw [assemble_cons, assemble_cons, assemble_cons, assemble, List.foldl_nil, Statement.on,
    String.append_assoc]
  rfl

theorem countStatement_eq (f : CountClauses) :
    c.countStatement (.compiled f) = .selectCount c.table (some f.filter) := by
  change Statement.mk (assemble ("SELECT COUNT(*) AS count FROM " ++ c.table) _) _ = _
  rw [assemble_cons, assemble, List.foldl_nil, Statement.selectCount, Statement.on,
    String.append_empty]
  rfl

theorem aggregateStatement_eq (f : AggregateClauses) :
    c.aggregateStatement f = .on ("SELECT " ++ f.selectList ++ " FROM " ++ c.table) f.filter
      (behind f.groupBy ++ behind f.orderBy) := by
  change Statement.mk (assemble ("SELECT " ++ f.selectList ++ " FROM " ++ c.table) _) _ = _
  rw [assemble_cons, assemble_cons, assemble_cons, assemble, List.foldl_nil, Statement.on,
    String.append_assoc]
  rfl

/-- A removal with a condition is never refused. -/
theorem remove_filter (w : Clause) :
    c.remove (.compiled ⟨w.filter⟩) = c.delete (.delete c.table (some w.filter)) := by
  rw [remove, RemoveClauses.isUnconditioned_filter, Bool.false_and, if_neg Bool.false_ne_true,
    assemble_cons, assemble, List.foldl_nil, Statement.delete,
    Statement.on, String.append_empty]
  rfl

end Collection

/-- **A condition that compiles is written in one way**: all its demands have the same WHERE
    clause with the same values. -/
theorem Demand.sent_of_compile (c : Collection) {cond : Condition} {w : Clause}
    (h : cond.compile = .ok w) {d : Demand} (hd : d.Selects (some cond)) (p : Policy) :
    ∃ op, d.compile p = .ok op ∧ ∀ {σ : Type} (b : Backend σ) (s : σ),
      ((op.dialogue c).run b s).sent = [(.pool, .on (d.head c.table) (some w.filter) d.tail)] := by
  have hfilter := Condition.filter?_of_ok h
  cases hd with
  | find sort limit offset =>
    refine ⟨.find (.compiled ⟨some w.filter, sort.bind SortOrder.orderBy?,
      limitClause? limit offset⟩), ?_, ?_⟩
    · rw [compile, FindRequest.compile, hfilter]
      rfl
    · intro σ b s
      rw [Operation.dialogue, Operation.sent_answering, Collection.find, c.findStatement_eq]
      exact c.sent_executeAnd b s _ _
  | count =>
    refine ⟨.count (.compiled ⟨w.filter⟩), ?_, ?_⟩
    · rw [compile, CountRequest.compile, Condition.compileOrAlways, h]
      rfl
    · intro σ b s
      rw [Operation.dialogue, Operation.sent_answering, Collection.count, c.countStatement_eq]
      exact c.sent_executeAnd b s _ _
  | @aggregate r hr =>
    refine ⟨.aggregate ⟨if r.selected.isEmpty then "*" else ", ".intercalate r.selected,
      some w.filter, r.groupBy.bind groupByClause?, r.sort.bind SortOrder.orderBy?⟩, ?_, ?_⟩
    · rw [compile, AggregateRequest.compile, hr, hfilter]
      rfl
    · intro σ b s
      rw [Operation.dialogue, Operation.sent_answering, Collection.aggregate,
        c.aggregateStatement_eq]
      exact c.sent_executeAnd b s _ _
  | remove =>
    refine ⟨.remove (.compiled ⟨w.filter⟩), ?_, ?_⟩
    · rw [compile, RemoveRequest.compile, hfilter]
      rfl
    · intro σ b s
      rw [Operation.dialogue, Operation.sent_answering, c.remove_filter]
      exact c.sent_executeAnd b s _ _

/-! ## Backends that pick rows -/

/-- **A backend that picks the rows of a table one by one.** It goes through all rows, in an
    order that the statement may decide, and takes those that its WHERE clause picks; a
    removal leaves the other rows where they are. -/
structure Backend.PicksRows (b : Backend σ) (table : String) where
  /-- The states in which the table can be asked. -/
  Ready : σ → Prop
  /-- The clauses that the backend understands. -/
  Reads : Option Clause → Option String → Prop
  /-- The rows of the table, in the order in which a statement goes through them. -/
  scan : Option Clause → Option String → σ → List Record
  /-- Whether a WHERE clause picks a row. -/
  picks : Clause → Record → Bool
  scan_perm : ∀ {s f o f' o'}, Ready s → Reads f o → Reads f' o' →
    (scan f o s).Perm (scan f' o' s)
  reads_always : Reads (some Clause.always.filter) none
  picks_always : ∀ r, picks Clause.always.filter r = true
  select : ∀ {s f o}, Ready s → Reads f o → (b.query .pool (.select table f o) s).1 =
    .ok (.rows ((scan f o s).filter fun r => f.all (picks · r)))
  count : ∀ {s f}, Ready s → Reads f none → ∃ row n,
    (b.query .pool (.selectCount table f) s).1 = .ok (.rows [row]) ∧
      row.get? RowCount.column = some (.int n) ∧
      n.toInt = ((scan f none s).filter fun r => f.all (picks · r)).length
  delete : ∀ {s f}, Ready s → Reads f none → ∃ n id,
    (b.query .pool (.delete table f) s).1 = .ok (.header n id) ∧
      n.toNat = ((scan f none s).filter fun r => f.all (picks · r)).length ∧
      Ready (b.query .pool (.delete table f) s).2 ∧
      ∀ {f' o'}, Reads f' o' → scan f' o' (b.query .pool (.delete table f) s).2 =
        (scan f' o' s).filter fun r => !f.all (picks · r)

/-- **A demand is answered**: it compiles, and played in a state it ends with the answer and
    in another state. -/
def Demand.Answers (c : Collection) (p : Policy) (b : Backend σ) (s : σ) (d : Demand)
    (a : Answer) (s' : σ) : Prop :=
  ∃ op, d.compile p = .ok op ∧ ((op.dialogue c).run b s).value = .ok a ∧
    ((op.dialogue c).run b s).state = s'

namespace Backend.PicksRows

variable {c : Collection} {b : Backend σ} (t : b.PicksRows c.table) (p : Policy) {s : σ}

/-! ## Rows -/

/-- The rows that a clause picks, in an order. -/
def found (f : Option Clause) (o : Option String) (s : σ) : List Record :=
  (t.scan f o s).filter fun r => f.all (t.picks · r)

variable {t}

/-- Clauses that pick the same rows find as many of them. -/
theorem length_found (hs : t.Ready s) {f f' : Option Clause} {o o' : Option String}
    (h : t.Reads f o) (h' : t.Reads f' o')
    (hpicks : ∀ r, f.all (t.picks · r) = f'.all (t.picks · r)) :
    (t.found f o s).length = (t.found f' o' s).length := by
  have hsame : (fun r => f.all (t.picks · r)) = fun r => f'.all (t.picks · r) := funext hpicks
  rw [found, found, hsame]
  exact ((t.scan_perm hs h h').filter _).length_eq

/-- After a removal the rows are those that were found before and are not removed. -/
theorem found_delete (hs : t.Ready s) {f f' : Option Clause} {o' : Option String}
    (h : t.Reads f none) (h' : t.Reads f' o') :
    t.found f' o' (b.query .pool (.delete c.table f) s).2 =
      (t.found f' o' s).filter fun r => !f.all (t.picks · r) := by
  obtain ⟨-, -, -, -, -, hscan⟩ := t.delete hs h
  rw [found, found, hscan h', List.filter_filter, List.filter_filter]
  exact congrArg (fun q => List.filter q _) (funext fun r => Bool.and_comm _ _)

/-- No removed row is found again. -/
theorem found_delete_self (hs : t.Ready s) {f : Option Clause} (h : t.Reads f none) :
    t.found f none (b.query .pool (.delete c.table f) s).2 = [] := by
  rw [found_delete hs h h, found, List.filter_filter, List.filter_eq_nil_iff]
  intro r _
  cases f.all (t.picks · r) <;> decide

/-! ## Answers -/

theorem find_answers (hs : t.Ready s) {o : Option Condition} {f : Option Clause}
    (hf : Condition.filter? o = .ok f) {sort : Option SortOrder}
    (hr : t.Reads f (sort.bind SortOrder.orderBy?)) (offset : Option UInt64) :
    ∃ s', (Demand.find ⟨o, sort, none, offset⟩).Answers c p b s
      (.rows (t.found f (sort.bind SortOrder.orderBy?) s)) s' := by
  refine ⟨_, .find (.compiled ⟨f, sort.bind SortOrder.orderBy?, none⟩), ?_, ?_, rfl⟩
  · rw [Demand.compile, FindRequest.compile, hf]
    rfl
  · have hq : c.findStatement (.compiled ⟨f, sort.bind SortOrder.orderBy?, none⟩) =
        .select c.table f (sort.bind SortOrder.orderBy?) := by
      rw [c.findStatement_eq, Statement.select]
      exact congrArg (Statement.on _ f) String.append_empty
    rw [Operation.dialogue, Collection.find, hq, Operation.run_of_ok c (t.select hs hr)]
    rfl

/-- A count, by the clause that it is compiled to. -/
theorem count_answers (hs : t.Ready s) {o : Option Condition} {w : Clause}
    (hw : Condition.compileOrAlways o = .ok w) (hr : t.Reads (some w.filter) none) :
    ∃ n s', (Demand.count ⟨o⟩).Answers c p b s (.count (.exact n)) s' ∧
      n.toInt = (t.found (some w.filter) none s).length := by
  obtain ⟨row, n, hreply, hrow, hn⟩ := t.count hs hr
  refine ⟨n, _, ⟨.count (.compiled ⟨w.filter⟩), ?_, ?_, rfl⟩, hn⟩
  · rw [Demand.compile, CountRequest.compile, hw]
    rfl
  · have hcount : RowCount.ofRows (Reply.rows [row]).toRows = .exact n := by
      rw [Reply.toRows, RowCount.ofRows, List.head?_cons, Option.bind_some, hrow]
      rfl
    rw [Operation.dialogue, Collection.count, c.countStatement_eq, Operation.run_of_ok c hreply,
      hcount]
    rfl

theorem remove_answers (hs : t.Ready s) {cond : Condition} {w : Clause}
    (hw : cond.compile = .ok w) (hr : t.Reads (some w.filter) none) :
    ∃ m, (Demand.remove ⟨some cond⟩).Answers c p b s (.removed ⟨m⟩)
        (b.query .pool (.delete c.table (some w.filter)) s).2 ∧
      m.toNat = (t.found (some w.filter) none s).length := by
  obtain ⟨m, id, hreply, hm, -⟩ := t.delete hs hr
  refine ⟨m, ⟨.remove (.compiled ⟨w.filter⟩), ?_, ?_, ?_⟩, hm⟩
  · rw [Demand.compile, RemoveRequest.compile, Condition.filter?_of_ok hw]
    rfl
  · rw [Operation.dialogue, c.remove_filter, Collection.delete, Operation.run_of_ok c hreply]
    rfl
  · rw [Operation.dialogue, c.remove_filter, Collection.delete, Operation.run_of_ok c hreply]

/-! ## Agreement -/

/-- **What is selected by a condition** with the given clause in a state: `n` rows, without
    which the table is in the state `s'`. -/
structure Agree (t : b.PicksRows c.table) (p : Policy) (cond : Condition) (w : Clause) (s : σ)
    (n : Int64) (s' : σ) : Prop where
  counted : ∃ s₁, (Demand.count ⟨some cond⟩).Answers c p b s (.count (.exact n)) s₁
  /-- A find without a limit has as many rows, in whatever order they are asked for. -/
  found : ∀ sort offset, t.Reads (some w.filter) (sort.bind SortOrder.orderBy?) → ∃ rs s₁,
    (Demand.find ⟨some cond, sort, none, offset⟩).Answers c p b s (.rows rs) s₁ ∧
      n.toInt = rs.length
  removed : ∃ m, (Demand.remove ⟨some cond⟩).Answers c p b s (.removed ⟨m⟩) s' ∧
    n.toInt = m.toNat
  emptied : ∃ s₁, (Demand.count ⟨some cond⟩).Answers c p b s' (.count (.exact 0)) s₁
  /-- Every find without a limit has the rows afterwards that it had before and that are not
      removed. -/
  others : ∀ o f sort offset, Condition.filter? o = .ok f →
    t.Reads f (sort.bind SortOrder.orderBy?) → ∃ rs s₁ s₂,
      (Demand.find ⟨o, sort, none, offset⟩).Answers c p b s (.rows rs) s₁ ∧
      (Demand.find ⟨o, sort, none, offset⟩).Answers c p b s'
        (.rows (rs.filter fun r => !t.picks w.filter r)) s₂

theorem agree (hs : t.Ready s) {cond : Condition} {w : Clause} (hw : cond.compile = .ok w)
    (hr : t.Reads (some w.filter) none) : ∃ n s', t.Agree p cond w s n s' := by
  have hcond : Condition.compileOrAlways (some cond) = .ok w := hw
  obtain ⟨n, s₁, hcounted, hn⟩ := t.count_answers p hs hcond hr
  obtain ⟨m, hremoved, hm⟩ := t.remove_answers p hs hw hr
  obtain ⟨-, -, -, -, hs', -⟩ := t.delete hs hr
  refine ⟨n, _, ⟨s₁, hcounted⟩, ?_, ⟨m, hremoved, ?_⟩, ?_, ?_⟩
  · intro sort offset hsort
    obtain ⟨s₂, hfound⟩ := t.find_answers p hs (Condition.filter?_of_ok hw) hsort offset
    refine ⟨_, s₂, hfound, ?_⟩
    rw [hn, t.length_found hs hsort hr fun _ => rfl]
  · rw [hn, hm]
  · obtain ⟨k, s₂, hrecounted, hk⟩ := t.count_answers p hs' hcond hr
    rw [t.found_delete_self hs hr] at hk
    obtain rfl : k = 0 := Int64.toInt_inj.1 hk
    exact ⟨s₂, hrecounted⟩
  · intro o f sort offset hf hsort
    obtain ⟨s₂, hbefore⟩ := t.find_answers p hs hf hsort offset
    obtain ⟨s₃, hafter⟩ := t.find_answers p hs' hf hsort offset
    rw [t.found_delete hs hr hsort] at hafter
    exact ⟨_, s₂, s₃, hbefore, hafter⟩

end Backend.PicksRows

/-- **All that reads or removes agrees on what a condition selects.** A condition is refused
    for all its demands, with one error, or all have its WHERE clause and its values. So,
    whatever rows a backend picks by the clause, a count is the number of rows that a find
    without a limit has, and of those that a removal takes away; afterwards the count is zero,
    and the other rows are found as before. Without a condition a count is still the number
    of rows found. -/
theorem Collection.selection_agrees (c : Collection) (p : Policy) :
    (∀ cond : Condition,
      (∃ e, cond.compile = .error e ∧
        ∀ d : Demand, d.Selects (some cond) → d.compile p = .error (.condition e)) ∨
      ∃ w, cond.compile = .ok w ∧
        ∀ d : Demand, d.Selects (some cond) → ∃ op, d.compile p = .ok op ∧
          ∀ {σ : Type} (b : Backend σ) (s : σ), ((op.dialogue c).run b s).sent =
            [(.pool, .on (d.head c.table) (some w.filter) d.tail)]) ∧
    ∀ {σ : Type} (b : Backend σ) (t : b.PicksRows c.table) (s : σ), t.Ready s →
      (∀ cond w, cond.compile = .ok w → t.Reads (some w.filter) none →
        ∃ n s', t.Agree p cond w s n s') ∧
      ∀ sort offset, t.Reads none (sort.bind SortOrder.orderBy?) → ∃ rs n s₁ s₂,
        (Demand.find ⟨none, sort, none, offset⟩).Answers c p b s (.rows rs) s₁ ∧
        (Demand.count ⟨none⟩).Answers c p b s (.count (.exact n)) s₂ ∧ n.toInt = rs.length := by
  constructor
  · intro cond
    cases h : cond.compile with
    | error e => exact Or.inl ⟨e, rfl, fun d hd => Demand.compile_of_error h hd p⟩
    | ok w => exact Or.inr ⟨w, rfl, fun d hd => Demand.sent_of_compile c h hd p⟩
  · intro σ b t s hs
    constructor
    · intro cond w hw hr
      exact t.agree p hs hw hr
    · intro sort offset hsort
      obtain ⟨s₁, hfound⟩ := t.find_answers (o := none) p hs rfl hsort offset
      obtain ⟨n, s₂, hcounted, hn⟩ := t.count_answers (o := none) p hs rfl t.reads_always
      refine ⟨_, n, s₁, s₂, hfound, hcounted, ?_⟩
      rw [hn, t.length_found hs hsort t.reads_always fun r => (t.picks_always r).symm]

/-! ## A table in memory -/

namespace Shelf

/-- The WHERE clauses that are understood. -/
def filters : List (Option Clause) :=
  [none, some Clause.always.filter, some ⟨"WHERE qty > ?", [.int 5]⟩]

/-- Whether a clause picks a row: one with a value picks the quantities above it. -/
def picks (w : Clause) (r : Record) : Bool :=
  match w.values, r.get? "qty" with
  | [], _ => true
  | [.int bound], some (.int qty) => bound < qty
  | _, _ => false

/-- The rows that are picked. -/
def found (f : Option Clause) (rows : List Record) : List Record :=
  rows.filter fun r => f.all (picks · r)

/-- The backend of one table, which answers statements on its clauses. -/
def backend : Backend (List Record) where
  query _ q rows :=
    match filters.find? (q = .select "items" · none), filters.find? (q = .selectCount "items" ·),
      filters.find? (q = .delete "items" ·) with
    | some f, _, _ => (.ok (.rows (found f rows)), rows)
    | _, some f, _ =>
      (.ok (.rows [.ofList [("count", .int (.ofNat (found f rows).length))]]), rows)
    | _, _, some f =>
      (.ok (.header (.ofNat (found f rows).length) none),
        rows.filter fun r => !f.all (picks · r))
    | _, _, _ => (.error (.plain "not understood"), rows)
  control _ rows := (.ok (), rows)

theorem length_found_le (f : Option Clause) (rows : List Record) :
    (found f rows).length ≤ rows.length := List.length_filter_le _ _

section
variable {f : Option Clause} {rows : List Record}

theorem mem_filters :
    f ∈ filters ↔ f = none ∨ f = some Clause.always.filter ∨
      f = some ⟨"WHERE qty > ?", [.int 5]⟩ := by
  simp only [filters, List.mem_cons, List.not_mem_nil, or_false]

theorem query_select (hf : f ∈ filters) :
    (backend.query .pool (.select "items" f none) rows).1 = .ok (.rows (found f rows)) := by
  rcases mem_filters.1 hf with rfl | rfl | rfl <;> rfl

theorem query_count (hf : f ∈ filters) :
    (backend.query .pool (.selectCount "items" f) rows).1 =
      .ok (.rows [.ofList [("count", .int (.ofNat (found f rows).length))]]) := by
  rcases mem_filters.1 hf with rfl | rfl | rfl <;> rfl

theorem query_delete (rows : List Record) (hf : f ∈ filters) :
    backend.query .pool (.delete "items" f) rows =
      (.ok (.header (.ofNat (found f rows).length) none),
        rows.filter fun r => !f.all (picks · r)) := by
  rcases mem_filters.1 hf with rfl | rfl | rfl <;> rfl

end

/-- The table picks its rows one by one, as long as they can be counted. -/
def picksRows : backend.PicksRows "items" where
  Ready rows := rows.length < 2 ^ 63
  Reads f o := f ∈ filters ∧ o = none
  scan _ _ rows := rows
  picks := picks
  scan_perm _ _ _ := .refl _
  reads_always := ⟨by decide, rfl⟩
  picks_always _ := rfl
  select := by
    rintro rows f o - ⟨hf, rfl⟩
    exact query_select hf
  count := by
    rintro rows f hrows ⟨hf, -⟩
    have hle := length_found_le f rows
    exact ⟨_, _, query_count hf, rfl, Int64.toInt_ofNat_of_lt (by omega)⟩
  delete := by
    rintro rows f hrows ⟨hf, -⟩
    have hle := length_found_le f rows
    have hlt : (found f rows).length < 2 ^ 64 := by omega
    refine ⟨.ofNat (found f rows).length, none, congrArg Prod.fst (query_delete rows hf),
      UInt64.toNat_ofNat_of_lt' hlt, ?_⟩
    have hkept := congrArg Prod.snd (query_delete rows hf)
    rw [hkept]
    exact ⟨lt_of_le_of_lt (List.length_filter_le _ _) hrows, fun _ => rfl⟩

end Shelf

/-- Two of four rows are above the bound; one of the others has no quantity. -/
theorem Collection.selection_agrees_shelf :
    let row (qty : Scalar) : Record := .ofList [("qty", qty)]
    let rows := [row (.int 7), row .null, row (.int 3), row (.int 9)]
    let cond : Condition := .leaf ⟨"qty", .gt, .int 5⟩
    let w : Clause := ⟨"qty > ?", [.int 5]⟩
    Shelf.picksRows.Ready rows ∧ Shelf.picksRows.Reads (some w.filter) none ∧
      cond.compile = .ok w ∧
      ∃ n s', Shelf.picksRows.Agree (c := ⟨"items", .default⟩) .default cond w rows n s' := by
  intro row rows cond w
  have hready : Shelf.picksRows.Ready rows := by
    change 4 < 2 ^ 63
    decide
  have hreads : Shelf.picksRows.Reads (some w.filter) none := ⟨by decide, rfl⟩
  refine ⟨hready, hreads, rfl, ?_⟩
  have hagree := selection_agrees ⟨"items", .default⟩ .default
  exact (hagree.2 Shelf.backend Shelf.picksRows rows hready).1 cond w rfl hreads

end RowQuery

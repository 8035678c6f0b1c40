/-
  RowQuery — the marks of whole statements and the values sent with them.

  The statements of a compiled demand have the layouts of the demand, and these tell which
  marks a text has if the names in it are closed.

  * `Layout.Lays`: a statement has the text of a layout, and its values are those of its
    marks; `Demand.lays_of_compile`: all statements of a compiled demand are laid out;
  * `Layout.Aligns`: the marks of a statement stand for its values, one each and in order;
  * `Demand.aligned`: so it is with all that is sent.
-/
import RowQuery.Proofs.Collection.Sent
import RowQuery.Proofs.Sql.Expansion
import RowQuery.Proofs.Statement.Demand

namespace RowQuery

/-! ## Layouts of the statements sent -/

/-- A statement is laid out: it has the text, and its values are those of the marks. -/
structure Layout.Lays (L : Layout) (q : Statement) : Prop where
  text : L.text = q.sql.toList
  values : q.values = L.slots.map Prod.snd

namespace Demand

variable (c : Collection)

theorem lays_countStatement {r : CountRequest} {f : CountClauses} (h : r.compile = .ok f) :
    ∃ L, layouts c.table (.count r) = [L] ∧ L.Lays (c.countStatement (.compiled f)) := by
  have hslots := slots_layouts c.table (.count r)
  refine ⟨_, rfl, ?_, ?_⟩
  · refine Layout.text_assembled (.cons ?_ .nil) ?_
    · rcases CountRequest.compile_eq_ok h with ⟨hr, hf⟩ | ⟨cond, a, hr, ha, hf⟩
      · rw [hr, hf]
        exact .some (by decide) (by simp [Piece.text, Clause.filter, Clause.always])
      · rw [hr, hf]
        exact Condition.writes_filterLayout ha
    · simp [Piece.text, RowCount.column]
  · rw [List.singleton_inj.1 hslots]
    rcases CountRequest.compile_eq_ok h with ⟨hr, hf⟩ | ⟨cond, a, hr, ha, hf⟩
    · rw [hr]
      exact congrArg Clause.values hf
    · rw [hr]
      exact (congrArg Clause.values hf).trans
        ((Condition.values_of_compile ha).trans (by simp [Condition.slots?, Comparison.slot]))

theorem lays_removeStatement {r : RemoveRequest} {f : RemoveClauses} (h : r.compile = .ok f) :
    ∃ L, layouts c.table (.remove r) = [L] ∧
      L.Lays ⟨assemble c.deleteHead [some f.filter.text], f.filter.values⟩ := by
  have hslots := slots_layouts c.table (.remove r)
  obtain ⟨clause, hc, hf⟩ := except_bind_eq_ok.1 h
  obtain rfl := Except.ok.inj hf
  refine ⟨_, rfl, ?_, ?_⟩
  · refine Layout.text_assembled (.cons ?_ .nil) (by simp [Piece.text, Collection.deleteHead])
    rcases Condition.filter?_eq_ok hc with ⟨hr, rfl⟩ | ⟨cond, a, hr, ha, rfl⟩
    · rw [hr]
      exact .empty
    · rw [hr]
      exact Condition.writes_filterLayout ha
  · rw [List.singleton_inj.1 hslots]
    refine Eq.trans ?_ (Condition.values_of_filter? hc)
    cases clause <;> rfl

theorem lays_updateLayout {e : Record × Condition} {f : UpdateClauses}
    (h : e.1.compileUpdate e.2 = .ok f) :
    (updateLayout c.table e).Lays (c.updateStatement f) := by
  obtain ⟨a, ha, rfl⟩ := Record.compileUpdate_eq_ok.1 h
  constructor
  · refine Layout.text_assembled (.cons (Condition.writes_filterLayout ha) .nil) ?_
    rw [UpdateClauses.set]
    simp [Record.text_assignments, Piece.text]
  · rw [updateLayout, Layout.slots_assembled]
    simp only [Layout.slots_plain, Record.slots_assignments, List.flatMap_cons, List.flatMap_nil,
      Option.elim_some, Condition.slots_filterLayout, List.append_nil, List.map_append,
      List.map_map]
    exact congrArg _ (Condition.values_of_compile ha)

theorem lays_insertLayout (columns : List String) (records : List Record) :
    (insertLayout c.table columns records).Lays (c.insertStatement columns records) := by
  have hsql : (c.insertStatement columns records).sql =
      "INSERT INTO " ++ c.table ++ " (" ++ ", ".intercalate columns ++ ") VALUES " ++
        ", ".intercalate (List.replicate records.length (Collection.markGroup columns.length)) :=
    rfl
  have hvalues : (c.insertStatement columns records).values =
      records.flatMap fun r => columns.map fun column => (r.get? column).getD .null := rfl
  constructor
  · have hrows : records.map (fun _ => Collection.markGroup columns.length) =
        List.replicate records.length (Collection.markGroup columns.length) := List.map_const' ..
    rw [hsql, insertLayout]
    simp only [Layout.text_cons, Layout.text_append, Layout.text_names,
      Layout.text_separated_map fun r _ => Record.text_row columns r, hrows]
    simp [Piece.text]
  · rw [slots_insertLayout, List.map_flatMap, hvalues]
    simp only [Record.slots, List.map_map]
    rfl

/-- A statement and a layout, each the only one. -/
theorem exists_lays_of_singleton {L : Layout} {q q' : Statement} (h : L.Lays q) {i : Nat}
    (hq : [q][i]? = some q') : ∃ L', [L][i]? = some L' ∧ L'.Lays q' := by
  cases i with
  | zero =>
    cases hq
    exact ⟨L, rfl, h⟩
  | succ i => cases hq

/-- The statements that a compiled demand may send have its layouts, in order. -/
theorem lays_getElem?_of_compile {p : Policy} {d : Demand} {op : Operation}
    (h : d.compile p = .ok op) {i : Nat} {q : Statement} (hq : (op.statements c)[i]? = some q) :
    ∃ L, (d.layouts c.table)[i]? = some L ∧ L.Lays q := by
  have hslots := slots_layouts c.table d
  cases d with
  | find r =>
    obtain ⟨f, hf, rfl⟩ := except_map_eq_ok.1 h
    obtain ⟨clause, hc, hf⟩ := except_bind_eq_ok.1 hf
    obtain rfl := Except.ok.inj hf
    refine exists_lays_of_singleton ⟨?_, ?_⟩ hq
    · refine Layout.text_assembled (.cons (Condition.writes_filter? hc)
        (.cons (SortOrder.writes_orderBy? _) (.cons (writes_limitClause? _ _) .nil))) ?_
      simp [Piece.text]
    · rw [List.singleton_inj.1 hslots]
      exact Condition.values_of_filter? hc
  | count r =>
    obtain ⟨f, hf, rfl⟩ := except_map_eq_ok.1 h
    obtain ⟨L, hL, hlays⟩ := lays_countStatement c hf
    rw [hL]
    exact exists_lays_of_singleton hlays hq
  | aggregate r =>
    obtain ⟨f, hf, rfl⟩ := except_map_eq_ok.1 h
    obtain ⟨clause, hc, hf⟩ := except_bind_eq_ok.1 hf
    obtain rfl := Except.ok.inj hf
    refine exists_lays_of_singleton ⟨?_, ?_⟩ hq
    · refine Layout.text_assembled (.cons (Condition.writes_filter? hc)
        (.cons (writes_groupByClause? _) (.cons (SortOrder.writes_orderBy? _) .nil))) ?_
      simp [r.text_layout, Piece.text]
    · rw [List.singleton_inj.1 hslots]
      exact Condition.values_of_filter? hc
  | remove r =>
    obtain ⟨f, hf, rfl⟩ := except_map_eq_ok.1 h
    rw [Operation.statements] at hq
    split at hq
    · cases hq
    · obtain ⟨L, hL, hlays⟩ := lays_removeStatement c hf
      rw [hL]
      exact exists_lays_of_singleton hlays hq
  | update r =>
    obtain ⟨fs, hf, rfl⟩ := except_map_eq_ok.1 h
    rw [Operation.statements, List.getElem?_map] at hq
    obtain ⟨f, hmem, rfl⟩ := Option.map_eq_some_iff.1 hq
    obtain ⟨e, he, hef⟩ := exists_getElem?_of_forall₂ (UpdateRequest.compile_forall₂ hf) hmem
    refine ⟨updateLayout c.table e, ?_, lays_updateLayout c hef⟩
    rw [layouts, List.getElem?_map, he, Option.map_some]
  | insert records =>
    cases h
    cases records with
    | nil => cases hq
    | cons r rs =>
      exact exists_lays_of_singleton (lays_insertLayout c r.keys (r :: rs)) hq

/-- Each statement that a compiled demand may send has one of its layouts. -/
theorem lays_of_compile {p : Policy} {d : Demand} {op : Operation} (h : d.compile p = .ok op) :
    ∀ q ∈ op.statements c, ∃ L ∈ d.layouts c.table, L.Lays q := by
  intro q hq
  obtain ⟨i, hi⟩ := List.getElem?_of_mem hq
  obtain ⟨L, hL, hlays⟩ := lays_getElem?_of_compile c h hi
  exact ⟨L, List.mem_of_getElem? hL, hlays⟩

end Demand

/-! ## Alignment -/

/-- **The values of a statement are aligned with its marks** by a layout, also after the
    expansion of lists. -/
structure Layout.Aligns (L : Layout) (q : Statement) : Prop where
  text : q.sql.toList = L.text
  /-- The marks in code are those of the layout. -/
  marks : Sql.marks q.sql.toList = L.marks
  values : q.values = L.slots.map Prod.snd
  count : Sql.markCount q.sql.toList = q.values.length
  /-- The mark with `k` marks before it stands for the value with `k` values before it. -/
  place : ∀ k slot, L.slots[k]? = some slot → ∃ A B : Layout, L = A ++ .mark slot.1 slot.2 :: B ∧
    Sql.marks q.sql.toList = A.marks ++ true :: B.marks ∧ A.marks.count true = k
  expanded : Sql.markCount (Sql.expand q.sql q.values).1.toList =
    (Sql.expand q.sql q.values).2.length

theorem Layout.Lays.aligns {L : Layout} {q : Statement} (h : L.Lays q) (hs : L.Sound) :
    L.Aligns q := by
  have hmarks : Sql.marks q.sql.toList = L.marks := by rw [← h.text, hs.marks_text]
  have hcount : Sql.markCount q.sql.toList = q.values.length := by
    rw [← h.text, hs.markCount_text, h.values, List.length_map]
  refine ⟨h.text.symm, hmarks, h.values, hcount, ?_, ?_⟩
  · intro k slot hk
    obtain ⟨A, B, hL, hA⟩ := exists_mark hk
    refine ⟨A, B, hL, ?_, ?_⟩
    · rw [hmarks, hL, marks_append]
      rfl
    · rw [count_marks, hA]
  · -- there are as many marks as values, and expansion keeps the difference
    have hexpand := Sql.markCount_expand q.sql q.values
    omega

/-- **Marks and values of all that is sent are aligned**: if the names are closed, each
    statement has one of the layouts of the demand, and its values go with its marks. -/
theorem Demand.aligned {σ : Type} (c : Collection) {p : Policy} {d : Demand} {op : Operation}
    (h : d.compile p = .ok op) (ht : Sql.Closed c.table) (hn : ∀ n ∈ d.names, Sql.Closed n)
    (b : Backend σ) (s : σ) :
    (d.layouts c.table).map Layout.slots = d.slots ∧
      ∀ channel q, .query channel q ∈ ((op.dialogue c).run b s).log →
        ∃ L ∈ d.layouts c.table, L.Aligns q := by
  refine ⟨d.slots_layouts c.table, ?_⟩
  intro channel q hq
  have hsent : q ∈ op.statements c := Operation.mem_statements_of_mem_log hq
  obtain ⟨L, hL, hlays⟩ := lays_of_compile c h q hsent
  have hsound : L.Sound := sound_layouts ht hn L hL
  exact ⟨L, hL, hlays.aligns hsound⟩

/-- An update of a list and of a number, whose names are quoted and hold a mark. -/
theorem Demand.aligned_quoted_names :
    let c : Collection := ⟨"\x22stock?\x22", .default⟩
    let condition : Condition := .or [.leaf ⟨"\x22a?\x22", .within, .list [.int 1, .int 2]⟩,
      .and [.leaf ⟨"b", .eq, .int 3⟩]]
    let d : Demand := .update ⟨[.ofList [("\x27c?\x27", .int 4)]], [condition]⟩
    let script : Script := ⟨[.ok (.header 1 none)], none, none, none⟩
    ∃ op, d.compile .default = .ok op ∧ Sql.Closed c.table ∧ (∀ n ∈ d.names, Sql.Closed n) ∧
      ((op.dialogue c).run Script.backend script).log.length = 1 ∧
      ∀ channel q, .query channel q ∈ ((op.dialogue c).run Script.backend script).log →
        ∃ L ∈ d.layouts c.table, L.Aligns q := by
  intro c condition d script
  have hcompile : d.compile .default = .ok _ := rfl
  have htable : Sql.Closed c.table := by decide
  have hnames : ∀ n ∈ d.names, Sql.Closed n := by decide
  refine ⟨_, hcompile, htable, hnames, rfl, ?_⟩
  exact (aligned c hcompile htable hnames Script.backend script).2

end RowQuery

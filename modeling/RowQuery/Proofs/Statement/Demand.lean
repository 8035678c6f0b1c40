/-
  RowQuery — layouts of demands.

  Every demand has the layouts of the statements that it may lead to. Names are written
  into statements as they are, so a layout tells which marks a text has only if the names
  are closed.

  * `Demand.names` are the names, `Demand.layouts` the layouts;
  * `Demand.slots_layouts`: what the marks stand for, statement by statement;
  * `Demand.sound_layouts`: on closed names the layouts are sound.
-/
import RowQuery.Proofs.Collection.Operation
import RowQuery.Proofs.Statement.Clauses

namespace RowQuery

namespace Demand

/-- The names that are written into the statements of a demand, apart from the table. -/
def names : Demand → List String
  | find r => Condition.names? r.condition ++ r.sort.elim [] OrderedMap.keys
  | count r => Condition.names? r.condition
  | aggregate r =>
    r.fields ++ Condition.names? r.condition ++ r.groupBy.getD [] ++ r.sort.elim [] OrderedMap.keys
  | remove r => Condition.names? r.condition
  | update r =>
    r.updates.flatMap OrderedMap.keys ++
      r.conditions.flatMap fun c => c.leaves.map Comparison.field
  | insert records => records.flatMap OrderedMap.keys

/-- The layout of the statement that updates the rows of a condition. -/
def updateLayout (table : String) (e : Record × Condition) : Layout :=
  .assembled (.plain "UPDATE " :: .plain table :: .plain " SET " :: Record.assignments e.1)
    [some e.2.filterLayout]

/-- The layout of the statement that adds records. -/
def insertLayout (table : String) (columns : List String) (records : List Record) : Layout :=
  .plain "INSERT INTO " :: .plain table :: .plain " (" ::
    (Layout.names columns ++ .plain ") VALUES " ::
      Layout.separated ", " (records.map (Record.row columns)))

/-- The layouts of the statements of a demand on a table. -/
def layouts (table : String) : Demand → List Layout
  | find r =>
    [.assembled [.plain "SELECT * FROM ", .plain table]
      [Condition.filterLayout? r.condition, SortOrder.layout? r.sort,
        limitLayout? r.limit r.offset]]
  | count r =>
    [.assembled [.plain "SELECT COUNT(*) AS count FROM ", .plain table]
      [some (r.condition.elim [.plain "WHERE 1=1"] Condition.filterLayout)]]
  | aggregate r =>
    [.assembled (.plain "SELECT " :: (r.layout ++ [.plain " FROM ", .plain table]))
      [Condition.filterLayout? r.condition, groupByLayout? r.groupBy, SortOrder.layout? r.sort]]
  | remove r =>
    [.assembled [.plain "DELETE FROM ", .plain table] [Condition.filterLayout? r.condition]]
  | update r => r.pairs.map (updateLayout table)
  | insert [] => []
  | insert (r :: rs) => [insertLayout table r.keys (r :: rs)]

/-- **What the values of a demand are for**, statement by statement: assignments before
    comparisons, these in pre-order, and records one after the other by the columns of the
    first. -/
def slots : Demand → List (List (String × Scalar))
  | find r => [Condition.slots? r.condition]
  | count r => [Condition.slots? r.condition]
  | aggregate r => [Condition.slots? r.condition]
  | remove r => [Condition.slots? r.condition]
  | update r => r.pairs.map fun e => e.1.entries ++ e.2.leaves.map Comparison.slot
  | insert [] => []
  | insert (r :: rs) => [(r :: rs).flatMap (Record.slots r.keys)]

/-! ## Slots -/

theorem slots_assembled_layout (head : Layout) (c : Option Condition) {L M : Option Layout}
    (hL : L.elim [] Layout.slots = []) (hM : M.elim [] Layout.slots = []) :
    (Layout.assembled head [Condition.filterLayout? c, L, M]).slots =
      head.slots ++ Condition.slots? c := by
  rw [Layout.slots_assembled]
  cases c with
  | none => simp [Condition.filterLayout?, Condition.slots?, hL, hM]
  | some c =>
    simp [Condition.filterLayout?, Condition.slots?, Condition.slots_filterLayout, hL, hM]

theorem slots_insertLayout (table : String) (columns : List String) (records : List Record) :
    (insertLayout table columns records).slots = records.flatMap (Record.slots columns) := by
  simp only [insertLayout, Layout.slots_plain, Layout.slots_append, Layout.slots_names,
    List.nil_append]
  rw [Layout.slots_separated_map]
  simp only [Record.slots_row]

/-- **The marks of the layouts stand for the values of the demand.** -/
theorem slots_layouts (table : String) (d : Demand) :
    (d.layouts table).map Layout.slots = d.slots := by
  cases d with
  | find r =>
    simp only [layouts, slots, List.map_cons, List.map_nil]
    have hsort := SortOrder.slots_layout? r.sort
    rw [slots_assembled_layout _ _ hsort (slots_limitLayout? r.limit r.offset)]
    rfl
  | count r =>
    simp only [layouts, slots, List.map_cons, List.map_nil, Layout.slots_assembled]
    cases r.condition with
    | none => rfl
    | some c => simp [Condition.slots?, Condition.slots_filterLayout]
  | aggregate r =>
    simp only [layouts, slots, List.map_cons, List.map_nil]
    have hsort := SortOrder.slots_layout? r.sort
    rw [slots_assembled_layout _ _ (slots_groupByLayout? r.groupBy) hsort]
    simp [r.slots_layout]
  | remove r =>
    simp only [layouts, slots, List.map_cons, List.map_nil, Layout.slots_assembled]
    cases r.condition with
    | none => rfl
    | some c => simp [Condition.filterLayout?, Condition.slots?, Condition.slots_filterLayout]
  | update r =>
    rw [layouts, slots, List.map_map]
    refine List.map_congr_left fun e _ => ?_
    simp [updateLayout, Layout.slots_assembled, Record.slots_assignments,
      Condition.slots_filterLayout]
  | insert records =>
    cases records with
    | nil => rfl
    | cons r rs =>
      rw [layouts, slots, List.map_singleton, slots_insertLayout]

/-! ## Closed names -/

/-- **The layouts of a demand on closed names are sound.** -/
theorem sound_layouts {table : String} (ht : Sql.Closed table) {d : Demand}
    (h : ∀ n ∈ d.names, Sql.Closed n) : ∀ L ∈ d.layouts table, L.Sound := by
  intro L hL
  have htable : Layout.Sound [.plain table] := Layout.sound_name ht
  cases d with
  | find r =>
    simp only [names, List.mem_append] at h
    obtain rfl := List.mem_singleton.1 hL
    refine Layout.sound_assembled ?_ (Layout.sound_plain (by decide) htable)
    simp only [List.mem_cons, List.not_mem_nil, or_false]
    rintro L (hc | hs | hl)
    · exact Condition.sound_filterLayout? (fun n hn => h n (Or.inl hn)) hc.symm
    · exact SortOrder.sound_layout? (fun n hn => h n (Or.inr hn)) hs.symm
    · exact sound_limitLayout? hl.symm
  | count r =>
    obtain rfl := List.mem_singleton.1 hL
    refine Layout.sound_assembled ?_ (Layout.sound_plain (by decide) htable)
    rintro L hc
    obtain rfl := Option.some.inj (List.mem_singleton.1 hc)
    cases hr : r.condition with
    | none => exact Layout.sound_plain (by decide) Layout.sound_nil
    | some cond =>
      exact Condition.sound_filterLayout fun l hl => h _ (by
        rw [names, hr]
        exact List.mem_map_of_mem hl)
  | aggregate r =>
    simp only [names, List.mem_append] at h
    obtain rfl := List.mem_singleton.1 hL
    have hselect := AggregateRequest.sound_layout fun n hn => h n (Or.inl (Or.inl (Or.inl hn)))
    have hfrom : Layout.Sound (r.layout ++ [.plain " FROM ", .plain table]) :=
      hselect.glue (by decide) htable
    refine Layout.sound_assembled ?_ (Layout.sound_plain (by decide) hfrom)
    simp only [List.mem_cons, List.not_mem_nil, or_false]
    rintro L (hc | hg | hs)
    · exact Condition.sound_filterLayout? (fun n hn => h n (Or.inl (Or.inl (Or.inr hn)))) hc.symm
    · exact sound_groupByLayout? (fun n hn => h n (Or.inl (Or.inr hn))) hg.symm
    · exact SortOrder.sound_layout? (fun n hn => h n (Or.inr hn)) hs.symm
  | remove r =>
    obtain rfl := List.mem_singleton.1 hL
    refine Layout.sound_assembled ?_ (Layout.sound_plain (by decide) htable)
    intro L hc
    exact Condition.sound_filterLayout? h (List.mem_singleton.1 hc).symm
  | update r =>
    simp only [names, List.mem_append, List.mem_flatMap, List.mem_map] at h
    obtain ⟨e, he, rfl⟩ := List.mem_map.1 hL
    obtain ⟨hu, hc⟩ := UpdateRequest.mem_of_mem_pairs he
    have hset := Record.sound_assignments fun n hn => h n (Or.inl ⟨e.1, hu, hn⟩)
    have hhead := Layout.sound_name_cons ht (s := " SET ") (by decide) hset
    refine Layout.sound_assembled ?_ (Layout.sound_plain (by decide) hhead)
    intro L hL
    obtain rfl := Option.some.inj (List.mem_singleton.1 hL)
    exact Condition.sound_filterLayout fun l hl => h _ (Or.inr ⟨e.2, hc, l, hl, rfl⟩)
  | insert records =>
    cases records with
    | nil => cases hL
    | cons r rs =>
      obtain rfl := List.mem_singleton.1 hL
      have hcolumns : (Layout.names r.keys).Sound := Layout.sound_names fun n hn =>
        h n (List.mem_flatMap.2 ⟨r, by simp, hn⟩)
      have hrows := Layout.sound_list fun r' (_ : r' ∈ r :: rs) => Record.sound_row r.keys r'
      have hvalues := hcolumns.glue (s := ") VALUES ") (by decide) hrows
      have htable := Layout.sound_name_cons ht (s := " (") (by decide) hvalues
      exact Layout.sound_plain (by decide) htable

end Demand

end RowQuery

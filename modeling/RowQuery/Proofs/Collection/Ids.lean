/-
  RowQuery — the ids of records that are added.

  A driver tells the id of the first row that an insertion added, and the collection counts
  on from there. The ids that it puts into the records are those of the rows: each is
  found again under its id, and is the record in all columns that were filled.

  * `Collection.Adds`: records that can be added to a table whose ids are left open;
  * `Collection.Stored`: what is promised of records and the ids that they got;
  * `Collection.rowOfId_answers`: how the row of an id is found;
  * `Collection.insert_eq_ok`: what an insertion that succeeds has done;
  * `Collection.insert_stores`: an insertion that succeeds has stored its records so.
-/
import RowQuery.Proofs.Collection.Selection
import RowQuery.Proofs.Database.Numbered
import RowQuery.Proofs.Pointwise

namespace RowQuery

open Database

/-! ## The row of an id -/

/-- The request for the rows that have a value in a column. -/
def FindRequest.having (column : String) (v : Scalar) : FindRequest :=
  ⟨some (.leaf ⟨column, .eq, v⟩), none, none, none⟩

/-- The clauses of the request. -/
def FindClauses.having (column : String) (v : Scalar) : FindClauses :=
  ⟨some ⟨"WHERE " ++ (column ++ " = ?"), [v]⟩, none, none⟩

theorem FindRequest.compile_having {column : String} (h : column.isEmpty = false) (v : Scalar) :
    (FindRequest.having column v).compile = .ok (.having column v) := by
  have hleaf : (Condition.leaf ⟨column, .eq, v⟩).compile =
      .ok ⟨column ++ " " ++ "=" ++ " ?", [v]⟩ := by
    change Comparison.compile ⟨column, .eq, v⟩ = _
    rw [Comparison.compile]
    simp only [h]
    rfl
  have htext : column ++ " " ++ "=" ++ " ?" = column ++ " = ?" := by
    rw [String.append_assoc, String.append_assoc]
    rfl
  rw [FindRequest.compile]
  change (Condition.filter? (some (.leaf ⟨column, .eq, v⟩)) >>= _) = _
  rw [Condition.filter?, hleaf, htext]
  rfl

/-- The request for the row of an id. -/
def Collection.rowOfId (c : Collection) (id : Int64) : Demand :=
  .find (.having c.options.primaryKey (.int id))

variable {σ : Type} {e : Engine σ} {c : Collection}
  {t : NumberedTable e c.table c.options.primaryKey} {s s' : σ}

namespace Collection

/-- The statement of a find of the rows that have a value in a column. -/
theorem findStatement_having (c : Collection) (column : String) (v : Scalar) :
    c.findStatement (.compiled (.having column v)) = ⟨Sql.equalText c.table column, [v]⟩ := by
  have hclause : ("WHERE " ++ (column ++ " = ?")).isEmpty = false := by
    rw [Bool.eq_false_iff]
    intro h
    have htext := congrArg String.toList (String.isEmpty_iff.1 h)
    rw [String.toList_append] at htext
    cases htext
  have htext : "SELECT * FROM " ++ c.table ++ " " ++ ("WHERE " ++ (column ++ " = ?")) =
      "SELECT * FROM " ++ c.table ++ " WHERE " ++ column ++ " = ?" := by
    apply String.toList_inj.1
    simp only [String.toList_append, List.append_assoc]
    rfl
  change Statement.mk (assemble ("SELECT * FROM " ++ c.table)
    [some ("WHERE " ++ (column ++ " = ?")), none, none]) [v] = _
  rw [assemble, List.foldl_cons]
  simp only [hclause, Bool.false_eq_true, if_false, List.foldl_cons, List.foldl_nil]
  rw [htext]
  rfl

/-- A query of the rows that have a value in a column is known as one that returns rows. -/
theorem returnsRows_equalText {table column : String} (htable : Token.IsPlain table)
    (hcolumn : Token.IsPlain column) : Sql.returnsRows (Sql.equalText table column) = true := by
  have hcode : Sql.IsCode (Sql.equalText table column).toList := by
    rw [toList_equalText]
    simp only [Sql.isCode_append, Sql.isCode_cons]
    exact ⟨by decide, by decide, by decide, by decide, by decide, by decide,
      Sql.isCode_of_isOrdinary htable.isOrdinary, by decide, by decide, by decide,
      Sql.isCode_of_isOrdinary hcolumn.isOrdinary, by decide, by decide, by decide, by decide,
      by decide⟩
  exact Sql.returnsRows_of_select hcode (toList_equalText table column)

/-- **The row of an id** is found in a table that numbers its rows. -/
theorem rowOfId_answers (hs : t.Ready s) {row : StoredRow} (hrow : row ∈ t.rows s) (p : Policy) :
    (c.rowOfId row.id).Answers c p e.backend s (.rows [row.cells.toRecord]) s := by
  obtain ⟨htable, hkey⟩ := List.forall_mem_cons.1 t.plain
  have hkey := List.forall_mem_cons.1 hkey |>.1
  have hnonempty : c.options.primaryKey.isEmpty = false := by
    rw [Bool.eq_false_iff]
    intro h
    have hword := hkey.1
    rw [String.isEmpty_iff.1 h] at hword
    cases hword
  have hcompile : (c.rowOfId row.id).compile p =
      .ok (.find (.compiled (.having c.options.primaryKey (.int row.id)))) := by
    rw [rowOfId, Demand.compile, FindRequest.compile_having hnonempty]
    rfl
  obtain ⟨x, hrun, hrows⟩ := t.selecting hs row.id
  have hquery : e.backend.query .pool
      (c.findStatement (.compiled (.having c.options.primaryKey (.int row.id)))) s =
        (.ok (.rows [row.cells.toRecord]), s) := by
    have hsingle : ∀ v ∈ [Scalar.int row.id], v.items? = none := List.forall_mem_singleton.2 rfl
    have hbound : [Scalar.int row.id].map Bound.ofScalar = [.int row.id] := rfl
    rw [findStatement_having, Engine.query_eq_of_single e _ s hsingle]
    simp only [hbound, hrun]
    rw [Except.map, Executed.reply, returnsRows_equalText htable hkey, if_pos rfl, hrows,
      t.filter_id hs hrow]
    rfl
  have hdialogue := Operation.run_of_ok c (congrArg Prod.fst hquery) (fun reply => .ok reply.toRows)
    Answer.rows
  refine ⟨_, hcompile, ?_, ?_⟩
  · exact congrArg Dialogue.Outcome.value hdialogue
  · exact (congrArg Dialogue.Outcome.state hdialogue).trans (congrArg Prod.snd hquery)

/-! ## Records that can be added -/

/-- **Records can be added to a table**, which gives them their ids: the keys of the first record
    are columns of the table and the key column is none of them, and all values under them come
    back as they are bound, and are stored unchanged. -/
structure Adds (c : Collection) (t : NumberedTable e c.table c.options.primaryKey) (first : Record)
    (others : List Record) : Prop where
  columns : ∀ name ∈ first.keys, name ∈ t.columns
  lacks : first.contains c.options.primaryKey = false
  returned : ∀ r ∈ first :: others, ∀ name ∈ first.keys,
    ((r.get? name).getD .null).returned = (r.get? name).getD .null
  kept : ∀ r ∈ first :: others, ∀ name ∈ first.keys,
    t.Keeps name (.ofScalar ((r.get? name).getD .null))

/-- No name in the statement that adds records has the word RETURNING. -/
def Silent (c : Collection) (first : Record) : Prop :=
  ∀ name ∈ c.table :: first.keys, "returning" ∉ Sql.words name

instance (c : Collection) (first : Record) : Decidable (c.Silent first) :=
  inferInstanceAs (Decidable (∀ name ∈ c.table :: first.keys, "returning" ∉ Sql.words name))

/-- **Records and their ids are stored**: the records that are answered are those that were
    given with ids of their own, each is found again under its id and agrees with its row in
    all columns that were filled, and what was stored before is still there. -/
structure Stored (c : Collection) (t : NumberedTable e c.table c.options.primaryKey)
    (first : Record) (others rs : List Record) (s s' : σ) : Prop where
  given : List.Forall₂ (fun r r' => ∃ id, r' = r.insert c.options.primaryKey (.int id))
    (first :: others) rs
  distinct : (rs.map fun r => r.get? c.options.primaryKey).Nodup
  added : ∃ added, t.rows s' = t.rows s ++ added ∧ added.length = rs.length
  found : ∀ r ∈ rs, ∃ id row, r.get? c.options.primaryKey = some (.int id) ∧
    (∀ p, (c.rowOfId id).Answers c p e.backend s' (.rows [row]) s') ∧
    ∀ name ∈ first.keys, row.get? name = some ((r.get? name).getD .null)
  kept : ∀ row ∈ t.rows s, ∀ p,
    (c.rowOfId row.id).Answers c p e.backend s' (.rows [row.cells.toRecord]) s'

/-! ## Ids and rows -/

variable {first : Record} {others : List Record} {rs : List Record}

/-- What is bound for a record under the names of columns. -/
def boundsOf (names : List String) (r : Record) : List Bound :=
  names.map fun name => .ofScalar ((r.get? name).getD .null)

/-- A record with an id has a row of that id, which holds the values of the record. -/
def HasRow (c : Collection) (t : NumberedTable e c.table c.options.primaryKey)
    (names : List String) (records : List Record) (r' : Record) (row : StoredRow) : Prop :=
  ∃ r ∈ records, r' = r.insert c.options.primaryKey (.int row.id) ∧
    row.HoldsAll t.Keeps names (boundsOf names r)

theorem forall₂_withIds (key : String) (id : Int64) (records : List Record) :
    List.Forall₂ (fun r r' => ∃ id, r' = r.insert key (.int id)) records
      (withIds key id records) := by
  induction records generalizing id with
  | nil => exact .nil
  | cons r records ih => exact .cons ⟨id, rfl⟩ (ih (id + 1))

/-- **The ids of records are those of the rows**, if both begin with the same one. -/
theorem forall₂_hasRow {names : List String} {records : List Record} {id : Int64}
    {added : List StoredRow} (hids : added.map StoredRow.id = idsFrom id records.length)
    (hholds : List.Forall₂ (fun bounds row => StoredRow.HoldsAll row t.Keeps names bounds)
      (records.map (boundsOf names)) added) :
    List.Forall₂ (c.HasRow t names records) (withIds c.options.primaryKey id records) added := by
  rw [List.forall₂_map_left_iff] at hholds
  induction hholds generalizing id with
  | nil => exact .nil
  | @cons r row records added hrow hrest ih =>
    obtain ⟨hid, hids⟩ := List.cons.inj hids
    refine .cons ⟨r, List.mem_cons_self, by rw [hid], hrow⟩ ((ih hids).imp ?_)
    rintro r' row' ⟨r₀, hr₀, hr', hholds⟩
    exact ⟨r₀, List.mem_cons_of_mem r hr₀, hr', hholds⟩

/-- The ids of the records, one by one. -/
theorem map_get?_of_forall₂ {names : List String} {records : List Record} {added : List StoredRow}
    (h : List.Forall₂ (c.HasRow t names records) rs added) :
    rs.map (fun r => r.get? c.options.primaryKey) =
      (added.map StoredRow.id).map fun id => some (.int id) := by
  induction h with
  | nil => rfl
  | cons hrow hrest ih =>
    obtain ⟨r, -, rfl, -⟩ := hrow
    rw [List.map_cons, ih, OrderedMap.get?_insert, if_pos rfl]
    rfl

/-- The id of the first row, told by the id of the last and their number. -/
theorem firstId_eq {id lastId : Int64} {affected : UInt64} {n : Nat}
    (hlast : (idsFrom id (n + 1)).getLast? = some lastId) (haffected : affected.toNat = n + 1) :
    lastId - affected.toInt64 + 1 = id := by
  rw [getLast?_idsFrom] at hlast
  obtain rfl := Option.some.inj hlast
  have hone : Int64.ofNat 1 = 1 := rfl
  obtain rfl : affected = UInt64.ofNat (n + 1) := by
    rw [← haffected, UInt64.ofNat_toNat]
  change id + Int64.ofNat n - Int64.ofNat (n + 1) + 1 = id
  rw [Int64.ofNat_add, hone]
  grind

/-! ## Insertions that succeed -/

namespace Adds

theorem key_notMem (h : c.Adds t first others) : c.options.primaryKey ∉ first.keys := by
  intro hmem
  have hcontains := OrderedMap.contains_of_mem_keys hmem
  rw [h.lacks] at hcontains
  cases hcontains

theorem isPlain (h : c.Adds t first others) : ∀ name ∈ first.keys, Token.IsPlain name :=
  fun name hname =>
    t.plain name (List.mem_cons_of_mem _ (List.mem_cons_of_mem _ (h.columns name hname)))

/-- No value of the statement is a list. -/
theorem items?_of_mem_values (h : c.Adds t first others) :
    ∀ v ∈ (c.insertStatement first.keys (first :: others)).values, v.items? = none := by
  intro v hv
  change v ∈ (first :: others).flatMap fun r => first.keys.map fun name =>
    (r.get? name).getD .null at hv
  obtain ⟨r, hr, hv⟩ := List.mem_flatMap.1 hv
  obtain ⟨name, hname, rfl⟩ := List.mem_map.1 hv
  exact Scalar.items?_of_returned (h.returned r hr name hname)

end Adds

/-- What is bound for the statement that adds records. -/
theorem bound_insertStatement (c : Collection) (names : List String) (records : List Record) :
    (c.insertStatement names records).values.map Bound.ofScalar =
      (records.map (boundsOf names)).flatten := by
  change (records.flatMap _).map Bound.ofScalar = _
  rw [List.map_flatMap, List.flatMap_def]
  simp only [List.map_map]
  rfl

/-- What an insertion that succeeds has done: rows with the records' values were added, with ids
    one after the other, and the records got the same ids. -/
theorem insert_eq_ok (hs : t.Ready s) (h : c.Adds t first others) (hsilent : c.Silent first)
    (hrun : ((c.insert (first :: others)).run e.backend s).value = .ok rs) :
    ∃ added id, t.Ready ((c.insert (first :: others)).run e.backend s).state ∧
      t.rows ((c.insert (first :: others)).run e.backend s).state = t.rows s ++ added ∧
      List.Forall₂ (c.HasRow t first.keys (first :: others)) rs added ∧
      rs = withIds c.options.primaryKey id (first :: others) := by
  obtain ⟨answer, hanswer, hread, hstate⟩ := executeAnd_eq_ok hrun
  change ((c.insert (first :: others)).run e.backend s).state = _ at hstate
  rw [hstate]
  -- The statement is carried out as the insertion of so many rows.
  rw [Engine.query_eq_of_single e _ s h.items?_of_mem_values, bound_insertStatement] at hanswer ⊢
  obtain ⟨x, hx, rfl⟩ := except_map_eq_ok.1 hanswer
  have hmatrix : ((first :: others).map (boundsOf first.keys)) ≠ [] := List.cons_ne_nil _ _
  have hwidths : ∀ bounds ∈ (first :: others).map (boundsOf first.keys),
      bounds.length = first.keys.length := by
    intro bounds hbounds
    obtain ⟨r, -, rfl⟩ := List.mem_map.1 hbounds
    exact List.length_map _
  have htext : (c.insertStatement first.keys (first :: others)).sql =
      Sql.insertText c.table first.keys ((first :: others).map (boundsOf first.keys)).length := by
    rw [List.length_map]
    rfl
  rw [htext] at hx hread ⊢
  obtain ⟨hready, added, hrows, ⟨id, hids⟩, hlast, haffected, hholds⟩ :=
    t.inserting hs first.nodup h.columns h.key_notMem hmatrix hwidths (Prod.ext hx rfl)
  -- The id of the first row is told.
  rw [List.length_map, List.length_cons] at haffected hids
  have hid : x.lastId - x.affected.toInt64 + 1 = id := by
    refine firstId_eq ?_ haffected
    rw [← hids, List.getLast?_map]
    exact hlast
  have hwords := isInsert_insertText ((first :: others).map (boundsOf first.keys)).length
    (t.plain c.table List.mem_cons_self) h.isPlain hsilent
  have hpositive : 0 < x.affected := by
    rw [UInt64.lt_iff_toNat_lt, haffected]
    exact Nat.succ_pos _
  rw [Executed.reply, hwords.1, if_neg Bool.false_ne_true, hwords.2, decide_eq_true hpositive, hid,
    h.lacks] at hread
  obtain rfl := Except.ok.inj hread
  exact ⟨added, id, hready, hrows, forall₂_hasRow hids hholds, rfl⟩

/-- **The ids of added records are those of their rows**, if no name in the statement has the
    word RETURNING. For a driver with a table that numbers its rows, whatever the table holds:
    records that can be added to it and are added have each its own id, under which the record is
    found, and what the table held before is still there. -/
theorem insert_stores (c : Collection) (t : NumberedTable e c.table c.options.primaryKey)
    (hs : t.Ready s) (h : c.Adds t first others) (hsilent : c.Silent first)
    (hrun : ((c.insert (first :: others)).run e.backend s).value = .ok rs) :
    c.Stored t first others rs s ((c.insert (first :: others)).run e.backend s).state := by
  obtain ⟨added, id, hready, hrows, hforall, hrs⟩ := insert_eq_ok hs h hsilent hrun
  have hnodup := t.nodup_ids hready
  rw [hrows, List.map_append, List.nodup_append] at hnodup
  exact {
    given := hrs ▸ forall₂_withIds _ _ _
    distinct := by
      rw [map_get?_of_forall₂ hforall]
      refine List.Nodup.map (fun id id' heq => ?_) hnodup.2.1
      exact Scalar.int.inj (Option.some.inj heq)
    added := ⟨added, hrows, hforall.length_eq.symm⟩
    found := by
      intro r' hr'
      have hflip : List.Forall₂ (flip (c.HasRow t first.keys (first :: others))) added rs :=
        hforall.flip
      obtain ⟨row, hrow, r, hr, rfl, hholds⟩ := exists_of_forall₂ hflip hr'
      have hmem : row ∈ t.rows ((c.insert (first :: others)).run e.backend s).state := by
        rw [hrows]
        exact List.mem_append_right _ hrow
      refine ⟨row.id, row.cells.toRecord, ?_, rowOfId_answers hready hmem, ?_⟩
      · rw [OrderedMap.get?_insert, if_pos rfl]
      · intro name hname
        have hne : name ≠ c.options.primaryKey := fun heq => h.key_notMem (heq ▸ hname)
        have hbound : (name, Bound.ofScalar ((r.get? name).getD .null)) ∈
            first.keys.zip (boundsOf first.keys r) := by
          obtain ⟨i, hi, hget⟩ := List.mem_iff_getElem.1 hname
          exact List.mem_iff_getElem?.2 ⟨i, by simp [boundsOf, hi, hget]⟩
        obtain ⟨cell, hcell, hvalue⟩ := hholds name _ hbound (h.kept r hr name hname)
        rw [t.get?_toRecord hready hmem hcell, Cell.toScalar_of_holds hvalue,
          OrderedMap.get?_insert, if_neg hne]
        exact congrArg some (h.returned r hr name hname)
    kept := by
      intro row hrow
      refine rowOfId_answers hready ?_
      rw [hrows]
      exact List.mem_append_left _ hrow }

/-- Two records, of which the second lacks a value, in a table that has given ids before. -/
theorem insert_stores_two_records :
    let c : Collection := ⟨"t", .default⟩
    let columns : List Column :=
      [⟨"id", .integer, false⟩, ⟨"name", .text, true⟩, ⟨"size", .real, false⟩]
    let t : NumberedTable Session.engine "t" "id" :=
      Session.numberedTable "t" "id" columns 0 (by decide)
    let table : Table := ⟨"t", columns, some 0, true, 7, [⟨3, [.int 3, .text "old", .null]⟩]⟩
    let s : Session := .ofDatabase ⟨[table]⟩
    let first : Record := .ofList [("name", .text "a"), ("size", .float 0.5)]
    let second : Record := .ofList [("name", .text "b")]
    let rs : List Record := [first.insert "id" (.int 8), second.insert "id" (.int 9)]
    let o := (c.insert [first, second]).run Session.engine.backend s
    t.Ready s ∧ c.Adds t first [second] ∧ c.Silent first ∧ o.value = .ok rs ∧
      c.Stored t first [second] rs s o.state := by
  intro c columns t table s first second rs o
  have hsound : s.Sound := by
    refine .ofDatabase ⟨List.nodup_singleton _, List.forall_mem_singleton.2 ⟨by decide, ?_, ?_, ?_⟩⟩
    · rintro place ⟨⟩
      decide
    · exact List.pairwise_singleton _ _
    · intro r hr
      obtain rfl := List.mem_singleton.1 hr
      exact ⟨rfl, by rintro place ⟨⟩; rfl⟩
  have hready : t.Ready s := ⟨table, hsound, rfl, by decide, ⟨rfl, false, rfl⟩, rfl⟩
  have hadds : c.Adds t first [second] := by
    refine ⟨by decide, by decide, by decide +kernel, ?_⟩
    change ∀ r ∈ [first, second], ∀ name ∈ ["name", "size"],
      ∃ column ∈ columns, column.name = name ∧
        column.affinity.Keeps (.ofScalar ((r.get? name).getD .null))
    decide +kernel
  have hsilent : c.Silent first := by decide +kernel
  have hvalue : o.value = .ok rs := by decide +kernel
  exact ⟨hready, hadds, hsilent, hvalue, c.insert_stores t hready hadds hsilent hvalue⟩

/-- The column `x$returning` is taken for the word RETURNING: the record that was added to a
    new table is answered without an id. -/
theorem not_stored_x_returning :
    let c : Collection := ⟨"t", .default⟩
    let columns : List Column := [⟨"id", .integer, false⟩, ⟨"x$returning", .text, false⟩]
    let t : NumberedTable Session.engine "t" "id" :=
      Session.numberedTable "t" "id" columns 0 (by decide)
    let create : Operation :=
      .update (.raw "CREATE TABLE t (id INTEGER PRIMARY KEY AUTOINCREMENT, x$returning TEXT)")
    let table : Table := ⟨"t", columns, some 0, true, 0, []⟩
    let s : Session := .ofDatabase ⟨[table]⟩
    let first : Record := .ofList [("x$returning", .text "a")]
    let o := (c.insert [first]).run Session.engine.backend s
    ((create.dialogue c).run Session.backend (.ofDatabase .empty)).state = s ∧ t.Ready s ∧
      c.Adds t first [] ∧ o.value = .ok [first] ∧ ¬ c.Stored t first [] [first] s o.state := by
  intro c columns t create table s first o
  have hcreate : ((create.dialogue c).run Session.backend (.ofDatabase .empty)).state = s := by
    decide +kernel
  have hready : t.Ready s :=
    ⟨table, hcreate ▸ Session.sound_of_empty _, rfl, by decide, ⟨rfl, false, rfl⟩, rfl⟩
  have hadds : c.Adds t first [] := by
    refine ⟨by decide, by decide, by decide +kernel, ?_⟩
    change ∀ r ∈ [first], ∀ name ∈ ["x$returning"],
      ∃ column ∈ columns, column.name = name ∧
        column.affinity.Keeps (.ofScalar ((r.get? name).getD .null))
    decide +kernel
  have hvalue : o.value = .ok [first] := by decide +kernel
  refine ⟨hcreate, hready, hadds, hvalue, ?_⟩
  intro h
  obtain ⟨id, row, hid, -⟩ := h.found first (List.mem_singleton_self first)
  cases hid

end Collection

end RowQuery

/-
  RowQuery — the rows of a table.

  A sound table has columns of different names and rows in the order of their ids; all rows
  are as wide as the table, and a key column holds the ids. Rows that leave their id open
  get the ids after the largest one that counts, one after the other, and go behind all
  other rows.

  * `Table.Sound`: the invariant;
  * `Table.Sound.addRow`, `Table.Sound.changeRow`, `Table.Sound.keepRows`: each change of rows
    keeps it;
  * `Table.numbered` are the rows that get the ids from one on;
  * `Table.Sound.addRows_open`: rows that leave their ids open are numbered so;
  * `table_replace`: a replaced table is found in its place.
-/
import Mathlib.Data.List.Nodup
import RowQuery.Database.Execution
import RowQuery.Proofs.Except

namespace RowQuery

namespace Database

namespace Table

variable {t t' : Table} {row : Row} {rows : List Row}

/-! ## The order of rows -/

theorem mem_insertRow {r : Row} : r ∈ insertRow row rows ↔ r = row ∨ r ∈ rows := by
  induction rows with
  | nil => simp [insertRow]
  | cons r' rows ih =>
    by_cases h : row.id < r'.id
    · simp [insertRow, h]
    · rw [insertRow, if_neg h, List.mem_cons, ih, List.mem_cons, or_left_comm]

/-- Rows in the order of their ids. -/
def Ascending (rows : List Row) : Prop := rows.Pairwise fun r r' => r.id < r'.id

/-- A row with a new id is put where it belongs. -/
theorem Ascending.insertRow (h : Ascending rows) (hnew : ∀ r ∈ rows, r.id ≠ row.id) :
    Ascending (insertRow row rows) := by
  induction rows with
  | nil => exact List.pairwise_singleton _ _
  | cons r rows ih =>
    obtain ⟨hfirst, hrest⟩ := List.pairwise_cons.1 h
    by_cases hlt : row.id < r.id
    · rw [Table.insertRow, if_pos hlt]
      refine List.pairwise_cons.2 ⟨?_, h⟩
      intro r' hr'
      rcases List.mem_cons.1 hr' with rfl | hr'
      · exact hlt
      · exact Int64.lt_trans hlt (hfirst r' hr')
    · rw [Table.insertRow, if_neg hlt]
      refine List.pairwise_cons.2 ⟨?_, ih hrest fun r' hr' => hnew r' (List.mem_cons_of_mem r hr')⟩
      intro r' hr'
      rcases mem_insertRow.1 hr' with rfl | hr'
      · exact Int64.lt_of_le_of_ne (Int64.not_lt.1 hlt) (hnew r List.mem_cons_self)
      · exact hfirst r' hr'

/-- A row with the largest id goes last. -/
theorem insertRow_of_lt (h : ∀ r ∈ rows, r.id < row.id) : insertRow row rows = rows ++ [row] := by
  induction rows with
  | nil => rfl
  | cons r rows ih =>
    have hnot : ¬ row.id < r.id := Int64.not_lt.2 (Int64.le_of_lt (h r List.mem_cons_self))
    rw [insertRow, if_neg hnot, ih fun r' hr' => h r' (List.mem_cons_of_mem r hr')]
    rfl

/-! ## The cells of a row -/

/-- A row fits a table: it has a cell for each column, and its id in the key column. -/
structure Fits (t : Table) (row : Row) : Prop where
  width : row.cells.length = t.columns.length
  key : ∀ place, t.key = some place → row.cells[place]? = some (.int row.id)

theorem length_cells (id : Int64) {values : List Value} (h : values.length = t.columns.length) :
    (t.cells id values).length = t.columns.length := by
  rw [cells, List.length_mapIdx, List.length_zip, h, Nat.min_self]

/-- A cell that does not hold the id is the given value, as its column keeps it. -/
theorem getElem?_cells (id : Int64) {values : List Value} {place : Nat} {column : Column}
    {v : Value} (hplace : t.key ≠ some place) (hcolumn : t.columns[place]? = some column)
    (hv : values[place]? = some v) : (t.cells id values)[place]? = some (column.affinity.store v) := by
  have hzip : (t.columns.zip values)[place]? = some (column, v) :=
    List.getElem?_zip_eq_some.2 ⟨hcolumn, hv⟩
  rw [cells, List.getElem?_mapIdx, hzip]
  simp [hplace]

theorem fits_cells (id : Int64) {values : List Value} (h : values.length = t.columns.length)
    (hkey : ∀ place, t.key = some place → place < t.columns.length) :
    t.Fits ⟨id, t.cells id values⟩ := by
  refine ⟨length_cells id h, ?_⟩
  intro place hplace
  have hlt := hkey place hplace
  have hzip : place < (t.columns.zip values).length := by
    rw [List.length_zip, h, Nat.min_self]
    exact hlt
  change (t.cells id values)[place]? = _
  rw [cells, List.getElem?_mapIdx, List.getElem?_eq_getElem hzip]
  simp [hplace]

/-! ## Sound tables -/

/-- **A sound table**: its columns have different names in any ASCII case, its rows are in
    the order of their ids, and all fit it. -/
structure Sound (t : Table) : Prop where
  names : (t.columns.map fun c => asciiLower c.name).Nodup
  keyed : ∀ place, t.key = some place → place < t.columns.length
  ascending : Ascending t.rows
  fits : ∀ r ∈ t.rows, t.Fits r

/-- A row that passes the check has the id of no row but the one that it replaces. -/
theorem id_of_check {replaced : Option Int64} (h : t.check row replaced = .ok ()) :
    ∀ r ∈ t.rows, r.id = row.id → replaced = some row.id := by
  intro r hr heq
  have hhas : t.hasId row.id = true := List.any_eq_true.2 ⟨r, hr, decide_eq_true heq⟩
  by_contra hne
  rw [check] at h
  split at h
  · cases h
  · rw [hhas, decide_eq_true hne] at h
    cases h

theorem addRow_eq (t : Table) (values : List Value) :
    t.addRow values = t.ownId values >>= fun own => own.elim t.nextId .ok >>= fun id =>
      t.check ⟨id, t.cells id values⟩ none >>= fun _ =>
        .ok ({ t with lastId := max t.lastId id, rows := insertRow ⟨id, t.cells id values⟩ t.rows },
          ⟨id, t.cells id values⟩) := by
  rw [addRow]
  cases t.ownId values with
  | error e => rfl
  | ok own => cases own <;> rfl

/-- What adding a row does: the row gets its own id or the next one, which must be new. -/
theorem addRow_eq_ok {values : List Value} (h : t.addRow values = .ok (t', row)) :
    ∃ own, t.ownId values = .ok own ∧ own.elim t.nextId .ok = .ok row.id ∧
      row = ⟨row.id, t.cells row.id values⟩ ∧ (∀ r ∈ t.rows, r.id ≠ row.id) ∧
      t' = { t with lastId := max t.lastId row.id, rows := insertRow row t.rows } := by
  rw [addRow_eq] at h
  obtain ⟨own, hown, h⟩ := except_bind_eq_ok.1 h
  obtain ⟨id, hid, h⟩ := except_bind_eq_ok.1 h
  obtain ⟨⟨⟩, hcheck, h⟩ := except_bind_eq_ok.1 h
  cases h
  refine ⟨own, hown, hid, rfl, ?_, rfl⟩
  intro r hr heq
  cases id_of_check hcheck r hr heq

/-- The id of a row that is given other values. -/
def changedId (t : Table) (old : Row) (values : List Value) : Except Refusal Int64 :=
  match t.key with
  | none => .ok old.id
  | some _ => t.ownId values >>= fun own => own.elim (.error .datatypeMismatch) .ok

theorem changeRow_eq (t : Table) (old : Row) (values : List Value) :
    t.changeRow old values = t.changedId old values >>= fun id =>
      t.check ⟨id, t.cells id values⟩ (some old.id) >>= fun _ =>
        .ok ({ t with rows := insertRow ⟨id, t.cells id values⟩ (t.rows.filter fun r => r.id ≠ old.id) },
          ⟨id, t.cells id values⟩) := by
  rw [changeRow, changedId]
  cases t.key with
  | none => rfl
  | some place =>
    cases t.ownId values with
    | error e => rfl
    | ok own => cases own <;> rfl

/-- What changing a row does: the new row has the values and takes the place of the old one,
    with an id that no other row has. -/
theorem changeRow_eq_ok {old : Row} {values : List Value}
    (h : t.changeRow old values = .ok (t', row)) :
    row = ⟨row.id, t.cells row.id values⟩ ∧ (∀ r ∈ t.rows, r.id = row.id → r.id = old.id) ∧
      t' = { t with rows := insertRow row (t.rows.filter fun r => r.id ≠ old.id) } := by
  rw [changeRow_eq] at h
  obtain ⟨id, -, h⟩ := except_bind_eq_ok.1 h
  obtain ⟨⟨⟩, hcheck, h⟩ := except_bind_eq_ok.1 h
  cases h
  refine ⟨rfl, ?_, rfl⟩
  intro r hr heq
  rw [heq]
  exact (Option.some.inj (id_of_check hcheck r hr heq)).symm

/-- **One more row keeps a table sound**, whatever its id is. -/
theorem Sound.addRow (hs : t.Sound) {values : List Value}
    (hwidth : values.length = t.columns.length) (h : t.addRow values = .ok (t', row)) :
    t'.Sound := by
  obtain ⟨own, -, -, hrow, hnew, rfl⟩ := addRow_eq_ok h
  have hfits : t.Fits row := by
    rw [hrow]
    exact fits_cells _ hwidth hs.keyed
  refine ⟨hs.names, hs.keyed, hs.ascending.insertRow hnew, ?_⟩
  intro r hr
  rcases mem_insertRow.1 hr with rfl | hr
  · exact ⟨hfits.width, hfits.key⟩
  · exact ⟨(hs.fits r hr).width, (hs.fits r hr).key⟩

/-- **A changed row keeps a table sound**, whether it keeps its id or gets another. -/
theorem Sound.changeRow (hs : t.Sound) {old : Row} {values : List Value}
    (hwidth : values.length = t.columns.length) (h : t.changeRow old values = .ok (t', row)) :
    t'.Sound := by
  obtain ⟨hrow, hids, rfl⟩ := changeRow_eq_ok h
  have hfits : t.Fits row := by
    rw [hrow]
    exact fits_cells _ hwidth hs.keyed
  refine ⟨hs.names, hs.keyed, Ascending.insertRow (hs.ascending.filter _) ?_, ?_⟩
  · intro r hr heq
    obtain ⟨hmem, hne⟩ := List.mem_filter.1 hr
    exact of_decide_eq_true hne (hids r hmem heq)
  · intro r hr
    rcases mem_insertRow.1 hr with rfl | hr
    · exact ⟨hfits.width, hfits.key⟩
    · have hold := hs.fits r (List.mem_filter.1 hr).1
      exact ⟨hold.width, hold.key⟩

/-- **Fewer rows keep a table sound.** -/
theorem Sound.keepRows (hs : t.Sound) (keep : Row → Bool) : (t.keepRows keep).Sound := by
  refine ⟨hs.names, hs.keyed, hs.ascending.filter _, ?_⟩
  intro r hr
  have hold := hs.fits r (List.mem_filter.1 hr).1
  exact ⟨hold.width, hold.key⟩

/-! ## Rows that leave their ids open -/

/-- Rows of values with the ids from one on. -/
def numbered (t : Table) (id : Int64) : List (List Value) → List Row
  | [] => []
  | vs :: vss => ⟨id, t.cells id vs⟩ :: numbered t (id + 1) vss

/-- The later version of a table has more rows behind those that it had. -/
structure Extends (t t' : Table) (added : List Row) : Prop where
  name : t'.name = t.name
  columns : t'.columns = t.columns
  key : t'.key = t.key
  counts : t'.counts = t.counts
  rows : t'.rows = t.rows ++ added

theorem Extends.refl (t : Table) : t.Extends t [] := ⟨rfl, rfl, rfl, rfl, (List.append_nil _).symm⟩

theorem Extends.trans {t'' : Table} {added more : List Row} (h : t.Extends t' added)
    (h' : t'.Extends t'' more) : t.Extends t'' (added ++ more) where
  name := h'.name.trans h.name
  columns := h'.columns.trans h.columns
  key := h'.key.trans h.key
  counts := h'.counts.trans h.counts
  rows := by rw [h'.rows, h.rows, List.append_assoc]

theorem max_eq_right {a b : Int64} (h : a ≤ b) : max a b = b := if_pos h

theorem le_max (a b : Int64) : a ≤ max a b ∧ b ≤ max a b := by
  change (a ≤ if a ≤ b then b else a) ∧ b ≤ if a ≤ b then b else a
  by_cases h : a ≤ b
  · rw [if_pos h]
    exact ⟨h, Int64.le_refl b⟩
  · rw [if_neg h]
    exact ⟨Int64.le_refl a, Int64.le_of_lt (Int64.not_le.1 h)⟩

theorem largestId_of_rows {before : List Row} (h : t.rows = before ++ [row]) :
    t.largestId = row.id := by
  rw [largestId, h, List.getLast?_concat]
  rfl

theorem Ascending.lt_of_concat {before : List Row} (h : Ascending (before ++ [row])) :
    ∀ r ∈ before, r.id < row.id := by
  intro r hr
  exact (List.pairwise_append.1 h).2.2 r hr row (List.mem_singleton_self row)

theorem Extends.ownId_eq {added : List Row} (h : t.Extends t' added) (values : List Value) :
    t'.ownId values = t.ownId values := by
  rw [ownId, ownId, h.key]

theorem Extends.numbered_eq {added : List Row} (h : t.Extends t' added) (id : Int64)
    (vss : List (List Value)) : t'.numbered id vss = t.numbered id vss := by
  induction vss generalizing id with
  | nil => rfl
  | cons vs vss ih => rw [numbered, numbered, ih, cells, cells, h.columns, h.key]

/-- All ids are at most the one after which new ones begin. -/
theorem Sound.le_ground (hs : t.Sound) : ∀ r ∈ t.rows, r.id ≤ t.ground := by
  intro r hr
  have hlargest : r.id ≤ t.largestId := by
    rcases List.eq_nil_or_concat' t.rows with h | ⟨before, last, h⟩
    · rw [h] at hr
      cases hr
    · have hasc := hs.ascending
      rw [h] at hr hasc
      rw [largestId_of_rows h]
      rcases List.mem_append.1 hr with hr | hr
      · exact Int64.le_of_lt (hasc.lt_of_concat r hr)
      · rw [List.mem_singleton.1 hr]
        exact Int64.le_refl _
  rw [ground]
  split
  · exact Int64.le_trans hlargest (le_max _ _).2
  · exact hlargest

/-- The next id is the one after that after which new ones begin, and larger. -/
theorem nextId_eq_ok {id : Int64} (h : t.nextId = .ok id) :
    id = t.ground + 1 ∧ id.toInt = t.ground.toInt + 1 := by
  rw [nextId] at h
  split at h
  · rename_i hlt
    cases h
    refine ⟨rfl, ?_⟩
    have hle := t.ground.le_toInt
    have hone : (1 : Int64).toInt = 1 := rfl
    simp only [Number.maxInt64] at hlt
    rw [Int64.toInt_add, hone, Int.bmod_eq_of_le] <;> omega
  · cases h

/-- **A row that leaves its id open** gets the next one and goes last. -/
theorem Sound.addRow_open (hs : t.Sound) {values : List Value} (hopen : t.ownId values = .ok none)
    (h : t.addRow values = .ok (t', row)) :
    row = ⟨t.ground + 1, t.cells (t.ground + 1) values⟩ ∧ t.Extends t' [row] ∧
      t'.ground = t.ground + 1 ∧ t'.ground.toInt = t.ground.toInt + 1 := by
  obtain ⟨own, hown, hnext, hrow, -, rfl⟩ := addRow_eq_ok h
  rw [hopen] at hown
  cases hown
  obtain ⟨hid, hint⟩ := nextId_eq_ok hnext
  have hlt : t.ground < row.id := by
    rw [Int64.lt_iff_toInt_lt]
    omega
  have hrows : insertRow row t.rows = t.rows ++ [row] :=
    insertRow_of_lt fun r hr => Int64.lt_of_le_of_lt (hs.le_ground r hr) hlt
  have hground : ground { t with lastId := max t.lastId row.id, rows := insertRow row t.rows } =
      row.id := by
    have hlargest : largestId { t with lastId := max t.lastId row.id, rows := insertRow row t.rows } =
        row.id := largestId_of_rows hrows
    rw [ground, hlargest]
    split
    · rename_i hcounts
      have hlast : t.lastId ≤ row.id := by
        refine Int64.le_trans ?_ (Int64.le_of_lt hlt)
        rw [ground, if_pos hcounts]
        exact (le_max _ _).1
      exact max_eq_right (by rw [max_eq_right hlast]; exact Int64.le_refl _)
    · rfl
  exact ⟨hid ▸ hrow, ⟨rfl, rfl, rfl, rfl, hrows⟩, hground.trans hid,
    (congrArg Int64.toInt hground).trans hint⟩

/-- **Rows that leave their ids open** get the ids after the largest one that counts, one after
    the other, and go behind all others. -/
theorem Sound.addRows_open {added : List Row} {vss : List (List Value)} (hs : t.Sound)
    (hwidth : ∀ vs ∈ vss, vs.length = t.columns.length)
    (hopen : ∀ vs ∈ vss, t.ownId vs = .ok none) (h : t.addRows vss = .ok (t', added)) :
    added = t.numbered (t.ground + 1) vss ∧ t.Extends t' added ∧ t'.Sound ∧
      t'.ground.toInt = t.ground.toInt + vss.length := by
  induction vss generalizing t added with
  | nil =>
    cases h
    exact ⟨rfl, .refl _, hs, (Int.add_zero _).symm⟩
  | cons vs vss ih =>
    obtain ⟨⟨t₁, row⟩, hrow, h⟩ := except_bind_eq_ok.1 h
    obtain ⟨⟨t₂, rest⟩, hrest, h⟩ := except_bind_eq_ok.1 h
    cases h
    have hs₁ := hs.addRow (hwidth vs List.mem_cons_self) hrow
    obtain ⟨hfirst, hext, hground, hint⟩ := hs.addRow_open (hopen vs List.mem_cons_self) hrow
    obtain ⟨hnumbered, hmore, hsound, hints⟩ := ih hs₁
      (fun vs' hvs' => by rw [hext.columns]; exact hwidth vs' (List.mem_cons_of_mem vs hvs'))
      (fun vs' hvs' => by rw [hext.ownId_eq]; exact hopen vs' (List.mem_cons_of_mem vs hvs'))
      hrest
    refine ⟨?_, hext.trans hmore, hsound, ?_⟩
    · rw [hfirst, hnumbered, hground, hext.numbered_eq, numbered]
    · rw [hints, hint, List.length_cons]
      omega

/-- There are fewer ids that rows can leave open than words of 64 bits. -/
theorem Sound.length_addRows_open {added : List Row} {vss : List (List Value)} (hs : t.Sound)
    (hwidth : ∀ vs ∈ vss, vs.length = t.columns.length)
    (hopen : ∀ vs ∈ vss, t.ownId vs = .ok none) (h : t.addRows vss = .ok (t', added)) :
    vss.length < UInt64.size := by
  obtain ⟨-, -, -, hints⟩ := hs.addRows_open hwidth hopen h
  have hle := t.ground.le_toInt
  have hlt := t'.ground.toInt_lt
  have hsize : UInt64.size = 18446744073709551616 := rfl
  omega

end Table

/-! ## Tables of a database -/

variable {d : Database} {t t' : Table} {name : String}

theorem sameName_iff {a b : String} : sameName a b = true ↔ asciiLower a = asciiLower b :=
  decide_eq_true_iff

theorem table_eq_ok :
    d.table name = .ok t ↔ d.tables.find? (fun u => sameName u.name name) = some t := by
  rw [table]
  cases d.tables.find? (fun u => sameName u.name name) with
  | none => exact ⟨nofun, nofun⟩
  | some u =>
    exact ⟨fun h => congrArg some (Except.ok.inj h),
      fun h => congrArg Except.ok (Option.some.inj h)⟩

/-- A replaced table is found under its name. -/
theorem table_replace (ht : d.table name = .ok t) (hname : t'.name = t.name) :
    (d.replace t').table name = .ok t' := by
  have hfind := table_eq_ok.1 ht
  have hfound := List.find?_some hfind
  have hsame : asciiLower t.name = asciiLower name := sameName_iff.1 hfound
  have hreplaced : ∀ us : List Table, us.find? (fun u => sameName u.name name) = some t →
      (us.map fun u => if sameName u.name t'.name then t' else u).find?
        (fun u => sameName u.name name) = some t' := by
    intro us hus
    induction us with
    | nil => exact absurd hus (by simp)
    | cons u us ih =>
      rw [List.map_cons, List.find?_cons]
      by_cases hu : sameName u.name name = true
      · have htrue : sameName u.name t'.name = true := by
          rw [sameName_iff, hname, hsame]
          exact sameName_iff.1 hu
        have hcalled : sameName t'.name name = true := by rw [sameName_iff, hname, hsame]
        rw [if_pos htrue, hcalled]
      · have hfalse : ¬ sameName u.name t'.name = true := by
          rw [sameName_iff, hname, hsame, ← sameName_iff]
          exact hu
        rw [Bool.not_eq_true] at hu
        rw [List.find?_cons, hu] at hus
        rw [if_neg hfalse, hu]
        exact ih hus
  exact table_eq_ok.2 (hreplaced d.tables hfind)

end Database

end RowQuery

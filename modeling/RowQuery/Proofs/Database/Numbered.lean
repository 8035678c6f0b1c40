/-
  RowQuery — the tables of a session number their rows.

  A sound session with a table whose ids are in a column, and without an open transaction, does
  what is assumed of a driver with such a table.

  * `Affinity.Keeps`: what a column stores unchanged;
  * `Session.Has`: a session has a table, and a connection to give;
  * `Session.Has.selecting`, `Session.Has.inserting`: what a query and an insertion do to it;
  * `Session.numberedTable`: such a table numbers its rows.
-/
import RowQuery.Proofs.Backend.NumberedTable
import RowQuery.Proofs.Database.Filling
import RowQuery.Proofs.Database.Lookup
import RowQuery.Proofs.Database.Soundness

namespace RowQuery

open Database

/-! ## Values that are kept -/

namespace Database.Affinity

/-- What a column stores unchanged: null, and the values of its own kind, of which a double must
    be the same when it is stored. -/
def Keeps (a : Affinity) : Bound → Prop
  | .null => True
  | .int _ => a = .integer
  | .real x => a = .real ∧ a.store (.ofBound (.real x)) = .real x
  | .text _ => a = .text
  | .bool _ => False

instance (a : Affinity) : (b : Bound) → Decidable (a.Keeps b)
  | .null => isTrue True.intro
  | .int _ => inferInstanceAs (Decidable (a = .integer))
  | .real x => inferInstanceAs (Decidable (a = .real ∧ a.store (.ofBound (.real x)) = .real x))
  | .text _ => inferInstanceAs (Decidable (a = .text))
  | .bool _ => isFalse id

/-- The cell of a value that is kept holds the value. -/
theorem Keeps.holds {a : Affinity} {b : Bound} (h : a.Keeps b) :
    (Cell.ofValue (a.store (.ofBound b))).Holds b := by
  cases b with
  | null => cases a <;> rfl
  | bool b => cases h
  | int n =>
    obtain rfl : a = .integer := h
    exact ⟨rfl, rfl⟩
  | text s =>
    obtain rfl : a = .text := h
    exact ⟨rfl, rfl⟩
  | real x =>
    obtain ⟨rfl, hstore⟩ := h
    by_cases hnan : x.isNaN = true
    · rw [Value.ofBound, Value.ofFloat, if_pos hnan] at hstore
      cases hstore
    · rw [hstore, Cell.Holds, if_neg hnan]
      exact ⟨rfl, rfl⟩

end Database.Affinity

/-! ## Rows with ids -/

namespace Database.Table

variable {t t' : Table} {added : List Row}

theorem map_id_numbered (t : Table) (id : Int64) (vss : List (List Value)) :
    (t.numbered id vss).map Row.id = idsFrom id vss.length := by
  induction vss generalizing id with
  | nil => rfl
  | cons vs vss ih => rw [numbered, List.map_cons, ih, List.length_cons, idsFrom]

theorem Extends.stored_eq (h : t.Extends t' added) : t'.stored = t.stored := by
  funext row
  rw [stored, stored, h.columns]

theorem Sound.map_fst_stored (hs : t.Sound) {row : Row} (hrow : row ∈ t.rows) :
    (t.stored row).cells.map Prod.fst = t.columns.map Column.name := by
  refine List.map_fst_zip (Nat.le_of_eq ?_)
  rw [List.length_map, List.length_map, (hs.fits row hrow).width]

theorem Sound.nodup_names (hs : t.Sound) : (t.columns.map Column.name).Nodup := by
  have hnames := hs.names
  rw [← Function.comp_def asciiLower Column.name, ← List.map_map] at hnames
  exact hnames.of_map

theorem Sound.nodup_ids (hs : t.Sound) : (t.rows.map Row.id).Nodup := by
  rw [List.Nodup, List.pairwise_map]
  exact hs.ascending.imp fun hlt => Int64.ne_of_lt hlt

/-- Values that do not name the column of the ids leave the id open. -/
theorem Sound.ownId_rowOf (hs : t.Sound) {key : String} {place : Nat} (hk : t.KeyedBy key place)
    {names : List String} (hnames : ∀ name ∈ names, name ∈ t.columns.map Column.name)
    (hkey : key ∉ names) (block : List Value) : t.ownId (t.rowOf names block) = .ok none := by
  obtain ⟨notNull, hcolumn⟩ := hk.column
  have hnull : (t.rowOf names block)[place]? = some .null :=
    hs.getElem?_rowOf_of_notMem hnames hcolumn hkey
  have hown : (t.key.bind fun place => (t.rowOf names block)[place]?) = some .null := by
    rw [hk.key]
    exact hnull
  rw [ownId]
  simp only [hown]

/-- A row of values holds those that the columns keep. -/
theorem Sound.holdsAll_cells (hs : t.Sound) {key : String} {place : Nat} (hk : t.KeyedBy key place)
    {names : List String} (hnames : ∀ name ∈ names, name ∈ t.columns.map Column.name)
    (hnodup : names.Nodup) (hkey : key ∉ names) (id : Int64) (bounds : List Bound) :
    (t.stored ⟨id, t.cells id (t.rowOf names (bounds.map Value.ofBound))⟩).HoldsAll
      (fun name b => ∃ c ∈ t.columns, c.name = name ∧ c.affinity.Keeps b) names bounds := by
  rintro name b hb ⟨c, hc, rfl, hkeeps⟩
  obtain ⟨i, hi⟩ := List.mem_iff_getElem?.1 hc
  have hother : t.key ≠ some i := by
    rintro hplace
    obtain ⟨notNull, hcolumn⟩ := hk.column
    rw [hk.key] at hplace
    obtain rfl := Option.some.inj hplace
    rw [hcolumn] at hi
    obtain rfl := Option.some.inj hi
    exact hkey (List.of_mem_zip hb).1
  have hvalue : (t.rowOf names (bounds.map Value.ofBound))[i]? = some (.ofBound b) := by
    refine hs.getElem?_rowOf hnames hnodup hi ?_
    rw [List.zip_map_right]
    exact List.mem_map_of_mem hb
  have hcell := getElem?_cells id hother hi hvalue
  refine ⟨.ofValue (c.affinity.store (.ofBound b)), ?_, hkeeps.holds⟩
  refine List.mem_iff_getElem?.2 ⟨i, List.getElem?_zip_eq_some.2 ⟨?_, ?_⟩⟩
  · rw [List.getElem?_map, hi]
    rfl
  · rw [List.getElem?_map, hcell]
    rfl

/-- **The rows that are numbered hold what is bound**, one by one. -/
theorem Sound.forall₂_holdsAll (hs : t.Sound) {key : String} {place : Nat}
    (hk : t.KeyedBy key place) {names : List String}
    (hnames : ∀ name ∈ names, name ∈ t.columns.map Column.name) (hnodup : names.Nodup)
    (hkey : key ∉ names) (id : Int64) (matrix : List (List Bound)) :
    List.Forall₂ (fun bounds row => StoredRow.HoldsAll row
        (fun name b => ∃ c ∈ t.columns, c.name = name ∧ c.affinity.Keeps b) names bounds)
      matrix ((t.numbered id (t.rowsOf names matrix)).map t.stored) := by
  induction matrix generalizing id with
  | nil => exact .nil
  | cons bounds matrix ih =>
    exact .cons (hs.holdsAll_cells hk hnames hnodup hkey id bounds) (ih (id + 1))

end Database.Table

/-! ## Sessions with a table -/

namespace Session

variable {s s' : Session} {table key : String} {columns : List Column} {place : Nat}

/-- **A session has a table** whose ids are in a column, and a connection to give. -/
structure Has (s : Session) (table key : String) (columns : List Column) (place : Nat)
    (t : Table) : Prop where
  sound : s.Sound
  idle : s.transaction = none
  found : s.published.table table = .ok t
  keyed : t.KeyedBy key place
  columns : t.columns = columns

/-- The rows of a table, as they are stored. -/
def storedRows (s : Session) (table : String) : List StoredRow :=
  match s.published.table table with
  | .ok t => t.rows.map t.stored
  | .error _ => []

namespace Has

variable {t : Table} {names : List String} {matrix : List (List Bound)} {x : Executed}

theorem sound_table (h : s.Has table key columns place t) : t.Sound := h.sound.published.table h.found

theorem storedRows_eq (h : s.Has table key columns place t) :
    s.storedRows table = t.rows.map t.stored := by
  rw [storedRows, h.found]

/-- What is carried out on the pool, the database carries out. -/
theorem run_eq (h : s.Has table key columns place t) (sql : String) (bound : List Bound) :
    engine.run .pool sql bound s =
      ((s.published.run sql bound).1, ⟨(s.published.run sql bound).2, none⟩) := by
  obtain ⟨published, transaction⟩ := s
  obtain rfl : transaction = none := h.idle
  rfl

theorem selecting (h : s.Has table key columns place t) (htable : Token.IsPlain table)
    (hkey : Token.IsPlain key) (id : Int64) :
    ∃ x, engine.run .pool (Sql.equalText table key) [.int id] s = (.ok x, s) ∧
      x.rows = ((s.storedRows table).filter fun row => row.id = id).map StoredRow.cells := by
  have hrun : engine.run .pool (Sql.equalText table key) [.int id] s =
      (.ok ⟨(t.rows.filter fun r => r.id = id).map fun row => (t.stored row).cells, 0, 0⟩, s) := by
    rw [h.run_eq, run_equalText h.found h.sound_table h.keyed htable hkey id, ← h.idle]
  refine ⟨_, hrun, ?_⟩
  rw [h.storedRows_eq, List.filter_map, List.map_map]
  rfl

/-- **An insertion that is carried out** adds its rows to the table. -/
theorem inserting (h : s.Has table key columns place t) (htable : Token.IsPlain table)
    (hplain : ∀ name ∈ names, Token.IsPlain name)
    (hnames : ∀ name ∈ names, name ∈ columns.map Column.name) (hkey : key ∉ names)
    (hmatrix : matrix ≠ []) (hwidths : ∀ bounds ∈ matrix, bounds.length = names.length)
    (hrun : engine.run .pool (Sql.insertText table names matrix.length) matrix.flatten s =
      (.ok x, s')) :
    ∃ t' added, s'.Has table key columns place t' ∧ t.Extends t' added ∧
      added = t.numbered (t.ground + 1) (t.rowsOf names matrix) ∧
      matrix.length < UInt64.size ∧ x = told [Table.addition added] := by
  have hsound : s'.Sound := by
    have htext := h.sound.text .pool (Sql.insertText table names matrix.length) matrix.flatten
    change (engine.run .pool _ _ s).2.Sound at htext
    rwa [hrun] at htext
  have hs := h.sound_table
  rw [h.run_eq] at hrun
  obtain ⟨hx, rfl⟩ := Prod.ext_iff.1 hrun
  obtain ⟨t', added, hadded, hd, rfl⟩ := run_insertText h.found htable hplain
    (h.columns ▸ hnames) hmatrix hwidths (Prod.ext hx rfl)
  have hopen : ∀ vs ∈ t.rowsOf names matrix,
      vs.length = t.columns.length ∧ t.ownId vs = .ok none := by
    intro vs hvs
    obtain ⟨bounds, -, rfl⟩ := List.mem_map.1 hvs
    exact ⟨List.length_map _, hs.ownId_rowOf h.keyed (h.columns ▸ hnames) hkey _⟩
  have hwidth := fun vs hvs => (hopen vs hvs).1
  have hown := fun vs hvs => (hopen vs hvs).2
  obtain ⟨hnumbered, hext, -, -⟩ := hs.addRows_open hwidth hown hadded
  have hlength := hs.length_addRows_open hwidth hown hadded
  rw [Table.length_rowsOf] at hlength
  refine ⟨t', added, ⟨hsound, rfl, ?_, ?_, hext.columns.trans h.columns⟩, hext, hnumbered,
    hlength, rfl⟩
  · exact (congrArg (Database.table · table) hd).trans (table_replace h.found hext.name)
  · exact ⟨hext.key.trans h.keyed.key, hext.columns ▸ h.keyed.column⟩

end Has

/-- What is told of rows that were numbered. -/
theorem told_addition_numbered (t : Table) (id : Int64) {vss : List (List Value)} (hne : vss ≠ [])
    (hlength : vss.length < UInt64.size) :
    ((t.numbered id vss).map Row.id).getLast? =
        some (told [Table.addition (t.numbered id vss)]).lastId ∧
      (told [Table.addition (t.numbered id vss)]).affected.toNat = vss.length := by
  have hnumbered : (t.numbered id vss).length = vss.length := by
    rw [← List.length_map Row.id, t.map_id_numbered, length_idsFrom]
  constructor
  · cases vss with
    | nil => exact absurd rfl hne
    | cons vs vss =>
      have hlast := getLast?_idsFrom id vss.length
      rw [← List.length_cons, ← t.map_id_numbered] at hlast
      rw [hlast]
      rw [List.getLast?_map] at hlast
      change _ = some ((((t.numbered id (vs :: vss)).getLast?.map Row.id).or none).getD 0)
      rw [hlast]
      rfl
  · change (((t.numbered id vss).length + 0).toUInt64).toNat = _
    rw [Nat.add_zero, hnumbered]
    exact UInt64.toNat_ofNat_of_lt' hlength

/-- **A table of a session numbers its rows.** -/
def numberedTable (table key : String) (columns : List Column) (place : Nat)
    (plain : ∀ name ∈ table :: key :: columns.map Column.name, Token.IsPlain name) :
    NumberedTable engine table key where
  columns := columns.map Column.name
  Ready s := ∃ t, s.Has table key columns place t
  rows s := s.storedRows table
  Keeps name b := ∃ c ∈ columns, c.name = name ∧ c.affinity.Keeps b
  plain := plain
  nodup_columns := by
    rintro s ⟨t, h⟩
    exact h.columns ▸ h.sound_table.nodup_names
  names := by
    rintro s ⟨t, h⟩ row hrow
    rw [h.storedRows_eq] at hrow
    obtain ⟨r, hr, rfl⟩ := List.mem_map.1 hrow
    exact h.columns ▸ h.sound_table.map_fst_stored hr
  nodup_ids := by
    rintro s ⟨t, h⟩
    rw [h.storedRows_eq, List.map_map]
    exact h.sound_table.nodup_ids
  selecting := by
    rintro s ⟨t, h⟩ id
    exact h.selecting (plain _ (by simp)) (plain _ (by simp)) id
  inserting := by
    rintro s s' names matrix x ⟨t, h⟩ hnodup hnames hkey hmatrix hwidths hrun
    have hplain : ∀ name ∈ names, Token.IsPlain name := fun name hname =>
      plain name (List.mem_cons_of_mem _ (List.mem_cons_of_mem _ (hnames name hname)))
    obtain ⟨t', added, h', hext, rfl, hlength, rfl⟩ := h.inserting (plain _ (by simp)) hplain
      hnames hkey hmatrix hwidths hrun
    have hne : t.rowsOf names matrix ≠ [] := mt List.map_eq_nil_iff.1 hmatrix
    have hcount := t.length_rowsOf names matrix
    obtain ⟨hlast, haffected⟩ := told_addition_numbered t (t.ground + 1) hne (hcount ▸ hlength)
    refine ⟨⟨t', h'⟩, (t.numbered (t.ground + 1) (t.rowsOf names matrix)).map t.stored, ?_,
      ⟨t.ground + 1, ?_⟩, ?_, haffected.trans hcount, ?_⟩
    · rw [h.storedRows_eq, h'.storedRows_eq, hext.rows, List.map_append, hext.stored_eq]
    · rw [List.map_map, ← hcount]
      exact t.map_id_numbered _ _
    · rw [← List.getLast?_map, List.map_map]
      exact hlast
    · have hholds := h.sound_table.forall₂_holdsAll h.keyed (h.columns ▸ hnames) hnodup hkey
        (t.ground + 1) matrix
      rwa [h.columns] at hholds

end Session

end RowQuery

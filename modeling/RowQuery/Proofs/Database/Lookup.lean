/-
  RowQuery — the row of an id.

  A query that compares the key column with an integer is read as one of the rows of its
  table, and answered with those that have the integer as their id; in a sound table there
  is at most one.

  * `Command.ofTokens_equalText`: the query that is read;
  * `run_equalText`: it is what a query by the key column gives back.
-/
import RowQuery.Proofs.Backend.NumberedTable
import RowQuery.Proofs.Database.Rows
import RowQuery.Proofs.Database.Selecting
import RowQuery.Proofs.OrderedMap
import RowQuery.Proofs.Sql.Words

namespace RowQuery

namespace Database

open Reading

variable {table column : String}

theorem toList_equalText (table column : String) :
    (Sql.equalText table column).toList =
      "SELECT".toList ++ ' ' :: '*' :: ' ' :: ("FROM".toList ++ ' ' :: (table.toList ++ ' ' ::
        ("WHERE".toList ++ ' ' :: (column.toList ++ ' ' :: ("=".toList ++ [' ', '?']))))) := by
  have hselect : "SELECT * FROM ".toList = "SELECT".toList ++ ' ' :: '*' :: ' ' ::
      ("FROM".toList ++ [' ']) := rfl
  have hwhere : " WHERE ".toList = ' ' :: ("WHERE".toList ++ [' ']) := rfl
  have hmark : " = ?".toList = ' ' :: ("=".toList ++ [' ', '?']) := rfl
  change ("SELECT * FROM " ++ table ++ " WHERE " ++ column ++ " = ?").toList = _
  simp only [String.toList_append, hselect, hwhere, hmark, List.append_assoc, List.cons_append,
    List.nil_append]

/-- The tokens of the query. -/
def equalTokens (table column : String) : List Token :=
  word [] "SELECT" :: sign [' '] "*" :: word [' '] "FROM" :: word [' '] table ::
    word [' '] "WHERE" :: Expr.equationTokens [' '] column 1

theorem ofStatement_equalText (htable : Token.IsPlain table) (hcolumn : Token.IsPlain column) :
    Token.ofStatement (Sql.equalText table column) = equalTokens table column := by
  rw [Token.ofStatement, toList_equalText, Token.scan_word (by decide), Token.scan_blank,
    List.nil_append, Token.scan_lone (by decide), Token.scan_blank, List.nil_append,
    Token.scan_word (by decide), Token.scan_blank, List.nil_append, Token.scan_word htable.1,
    Token.scan_blank, List.nil_append, Token.scan_word (by decide), Token.scan_blank,
    List.nil_append, Token.scan_word hcolumn.1, Token.scan_blank, List.nil_append,
    Token.scan_comparison (by decide), Token.scan_blank, List.nil_append, Token.scan_mark rfl,
    Token.scan_nil]
  rfl

theorem single_equalText (htable : Token.IsPlain table) (hcolumn : Token.IsPlain column) :
    Token.Single (Token.ofStatement (Sql.equalText table column)) := by
  rw [ofStatement_equalText htable hcolumn]
  simp [Token.Single, equalTokens, Expr.equationTokens, Token.isSymbol, word, sign]

/-- The query of the rows that have a value in a column. -/
def equalQuery (table column : String) : Query :=
  .select ⟨[.all], some (table, none), some (.compare .eq (.name none column false) (.mark 1)), [], [],
    none⟩

/-- **The text is read** as that query. -/
theorem Command.ofTokens_equalText (htable : Token.IsPlain table)
    (hcolumn : Token.IsPlain column) :
    Command.ofTokens (Token.ofStatement (Sql.equalText table column)) =
      .ok (some ⟨[], .query (equalQuery table column)⟩) := by
  obtain ⟨equation, hequation⟩ : ∃ ts, ts = Expr.equationTokens [' '] column 1 := ⟨_, rfl⟩
  have hreading := Expr.reading_equation hcolumn [' '] 1 Expr.ends_nil
  rw [List.append_nil, ← hequation] at hreading
  have hitems : commaList Item.reading (sign [' '] "*" :: word [' '] "FROM" :: word [' '] table ::
      word [' '] "WHERE" :: equation) =
        .ok ([.all], word [' '] "FROM" :: word [' '] table :: word [' '] "WHERE" :: equation) := rfl
  have hsource : after? "from" tableReading (word [' '] "FROM" :: word [' '] table ::
      word [' '] "WHERE" :: equation) = .ok (some (table, none), word [' '] "WHERE" :: equation) := by
    have hfrom : keyword? "from" (word [' '] "FROM" :: word [' '] table ::
        word [' '] "WHERE" :: equation) =
          .ok (true, word [' '] table :: word [' '] "WHERE" :: equation) := rfl
    have htables : tableReading (word [' '] table :: word [' '] "WHERE" :: equation) =
        .ok ((table, none), word [' '] "WHERE" :: equation) := by
      rw [tableReading, bind_of_ok (name_word htable)]
      rfl
    rw [after?, bind_of_ok hfrom, if_pos rfl, bind_of_ok htables]
    rfl
  have hfilter : filter? (word [' '] "WHERE" :: equation) =
      .ok (some (.compare .eq (.name none column false) (.mark 1)), []) := by
    have hwhere : keyword? "where" (word [' '] "WHERE" :: equation) = .ok (true, equation) := rfl
    rw [filter?, after?, bind_of_ok hwhere, if_pos rfl, bind_of_ok hreading]
    rfl
  have hselect : Select.reading (sign [' '] "*" :: word [' '] "FROM" :: word [' '] table ::
      word [' '] "WHERE" :: equation) = .ok (⟨[.all], some (table, none),
        some (.compare .eq (.name none column false) (.mark 1)), [], [], none⟩, []) := by
    rw [Select.reading, bind_of_ok hitems, bind_of_ok hsource, bind_of_ok hfilter]
    rfl
  rw [hequation] at hselect
  exact Command.ofTokens_select (ofStatement_equalText htable hcolumn) hselect

/-! ## The rows of the query -/

/-- The outputs of all columns. -/
def columnOutputs (columns : List (String × Option Affinity)) : List Output :=
  columns.mapIdx fun place c => ⟨c.1, false, .column place c.2⟩

theorem outputColumns_columnOutputs (columns : List (String × Option Affinity)) :
    outputColumns (columnOutputs columns) = columns := by
  refine List.ext_getElem? fun place => ?_
  rw [outputColumns, columnOutputs, List.getElem?_map, List.getElem?_mapIdx]
  cases columns[place]? <;> rfl

theorem term_columnOutputs {columns : List (String × Option Affinity)} {o : Output}
    (h : o ∈ columnOutputs columns) : ∃ place affinity, o.term = .column place affinity := by
  obtain ⟨place, hplace, rfl⟩ := List.mem_mapIdx.1 h
  exact ⟨_, _, rfl⟩

/-- All columns of a row are the row. -/
theorem outputRow_columnOutputs {columns : List (String × Option Affinity)} {row : List Value}
    (h : row.length = columns.length) : outputRow (columnOutputs columns) (.single row) = row := by
  refine List.ext_getElem? fun place => ?_
  rw [outputRow, columnOutputs, List.getElem?_map, List.getElem?_mapIdx]
  by_cases hplace : place < columns.length
  · rw [List.getElem?_eq_getElem hplace]
    have hrow : place < row.length := h ▸ hplace
    change some ((row[place]?).getD .null) = _
    rw [List.getElem?_eq_getElem hrow]
    rfl
  · rw [List.getElem?_eq_none (Nat.le_of_not_lt hplace),
      List.getElem?_eq_none (h ▸ Nat.le_of_not_lt hplace)]
    rfl

/-! ## The rows of an id -/

/-- The term that compares a key with an integer. -/
def keyTerm (place : Nat) (id : Int64) : Term :=
  .compare .eq .numbers (.column place (some .integer)) (.value (.int id))

theorem holds_keyTerm {row : List Value} {place : Nat} {n : Int64} (id : Int64)
    (h : row[place]? = some (.int n)) : (keyTerm place id).holds row = decide (n = id) := by
  have heval : (Term.column place (some .integer)).eval (.single row) = .int n := by
    change (row[place]?).getD .null = _
    rw [h]
    rfl
  have hvalue : (keyTerm place id).eval (.single row) =
      .ofTruth (some (Comparator.eq.holds (compare n.toInt id.toInt))) := by
    change Value.ofTruth (comparison .eq .numbers
      ((Term.column place (some .integer)).eval (.single row)) (.int id)) = _
    rw [heval]
    rfl
  rw [Term.holds, hvalue]
  by_cases heq : n = id
  · subst heq
    have hcompare : compare n.toInt n.toInt = .eq := Int.compare_eq_eq.2 rfl
    simp only [hcompare, decide_true]
    rfl
  · have hne : compare n.toInt id.toInt ≠ .eq :=
      fun h => heq (Int64.toInt_inj.1 (Int.compare_eq_eq.1 h))
    have hfalse : Comparator.eq.holds (compare n.toInt id.toInt) = false := decide_eq_false hne
    rw [hfalse, decide_eq_false heq]
    rfl

namespace Table

variable {t : Table} {place : Nat}

/-- The ids of a table are in a column. -/
structure KeyedBy (t : Table) (column : String) (place : Nat) : Prop where
  key : t.key = some place
  column : ∃ notNull, t.columns[place]? = some ⟨column, .integer, notNull⟩

/-- The place of a key column is found by its name. -/
theorem Sound.column?_key (hs : t.Sound) (hk : t.KeyedBy column place) {s : Scope}
    (hcolumns : s.columns = t.heading) :
    s.column? column = some (.column place (some .integer)) := by
  obtain ⟨notNull, hcolumn⟩ := hk.column
  obtain ⟨hlt, hget⟩ := List.getElem?_eq_some_iff.1 hcolumn
  have hfind : t.heading.findIdx? (fun c => sameName c.1 column) = some place := by
    rw [heading, List.findIdx?_map, List.findIdx?_eq_some_iff_getElem]
    refine ⟨hlt, ?_, ?_⟩
    · rw [hget]
      exact decide_eq_true rfl
    · intro j hj hsame
      have hjlt : j < t.columns.length := Nat.lt_trans hj hlt
      have hname : asciiLower t.columns[j].name = asciiLower t.columns[place].name := by
        rw [hget]
        exact of_decide_eq_true hsame
      have hmapped : ∀ k (hk : k < t.columns.length),
          (t.columns.map fun c => asciiLower c.name)[k]? = some (asciiLower t.columns[k].name) := by
        intro k hk
        rw [List.getElem?_map, List.getElem?_eq_getElem hk]
        rfl
      have hsame : (t.columns.map fun c => asciiLower c.name)[j]? =
          (t.columns.map fun c => asciiLower c.name)[place]? := by
        rw [hmapped j hjlt, hmapped place hlt, hname]
      exact Nat.ne_of_lt hj ((List.getElem?_inj (by simpa using hjlt) hs.names).1 hsame)
  have hheading : t.heading[place]? = some (column, some .integer) := by
    rw [heading, List.getElem?_map, hcolumn]
    rfl
  rw [Scope.column?, hcolumns, hfind]
  change some (Term.column place ((t.heading[place]?).bind Prod.snd)) = _
  rw [hheading]
  rfl

theorem KeyedBy.heading_ne_nil (hk : t.KeyedBy column place) : t.heading.isEmpty = false := by
  obtain ⟨notNull, hcolumn⟩ := hk.column
  rw [heading]
  cases h : t.columns with
  | nil =>
    rw [h] at hcolumn
    cases hcolumn
  | cons c cs => rfl

/-- The rows that pass the comparison of their key are those with the id. -/
theorem Sound.filter_keyTerm (hs : t.Sound) (hk : t.KeyedBy column place) (id : Int64) :
    (t.rows.map Row.cells).filter (fun row => (keyTerm place id).holds row) =
      (t.rows.filter fun r => r.id = id).map Row.cells := by
  rw [List.filter_map]
  congr 1
  refine List.filter_congr fun r hr => ?_
  exact holds_keyTerm id ((hs.fits r hr).key place hk.key)

/-- **A query of the rows with an id** has those. -/
theorem Sound.run_equalQuery (hs : t.Sound) (hk : t.KeyedBy column place) {lookup : Lookup}
    {table : String} (ht : lookup table = .ok t.toRelation) (id : Int64) :
    (equalQuery table column).run lookup [.int id] =
      .ok ⟨t.heading, (t.rows.filter fun r => r.id = id).map Row.cells, none⟩ := by
  have houtputs : Scope.allOutputs ⟨table, t.heading, [.int id]⟩ true [.all] =
      .ok (columnOutputs t.heading) := by
    have hall : Scope.outputs ⟨table, t.heading, [.int id]⟩ true .all =
        .ok (columnOutputs t.heading) := by
      change (if t.heading.isEmpty then _ else _) = _
      rw [hk.heading_ne_nil]
      rfl
    rw [Scope.allOutputs, List.mapM_cons, hall]
    change Except.ok (columnOutputs t.heading ++ []) = _
    rw [List.append_nil]
  have hterm : Scope.resolve ⟨table, t.heading, [.int id]⟩ false
      (.compare .eq (.name none column false) (.mark 1)) = .ok (keyTerm place id) := by
    have hname : Scope.resolve ⟨table, t.heading, [.int id]⟩ false (.name none column false) =
        .ok (.column place (some .integer)) := by
      change Scope.name _ none column false = _
      rw [Scope.name, hs.column?_key hk rfl]
    change (Scope.resolve ⟨table, t.heading, [.int id]⟩ false (.name none column false) >>= _) = _
    rw [hname]
    rfl
  have hfilter : Option.mapM (Scope.resolve ⟨table, t.heading, [.int id]⟩ false)
      (some (.compare .eq (.name none column false) (.mark 1))) = .ok (some (keyTerm place id)) := by
    rw [Option.mapM_some, hterm]
    rfl
  have hplain : ∀ o ∈ columnOutputs t.heading,
      o.term.hasTuple = false ∧ o.term.hasTotal = false := by
    intro o ho
    obtain ⟨place, affinity, hcolumn⟩ := term_columnOutputs ho
    rw [hcolumn]
    exact ⟨rfl, rfl⟩
  have hsource : (some (table, none)).elim (.ok .unit)
      (fun p : String × Option String => lookup p.1) = .ok t.toRelation := ht
  have hterm : ∀ term ∈ some (keyTerm place id), term.hasTuple = false := by
    rintro term ⟨⟩
    rfl
  refine (Select.run_plain hsource rfl houtputs hfilter hplain hterm).trans ?_
  rw [outputColumns_columnOutputs]
  change Except.ok (Relation.mk t.heading (((t.rows.map Row.cells).filter fun row =>
    (keyTerm place id).holds row).map _) none) = _
  rw [hs.filter_keyTerm hk, List.map_map]
  have hrows : ∀ r ∈ t.rows.filter (fun r => r.id = id),
      outputRow (columnOutputs t.heading) (.single r.cells) = r.cells := by
    intro r hr
    refine outputRow_columnOutputs ?_
    rw [(hs.fits r (List.mem_filter.1 hr).1).width, heading, List.length_map]
  exact congrArg (fun rows => Except.ok (Relation.mk t.heading rows none))
    (List.map_congr_left hrows)

end Table

/-! ## The whole text -/

variable {d : Database} {t : Table} {place : Nat}

/-- The row of a table, as it is stored. -/
def Table.stored (t : Table) (row : Row) : StoredRow :=
  ⟨row.id, (t.columns.map Column.name).zip (row.cells.map Cell.ofValue)⟩

theorem Table.toRows_heading (t : Table) (rows : List Row) :
    Relation.toRows ⟨t.heading, rows.map Row.cells, none⟩ =
      rows.map fun row => (t.stored row).cells := by
  have hnames : t.heading.map Prod.fst = t.columns.map Column.name := by
    rw [heading, List.map_map]
    rfl
  rw [Relation.toRows, hnames, List.map_map]
  rfl

/-- **A query by the key column** gives back the rows that have the id, and changes nothing. -/
theorem run_equalText (ht : d.table table = .ok t) (hs : t.Sound) (hk : t.KeyedBy column place)
    (htable : Token.IsPlain table) (hcolumn : Token.IsPlain column) (id : Int64) :
    d.run (Sql.equalText table column) [.int id] =
      (.ok ⟨(t.rows.filter fun r => r.id = id).map fun row => (t.stored row).cells, 0, 0⟩, d) := by
  have hlookup : d.lookup table = .ok t.toRelation := by
    rw [lookup, ht]
    rfl
  have hrun : Command.run ⟨[], .query (equalQuery table column)⟩ [.int id] d =
      .ok (d, ⟨⟨t.heading, (t.rows.filter fun r => r.id = id).map Row.cells, none⟩, 0, none⟩) := by
    change (Query.run d.lookup [.int id] (equalQuery table column) >>= _) = _
    rw [hs.run_equalQuery hk hlookup id]
    rfl
  have hbound : [Bound.int id].map Value.ofBound = [.int id] := rfl
  rw [run_of_command (single_equalText htable hcolumn)
    (Command.ofTokens_equalText htable hcolumn), hbound, hrun]
  simp only [told, List.flatMap_cons, List.flatMap_nil, List.append_nil, t.toRows_heading]
  rfl

end Database

end RowQuery

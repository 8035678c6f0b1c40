/-
  RowQuery — what an inserting text adds to a table.

  The marks of the rows stand for what is bound, row by row, and the columns that are named
  take it by their names; what no name is given for is null.

  * `Scope.resolveAll_marks`: marks stand for the values in their order;
  * `Table.rowOf` are values under names in the order of the columns;
  * `Table.insert_blocks`: an insertion adds these for each row;
  * `isInsert_insertText`: how the text is known from its words;
  * `run_insertText`: what it adds, and what is told of it.
-/
import Mathlib.Data.List.Nodup
import RowQuery.Proofs.Database.Insertion
import RowQuery.Proofs.Database.Rows
import RowQuery.Proofs.Database.Statements
import RowQuery.Proofs.Sql.Words

namespace RowQuery

namespace Database

open Reading

/-! ## Marks and their values -/

namespace Scope

variable {s : Scope} {block : List Value} {rest : List Value}

/-- A mark stands for the first value that no mark before it stands for. -/
theorem resolve_mark (s : Scope) (totals : Bool) {marks : Nat} {v : Value}
    (h : s.values.drop marks = v :: rest) :
    s.resolve totals (.mark (marks + 1)) = .ok (.value v) ∧ s.values.drop (marks + 1) = rest := by
  have hv : s.values[marks]? = some v := by
    rw [← List.head?_drop, h]
    rfl
  constructor
  · change Except.ok (Term.value ((s.values[marks]?).getD .null)) = _
    rw [hv]
    rfl
  · rw [← List.tail_drop, h]
    rfl

/-- **Marks stand for the values in their order.** -/
theorem resolveAll_marks {marks : Nat} (h : s.values.drop marks = block ++ rest) :
    s.resolveAll false (markItems.values marks (rowMarks block.length)) =
      .ok (block.map Term.value) := by
  induction block generalizing marks with
  | nil => rfl
  | cons v block ih =>
    obtain ⟨hmark, hdrop⟩ := s.resolve_mark false h
    change s.resolveAll false (.mark (marks + 1) ::
      markItems.values (marks + 1) (rowMarks block.length)) = _
    rw [resolveAll, hmark, ih hdrop]
    rfl

/-- The rows of marks stand for the values of one row after the other. -/
theorem mapM_resolveAll_rows {width : Nat} {blocks : List (List Value)} {marks : Nat}
    (hwidth : ∀ block ∈ blocks, block.length = width)
    (h : s.values.drop marks = blocks.flatten) :
    ((rowItems width).values marks (rowGroups width blocks.length)).mapM (s.resolveAll false) =
      .ok (blocks.map fun block => block.map Term.value) := by
  induction blocks generalizing marks with
  | nil => rfl
  | cons block blocks ih =>
    obtain rfl := hwidth block List.mem_cons_self
    have hfirst := resolveAll_marks h
    have hdrop : s.values.drop (marks + block.length) = blocks.flatten := by
      rw [← List.drop_drop, h, List.flatten_cons, List.drop_left]
    have hothers := ih (fun b hb => hwidth b (List.mem_cons_of_mem block hb)) hdrop
    change (markItems.values marks (rowMarks block.length) ::
      (rowItems block.length).values (marks + block.length)
        (rowGroups block.length blocks.length)).mapM (s.resolveAll false) = _
    rw [List.mapM_cons, hfirst, hothers]
    rfl

end Scope

theorem Term.evalAll_values (g : Group) (vs : List Value) :
    Term.evalAll g (vs.map Term.value) = vs := by
  induction vs with
  | nil => rfl
  | cons v vs ih => rw [List.map_cons, evalAll, ih, eval]

/-- Values alone are never several where one is needed. -/
theorem refuseTuples_values (vss : List (List Value)) :
    refuseTuples (vss.map fun vs => vs.map Term.value).flatten = .ok () := by
  have hnone : ((vss.map fun vs => vs.map Term.value).flatten).any Term.hasTuple = false := by
    rw [Bool.eq_false_iff]
    intro h
    obtain ⟨t, ht, htuple⟩ := List.any_eq_true.1 h
    obtain ⟨ts, hts, ht⟩ := List.mem_flatten.1 ht
    obtain ⟨vs, -, rfl⟩ := List.mem_map.1 hts
    obtain ⟨v, -, rfl⟩ := List.mem_map.1 ht
    cases htuple
  rw [refuseTuples, hnone]
  rfl

/-! ## The rows that are added -/

namespace Table

variable {t : Table} {names : List String} {block : List Value}

/-- Values under names in the order of the columns, null where no name is given. -/
def rowOf (t : Table) (names : List String) (block : List Value) : List Value :=
  t.columns.map fun c =>
    ((names.findIdx? fun name => sameName name c.name).bind fun place => block[place]?).getD .null

/-- Such values for each row of what is bound. -/
def rowsOf (t : Table) (names : List String) (matrix : List (List Bound)) : List (List Value) :=
  matrix.map fun bounds => t.rowOf names (bounds.map Value.ofBound)

@[simp] theorem length_rowsOf (t : Table) (names : List String) (matrix : List (List Bound)) :
    (t.rowsOf names matrix).length = matrix.length := List.length_map _

/-- Columns whose names are the same in any case are the same. -/
theorem Sound.column_eq (hs : t.Sound) {c c' : Column} (hc : c ∈ t.columns) (hc' : c' ∈ t.columns)
    (h : sameName c.name c'.name = true) : c = c' :=
  List.inj_on_of_nodup_map hs.names hc hc' (of_decide_eq_true h)

/-- A name that is that of a column calls no other column. -/
theorem Sound.name_eq (hs : t.Sound) (hnames : ∀ name ∈ names, name ∈ t.columns.map Column.name)
    {c : Column} (hc : c ∈ t.columns) {name : String} (hname : name ∈ names)
    (h : sameName name c.name = true) : name = c.name := by
  obtain ⟨c', hc', rfl⟩ := List.mem_map.1 (hnames name hname)
  rw [hs.column_eq hc' hc h]

/-- **The value under the name of a column** stands in its place. -/
theorem Sound.getElem?_rowOf (hs : t.Sound)
    (hnames : ∀ name ∈ names, name ∈ t.columns.map Column.name) (hnodup : names.Nodup)
    {i : Nat} {c : Column} {v : Value} (hc : t.columns[i]? = some c)
    (hv : (c.name, v) ∈ names.zip block) : (t.rowOf names block)[i]? = some v := by
  obtain ⟨j, hj⟩ := List.mem_iff_getElem?.1 hv
  obtain ⟨hname, hvalue⟩ := List.getElem?_zip_eq_some.1 hj
  obtain ⟨hlt, hget⟩ := List.getElem?_eq_some_iff.1 hname
  have hfind : names.findIdx? (fun name => sameName name c.name) = some j := by
    refine List.findIdx?_eq_some_iff_getElem.2 ⟨hlt, ?_, ?_⟩
    · rw [hget]
      exact decide_eq_true rfl
    · intro k hk hsame
      have hklt : k < names.length := Nat.lt_trans hk hlt
      have heq := hs.name_eq hnames (List.mem_of_getElem? hc) (List.getElem_mem hklt) hsame
      exact Nat.ne_of_lt hk ((hnodup.getElem_inj_iff).1 (heq.trans hget.symm))
  rw [rowOf, List.getElem?_map, hc]
  simp [hfind, hvalue]

/-- A column that is not named is null. -/
theorem Sound.getElem?_rowOf_of_notMem (hs : t.Sound)
    (hnames : ∀ name ∈ names, name ∈ t.columns.map Column.name) {i : Nat} {c : Column}
    (hc : t.columns[i]? = some c) (hname : c.name ∉ names) :
    (t.rowOf names block)[i]? = some .null := by
  have hfind : names.findIdx? (fun name => sameName name c.name) = none := by
    refine List.findIdx?_eq_none_iff.2 fun name hmem => ?_
    rw [Bool.eq_false_iff]
    intro hsame
    exact hname (hs.name_eq hnames (List.mem_of_getElem? hc) hmem hsame ▸ hmem)
  rw [rowOf, List.getElem?_map, hc]
  simp [hfind]

theorem sources_eq (name : String) (hnames : ∀ name ∈ names, name ∈ t.columns.map Column.name) :
    t.sources name (some names) =
      .ok (t.columns.map fun c => names.findIdx? fun name => sameName name c.name) := by
  have hnone : (names.find? fun name => (t.place? name).isNone) = none := by
    rw [List.find?_eq_none]
    intro n hn
    obtain ⟨c, hc, rfl⟩ := List.mem_map.1 (hnames n hn)
    have hsome : (t.place? c.name).isSome = true := by
      rw [place?, List.findIdx?_isSome, List.any_eq_true]
      exact ⟨c, hc, decide_eq_true rfl⟩
    simp [Option.isNone_iff_eq_none, Option.ne_none_iff_isSome, hsome]
  rw [sources]
  simp only [hnone]

/-- What is reported of rows that were added. -/
def addition (added : List Row) : Outcome :=
  ⟨given [] added, added.length, added.getLast?.map Row.id⟩

/-- **An insertion adds a row for each block of values**, in the order of the columns. -/
theorem insert_blocks (name : String)
    (hnames : ∀ name ∈ names, name ∈ t.columns.map Column.name) {blocks : List (List Value)}
    (hblocks : blocks ≠ []) (hwidths : ∀ block ∈ blocks, block.length = names.length) :
    t.insert blocks.flatten name (some names) (insertRows names.length blocks.length) [] =
      (do
        let (t', added) ← t.addRows (blocks.map (t.rowOf names))
        return (t', addition added)) := by
  obtain ⟨vs, hvs⟩ : ∃ vs, vs = blocks.flatten := ⟨_, rfl⟩
  have hterms : (insertRows names.length blocks.length).mapM
      ({ t.scope vs with columns := [] }.resolveAll false) =
        .ok (blocks.map fun block => block.map Term.value) :=
    Scope.mapM_resolveAll_rows (s := { t.scope vs with columns := [] }) hwidths hvs
  have hwidth : t.checkWidth name (some names)
      (((insertRows names.length blocks.length).head?.map List.length).getD 0) = .ok () := by
    obtain ⟨row, rows, hrows⟩ : ∃ row rows, insertRows names.length blocks.length = row :: rows := by
      cases blocks with
      | nil => exact absurd rfl hblocks
      | cons block blocks => exact ⟨_, _, rfl⟩
    have hrow : row.length = names.length := by
      have hmem : row ∈ insertRows names.length blocks.length := by
        rw [hrows]
        exact List.mem_cons_self
      exact length_of_mem_insertRows hmem
    rw [hrows]
    exact if_pos hrow
  have htuples : refuseTuples ((blocks.map fun block => block.map Term.value).flatten ++
      ([] : List Output).map Output.term) = .ok () := by
    rw [List.map_nil, List.append_nil]
    exact refuseTuples_values _
  have hcells : (blocks.map fun block => block.map Term.value).map
      (fun ts => (t.columns.map fun c => names.findIdx? fun name => sameName name c.name).map
        fun source => (source.bind fun place => (Term.evalAll .empty ts)[place]?).getD .null) =
          blocks.map (t.rowOf names) := by
    rw [List.map_map]
    refine List.map_congr_left fun block _ => ?_
    change List.map _ (t.columns.map _) = _
    rw [Term.evalAll_values, List.map_map]
    rfl
  have houtputs : (t.scope vs).allOutputs false [] = .ok [] := rfl
  rw [← hvs, Table.insert, sources_eq name hnames, hterms, hwidth, houtputs]
  change (refuseTuples (_ ++ ([] : List Output).map Output.term) >>= fun _ =>
    t.addRows _ >>= _) = _
  rw [htuples]
  change (t.addRows _ >>= _) = _
  rw [hcells]
  rfl

end Table

/-! ## The characters and the words of the text -/

variable {table : String} {names : List String} {n : Nat}

/-- A text of items with commas between them has the characters of the items. -/
theorem forall_mem_intercalate {P : Char → Prop} (hcomma : P ',') (hblank : P ' ')
    {ss : List String} (h : ∀ s ∈ ss, ∀ ch ∈ s.toList, P ch) :
    ∀ ch ∈ (", ".intercalate ss).toList, P ch := by
  intro ch hch
  cases ss with
  | nil =>
    rw [String.toList_intercalate] at hch
    cases hch
  | cons s ss =>
    rw [ItemKind.toList_intercalate_cons, List.mem_append, ItemKind.followingText,
      List.mem_flatMap] at hch
    rcases hch with hch | ⟨s', hs', hch⟩
    · exact h s List.mem_cons_self ch hch
    · simp only [List.mem_cons] at hch
      rcases hch with rfl | rfl | hch
      · exact hcomma
      · exact hblank
      · exact h s' (List.mem_cons_of_mem s hs') ch hch

/-- Rows of marks have marks, parentheses and what separates them. -/
theorem forall_mem_rowGroups {P : Char → Prop} (h : P '?' ∧ P ',' ∧ P ' ' ∧ P '(' ∧ P ')')
    (width n : Nat) : ∀ ch ∈ (", ".intercalate (rowGroups width n)).toList, P ch := by
  obtain ⟨hmark, hcomma, hblank, hopen, hclose⟩ := h
  have hmarks : ∀ ch ∈ (", ".intercalate (List.replicate width "?")).toList, P ch := by
    refine forall_mem_intercalate hcomma hblank fun s hs ch hch => ?_
    rw [(List.mem_replicate.1 hs).2] at hch
    obtain rfl := List.mem_singleton.1 hch
    exact hmark
  refine forall_mem_intercalate hcomma hblank fun s hs ch hch => ?_
  rw [(List.mem_replicate.1 hs).2, Collection.markGroup, String.toList_append,
    String.toList_append, List.append_assoc] at hch
  rcases List.mem_append.1 hch with hch | hch
  · obtain rfl := List.mem_singleton.1 hch
    exact hopen
  · rcases List.mem_append.1 hch with hch | hch
    · exact hmarks ch hch
    · obtain rfl := List.mem_singleton.1 hch
      exact hclose

/-- An inserting text has the characters of its names, and some of its own. -/
theorem forall_mem_insertText {P : Char → Prop}
    (h : ∀ ch ∈ "INSERT INTO VALUES(),?".toList, P ch) (htable : ∀ ch ∈ table.toList, P ch)
    (hnames : ∀ name ∈ names, ∀ ch ∈ name.toList, P ch) :
    ∀ ch ∈ (Sql.insertText table names n).toList, P ch := by
  have hfixed : ∀ cs : List Char, cs ⊆ "INSERT INTO VALUES(),?".toList → ∀ ch ∈ cs, P ch :=
    fun cs hcs ch hch => h ch (hcs hch)
  have hblank := h ' ' (by decide)
  have hcomma := h ',' (by decide)
  have hopen := h '(' (by decide)
  have hclose := h ')' (by decide)
  have hlist := forall_mem_intercalate hcomma hblank hnames
  have hrows := forall_mem_rowGroups ⟨h '?' (by decide), hcomma, hblank, hopen, hclose⟩ names.length n
  rw [toList_insertText]
  simp only [List.forall_mem_append, List.forall_mem_cons]
  exact ⟨hfixed _ (by decide), hblank, hfixed _ (by decide), hblank, htable, hblank, hopen, hlist,
    hclose, hblank, hfixed _ (by decide), hblank, hrows⟩

theorem isCode_insertText (htable : Token.IsPlain table)
    (hplain : ∀ name ∈ names, Token.IsPlain name) :
    Sql.IsCode (Sql.insertText table names n).toList := by
  have hown : Sql.IsCode "INSERT INTO VALUES(),?".toList := by decide
  exact forall_mem_insertText hown (Sql.isCode_of_isOrdinary htable.isOrdinary)
    fun name hname => Sql.isCode_of_isOrdinary (hplain name hname).isOrdinary

theorem single_insertText (htable : Token.IsPlain table)
    (hplain : ∀ name ∈ names, Token.IsPlain name) :
    Token.Single (Token.ofStatement (Sql.insertText table names n)) := by
  have hown : ';' ∉ "INSERT INTO VALUES(),?".toList := by decide
  have hnone : ∀ ch ∈ (Sql.insertText table names n).toList, ch ≠ ';' :=
    forall_mem_insertText (fun ch hch heq => hown (heq ▸ hch))
      (fun ch hch heq => htable.semicolon_notMem (heq ▸ hch))
      fun name hname ch hch heq => (hplain name hname).semicolon_notMem (heq ▸ hch)
  exact Token.single_ofStatement fun hmem => hnone ';' hmem rfl

theorem words_insertText (htable : Token.IsPlain table)
    (hplain : ∀ name ∈ names, Token.IsPlain name) :
    Sql.words (Sql.insertText table names n) = "insert" :: "into" ::
      (Sql.wordsOf table.toList ++ (Sql.wordsOf (", ".intercalate names).toList ++ ["values"])) := by
  have hrows : Sql.wordsOf (", ".intercalate (rowGroups names.length n)).toList = [] :=
    Sql.wordsOf_eq_nil (forall_mem_rowGroups (by decide) _ _)
  have hinsert : Sql.wordsOf "INSERT".toList = ["insert"] := by decide
  have hinto : Sql.wordsOf "INTO".toList = ["into"] := by decide
  have hvalues : Sql.wordsOf "VALUES".toList = ["values"] := by decide
  have hblank : Sql.Separates ' ' := by decide
  rw [Sql.words_eq_wordsOf (isCode_insertText htable hplain), toList_insertText,
    Sql.wordsOf_append hblank, Sql.wordsOf_append hblank, Sql.wordsOf_append hblank,
    Sql.wordsOf_cons (by decide), Sql.wordsOf_append (by decide), Sql.wordsOf_cons hblank,
    Sql.wordsOf_append hblank, hrows, hinsert, hinto, hvalues]
  rfl

variable (n) in
/-- **An inserting text is known as one**, and not taken for one that returns rows, if no name
    in it has the word RETURNING. -/
theorem isInsert_insertText (htable : Token.IsPlain table)
    (hplain : ∀ name ∈ names, Token.IsPlain name)
    (hwords : ∀ name ∈ table :: names, "returning" ∉ Sql.words name) :
    Sql.returnsRows (Sql.insertText table names n) = false ∧
      Sql.isInsert (Sql.insertText table names n) = true := by
  have hname : ∀ name ∈ table :: names, Token.IsPlain name →
      "returning" ∉ Sql.wordsOf name.toList := by
    intro name hmem hn
    rw [← Sql.words_eq_wordsOf (Sql.isCode_of_isOrdinary hn.isOrdinary)]
    exact hwords name hmem
  have htables := hname table List.mem_cons_self htable
  have hnames : "returning" ∉ Sql.wordsOf (", ".intercalate names).toList := by
    intro h
    obtain ⟨name, hmem, hreturning⟩ := Sql.mem_wordsOf_intercalate h
    exact hname name (List.mem_cons_of_mem _ hmem) (hplain name hmem) hreturning
  have hlater : "returning" ∉ "into" :: (Sql.wordsOf table.toList ++
      (Sql.wordsOf (", ".intercalate names).toList ++ ["values"])) := by
    simp only [List.mem_cons, List.mem_append, List.not_mem_nil, or_false, not_or]
    exact ⟨by decide, htables, hnames, by decide⟩
  rw [Sql.returnsRows, Sql.isInsert, words_insertText htable hplain]
  refine ⟨?_, rfl⟩
  rw [← List.contains_iff_mem, Bool.not_eq_true] at hlater
  rw [Bool.or_eq_false_iff]
  exact ⟨rfl, hlater⟩

/-! ## The whole text -/

variable {d d' : Database} {t : Table} {matrix : List (List Bound)} {x : Executed}

/-- **An inserting text that is carried out** has added its rows, and tells of them. -/
theorem run_insertText (ht : d.table table = .ok t) (htable : Token.IsPlain table)
    (hplain : ∀ name ∈ names, Token.IsPlain name)
    (hnames : ∀ name ∈ names, name ∈ t.columns.map Column.name) (hmatrix : matrix ≠ [])
    (hwidths : ∀ bounds ∈ matrix, bounds.length = names.length)
    (h : d.run (Sql.insertText table names matrix.length) matrix.flatten = (.ok x, d')) :
    ∃ t' added, t.addRows (t.rowsOf names matrix) = .ok (t', added) ∧
      d' = d.replace t' ∧ x = told [Table.addition added] := by
  have hsingle : Token.Single (Token.ofStatement (Sql.insertText table names matrix.length)) :=
    single_insertText htable hplain
  have hn : matrix.length ≠ 0 := fun h => hmatrix (List.eq_nil_of_length_eq_zero h)
  by_cases hne : names = []
  · subst hne
    rw [run_of_refusal hsingle (Command.ofTokens_insertText_nil htable _)] at h
    cases h
  · have hinsert : t.insert (matrix.flatten.map Value.ofBound) table (some names)
        (insertRows names.length matrix.length) [] =
          t.addRows (t.rowsOf names matrix) >>= fun p => .ok (p.1, Table.addition p.2) := by
      have hblocks : matrix.map (fun bounds => bounds.map Value.ofBound) ≠ [] := by
        simpa using hmatrix
      have hblocks := Table.insert_blocks (t := t) table hnames hblocks (by simpa using hwidths)
      rw [← List.map_flatten, List.length_map, List.map_map] at hblocks
      exact hblocks
    have hrun : Command.run
        ⟨[], .insert table (some names) (insertRows names.length matrix.length) []⟩
        (matrix.flatten.map Value.ofBound) d =
          t.addRows (t.rowsOf names matrix) >>= fun p =>
            .ok (d.replace p.1, Table.addition p.2) := by
      change d.change table _ = _
      rw [change, ht]
      change (t.insert _ _ _ _ _ >>= _) = _
      rw [hinsert]
      cases t.addRows (t.rowsOf names matrix) <;> rfl
    rw [run_of_command hsingle (Command.ofTokens_insertText htable hplain hne hn), hrun] at h
    cases hadded : t.addRows (t.rowsOf names matrix) with
    | error e =>
      rw [hadded] at h
      cases h
    | ok p =>
      rw [hadded] at h
      cases h
      exact ⟨p.1, p.2, rfl, rfl, rfl⟩

end Database

end RowQuery

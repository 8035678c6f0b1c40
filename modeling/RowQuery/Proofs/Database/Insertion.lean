/-
  RowQuery — the command that a database reads from an inserting statement.

  The statement names its columns and has a row of marks for each record. Both are lists
  of items with commas between them: the marks in all rows are numbered one after the
  other, so that the rows stand for the values from left to right.

  * `ItemKind` is what stands between commas: its tokens, and what is read from them;
  * `ItemKind.scan_items`, `ItemKind.commaList_items`: a list of items is split and read item
    by item;
  * `Command.ofTokens_insertText`: the command that is read;
  * `Command.ofTokens_insertText_nil`: without columns the statement is refused.
-/
import RowQuery.Collection.Write
import RowQuery.Proofs.Backend.NumberedTable
import RowQuery.Proofs.Database.Reading

namespace RowQuery

namespace Database

open Reading

/-! ## Items between commas -/

/-- What stands between commas. -/
structure ItemKind (β : Type) where
  /-- How many marks are in an item. -/
  marks : Nat
  /-- The tokens of an item after so many marks and a gap. -/
  tokens : Nat → List Char → String → List Token
  /-- What is read from an item after so many marks. -/
  value : Nat → String → β

namespace ItemKind

variable {β : Type} (K : ItemKind β)

/-- The tokens of items, each with what is read from it; the first comes after a gap. -/
def items (marks : Nat) (gap : List Char) : List String → List (List Token × β)
  | [] => []
  | s :: ss => (K.tokens marks gap s, K.value marks s) :: items (marks + K.marks) [' '] ss

/-- What is read from items after so many marks. -/
def values (marks : Nat) : List String → List β
  | [] => []
  | s :: ss => K.value marks s :: values (marks + K.marks) ss

theorem map_snd_items (marks : Nat) (gap : List Char) (ss : List String) :
    (K.items marks gap ss).map Prod.snd = K.values marks ss := by
  induction ss generalizing marks gap with
  | nil => rfl
  | cons s ss ih => rw [items, List.map_cons, ih, values]

/-- What may follow an item: the comma before the next one, or the end of the list. -/
def Separated (rest : List Char) : Prop := ∀ c ∈ rest.head?, c = ',' ∨ c = ')'

/-- An item is split into its tokens. -/
def Splits (s : String) : Prop :=
  ∀ (marks : Nat) (gap rest : List Char), Separated rest →
    Token.scan marks gap (s.toList ++ rest) =
      K.tokens marks gap s ++ Token.scan (marks + K.marks) [] rest

/-- The text of the items after the first. -/
def followingText (ss : List String) : List Char := ss.flatMap fun s => ',' :: ' ' :: s.toList

theorem toList_intercalate_cons (s : String) (ss : List String) :
    (", ".intercalate (s :: ss)).toList = s.toList ++ followingText ss := by
  rw [String.toList_intercalate]
  induction ss generalizing s with
  | nil => simp [followingText]
  | cons s' ss ih =>
    have htail := ih s'
    simp only [List.map_cons, List.intercalate_cons_cons] at htail ⊢
    rw [htail]
    simp [followingText]

theorem separated_following {rest : List Char} (hrest : Separated rest) (ss : List String) :
    Separated (followingText ss ++ rest) := by
  cases ss with
  | nil => exact hrest
  | cons s ss => exact fun c hc => Or.inl (Option.some.inj hc).symm

theorem scan_following {ss : List String} (h : ∀ s ∈ ss, K.Splits s) (marks : Nat)
    {rest : List Char} (hrest : Separated rest) :
    Token.scan marks [] (followingText ss ++ rest) =
      (K.items marks [' '] ss).flatMap (fun i => comma :: i.1) ++
        Token.scan (marks + ss.length * K.marks) [] rest := by
  induction ss generalizing marks with
  | nil => simp [followingText, items]
  | cons s ss ih =>
    have hs := h s List.mem_cons_self marks [' '] _ (separated_following hrest ss)
    have hothers := ih (fun s' hs' => h s' (List.mem_cons_of_mem s hs')) (marks + K.marks)
    have htext : followingText (s :: ss) ++ rest =
        ',' :: ' ' :: (s.toList ++ (followingText ss ++ rest)) := by simp [followingText]
    have hmarks : marks + (s :: ss).length * K.marks =
        marks + K.marks + ss.length * K.marks := by
      rw [List.length_cons, Nat.succ_mul]
      omega
    rw [htext, Token.scan_lone (by decide), Token.scan_blank, List.nil_append, hs, hothers, hmarks]
    simp [items, comma, sign]

/-- **Items with commas between them are split one after the other.** -/
theorem scan_items {ss : List String} (hne : ss ≠ []) (h : ∀ s ∈ ss, K.Splits s) (marks : Nat)
    (gap : List Char) {rest : List Char} (hrest : Separated rest) :
    Token.scan marks gap ((", ".intercalate ss).toList ++ rest) =
      listTokens (K.items marks gap ss) ++ Token.scan (marks + ss.length * K.marks) [] rest := by
  cases ss with
  | nil => exact absurd rfl hne
  | cons s ss =>
    have hs := h s List.mem_cons_self marks gap _ (separated_following hrest ss)
    have hothers := K.scan_following (fun s' hs' => h s' (List.mem_cons_of_mem s hs'))
      (marks + K.marks) hrest
    have hmarks : marks + (s :: ss).length * K.marks =
        marks + K.marks + ss.length * K.marks := by
      rw [List.length_cons, Nat.succ_mul]
      omega
    rw [toList_intercalate_cons, List.append_assoc, hs, hothers, hmarks]
    simp [items, listTokens]

/-- An item is read from its tokens, if what follows them is accepted. -/
def ReadBy (item : Reading β) (P : List Token → Prop) (s : String) : Prop :=
  ∀ (marks : Nat) (gap : List Char) (ts : List Token), P ts →
    item (K.tokens marks gap s ++ ts) = .ok (K.value marks s, ts)

variable {K} in
theorem ReadBy.items {item : Reading β} {P : List Token → Prop} {ss : List String}
    (h : ∀ s ∈ ss, K.ReadBy item P s) {marks : Nat} {gap : List Char} :
    ∀ i ∈ K.items marks gap ss, ∀ ts, P ts → item (i.1 ++ ts) = .ok (i.2, ts) := by
  induction ss generalizing marks gap with
  | nil => exact fun i hi => absurd hi List.not_mem_nil
  | cons s ss ih =>
    intro i hi ts hts
    rcases List.mem_cons.1 hi with rfl | hi
    · exact h s List.mem_cons_self marks gap ts hts
    · exact ih (fun s' hs' => h s' (List.mem_cons_of_mem s hs')) i hi ts hts

/-- **Items with commas between them are read one after the other.** -/
theorem commaList_items {item : Reading β} {P : List Token → Prop} (hP : ∀ ts, P (comma :: ts))
    {rest : List Token} (hrest : P rest) (hcomma : LacksSymbol "," rest) {ss : List String}
    (hne : ss ≠ []) (h : ∀ s ∈ ss, K.ReadBy item P s) (marks : Nat) (gap : List Char) :
    commaList item (listTokens (K.items marks gap ss) ++ rest) =
      .ok (K.values marks ss, rest) := by
  have hitems : K.items marks gap ss ≠ [] := by
    cases ss with
    | nil => exact absurd rfl hne
    | cons s ss => simp [items]
  rw [commaList_listTokens hP hrest hcomma hitems (ReadBy.items h), map_snd_items]

end ItemKind

/-! ## Names, marks and rows -/

open ItemKind

/-- Names. -/
def nameItems : ItemKind String := ⟨0, fun _ gap w => [word gap w], fun _ w => w⟩

/-- Marks. -/
def markItems : ItemKind Expr :=
  ⟨1, fun marks gap _ => [markToken gap (marks + 1)], fun marks _ => .mark (marks + 1)⟩

/-- The marks of a row. -/
def rowMarks (width : Nat) : List String := List.replicate width "?"

theorem rowMarks_ne_nil {width : Nat} (h : width ≠ 0) : rowMarks width ≠ [] := by
  simp [rowMarks, h]

/-- Rows of marks. -/
def rowItems (width : Nat) : ItemKind (List Expr) where
  marks := width
  tokens marks gap _ := sign gap "(" ::
    (listTokens (markItems.items marks [] (rowMarks width)) ++ [sign [] ")"])
  value marks _ := markItems.values marks (rowMarks width)

theorem endsWord_of_separated {rest : List Char} (h : Separated rest) : Token.EndsWord rest := by
  intro c hc
  rcases h c hc with rfl | rfl <;> decide

theorem splits_name {w : String} (hw : Token.IsPlain w) : nameItems.Splits w := by
  intro marks gap rest hrest
  exact Token.scan_word_before hw.1 (endsWord_of_separated hrest)

theorem splits_mark : markItems.Splits "?" := by
  intro marks gap rest hrest
  have hdigit : rest.head?.all (fun c => !c.isDigit) = true := by
    cases h : rest.head? with
    | none => rfl
    | some c => rcases hrest c h with rfl | rfl <;> rfl
  exact Token.scan_mark hdigit

theorem splits_row {width : Nat} (hwidth : width ≠ 0) :
    (rowItems width).Splits (Collection.markGroup width) := by
  intro marks gap rest _
  have htext : (Collection.markGroup width).toList ++ rest =
      '(' :: ((", ".intercalate (rowMarks width)).toList ++ ')' :: rest) := by
    simp [Collection.markGroup, rowMarks]
  have hclose : Separated (')' :: rest) := fun c hc => Or.inr (Option.some.inj hc).symm
  have hmarks := markItems.scan_items (rowMarks_ne_nil hwidth)
    (fun s hs => by rw [(List.mem_replicate.1 hs).2]; exact splits_mark) marks [] hclose
  have hcount : marks + (rowMarks width).length * markItems.marks = marks + width := by
    simp [rowMarks, markItems]
  rw [htext, Token.scan_lone (by decide), hmarks, hcount, Token.scan_lone (by decide)]
  simp [rowItems, sign]

theorem readBy_name {w : String} (hw : Token.IsPlain w) :
    nameItems.ReadBy Reading.name (fun _ => True) w :=
  fun _ _ _ _ => name_word hw

theorem readBy_mark (s : String) : markItems.ReadBy Expr.reading Expr.Ends s :=
  fun marks gap _ hts => Expr.reading_mark gap (marks + 1) hts

theorem readBy_row {width : Nat} (hwidth : width ≠ 0) (s : String) :
    (rowItems width).ReadBy (parens (commaList Expr.reading)) (fun _ => True) s := by
  intro marks gap ts _
  have hmarks := markItems.commaList_items Expr.ends_comma (Expr.ends_parenthesis ts)
    (by rintro t ⟨⟩; rfl) (rowMarks_ne_nil hwidth) (fun s _ => readBy_mark s) marks []
  have htokens : (rowItems width).tokens marks gap s ++ ts = sign gap "(" ::
      (listTokens (markItems.items marks [] (rowMarks width)) ++ sign [] ")" :: ts) := by
    simp [rowItems]
  rw [htokens, parens, bind_of_ok (symbol_sign gap "("), bind_of_ok hmarks,
    bind_of_ok (symbol_sign [] ")")]
  rfl

/-! ## The command -/

/-- The rows of marks of so many records. -/
def rowGroups (width n : Nat) : List String := List.replicate n (Collection.markGroup width)

theorem rowGroups_ne_nil (width : Nat) {n : Nat} (h : n ≠ 0) : rowGroups width n ≠ [] := by
  simp [rowGroups, h]

/-- The tokens of an inserting statement. -/
def insertTokens (table : String) (columns : List String) (n : Nat) : List Token :=
  word [] "INSERT" :: word [' '] "INTO" :: word [' '] table :: sign [' '] "(" ::
    (listTokens (nameItems.items 0 [] columns) ++ sign [] ")" :: word [' '] "VALUES" ::
      listTokens ((rowItems columns.length).items 0 [' '] (rowGroups columns.length n)))

/-- The rows of an inserting command: marks, numbered from left to right. -/
def insertRows (width n : Nat) : List (List Expr) := (rowItems width).values 0 (rowGroups width n)

theorem toList_insertText (table : String) (columns : List String) (n : Nat) :
    (Sql.insertText table columns n).toList =
      "INSERT".toList ++ ' ' :: ("INTO".toList ++ ' ' :: (table.toList ++ ' ' :: '(' ::
        ((", ".intercalate columns).toList ++ ')' :: ' ' :: ("VALUES".toList ++ ' ' ::
          (", ".intercalate (rowGroups columns.length n)).toList)))) := by
  have hinsert : "INSERT INTO ".toList = "INSERT".toList ++ ' ' :: ("INTO".toList ++ [' ']) := rfl
  have hopen : " (".toList = [' ', '('] := rfl
  have hvalues : ") VALUES ".toList = ')' :: ' ' :: ("VALUES".toList ++ [' ']) := rfl
  change ("INSERT INTO " ++ table ++ " (" ++ ", ".intercalate columns ++ ") VALUES " ++
    ", ".intercalate (rowGroups columns.length n)).toList = _
  simp only [String.toList_append, hinsert, hopen, hvalues, List.append_assoc, List.cons_append,
    List.nil_append]

variable {table : String} {columns : List String} {n : Nat}

theorem ofStatement_insertText (htable : Token.IsPlain table)
    (hcolumns : ∀ column ∈ columns, Token.IsPlain column) (hne : columns ≠ []) (hn : n ≠ 0) :
    Token.ofStatement (Sql.insertText table columns n) = insertTokens table columns n := by
  have hwidth : columns.length ≠ 0 := fun h => hne (List.eq_nil_of_length_eq_zero h)
  have hend : Separated [] := by rintro c ⟨⟩
  have hrows := (rowItems columns.length).scan_items (rowGroups_ne_nil columns.length hn)
    (fun s hs => by rw [(List.mem_replicate.1 hs).2]; exact splits_row hwidth) 0 [' '] hend
  rw [List.append_nil, Token.scan_nil, List.append_nil] at hrows
  have hclose : Separated (')' :: ' ' :: ("VALUES".toList ++ ' ' ::
      (", ".intercalate (rowGroups columns.length n)).toList)) :=
    fun c hc => Or.inr (Option.some.inj hc).symm
  have hnames := nameItems.scan_items hne (fun s hs => splits_name (hcolumns s hs)) 0 [] hclose
  rw [Token.ofStatement, toList_insertText, Token.scan_word (by decide), Token.scan_blank,
    List.nil_append, Token.scan_word (by decide), Token.scan_blank, List.nil_append,
    Token.scan_word htable.1, Token.scan_blank, List.nil_append, Token.scan_lone (by decide),
    hnames, Token.scan_lone (by decide), Token.scan_blank, List.nil_append,
    Token.scan_word (by decide), Token.scan_blank, List.nil_append]
  have hcount : 0 + columns.length * nameItems.marks = 0 := rfl
  rw [hcount, hrows]
  rfl

theorem length_values {β : Type} (K : ItemKind β) (marks : Nat) (ss : List String) :
    (K.values marks ss).length = ss.length := by
  induction ss generalizing marks with
  | nil => rfl
  | cons s ss ih => rw [values, List.length_cons, ih, List.length_cons]

theorem length_of_mem_values {width marks : Nat} {ss : List String} {row : List Expr}
    (h : row ∈ (rowItems width).values marks ss) : row.length = width := by
  induction ss generalizing marks with
  | nil => exact absurd h List.not_mem_nil
  | cons s ss ih =>
    rcases List.mem_cons.1 h with rfl | h
    · exact (length_values markItems marks _).trans List.length_replicate
    · exact ih h

/-- Each row of an inserting command has a mark for each column. -/
theorem length_of_mem_insertRows {width n : Nat} {row : List Expr}
    (h : row ∈ insertRows width n) : row.length = width :=
  length_of_mem_values h

/-- **Rows of marks are read one after the other.** -/
theorem rowsReading_insertRows {width n : Nat} (hwidth : width ≠ 0) (hn : n ≠ 0) :
    rowsReading (listTokens ((rowItems width).items 0 [' '] (rowGroups width n))) =
      .ok (insertRows width n, []) := by
  obtain ⟨n, rfl⟩ := Nat.exists_eq_succ_of_ne_zero hn
  obtain ⟨others, hothers⟩ :
      ∃ is, is = (rowItems width).items (0 + width) [' '] (rowGroups width n) := ⟨_, rfl⟩
  have hrow : ∀ s ∈ rowGroups width (n + 1),
      (rowItems width).ReadBy (parens (commaList Expr.reading)) (fun _ => True) s :=
    fun s _ => readBy_row hwidth s
  have hfirst := hrow (Collection.markGroup width) (by simp [rowGroups]) 0 [' ']
    (others.flatMap fun i => comma :: i.1) True.intro
  have htokens : listTokens ((rowItems width).items 0 [' '] (rowGroups width (n + 1))) =
      (rowItems width).tokens 0 [' '] (Collection.markGroup width) ++
        others.flatMap fun i => comma :: i.1 := by
    rw [hothers]
    rfl
  have hvalues : insertRows width (n + 1) =
      (rowItems width).value 0 (Collection.markGroup width) :: others.map Prod.snd := by
    rw [hothers, map_snd_items]
    rfl
  have hlength : ((rowItems width).value 0 (Collection.markGroup width)).length = width :=
    (length_values markItems 0 _).trans List.length_replicate
  rw [htokens, hvalues, rowsReading, bind_of_ok hfirst, ← List.append_nil (others.flatMap _)]
  refine repeated_chunks (P := fun _ => True) (fun _ => True.intro) True.intro (fun bs => rfl) ?_ _
  intro i hi bs ts _
  have hi2 : i.2.length = width := by
    have hvalue : i.2 ∈ (rowItems width).values (0 + width) (rowGroups width n) := by
      rw [← map_snd_items _ _ [' '], ← hothers]
      exact List.mem_map_of_mem hi
    exact length_of_mem_values hvalue
  rw [hothers] at hi
  rw [bind_of_ok symbol?_comma, if_pos rfl,
    bind_of_ok (ReadBy.items (fun s _ => readBy_row hwidth s) i hi ts True.intro), hi2, hlength,
    if_pos rfl]
  rfl

/-- What is read after the opening parenthesis of an inserting statement. -/
def insertTail (table : String) : Reading Action := do
  let columns ← commaList Reading.name
  symbol ")"
  keyword "values"
  let rows ← rowsReading
  let items ← returning
  return .insert table (some columns) rows items

/-- The tokens up to the opening parenthesis, and those after it. -/
def insertHead (table : String) (ts : List Token) : List Token :=
  word [] "INSERT" :: word [' '] "INTO" :: word [' '] table :: sign [' '] "(" :: ts

theorem Action.reading_insertHead {table : String} (htable : Token.IsPlain table)
    (ts : List Token) : Action.reading (insertHead table ts) = insertTail table ts := by
  have hquery : Query.reading? (insertHead table ts) = .ok (none, insertHead table ts) := rfl
  have hinsert : keyword? "insert" (insertHead table ts) =
      .ok (true, word [' '] "INTO" :: word [' '] table :: sign [' '] "(" :: ts) := rfl
  have hinto : keyword "into" (word [' '] "INTO" :: word [' '] table :: sign [' '] "(" :: ts) =
      .ok ((), word [' '] table :: sign [' '] "(" :: ts) := rfl
  have hopen : symbol? "(" (sign [' '] "(" :: ts) = .ok (true, ts) := symbol?_sign [' '] "("
  rw [Action.reading, bind_of_ok hquery]
  change (keyword? "insert" >>= _) _ = _
  rw [bind_of_ok hinsert, if_pos rfl, bind_of_ok hinto, bind_of_ok (name_word htable),
    bind_of_ok hopen, if_pos rfl]
  rfl

/-- What an inserting statement is read as is up to what follows its head. -/
theorem Command.reading_insertHead {table : String} (htable : Token.IsPlain table)
    (ts : List Token) : Command.reading (insertHead table ts) =
      (insertTail table >>= fun a => pure ⟨[], a⟩) ts := by
  rw [Command.reading_of_lacks (by rintro t ⟨⟩; rfl) (by rintro t ⟨⟩; rfl)]
  change (Action.reading (insertHead table ts) >>= _) = _
  rw [Action.reading_insertHead htable]
  rfl

theorem values_nameItems (marks : Nat) (names : List String) :
    nameItems.values marks names = names := by
  induction names generalizing marks with
  | nil => rfl
  | cons name names ih => rw [values, ih, nameItems]

/-- What is read after the opening parenthesis, if columns are named. -/
theorem insertTail_of_ne_nil {columns : List String} {n : Nat} (table : String)
    (hcolumns : ∀ column ∈ columns, Token.IsPlain column) (hne : columns ≠ []) (hn : n ≠ 0) :
    insertTail table (listTokens (nameItems.items 0 [] columns) ++ sign [] ")" ::
      word [' '] "VALUES" ::
        listTokens ((rowItems columns.length).items 0 [' '] (rowGroups columns.length n))) =
      .ok (.insert table (some columns) (insertRows columns.length n) [], []) := by
  have hwidth : columns.length ≠ 0 := fun h => hne (List.eq_nil_of_length_eq_zero h)
  have hrows := rowsReading_insertRows hwidth hn
  generalize listTokens ((rowItems columns.length).items 0 [' '] (rowGroups columns.length n)) =
    rows at hrows
  have hclose : LacksSymbol "," (sign [] ")" :: word [' '] "VALUES" :: rows) := by
    rintro t ⟨⟩
    rfl
  have hnames := nameItems.commaList_items (P := fun _ => True) (fun _ => True.intro) True.intro
    hclose hne (fun w hw => readBy_name (hcolumns w hw)) 0 []
  have hvalues : keyword "values" (word [' '] "VALUES" :: rows) = .ok ((), rows) := rfl
  rw [insertTail, bind_of_ok hnames, bind_of_ok (symbol_sign [] ")"), bind_of_ok hvalues,
    bind_of_ok hrows, values_nameItems]
  rfl

/-- **An inserting text is read** as a command with the columns that it names and with so many
    rows of marks. -/
theorem Command.ofTokens_insertText (htable : Token.IsPlain table)
    (hcolumns : ∀ column ∈ columns, Token.IsPlain column) (hne : columns ≠ []) (hn : n ≠ 0) :
    Command.ofTokens (Token.ofStatement (Sql.insertText table columns n)) =
      .ok (some ⟨[], .insert table (some columns) (insertRows columns.length n) []⟩) := by
  refine Command.ofTokens_of_ok (ofStatement_insertText htable hcolumns hne hn) rfl ?_
  refine (Command.reading_insertHead htable _).trans ?_
  rw [bind_of_ok (insertTail_of_ne_nil table hcolumns hne hn)]
  rfl

/-- Without columns the text is refused. -/
theorem Command.ofTokens_insertText_nil (htable : Token.IsPlain table) (n : Nat) :
    Command.ofTokens (Token.ofStatement (Sql.insertText table [] n)) =
      .error (.unexpected ")") := by
  obtain ⟨ts, hts⟩ : ∃ ts, Token.ofStatement (Sql.insertText table [] n) =
      insertHead table (sign [] ")" :: ts) := by
    rw [Token.ofStatement, toList_insertText, Token.scan_word (by decide), Token.scan_blank,
      List.nil_append, Token.scan_word (by decide), Token.scan_blank, List.nil_append,
      Token.scan_word htable.1, Token.scan_blank, List.nil_append, Token.scan_lone (by decide)]
    change ∃ ts, _ :: _ :: _ :: _ :: Token.scan 0 [] (')' :: _) = _
    rw [Token.scan_lone (by decide)]
    exact ⟨_, rfl⟩
  have hname : commaList Reading.name (sign [] ")" :: ts) = .error (.unexpected ")") := rfl
  refine Command.ofTokens_of_error hts rfl ?_
  refine (Command.reading_insertHead htable _).trans ?_
  exact bind_of_error (bind_of_error hname)

end Database

end RowQuery

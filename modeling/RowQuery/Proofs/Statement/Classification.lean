/-
  RowQuery — what the statements of a collection are taken for.

  Whether a statement answers with rows is told from its words: by the first of them, or by
  the word RETURNING anywhere.  A database takes letters, digits, underscores, dollar signs
  and all characters beyond ASCII for parts of a name; the reader of words takes only
  letters, digits and underscores.  So what is fixed in a statement tells rightly, and so do
  names that are one word for both; a name such as `x$returning` has the word in it.

  * `Token.IsBare`: names that need no quotes;
  * `Sql.taken_alike_expand`: the expansion of marks changes nothing about it;
  * `Demand.written`: the names written into the statements of a demand;
  * `Statement.Classified`: what a statement is taken for, before and after the expansion of
    its marks, and how a driver answers it;
  * `Demand.classified`: all statements that a collection builds on bare names.
-/
import RowQuery.Database.Session
import RowQuery.Proofs.Database.Tokens
import RowQuery.Proofs.Statement.Alignment
import RowQuery.Proofs.Statement.Wording

namespace RowQuery

/-! ## Bare names -/

namespace Database.Token

/-- **Bare names**: what a database reads as a name without quotes, keywords apart. -/
def IsBare (name : String) : Prop :=
  name.toList.head?.any beginsWord = true ∧ ∀ c ∈ name.toList, continuesWord c = true

instance (name : String) : Decidable (IsBare name) :=
  decidable_of_iff
    (name.toList.head?.any beginsWord = true ∧ name.toList.all continuesWord = true)
    (by rw [IsBare, List.all_eq_true])

theorem IsBare.isCode {name : String} (h : IsBare name) : Sql.IsCode name.toList :=
  Sql.isCode_of_isOrdinary fun c hc => isOrdinary_of_continuesWord (h.2 c hc)

theorem IsBare.ne_nil {name : String} (h : IsBare name) : name.toList ≠ [] := by
  intro hnil
  have hhead := h.1
  rw [hnil] at hhead
  cases hhead

end Database.Token

open Database.Token (IsBare)

namespace Sql

theorem isWordChar_toLower {c : Char} (h : isWordChar c = true) : isWordChar c.toLower = true := by
  by_cases hc : c.toNat < 0x80
  · have hall : ∀ n < 0x80, isWordChar (Char.ofNat n) = true →
        isWordChar (Char.ofNat n).toLower = true := by decide
    have hlower := hall c.toNat hc
    rw [Char.ofNat_toNat] at hlower
    exact hlower h
  · have hbeyond : 'Z'.toNat < c.toNat := Nat.lt_of_lt_of_le (by decide) (Nat.le_of_not_lt hc)
    rwa [toLower_eq_self (Or.inr hbeyond)]

/-- A name of letters, digits and underscores is one word. -/
theorem words_of_isWordChar {name : String} (hname : IsCode name.toList)
    (h : ∀ c ∈ name.toList, isWordChar c = true) (hne : name.toList ≠ []) :
    words name = [asciiLower name] := by
  rw [words_eq_wordsOf hname,
    wordsOf_eq_singleton (fun c hc => isWordChar_toLower (h c hc)) hne, ← toList_asciiLower,
    String.ofList_toList]

/-- What a statement whose words begin with a keyword is taken for. -/
theorem returnsRows_of_words {sql keyword : String} {later : List String}
    (h : words sql = keyword :: later) :
    returnsRows sql = true ↔ keyword ∈ readingWords ∨ "returning" ∈ later := by
  simp [returnsRows, h]

theorem returnsRows_expand (sql : String) (values : List Scalar) :
    returnsRows (expand sql values).1 = returnsRows sql := by
  rw [returnsRows, returnsRows, words_expand]

theorem isInsert_expand (sql : String) (values : List Scalar) :
    isInsert (expand sql values).1 = isInsert sql := by
  rw [isInsert, isInsert, words_expand]

end Sql

/-- What is answered is told from the statement as it was written. -/
theorem Executed.reply_expand (sql : String) (values : List Scalar) (x : Executed) :
    x.reply (Sql.expand sql values).1 = x.reply sql := by
  rw [reply, reply, Sql.returnsRows_expand, Sql.isInsert_expand]

/-- **Expansion never changes what a statement is taken for**, whatever the text, and
    whether there is a value for each of its marks: no word is split, joined, hidden or
    revealed.  So the answer, which is told from the statement as it is sent, is that for
    the statement as it was written. -/
theorem Sql.taken_alike_expand (sql : String) (values : List Scalar) :
    words (expand sql values).1 = words sql ∧
      returnsRows (expand sql values).1 = returnsRows sql ∧
      isInsert (expand sql values).1 = isInsert sql ∧
      ∀ x : Executed, x.reply (expand sql values).1 = x.reply sql := by
  have hwords : words (expand sql values).1 = words sql := words_expand sql values
  have hreads : returnsRows (expand sql values).1 = returnsRows sql := returnsRows_expand sql values
  have hinserts : isInsert (expand sql values).1 = isInsert sql := isInsert_expand sql values
  exact ⟨hwords, hreads, hinserts, Executed.reply_expand sql values⟩

/-! ## What is written into statements -/

namespace Demand

/-- Whether a demand asks for rows. -/
def reads : Demand → Bool
  | find _ | count _ | aggregate _ => true
  | remove _ | update _ | insert _ => false

/-- Whether a demand adds rows. -/
def inserts : Demand → Bool
  | insert _ => true
  | _ => false

/-- The first word of the statements of a demand. -/
def keyword : Demand → String
  | find _ | count _ | aggregate _ => "SELECT"
  | remove _ => "DELETE"
  | update _ => "UPDATE"
  | insert _ => "INSERT"

/-- The names that are written into the statements of a demand, statement by statement. -/
def written (table : String) : Demand → List (List String)
  | find r => [table :: (Condition.names? r.condition ++ r.sort.elim [] OrderedMap.keys)]
  | count r => [table :: Condition.names? r.condition]
  | aggregate r =>
    [r.fields ++ table :: (Condition.names? r.condition ++
      (r.groupBy.getD [] ++ r.sort.elim [] OrderedMap.keys))]
  | remove r => [table :: Condition.names? r.condition]
  | update r => r.pairs.map fun e =>
    table :: (e.1.keys ++ e.2.leaves.map Comparison.field)
  | insert [] => []
  | insert (r :: _) => [table :: r.keys]

/-- What is written are the table and the names of the demand. -/
theorem mem_names_of_mem_written {table : String} {d : Demand} {ns : List String}
    (hns : ns ∈ d.written table) {n : String} (hn : n ∈ ns) : n = table ∨ n ∈ d.names := by
  cases d with
  | find r | count r | aggregate r | remove r =>
    obtain rfl := List.mem_singleton.1 hns
    simp only [List.mem_cons, List.mem_append] at hn
    simp only [names, List.mem_append]
    tauto
  | update r =>
    obtain ⟨e, he, rfl⟩ := List.mem_map.1 hns
    obtain ⟨hu, hc⟩ := UpdateRequest.mem_of_mem_pairs he
    simp only [List.mem_cons, List.mem_append] at hn
    simp only [names, List.mem_append, List.mem_flatMap]
    rcases hn with hn | hn | hn
    · exact Or.inl hn
    · exact Or.inr (Or.inl ⟨e.1, hu, hn⟩)
    · exact Or.inr (Or.inr ⟨e.2, hc, hn⟩)
  | insert records =>
    cases records with
    | nil => cases hns
    | cons r rs =>
      obtain rfl := List.mem_singleton.1 hns
      rcases List.mem_cons.1 hn with hn | hn
      · exact Or.inl hn
      · exact Or.inr (List.mem_flatMap.2 ⟨r, List.mem_cons_self, hn⟩)

theorem tells_countClause {o : Option Condition}
    (h : ∀ n ∈ Condition.names? o, Sql.IsCode n.toList) :
    Layout.TellsClause (some (o.elim [.plain "WHERE 1=1"] Condition.filterLayout))
      (Condition.names? o) := by
  cases o with
  | none => exact Layout.tells_fixed (by decide) (by decide)
  | some cond => exact Condition.tells_filterLayout fun l hl => h l.field (List.mem_map_of_mem hl)

theorem tells_updateLayout {table : String} (ht : Sql.IsCode table.toList) {e : Record × Condition}
    (hu : ∀ n ∈ e.1.keys, Sql.IsCode n.toList)
    (hc : ∀ l ∈ e.2.leaves, Sql.IsCode l.field.toList) :
    (updateLayout table e).Tells (table :: (e.1.keys ++ e.2.leaves.map Comparison.field)) := by
  have hfilter : Layout.TellsClause (some e.2.filterLayout) (e.2.leaves.map Comparison.field) :=
    Condition.tells_filterLayout hc
  have hhead := Layout.tells_cons (s := "UPDATE ") (by decide)
    ((Layout.tells_text ht).glue (s := " SET ") (by decide) (Record.tells_assignments hu))
  refine (Layout.tells_assembled (.cons hfilter .nil) hhead).of_iff ?_
  simp

/-- The values of an insertion are marks alone, so only its columns tell. -/
theorem tells_insertLayout {table : String} (ht : Sql.IsCode table.toList) {columns : List String}
    (h : ∀ n ∈ columns, Sql.IsCode n.toList) (records : List Record) :
    (insertLayout table columns records).Tells (table :: columns) := by
  have hrows := Layout.tells_list fun r (_ : r ∈ records) => Record.tells_row columns r
  rw [List.flatMap_eq_nil_iff.2 fun _ _ => rfl] at hrows
  have hwhole := Layout.tells_cons (s := "INSERT INTO ") (by decide)
    ((Layout.tells_text ht).glue (s := " (") (by decide)
      ((tells_names h).glue (s := ") VALUES ") (by decide) hrows))
  refine hwhole.of_iff ?_
  simp

/-- **The names written into a statement tell** whether it has the word RETURNING. -/
theorem tells_layouts {table : String} (ht : Sql.IsCode table.toList) {d : Demand}
    (h : ∀ n ∈ d.names, Sql.IsCode n.toList) :
    List.Forall₂ Layout.Tells (d.layouts table) (d.written table) := by
  have htable := Layout.tells_text ht
  cases d with
  | find r =>
    simp only [names, List.mem_append] at h
    have hfilter := Condition.tells_filterLayout? fun n hn => h n (Or.inl hn)
    have hsort := SortOrder.tells_layout? fun n hn => h n (Or.inr hn)
    have hhead := Layout.tells_cons (s := "SELECT * FROM ") (by decide) htable
    have hwhole := Layout.tells_assembled
      (.cons hfilter (.cons hsort (.cons (tells_limitLayout? r.limit r.offset) .nil))) hhead
    refine .cons (hwhole.of_iff ?_) .nil
    simp
  | count r =>
    have hfilter := tells_countClause h
    have hhead := Layout.tells_cons (s := "SELECT COUNT(*) AS count FROM ") (by decide) htable
    have hwhole := Layout.tells_assembled (.cons hfilter .nil) hhead
    refine .cons (hwhole.of_iff ?_) .nil
    simp
  | aggregate r =>
    simp only [names, List.mem_append] at h
    have hselect := AggregateRequest.tells_layout fun n hn => h n (Or.inl (Or.inl (Or.inl hn)))
    have hfilter := Condition.tells_filterLayout? fun n hn => h n (Or.inl (Or.inl (Or.inr hn)))
    have hgroup := tells_groupByLayout? fun n hn => h n (Or.inl (Or.inr hn))
    have hsort := SortOrder.tells_layout? fun n hn => h n (Or.inr hn)
    have hhead := Layout.tells_cons (s := "SELECT ") (by decide)
      (hselect.glue (s := " FROM ") (by decide) htable)
    have hwhole := Layout.tells_assembled (.cons hfilter (.cons hgroup (.cons hsort .nil))) hhead
    refine .cons (hwhole.of_iff ?_) .nil
    simp
  | remove r =>
    have hfilter := Condition.tells_filterLayout? h
    have hhead := Layout.tells_cons (s := "DELETE FROM ") (by decide) htable
    have hwhole := Layout.tells_assembled (.cons hfilter .nil) hhead
    refine .cons (hwhole.of_iff ?_) .nil
    simp
  | update r =>
    simp only [names, List.mem_append, List.mem_flatMap, List.mem_map] at h
    rw [layouts, written, List.forall₂_map_left_iff, List.forall₂_map_right_iff,
      List.forall₂_same]
    intro e he
    obtain ⟨hu, hc⟩ := UpdateRequest.mem_of_mem_pairs he
    exact tells_updateLayout ht (fun n hn => h n (Or.inl ⟨e.1, hu, hn⟩))
      fun l hl => h _ (Or.inr ⟨e.2, hc, l, hl, rfl⟩)
  | insert records =>
    cases records with
    | nil => exact .nil
    | cons r rs =>
      have hcolumns : ∀ n ∈ r.keys, Sql.IsCode n.toList := fun n hn =>
        h n (List.mem_flatMap.2 ⟨r, List.mem_cons_self, hn⟩)
      exact .cons (tells_insertLayout ht hcolumns (r :: rs)) .nil

/-- The statements of a demand begin with its keyword and a blank. -/
theorem prefix_text_layouts {table : String} {d : Demand} {L : Layout}
    (hL : L ∈ d.layouts table) : (d.keyword ++ " ").toList <+: L.text := by
  cases d with
  | find r | count r | aggregate r | remove r =>
    obtain rfl := List.mem_singleton.1 hL
    refine List.IsPrefix.trans ?_ (Layout.prefix_text_assembled _ _)
    exact List.IsPrefix.trans (by simp only [keyword]; decide) (List.prefix_append _ _)
  | update r =>
    obtain ⟨e, -, rfl⟩ := List.mem_map.1 hL
    refine List.IsPrefix.trans ?_ (Layout.prefix_text_assembled _ _)
    exact List.IsPrefix.trans (by simp only [keyword]; decide) (List.prefix_append _ _)
  | insert records =>
    cases records with
    | nil => cases hL
    | cons r rs =>
      obtain rfl := List.mem_singleton.1 hL
      exact List.IsPrefix.trans (by simp only [keyword]; decide) (List.prefix_append _ _)

theorem wordsOf_keyword (d : Demand) : Sql.wordsOf d.keyword.toList = [asciiLower d.keyword] := by
  cases d <;> simp only [keyword] <;> decide

theorem keyword_mem_readingWords (d : Demand) :
    asciiLower d.keyword ∈ Sql.readingWords ↔ d.reads = true := by
  cases d <;> simp only [keyword, reads] <;> decide

theorem keyword_eq_insert_iff (d : Demand) :
    asciiLower d.keyword = "insert" ↔ d.inserts = true := by
  cases d <;> simp only [keyword, inserts] <;> decide

theorem not_returning_keyword (d : Demand) : ¬ Sql.Returning d.keyword.toList := by
  cases d <;> simp only [keyword] <;> decide

end Demand

/-! ## What statements are taken for -/

/-- **What a statement is taken for**, by whether it asks for rows, whether it adds rows, and
    the names that are written into it. -/
structure Statement.Classified (q : Statement) (reads inserts : Bool) (ns : List String) : Prop where
  inserting : Sql.isInsert q.sql = inserts
  reading : Sql.returnsRows q.sql = true ↔ reads = true ∨ ∃ n ∈ ns, "returning" ∈ Sql.words n
  /-- As it is sent, with its lists expanded, it is taken for the same. -/
  expanded : Sql.isInsert (Sql.expand q.sql q.values).1 = Sql.isInsert q.sql ∧
    Sql.returnsRows (Sql.expand q.sql q.values).1 = Sql.returnsRows q.sql
  /-- A driver answers it with numbers unless it is taken for one that returns rows. -/
  answer : ∀ {σ : Type} (run : String → List Bound → σ → Except DriverError Executed × σ) (s : σ)
    (reply : Reply), (q.answer run s).1 = .ok reply →
      ((∃ affected id, reply = .header affected id) ↔ Sql.returnsRows q.sql = false)

theorem Statement.header_iff_of_answer {σ : Type}
    {run : String → List Bound → σ → Except DriverError Executed × σ} {q : Statement} {s : σ}
    {reply : Reply} (h : (q.answer run s).1 = .ok reply) :
    (∃ affected id, reply = .header affected id) ↔ Sql.returnsRows q.sql = false := by
  obtain ⟨x, -, hx⟩ := except_map_eq_ok.1 h
  have hreply : x.reply q.sql = reply := (Executed.reply_expand q.sql q.values x).symm.trans hx
  subst hreply
  rw [Executed.reply]
  split
  · rename_i hrows
    simp [hrows]
  · rename_i hrows
    simp [Bool.eq_false_iff.2 hrows]

namespace Demand

/-- A statement with the text of a layout of a demand, and the names that tell for it. -/
theorem classified_of_tells {table : String} {d : Demand} {L : Layout} {q : Statement}
    {ns : List String} (hL : L ∈ d.layouts table) (htext : L.text = q.sql.toList)
    (htells : L.Tells ns) (hns : ∀ n ∈ ns, Sql.IsCode n.toList) :
    q.Classified d.reads d.inserts ns := by
  obtain ⟨rest, hrest⟩ := prefix_text_layouts hL
  rw [String.toList_append, List.append_assoc] at hrest
  have hblank : Sql.Separates ' ' := by decide
  have hwords : Sql.words q.sql = asciiLower d.keyword :: Sql.wordsOf rest := by
    rw [Sql.words_eq_wordsOf (htext ▸ htells.code), ← htext, ← hrest]
    change Sql.wordsOf (d.keyword.toList ++ ' ' :: rest) = _
    rw [Sql.wordsOf_append hblank, wordsOf_keyword]
    rfl
  -- the keyword is another word, so the word is behind it or nowhere
  have hreturning : "returning" ∈ Sql.wordsOf rest ↔ ∃ n ∈ ns, "returning" ∈ Sql.words n := by
    have hnames := htells.returning [] fun c hc => by cases hc
    rw [List.append_nil, or_iff_left Sql.not_returning_nil, ← hrest] at hnames
    have hbehind := Sql.returning_append hblank d.keyword.toList rest
    rw [or_iff_right d.not_returning_keyword] at hbehind
    refine (hbehind.symm.trans hnames).trans (exists_congr fun n => and_congr_right fun hn => ?_)
    rw [Sql.words_eq_wordsOf (hns n hn), Sql.Returning]
  refine ⟨?_, ?_, ⟨Sql.isInsert_expand _ _, Sql.returnsRows_expand _ _⟩,
    fun _ _ _ => Statement.header_iff_of_answer⟩
  · rw [Sql.isInsert, hwords, List.head?_cons, Bool.eq_iff_iff, ← d.keyword_eq_insert_iff]
    simp
  · rw [Sql.returnsRows_of_words hwords, keyword_mem_readingWords, hreturning]

/-- **What the statements of a collection are taken for**, on bare names.  A statement adds
    rows if and only if it is an insertion.  It is taken for one that returns rows if it
    asks for them, and else if and only if one of the names written into it has the word
    RETURNING; no name does that consists of letters, digits and underscores alone and is
    not the word itself. -/
theorem classified (c : Collection) {p : Policy} {d : Demand} {op : Operation}
    (h : d.compile p = .ok op) (ht : IsBare c.table) (hn : ∀ n ∈ d.names, IsBare n) :
    (∀ (i : Nat) (q : Statement), (op.statements c)[i]? = some q →
      ∃ ns, (d.written c.table)[i]? = some ns ∧ q.Classified d.reads d.inserts ns) ∧
    (∀ q ∈ Operation.removeAll.statements c, q.Classified false false [c.table]) ∧
    ((∀ n ∈ c.table :: d.names, (∀ ch ∈ n.toList, Sql.isWordChar ch = true) ∧
        asciiLower n ≠ "returning") →
      ∀ q ∈ op.statements c, Sql.returnsRows q.sql = d.reads) := by
  have hclassified : ∀ (i : Nat) (q : Statement), (op.statements c)[i]? = some q →
      ∃ ns, (d.written c.table)[i]? = some ns ∧ q.Classified d.reads d.inserts ns := by
    intro i q hq
    obtain ⟨L, hL, hlays⟩ := lays_getElem?_of_compile c h hq
    obtain ⟨ns, hns, htells⟩ := exists_getElem?_of_forall₂
      (tells_layouts ht.isCode fun n hmem => (hn n hmem).isCode).flip hL
    refine ⟨ns, hns, classified_of_tells (List.mem_of_getElem? hL) hlays.text htells ?_⟩
    intro n hmem
    rcases mem_names_of_mem_written (List.mem_of_getElem? hns) hmem with rfl | hmem
    · exact ht.isCode
    · exact (hn n hmem).isCode
  refine ⟨hclassified, ?_, ?_⟩
  · -- the removal of all rows has the text of one without a condition
    intro q hq
    obtain rfl := List.mem_singleton.1 hq
    have htable := Layout.tells_cons (s := "DELETE FROM ") (by decide)
      (Layout.tells_text ht.isCode)
    refine classified_of_tells (d := .remove ⟨none⟩) (List.mem_singleton_self _) ?_ htable
      (List.forall_mem_singleton.2 ht.isCode)
    simp [Layout.assembled, Condition.filterLayout?, Piece.text, Statement.raw,
      Collection.deleteHead]
  · intro hplain q hq
    obtain ⟨i, hi⟩ := List.getElem?_of_mem hq
    obtain ⟨ns, hns, hq⟩ := hclassified i q hi
    have hno : ¬ ∃ n ∈ ns, "returning" ∈ Sql.words n := by
      rintro ⟨n, hmem, hword⟩
      have hbare : IsBare n ∧ n ∈ c.table :: d.names := by
        rcases mem_names_of_mem_written (List.mem_of_getElem? hns) hmem with rfl | hmem
        · exact ⟨ht, List.mem_cons_self⟩
        · exact ⟨hn n hmem, List.mem_cons_of_mem _ hmem⟩
      obtain ⟨hchars, hne⟩ := hplain n hbare.2
      rw [Sql.words_of_isWordChar hbare.1.isCode hchars hbare.1.ne_nil,
        List.mem_singleton] at hword
      exact hne hword.symm
    rw [Bool.eq_iff_iff, hq.reading, or_iff_left hno]

/-- An update of two rows: the column of one has the word as a part of its name for
    everybody, that of the other only for the reader of words. -/
theorem classified_returning_id :
    let c : Collection := ⟨"t$1", .default⟩
    let condition : Condition := .leaf ⟨"id", .within, .list [.int 1, .int 2]⟩
    let d : Demand := .update
      ⟨[.ofList [("returning_id", .int 1)], .ofList [("x$returning", .int 2)]], [condition]⟩
    let first : Statement := ⟨"UPDATE t$1 SET returning_id = ? WHERE id IN ?",
      [.int 1, .list [.int 1, .int 2]]⟩
    let second : Statement := ⟨"UPDATE t$1 SET x$returning = ? WHERE id IN ?",
      [.int 2, .list [.int 1, .int 2]]⟩
    IsBare c.table ∧ (∀ n ∈ d.names, IsBare n) ∧
      ∃ op, d.compile .default = .ok op ∧ op.statements c = [first, second] ∧
        first.Classified false false ["t$1", "returning_id", "id"] ∧
        Sql.returnsRows first.sql = false ∧
        second.Classified false false ["t$1", "x$returning", "id"] ∧
        Sql.returnsRows second.sql = true := by
  intro c condition d first second
  have htable : IsBare c.table := by decide
  have hnames : ∀ n ∈ d.names, IsBare n := by decide
  have hcompile : d.compile .default = .ok _ := rfl
  have hall := (classified c hcompile htable hnames).1
  obtain ⟨ns, hns, hfirst⟩ := hall 0 first rfl
  obtain ⟨ms, hms, hsecond⟩ := hall 1 second rfl
  cases hns
  cases hms
  exact ⟨htable, hnames, _, hcompile, rfl, hfirst, by decide +kernel, hsecond, by decide +kernel⟩

/-- **A column `x$returning` is taken for the word.**  The update of a row is answered with
    no rows changed, though the row has the new value. -/
theorem misread_x_returning :
    let c : Collection := ⟨"t", .default⟩
    let condition : Condition := .leaf ⟨"id", .eq, .int 1⟩
    let d : Demand := .update ⟨[.ofList [("x$returning", .text "b")]], [condition]⟩
    let t : Database.Table := .ofDefinition "t"
      [⟨"id", "INTEGER", true, true, false⟩, ⟨"x$returning", "TEXT", false, false, false⟩]
    let s := ((c.insert [.ofList [("x$returning", .text "a")]]).run Session.backend
      (.ofDatabase ⟨[t]⟩)).state
    IsBare c.table ∧ (∀ n ∈ d.names, IsBare n ∧ asciiLower n ≠ "returning") ∧
      ∃ op q, d.compile .default = .ok op ∧ op.statements c = [q] ∧
        Sql.returnsRows q.sql = true ∧
        ((op.dialogue c).run Session.backend s).value = .ok (.updated (.success 0)) ∧
        ((op.dialogue c).run Session.backend s).state ≠ s := by
  intro c condition d t s
  have hcompile : d.compile .default = .ok _ := rfl
  exact ⟨by decide, by decide, _, _, hcompile, rfl, by decide +kernel, by decide +kernel,
    by decide +kernel⟩

end Demand

end RowQuery

/-
  RowQuery — the databases that requests lead to.

  Whatever is sent to a session, and in whatever order, its tables stay sound. A statement
  that is refused changes nothing, and one that is carried out makes a table or adds,
  changes or deletes rows of one; each of these keeps what makes a table sound.

  * `Table.Successor`: a sound version of a table, which may take its place;
  * `Table.Sound.insert`, `Table.Sound.update`, `Table.Sound.delete`: one lemma for each
    change of rows;
  * `Database.Sound`, `Sound.text`: every text keeps a database sound;
  * `Session.Sound.run`: every dialogue keeps a session sound;
  * `Session.sound_of_empty`: so all sessions are sound that begin without tables.
-/
import RowQuery.Database.Session
import RowQuery.Proofs.Database.Rows

namespace RowQuery

namespace Database

/-! ## Changes of rows -/

namespace Table

variable {t t' t'' : Table}

/-- A sound version of a table, which has the name and the columns of the table. -/
structure Successor (t t' : Table) : Prop where
  name : t'.name = t.name
  columns : t'.columns = t.columns
  sound : t'.Sound

theorem Successor.trans (h : t.Successor t') (h' : t'.Successor t'') : t.Successor t'' :=
  ⟨h'.name.trans h.name, h'.columns.trans h.columns, h'.sound⟩

/-- Rows of the right width that are added one after the other. -/
theorem Sound.addRows {vss : List (List Value)} {added : List Row} (hs : t.Sound)
    (hwidth : ∀ vs ∈ vss, vs.length = t.columns.length) (h : t.addRows vss = .ok (t', added)) :
    t.Successor t' := by
  induction vss generalizing t added with
  | nil =>
    cases h
    exact ⟨rfl, rfl, hs⟩
  | cons vs vss ih =>
    obtain ⟨⟨t₁, row⟩, hrow, h⟩ := except_bind_eq_ok.1 h
    obtain ⟨⟨t₂, rest⟩, hrest, h⟩ := except_bind_eq_ok.1 h
    cases h
    have hfirst : t.Successor t₁ := by
      have hsound := hs.addRow (hwidth vs List.mem_cons_self) hrow
      obtain ⟨-, -, -, -, -, rfl⟩ := addRow_eq_ok hrow
      exact ⟨rfl, rfl, hsound⟩
    refine hfirst.trans (ih hfirst.sound (fun vs' hvs' => ?_) hrest)
    rw [hfirst.columns]
    exact hwidth vs' (List.mem_cons_of_mem vs hvs')

theorem length_assigned (assignments : List (Nat × Term)) (row : Row) :
    (assigned assignments row).length = row.cells.length := by
  have hfold : ∀ vs : List Value, (assignments.foldl
      (fun vs a => vs.set a.1 (a.2.eval (.single row.cells))) vs).length = vs.length := by
    induction assignments with
    | nil => exact fun _ => rfl
    | cons a assignments ih =>
      intro vs
      rw [List.foldl_cons, ih, List.length_set]
  exact hfold row.cells

/-- Rows of the right width that are changed one after the other. -/
theorem Sound.changeRows {assignments : List (Nat × Term)} {olds changed : List Row} (hs : t.Sound)
    (hwidth : ∀ old ∈ olds, old.cells.length = t.columns.length)
    (h : t.changeRows assignments olds = .ok (t', changed)) : t.Successor t' := by
  induction olds generalizing t changed with
  | nil =>
    cases h
    exact ⟨rfl, rfl, hs⟩
  | cons old olds ih =>
    obtain ⟨⟨t₁, row⟩, hrow, h⟩ := except_bind_eq_ok.1 h
    obtain ⟨⟨t₂, rest⟩, hrest, h⟩ := except_bind_eq_ok.1 h
    cases h
    have hfirst : t.Successor t₁ := by
      have hvalues := (length_assigned assignments old).trans (hwidth old List.mem_cons_self)
      have hsound := hs.changeRow hvalues hrow
      obtain ⟨-, -, rfl⟩ := changeRow_eq_ok hrow
      exact ⟨rfl, rfl, hsound⟩
    refine hfirst.trans (ih hfirst.sound (fun old' hold' => ?_) hrest)
    rw [hfirst.columns]
    exact hwidth old' (List.mem_cons_of_mem old hold')

/-- There is a place for each column of the table, whatever columns are named. -/
theorem length_sources {name : String} {columns : Option (List String)}
    {places : List (Option Nat)} (h : t.sources name columns = .ok places) :
    places.length = t.columns.length := by
  cases columns with
  | none =>
    cases h
    rw [List.length_map, List.length_range]
  | some names =>
    rw [sources] at h
    split at h
    · cases h
    · cases h
      rw [List.length_map]

variable {values : List Value} {returning : List Item} {o : Outcome}

/-- **An insertion keeps a table sound.** -/
theorem Sound.insert {name : String} {columns : Option (List String)} {rows : List (List Expr)}
    (hs : t.Sound) (h : t.insert values name columns rows returning = .ok (t', o)) :
    t.Successor t' := by
  obtain ⟨places, hplaces, h⟩ := except_bind_eq_ok.1 h
  obtain ⟨terms, -, h⟩ := except_bind_eq_ok.1 h
  obtain ⟨⟨⟩, -, h⟩ := except_bind_eq_ok.1 h
  obtain ⟨outputs, -, h⟩ := except_bind_eq_ok.1 h
  obtain ⟨⟨⟩, -, h⟩ := except_bind_eq_ok.1 h
  obtain ⟨⟨t₁, added⟩, hadded, h⟩ := except_bind_eq_ok.1 h
  cases h
  refine hs.addRows (fun vs hvs => ?_) hadded
  obtain ⟨ts, -, rfl⟩ := List.mem_map.1 hvs
  rw [List.length_map, length_sources hplaces]

/-- **An update keeps a table sound.** -/
theorem Sound.update {assignments : List (String × Expr)} {filter : Option Expr} (hs : t.Sound)
    (h : t.update values assignments filter returning = .ok (t', o)) : t.Successor t' := by
  obtain ⟨assignments, -, h⟩ := except_bind_eq_ok.1 h
  obtain ⟨filter, -, h⟩ := except_bind_eq_ok.1 h
  obtain ⟨outputs, -, h⟩ := except_bind_eq_ok.1 h
  obtain ⟨⟨⟩, -, h⟩ := except_bind_eq_ok.1 h
  obtain ⟨⟨t₁, changed⟩, hchanged, h⟩ := except_bind_eq_ok.1 h
  cases h
  exact hs.changeRows (fun old hold => (hs.fits old (List.mem_filter.1 hold).1).width) hchanged

/-- **A deletion keeps a table sound.** -/
theorem Sound.delete {filter : Option Expr} (hs : t.Sound)
    (h : t.delete values filter returning = .ok (t', o)) : t.Successor t' := by
  obtain ⟨filter, -, h⟩ := except_bind_eq_ok.1 h
  obtain ⟨outputs, -, h⟩ := except_bind_eq_ok.1 h
  obtain ⟨⟨⟩, -, h⟩ := except_bind_eq_ok.1 h
  cases h
  exact ⟨rfl, rfl, hs.keepRows _⟩

/-! ## New tables -/

/-- Names none of which is repeated are different in any ASCII case, and from those seen. -/
theorem nodup_of_repeatedName? {seen names : List String} (h : repeatedName? seen names = none) :
    (names.map asciiLower).Nodup ∧ ∀ name ∈ names, ∀ s ∈ seen, asciiLower name ≠ asciiLower s := by
  induction names generalizing seen with
  | nil => exact ⟨List.nodup_nil, nofun⟩
  | cons name names ih =>
    rw [repeatedName?] at h
    split at h
    · cases h
    · rename_i hnew
      obtain ⟨hnodup, hothers⟩ := ih h
      have hname : ∀ s ∈ seen, asciiLower name ≠ asciiLower s :=
        fun s hs heq => hnew (List.any_eq_true.2 ⟨s, hs, sameName_iff.2 heq⟩)
      refine ⟨List.nodup_cons.2 ⟨?_, hnodup⟩, ?_⟩
      · intro hmem
        obtain ⟨name', hname', heq⟩ := List.mem_map.1 hmem
        exact hothers name' hname' name List.mem_cons_self heq
      · intro name' hname' s hs
        rcases List.mem_cons.1 hname' with rfl | hname'
        · exact hname s hs
        · exact hothers name' hname' s (List.mem_cons_of_mem name hs)

/-- **A new table is sound** if no name of a column is repeated. -/
theorem sound_ofDefinition (name : String) {columns : List ColumnDefinition}
    (h : repeatedName? [] (columns.map ColumnDefinition.name) = none) :
    (ofDefinition name columns).Sound := by
  refine ⟨?_, ?_, List.Pairwise.nil, nofun⟩
  · have hnames := (nodup_of_repeatedName? h).1
    rw [List.map_map] at hnames
    change ((columns.map _).map _).Nodup
    rw [List.map_map]
    exact hnames
  · intro place hplace
    obtain ⟨hlt, -⟩ := List.findIdx?_eq_some_iff_getElem.1 hplace
    exact (List.length_map _).symm ▸ hlt

end Table

/-! ## Databases -/

/-- **A sound database**: its tables have different names in any ASCII case, and are sound. -/
structure Sound (d : Database) : Prop where
  names : (d.tables.map fun t => asciiLower t.name).Nodup
  tables : ∀ t ∈ d.tables, t.Sound

theorem sound_empty : Sound empty := ⟨List.nodup_nil, nofun⟩

namespace Sound

variable {d d' : Database} {name : String} {o : Outcome}

theorem table {t : Table} (hd : d.Sound) (h : d.table name = .ok t) : t.Sound :=
  hd.tables t (List.mem_of_find?_eq_some (table_eq_ok.1 h))

/-- A sound version of a table with its name may take its place. -/
theorem replace {t : Table} (hd : d.Sound) (ht : t.Sound) : (d.replace t).Sound := by
  constructor
  · have hnames : (d.replace t).tables.map (fun u => asciiLower u.name) =
        d.tables.map fun u => asciiLower u.name := by
      change (d.tables.map _).map _ = _
      rw [List.map_map]
      refine List.map_congr_left fun u _ => ?_
      change asciiLower (if sameName u.name t.name = true then t else u).name = _
      by_cases h : sameName u.name t.name = true
      · rw [if_pos h]
        exact (sameName_iff.1 h).symm
      · rw [if_neg h]
    rw [hnames]
    exact hd.names
  · intro u hu
    obtain ⟨u₀, hu₀, rfl⟩ := List.mem_map.1 hu
    split
    · exact ht
    · exact hd.tables u₀ hu₀

/-- A change of one table that keeps tables sound keeps the database sound. -/
theorem change {f : Table → Except Refusal (Table × Outcome)} (hd : d.Sound)
    (hf : ∀ {t t' o}, t.Sound → f t = .ok (t', o) → t.Successor t')
    (h : d.change name f = .ok (d', o)) : d'.Sound := by
  obtain ⟨t, ht, h⟩ := except_bind_eq_ok.1 h
  obtain ⟨⟨t', o'⟩, ht', h⟩ := except_bind_eq_ok.1 h
  cases h
  exact hd.replace (hf (hd.table ht) ht').sound

/-- A new table has a name of its own. -/
theorem create {columns : List ColumnDefinition} (hd : d.Sound) {e : Refusal}
    (hname : d.table name = .error e)
    (hcolumns : Table.repeatedName? [] (columns.map ColumnDefinition.name) = none) :
    Sound ⟨d.tables ++ [.ofDefinition name columns]⟩ := by
  have hnew : ∀ t ∈ d.tables, asciiLower t.name ≠ asciiLower name := by
    intro t ht heq
    cases hfind : d.tables.find? (fun u => sameName u.name name) with
    | some u =>
      rw [table_eq_ok.2 hfind] at hname
      cases hname
    | none => exact List.find?_eq_none.1 hfind t ht (sameName_iff.2 heq)
  constructor
  · rw [List.map_append, List.nodup_append]
    refine ⟨hd.names, List.nodup_singleton _, ?_⟩
    intro a ha b hb heq
    obtain ⟨t, ht, rfl⟩ := List.mem_map.1 ha
    obtain rfl := List.mem_singleton.1 hb
    exact hnew t ht heq
  · intro t ht
    rcases List.mem_append.1 ht with ht | ht
    · exact hd.tables t ht
    · obtain rfl := List.mem_singleton.1 ht
      exact Table.sound_ofDefinition name hcolumns

/-- **A command that is carried out keeps a database sound.** -/
theorem run {c : Command} {values : List Value} (hd : d.Sound) (h : c.run values d = .ok (d', o)) :
    d'.Sound := by
  obtain ⟨named, action⟩ := c
  rw [Command.run] at h
  cases action with
  | query q =>
    obtain ⟨rows, -, h⟩ := except_bind_eq_ok.1 h
    cases h
    exact hd
  | createTable name columns =>
    rw [Action.run] at h
    split at h
    · cases h
    · cases h
    · rename_i e hname hcolumns
      cases h
      exact hd.create hname hcolumns
  | insert table columns rows returning => exact hd.change (fun hs => hs.insert) h
  | update table assignments filter returning => exact hd.change (fun hs => hs.update) h
  | delete table filter returning => exact hd.change (fun hs => hs.delete) h

theorem carryOut {ts : List Token} {values : List Value} {os : List Outcome} (hd : d.Sound)
    (h : d.carryOut values ts = .ok (d', os)) : d'.Sound := by
  obtain ⟨c, -, h⟩ := except_bind_eq_ok.1 h
  cases c with
  | none =>
    cases h
    exact hd
  | some c =>
    obtain ⟨⟨d₁, o⟩, hrun, h⟩ := except_bind_eq_ok.1 h
    cases h
    exact hd.run hrun

/-- Statements one after the other keep a database sound, up to the first that is refused. -/
theorem carryOutAll (hd : d.Sound) (values : List Value) (statements : List (List Token)) :
    (d.carryOutAll values statements).2.Sound := by
  induction statements generalizing d with
  | nil => exact hd
  | cons ts more ih =>
    rw [Database.carryOutAll]
    cases h : d.carryOut values ts with
    | error r => exact hd
    | ok p => exact ih (hd.carryOut h)

/-- **Every text keeps a database sound**, whether its statements are carried out or refused. -/
theorem text (hd : d.Sound) (sql : String) (bound : List Bound) : (d.run sql bound).2.Sound :=
  hd.carryOutAll _ _

end Sound

end Database

/-! ## Sessions -/

/-- What all answers of a backend keep is kept by every dialogue. -/
theorem Dialogue.run_keeps {α σ : Type} {b : Backend σ} {P : σ → Prop}
    (hquery : ∀ channel q s, P s → P (b.query channel q s).2)
    (hcontrol : ∀ c s, P s → P (b.control c s).2) (d : Dialogue α) {s : σ} (hs : P s) :
    P (d.run b s).state := by
  induction d generalizing s with
  | done a => exact hs
  | query channel q next ih => exact ih _ (hquery channel q s hs)
  | control c next ih => exact ih _ (hcontrol c s hs)

namespace Session

/-- **A sound session**: what is published is sound, and so is the copy that an open
    transaction works on. -/
structure Sound (s : Session) : Prop where
  published : s.published.Sound
  transaction : ∀ d, s.transaction = some d → d.Sound

namespace Sound

variable {s : Session}

theorem ofDatabase {d : Database} (hd : d.Sound) : (Session.ofDatabase d).Sound := ⟨hd, nofun⟩

theorem text (hs : s.Sound) (channel : Channel) (sql : String) (bound : List Bound) :
    (Session.run channel sql bound s).2.Sound := by
  obtain ⟨published, transaction⟩ := s
  cases channel with
  | pool =>
    cases transaction with
    | none => exact ofDatabase (hs.published.text sql bound)
    | some copy => exact hs
  | transaction =>
    cases transaction with
    | none => exact hs
    | some copy =>
      refine ⟨hs.published, ?_⟩
      rintro d ⟨⟩
      exact (hs.transaction copy rfl).text sql bound

theorem control (hs : s.Sound) (c : Control) : (Session.backend.control c s).2.Sound := by
  obtain ⟨published, transaction⟩ := s
  cases transaction with
  | none =>
    cases c with
    | begin =>
      refine ⟨hs.published, ?_⟩
      rintro d ⟨⟩
      exact hs.published
    | commit => exact hs
    | rollback => exact hs
  | some copy =>
    cases c with
    | begin => exact hs
    | commit => exact ofDatabase (hs.transaction copy rfl)
    | rollback => exact ofDatabase hs.published

/-- **Every dialogue keeps a session sound**, whatever it sends. -/
theorem run {α : Type} (hs : s.Sound) (d : Dialogue α) : (d.run Session.backend s).state.Sound :=
  d.run_keeps (fun channel _ _ hs => hs.text channel _ _) (fun c _ hs => hs.control c) hs

end Sound

/-- **All sessions that begin without tables are sound.** -/
theorem sound_of_empty {α : Type} (d : Dialogue α) :
    (d.run backend (ofDatabase .empty)).state.Sound :=
  (Sound.ofDatabase Database.sound_empty).run d

end Session

end RowQuery

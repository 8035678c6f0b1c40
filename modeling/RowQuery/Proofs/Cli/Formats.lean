/-
  RowQuery — the two formats of records.

  Records are printed one to a line, or as one indented array. A line is the plain text of its
  record, which never breaks; both outputs are read again as the records, in their order and
  with their keys in order. For that they must not be nested too deep: the rows of a driver hold
  no lists, and records that were added came from a text that was read.

  * `Cli.Carries`: what is promised of the two outputs of records;
  * `Cli.carries_render`: the outputs of records that are not nested too deep keep it;
  * `Engine.nesting_of_query`, `Collection.nesting_of_insert`: which records are not;
  * `Cli.InBothFormats`: records that are answered, and printed in both formats;
  * `Cli.formats_carry_records`: **all that find, insert and aggregate print are such records**.
-/
import RowQuery.Proofs.Backend.Driver
import RowQuery.Proofs.Cli.Failure
import RowQuery.Proofs.Decode.Nesting
import RowQuery.Proofs.Json.Lines
import RowQuery.Proofs.Request.Routes

namespace RowQuery

/-! ## Records that can be read again -/

/-- No double occurs in a record. -/
def Record.FloatFree (r : Record) : Prop := ∀ v ∈ r.values, v.FloatFree

theorem Record.FloatFree.writable {r : Record} (h : r.FloatFree) : r.Writable :=
  fun v hv => (h v hv).fewDigits.finite

theorem Record.FloatFree.readsBack {r : Record} (h : r.FloatFree) : r.toJson.ReadsBack :=
  membersReadBack_toJson fun _ he => h _ (List.mem_map_of_mem he)

theorem readsBack_recordsToJson {rs : List Record} (h : ∀ r ∈ rs, r.FloatFree) :
    (recordsToJson rs).ReadsBack := by
  change Json.ItemsReadBack (rs.map Record.toJson)
  induction rs with
  | nil => exact True.intro
  | cons r rs ih =>
    rw [List.forall_mem_cons] at h
    exact ⟨h.1.readsBack, ih h.2⟩

theorem distinctKeys_recordsToJson (rs : List Record) : (recordsToJson rs).DistinctKeys := by
  change Json.ItemsDistinctKeys (rs.map Record.toJson)
  induction rs with
  | nil => exact True.intro
  | cons r rs ih => exact ⟨r.distinctKeys_toJson, ih⟩

theorem nesting_recordsToJson_le_iff {rs : List Record} {n : Nat} :
    (recordsToJson rs).nesting ≤ n + 1 ↔ ∀ r ∈ rs, r.toJson.nesting ≤ n := by
  rw [recordsToJson, Json.nesting, Nat.add_le_add_iff_right, Json.itemNesting_le_iff,
    List.forall_mem_map]

theorem nesting_toJson_le_iff {r : Record} {n : Nat} :
    r.toJson.nesting ≤ n + 1 ↔ ∀ e ∈ r.entries, e.2.toJson.nesting ≤ n := by
  rw [Record.toJson, Json.nesting, Nat.add_le_add_iff_right, Json.memberNesting_le_iff,
    List.forall_mem_map]

/-- The array of records is nested deeper than each of them. -/
theorem nesting_le_of_mem {rs : List Record} {r : Record} (hr : r ∈ rs) :
    r.toJson.nesting ≤ (recordsToJson rs).nesting :=
  (nesting_recordsToJson_le_iff.1 (Nat.le_refl _) r hr).trans (Nat.le_succ _)

namespace Cli

/-! ## Lines -/

/-- **A line carries a record**: it is the plain text of the record without any break, and is
    read again as the record, its keys in the same order, if there is no double in it. -/
structure CarriesRecord (line : String) (r : Record) : Prop where
  plain : line = r.toJson.compact
  inline : Inline line.toList
  reads : r.FloatFree → Record.decoder.Reads line r

/-- **Two outputs carry the same records**: as text there is a line for each, in order, and
    nothing behind the last one; as JSON there is the array of them. -/
structure Carries (rs : List Record) (text json : String) : Prop where
  lines : ∃ lines : List String, text.toList.splitOn '\n' = lines.map String.toList ++ [[]] ∧
    List.Forall₂ CarriesRecord lines rs
  array : (∀ r ∈ rs, r.FloatFree) → (Decoder.list Record.decoder).Reads json rs

/-- Lines that have no line feed in them are found again by cutting at the line feeds. -/
theorem splitOn_joinLines {lines : List String} (h : ∀ line ∈ lines, '\n' ∉ line.toList) :
    (joinLines lines).toList.splitOn '\n' = lines.map String.toList ++ [[]] := by
  induction lines with
  | nil => rfl
  | cons line lines ih =>
    rw [List.forall_mem_cons] at h
    have hjoin : (joinLines (line :: lines)).toList =
        line.toList ++ '\n' :: (joinLines lines).toList := by
      simp [joinLines]
    have hline : ∀ c ∈ line.toList, (c == '\n') = false := by
      rintro c hc
      exact beq_eq_false_iff_ne.2 fun heq => h.1 (heq ▸ hc)
    have hcut := List.splitOnP_append_cons (p := (· == '\n')) line.toList (joinLines lines).toList
      (beq_self_eq_true '\n')
    rw [List.splitOnP_eq_singleton hline] at hcut
    rw [hjoin]
    exact hcut.trans (congrArg (line.toList :: ·) (ih h.2))

theorem carriesRecord_compact {r : Record} (h : r.toJson.nesting ≤ Json.maxDepth) :
    CarriesRecord r.toJson.compact r where
  plain := rfl
  inline := by
    rw [Json.compact, String.toList_ofList]
    exact r.toJson.inline_chars
  reads hfree := roundTrips_record.reads_of_ofText agrees_record hfree.writable
    r.distinctKeys_toJson hfree.readsBack h r.toJson.ofText_compact

/-- **The two outputs of records carry them**, if they are not nested too deep. -/
theorem carries_render {rs : List Record} (h : (recordsToJson rs).nesting ≤ Json.maxDepth) :
    Carries rs (render .text (recordsToJson rs)) (render .json (recordsToJson rs)) where
  lines := by
    have hrecords : ∀ r ∈ rs, CarriesRecord r.toJson.compact r := fun r hr =>
      carriesRecord_compact ((nesting_le_of_mem hr).trans h)
    have htext : textLines (recordsToJson rs) = rs.map fun r => r.toJson.compact := by
      simp [recordsToJson, textLines]
    refine ⟨rs.map fun r => r.toJson.compact, ?_, ?_⟩
    · rw [render, htext]
      apply splitOn_joinLines
      simp only [List.forall_mem_map]
      exact fun r hr => (hrecords r hr).inline.lineFeed_notMem
    · rw [List.forall₂_map_left_iff, List.forall₂_same]
      exact hrecords
  array hfree := by
    have hjson : render .json (recordsToJson rs) = (recordsToJson rs).pretty ++ "\n" := by
      simp [render, joinLines]
    rw [hjson]
    exact roundTrips_record.list.reads_of_ofText agrees_record.list
      (fun r hr => (hfree r hr).writable) (distinctKeys_recordsToJson rs)
      (readsBack_recordsToJson hfree) h (Json.ofText_pretty _)

end Cli

/-! ## Records that are answered -/

/-- A value that is decoded is no list. -/
theorem Cell.nesting_toScalar (c : Cell) : c.toScalar.toJson.nesting = 0 := by
  have hoption : ∀ {α : Type} (f : α → Scalar) (o : Option α), (∀ a, (f a).toJson.nesting = 0) →
      (Scalar.ofOption f o).toJson.nesting = 0 := by
    intro α f o h
    cases o with
    | none => rfl
    | some a => exact h a
  have hfloat : ∀ x, (Scalar.float x).toJson.nesting = 0 := by
    intro x
    rw [Scalar.toJson]
    split <;> rfl
  rw [toScalar]
  split
  · rfl
  all_goals exact hoption _ _ (by first | exact hfloat | exact fun _ => rfl)

theorem DriverRow.nesting_toRecord (row : DriverRow) : row.toRecord.toJson.nesting ≤ 1 := by
  refine nesting_toJson_le_iff.2 fun e he => ?_
  obtain ⟨column, -, rfl⟩ := List.mem_map.1 (OrderedMap.mem_of_mem_ofList he)
  exact column.2.nesting_toScalar.le

/-- **The rows that a driver gives back** hold no lists. -/
theorem Engine.nesting_of_query {σ : Type} {e : Engine σ} {q : Statement} {s : σ} {answer : Reply}
    (h : (e.backend.query .pool q s).1 = .ok answer) :
    (recordsToJson answer.toRows).nesting ≤ 2 := by
  obtain ⟨x, -, rfl⟩ := Engine.query_eq_ok h
  rw [nesting_recordsToJson_le_iff, Executed.reply]
  split
  · intro r hr
    obtain ⟨row, -, rfl⟩ := List.mem_map.1 hr
    exact row.nesting_toRecord
  · exact List.forall_mem_nil _

namespace Collection

/-- An id adds no container to a record. -/
theorem nesting_insert_int_le (r : Record) (key : String) (id : Int64) :
    (Record.toJson (r.insert key (.int id))).nesting ≤ r.toJson.nesting := by
  have hvalues := nesting_toJson_le_iff.1 (Nat.le_refl r.toJson.nesting)
  refine nesting_toJson_le_iff.2 fun e he => ?_
  rcases mem_of_mem_putEntry he with rfl | he
  · exact Nat.zero_le _
  · exact hvalues e he

theorem nesting_withIds_le (key : String) (id : Int64) (rs : List Record) :
    (recordsToJson (withIds key id rs)).nesting ≤ (recordsToJson rs).nesting := by
  refine Nat.succ_le_succ ?_
  induction rs generalizing id with
  | nil => exact Nat.le_refl _
  | cons r rs ih =>
    have hfirst := nesting_insert_int_le r key id
    have hrest := ih (id + 1)
    simp only [withIds, List.map_cons, Json.itemNesting]
    omega

variable {c : Collection} {σ : Type} {b : Backend σ} {s : σ}

/-- **Records that were added** are answered no deeper nested than they came. -/
theorem nesting_of_insert {records rs : List Record}
    (h : ((c.insert records).run b s).value = .ok rs) :
    (recordsToJson rs).nesting ≤ (recordsToJson records).nesting := by
  cases records with
  | nil =>
    cases h
    exact Nat.le_refl _
  | cons first others =>
    obtain ⟨answer, -, hread, -⟩ := executeAnd_eq_ok h
    split at hread
    · cases hread
      exact Nat.le_refl _
    · split at hread
      · cases hread
        exact nesting_withIds_le _ _ _
      · cases hread
        exact Nat.le_refl _

end Collection

namespace Cli

/-! ## Records that are printed -/

/-- Whether the result of an operation is records. -/
def Operation.answersRecords : Operation → Bool
  | find _ | insert _ | aggregate _ => true
  | count _ | remove _ | removeAll | update _ => false

variable {σ : Type} {e : Engine σ} {w : Surroundings} {s : σ} {c : Collection}

theorem exists_records_of_query {q : Statement} {a : Answer}
    (h : ((RowQuery.Operation.answering .rows
      (c.executeAnd q fun reply => .ok reply.toRows)).run e.backend s).value = .ok a) :
    ∃ rs, a = .rows rs ∧ (recordsToJson rs).nesting ≤ Json.maxDepth := by
  rw [RowQuery.Operation.run_answering] at h
  obtain ⟨rs, hrs, rfl⟩ := except_map_eq_ok.1 h
  obtain ⟨answer, hanswer, hread, -⟩ := Collection.executeAnd_eq_ok hrs
  cases hread
  exact ⟨_, rfl, (Engine.nesting_of_query hanswer).trans (by decide)⟩

/-- **Operations answer with records that can be read again.** -/
theorem exists_records {op : Operation} (hop : op.answersRecords = true) {p : Policy}
    {o : RowQuery.Operation} (ho : op.prepared w p = .ok o) {a : Answer}
    (h : ((o.dialogue c).run e.backend s).value = .ok a) :
    ∃ rs, a = .rows rs ∧ (recordsToJson rs).nesting ≤ Json.maxDepth := by
  cases op with
  | find input =>
    obtain ⟨i, -, rfl⟩ := except_map_eq_ok.1 ho
    exact exists_records_of_query h
  | aggregate request =>
    obtain ⟨f, -, rfl⟩ := except_map_eq_ok.1 ho
    exact exists_records_of_query h
  | insert argument =>
    obtain ⟨records, hrecords, rfl⟩ := except_map_eq_ok.1 ho
    obtain ⟨_, j, htext, hj⟩ := exists_tree_of_decodeArgument hrecords
    have hdepth : (recordsToJson records).nesting ≤ Json.maxDepth :=
      (Decoder.noDeeper_scalar.map.list.nesting_le hj).trans (Json.nesting_le_of_ofText? htext)
    rw [RowQuery.Operation.dialogue, RowQuery.Operation.run_answering] at h
    obtain ⟨rs, hrs, rfl⟩ := except_map_eq_ok.1 h
    exact ⟨rs, rfl, (Collection.nesting_of_insert hrs).trans hdepth⟩
  | count _ | remove _ | removeAll | update _ => cases hop

/-- What a task prints is what its dialogue ends with. -/
theorem printed_iff {arguments : List String} {format : Format} {task : Task}
    (h : Invocation.ofArguments arguments = .ok (.task format task)) {output : String} :
    (runProgramOn e.backend w arguments s).1 = .printed output ↔
      ∃ j, ((task.dialogue w).run e.backend s).value = .ok j ∧ output = render format j := by
  rw [runProgramOn, h]
  simp only
  cases ((task.dialogue w).run e.backend s).value with
  | error f => simp
  | ok j => simp [eq_comm]

theorem state_of_task {arguments : List String} {format : Format} {task : Task}
    (h : Invocation.ofArguments arguments = .ok (.task format task)) :
    (runProgramOn e.backend w arguments s).2 = ((task.dialogue w).run e.backend s).state := by
  rw [runProgramOn, h]
  simp only
  split <;> rfl

/-- **Both formats carry these records**: they are what the operation answers, and they are
    printed in either format, with the same effect. -/
structure InBothFormats (e : Engine σ) (w : Surroundings) (s : σ)
    (arguments : Format → List String) (t : Target) (op : Operation) (rs : List Record) : Prop where
  answered : ∃ c o, prepare w t op = .ok (c, o) ∧
    ((o.dialogue c).run e.backend s).value = .ok (.rows rs)
  printed : ∃ text json, (runProgramOn e.backend w (arguments .text) s).1 = .printed text ∧
    (runProgramOn e.backend w (arguments .json) s).1 = .printed json ∧ Carries rs text json
  state : (runProgramOn e.backend w (arguments .text) s).2 =
    (runProgramOn e.backend w (arguments .json) s).2

/-- **Both formats carry the records that are printed.** Whatever is found, added or aggregated,
    and whatever the driver gives back: if it is printed in one format, it is printed in the other
    as well. As text each record has a line of its own, in order, in which no key and no string
    makes a break; and without doubles each line is read again as its record, and the JSON as
    the array of all of them. -/
theorem formats_carry_records (e : Engine σ) (w : Surroundings) (s : σ)
    {arguments : Format → List String} {t : Target} {op : Operation} (hop : op.answersRecords = true)
    (harguments : ∀ format,
      Invocation.ofArguments (arguments format) = .ok (.task format (.run t op)))
    {format : Format} {output : String}
    (h : (runProgramOn e.backend w (arguments format) s).1 = .printed output) :
    ∃ rs, InBothFormats e w s arguments t op rs := by
  obtain ⟨j, hj, -⟩ := (printed_iff (harguments format)).1 h
  have hrun := hj
  rw [dialogue_run] at hrun
  cases hp : prepare w t op with
  | error f =>
    rw [hp] at hrun
    cases hrun
  | ok p =>
    obtain ⟨c, o⟩ := p
    rw [hp, orFail, run_resultOf] at hrun
    obtain ⟨a, ha, rfl⟩ := told_eq_ok.1 hrun
    obtain ⟨c', -, hc⟩ := except_bind_eq_ok.1 hp
    obtain ⟨o', ho, hc⟩ := except_bind_eq_ok.1 hc
    cases hc
    obtain ⟨rs, rfl, hdepth⟩ := exists_records hop ho ha
    have htext := (printed_iff (harguments .text)).2 ⟨_, hj, rfl⟩
    have hjson := (printed_iff (harguments .json)).2 ⟨_, hj, rfl⟩
    refine ⟨rs, ⟨c, o, hp, ha⟩, ⟨_, _, htext, hjson, carries_render hdepth⟩, ?_⟩
    rw [state_of_task (harguments .text), state_of_task (harguments .json)]

/-- A column and a text with line feeds in them, and the one line of their row. -/
theorem formats_carry_records_line_feeds :
    let w : Surroundings := ⟨fun _ => .error "no file", fun _ => none⟩
    let arguments : Format → List String := fun
      | .text => ["run", "--table", "items", "find"]
      | .json => ["--format", "json", "run", "--table", "items", "find"]
    let t : Target := ⟨"items", "id", none⟩
    let op : Operation := .find (.compiled "\x7b\x7d")
    let d : Database := ⟨[⟨"items", [⟨"id", .integer, false⟩, ⟨"a\nb", .text, false⟩], some 0,
      true, 7, [⟨7, [.int 7, .text "\x22\n"]⟩]⟩]⟩
    let s := Session.ofDatabase d
    let line := "\x7b\"id\":7,\"a\\nb\":\"\\\"\\n\"\x7d"
    op.answersRecords = true ∧
      (∀ format, Invocation.ofArguments (arguments format) = .ok (.task format (.run t op))) ∧
      (runProgram w (arguments .text) s).1 = .printed (line ++ "\n") ∧
      ∃ rs, InBothFormats Session.engine w s arguments t op rs := by
  intro w arguments t op d s line
  have harguments : ∀ format,
      Invocation.ofArguments (arguments format) = .ok (.task format (.run t op)) := by
    rintro (_ | _)
    · decide +kernel
    · decide +kernel
  have hprinted : (runProgram w (arguments .text) s).1 = .printed (line ++ "\n") := by
    decide +kernel
  have hengine : (runProgramOn Session.engine.backend w (arguments .text) s).1 =
      .printed (line ++ "\n") := hprinted
  have hcarried := @formats_carry_records _ Session.engine w s arguments t op rfl harguments .text _
    hengine
  exact ⟨rfl, harguments, hprinted, hcarried⟩

end Cli

end RowQuery

/-
  RowQuery — the matrix of values that an insertion binds.

  An insertion has a column for each name of its first record and a row for each of its
  records. Names that the first record lacks are passed over, and what another record lacks
  is null, so the order of its names does not matter. The ids are put into the records one
  after the other, and nothing else of them is changed.

  * `Collection.SendsMatrix`: the text and the values of the statement, cell by cell;
  * `Collection.insertStatement_of_perm`: the order of names after the first record;
  * `Collection.Numbers`: the records that are answered, with their ids;
  * `Collection.insert_binds_matrix`: what is sent, and what is answered.
-/
import RowQuery.Proofs.Collection.Sent
import RowQuery.Proofs.Except
import RowQuery.Proofs.OrderedMap
import RowQuery.Proofs.Pointwise

namespace RowQuery

variable {α σ : Type}

/-! ## Rows of equal length -/

theorem length_flatMap_of_length {f : α → List Scalar} {n : Nat} (h : ∀ a, (f a).length = n)
    (as : List α) : (as.flatMap f).length = as.length * n := by
  induction as with
  | nil => simp
  | cons a as ih =>
    rw [List.flatMap_cons, List.length_append, h, ih, List.length_cons, Nat.succ_mul, Nat.add_comm]

/-- The cell of a row and a column, in rows one after the other. -/
theorem getElem?_flatMap_of_length {f : α → List Scalar} {n : Nat} (h : ∀ a, (f a).length = n)
    {as : List α} {row column : Nat} {a : α} (ha : as[row]? = some a) (hn : column < n) :
    (as.flatMap f)[row * n + column]? = (f a)[column]? := by
  induction as generalizing row with
  | nil => cases ha
  | cons a' as ih =>
    rw [List.flatMap_cons]
    cases row with
    | zero =>
      obtain rfl := Option.some.inj ha
      rw [Nat.zero_mul, Nat.zero_add, List.getElem?_append_left (by rw [h]; exact hn)]
    | succ row =>
      have hplace : (row + 1) * n + column - n = row * n + column := by
        rw [Nat.succ_mul]
        omega
      rw [List.getElem?_append_right (by rw [h, Nat.succ_mul]; omega), h, hplace]
      exact ih ha

/-! ## Records with ids -/

/-- The entries of a record in which a name was set: in its place if it has one, else last. -/
def Record.entriesWith (r : Record) (name : String) (v : Scalar) : List (String × Scalar) :=
  if name ∈ r.keys then r.entries.map fun e => if e.1 = name then (name, v) else e
  else r.entries ++ [(name, v)]

/-- Ids are counted without a wrap while the sum is a signed word. -/
theorem toInt_add_ofNat {id : Int64} {n : Nat} (h : id.toInt + n ≤ Number.maxInt64) :
    (id + Int64.ofNat n).toInt = id.toInt + n := by
  have hid : -2 ^ 63 ≤ id.toInt := id.le_toInt
  have hmax : id.toInt + n ≤ 2 ^ 63 - 1 := h
  have hsize : Int64.size = 2 ^ 64 := rfl
  rw [Int64.toInt_add, Int64.toInt_ofNat', hsize, Int.add_bmod_bmod]
  apply Int.bmod_eq_of_le <;> omega

namespace Collection

theorem length_withIds (key : String) (id : Int64) (records : List Record) :
    (withIds key id records).length = records.length := by
  induction records generalizing id with
  | nil => rfl
  | cons r records ih => rw [withIds, List.length_cons, ih, List.length_cons]

/-- The ids are counted on from the first one. -/
theorem getElem?_withIds (key : String) (id : Int64) {records : List Record} {i : Nat} {r : Record}
    (h : records[i]? = some r) :
    (withIds key id records)[i]? = some (r.insert key (.int (id + Int64.ofNat i))) := by
  induction records generalizing id i with
  | nil => cases h
  | cons r' records ih =>
    cases i with
    | zero =>
      obtain rfl := Option.some.inj h
      exact congrArg (fun n => some (r'.insert key (.int n))) (Int64.add_zero id).symm
    | succ i =>
      have hid : id + 1 + Int64.ofNat i = id + Int64.ofNat (i + 1) := by
        rw [Int64.ofNat_add, Int64.add_assoc, Int64.add_comm 1]
        rfl
      rw [withIds, List.getElem?_cons_succ, ih (id + 1) h, hid]

variable (c : Collection)

/-! ## What is sent -/

/-- **The matrix that an insertion sends**: its columns are the names of the first record, it
    has a group of marks for each record, and for the mark of a record in a column the value
    that the record has there, null if it has none. -/
structure SendsMatrix (first : Record) (others : List Record) (q : Statement) : Prop where
  sql : q.sql = "INSERT INTO " ++ c.table ++ " (" ++ ", ".intercalate first.keys ++ ") VALUES " ++
    ", ".intercalate (List.replicate (first :: others).length
      ("(" ++ ", ".intercalate (List.replicate first.keys.length "?") ++ ")"))
  size : q.values.length = (first :: others).length * first.keys.length
  cell : ∀ {row column : Nat} {r : Record} {name : String},
    (first :: others)[row]? = some r → first.keys[column]? = some name →
      q.values[row * first.keys.length + column]? = some ((r.get? name).getD .null)

variable {c} {first : Record} {others others' : List Record}

theorem sendsMatrix_insertStatement :
    c.SendsMatrix first others (c.insertStatement first.keys (first :: others)) := by
  have hlength : ∀ r : Record,
      (first.keys.map fun name => (r.get? name).getD .null).length = first.keys.length :=
    fun r => List.length_map _
  refine ⟨rfl, length_flatMap_of_length hlength _, ?_⟩
  intro row column r name hr hname
  have hcolumn : column < first.keys.length := (List.getElem?_eq_some_iff.1 hname).1
  refine (getElem?_flatMap_of_length hlength hr hcolumn).trans ?_
  rw [List.getElem?_map, hname]
  rfl

/-- The order of the names of a record that is not the first does not matter. -/
theorem insertStatement_of_perm
    (h : List.Forall₂ (fun r r' : Record => r.entries.Perm r'.entries) others others') :
    c.insertStatement first.keys (first :: others) =
      c.insertStatement first.keys (first :: others') := by
  have hvalues : (others.map fun r => first.keys.map fun name => (r.get? name).getD .null) =
      others'.map fun r => first.keys.map fun name => (r.get? name).getD .null :=
    map_eq_map_of_forall₂ h fun r r' hperm =>
      List.map_congr_left fun name _ => by rw [OrderedMap.get?_of_perm hperm]
  rw [insertStatement, insertStatement, List.length_cons, List.length_cons, h.length_eq,
    List.flatMap_cons, List.flatMap_cons, List.flatMap_def, List.flatMap_def, hvalues]

/-! ## What is answered -/

variable (c) in
/-- **The records that an insertion answers**: as many as were given and in their order. They
    are unchanged if the first one brings its key or no id is reported; else each has the id
    of its place under the key, and all its other entries are as they were. -/
structure Numbers (first : Record) (others rs : List Record) (reply : Reply) : Prop where
  length : rs.length = (first :: others).length
  unchanged : c.options.primaryKey ∈ first.keys ∨ reply.insertId? = none → rs = first :: others
  numbered : ∀ {id : Int64}, c.options.primaryKey ∉ first.keys → reply.insertId? = some id →
    id.toInt + (first :: others).length ≤ Number.maxInt64 →
      ∀ {i : Nat} {r : Record}, (first :: others)[i]? = some r →
        ∃ r' : Record, ∃ n : Int64, rs[i]? = some r' ∧ n.toInt = id.toInt + i ∧
          r'.entries = r.entriesWith c.options.primaryKey (.int n)

/-- What is read of the answer to an insertion. -/
def numberedBy (c : Collection) (first : Record) (others : List Record) (reply : Reply) :
    List Record :=
  if first.contains c.options.primaryKey then first :: others
  else reply.insertId?.elim (first :: others) fun id =>
    withIds c.options.primaryKey id (first :: others)

theorem numbers_numberedBy (reply : Reply) :
    c.Numbers first others (c.numberedBy first others reply) reply := by
  by_cases hkey : c.options.primaryKey ∈ first.keys
  · have hbrings : c.numberedBy first others reply = first :: others :=
      if_pos (OrderedMap.contains_of_mem_keys hkey)
    rw [hbrings]
    exact ⟨rfl, fun _ => rfl, fun hlacks => absurd hkey hlacks⟩
  · have hlacks : ¬ first.contains c.options.primaryKey = true :=
      fun h => hkey (OrderedMap.mem_keys_of_contains h)
    rw [numberedBy, if_neg hlacks]
    cases hid : reply.insertId? with
    | none =>
      refine ⟨rfl, fun _ => rfl, ?_⟩
      intro id _ h
      rw [hid] at h
      cases h
    | some id =>
      have hreports : ¬ (c.options.primaryKey ∈ first.keys ∨ reply.insertId? = none) := by
        rintro (h | h)
        · exact hkey h
        · rw [hid] at h
          cases h
      refine ⟨length_withIds _ _ _, fun h => absurd h hreports, ?_⟩
      intro id' _ hid' hroom i r hr
      obtain rfl := Option.some.inj (hid.symm.trans hid')
      have hi : i < (first :: others).length := (List.getElem?_eq_some_iff.1 hr).1
      have hfits : id.toInt + (i : Int) ≤ Number.maxInt64 := by omega
      exact ⟨_, _, getElem?_withIds _ id hr, toInt_add_ofNat hfits,
        OrderedMap.entries_insert _ _ _⟩

theorem run_insert (b : Backend σ) (s : σ) :
    let q := c.insertStatement first.keys (first :: others)
    (c.insert (first :: others)).run b s =
      ⟨((b.query .pool q s).1.mapError (c.executionError q.sql)).map
        (c.numberedBy first others), [.query .pool q], (b.query .pool q s).2⟩ := by
  intro q
  rw [insert, run_executeAnd]
  cases (b.query .pool q s).1 with
  | error e => rfl
  | ok reply =>
    by_cases hkey : first.contains c.options.primaryKey
    · simp [q, except_mapError_ok, Except.bind, Except.map, numberedBy, hkey]
    · cases hid : reply.insertId? <;>
        simp [q, except_mapError_ok, Except.bind, Except.map, numberedBy, hkey, hid]

/-- **An insertion binds the matrix of its records and answers each of them.** Whatever the
    backend answers, one statement is sent; the order of the names of later records does not
    matter to it. A failure is that of the statement, and a success numbers the records. -/
theorem insert_binds_matrix (c : Collection) (b : Backend σ) (s : σ) (first : Record)
    (others : List Record) :
    ∃ q, c.SendsMatrix first others q ∧
      ((c.insert (first :: others)).run b s).log = [.query .pool q] ∧
      (∀ others', List.Forall₂ (fun r r' : Record => r.entries.Perm r'.entries) others others' →
        ((c.insert (first :: others')).run b s).log = [.query .pool q]) ∧
      (∀ e, (b.query .pool q s).1 = .error e →
        ((c.insert (first :: others)).run b s).value = .error (.execution c.table q.sql e)) ∧
      ∀ reply, (b.query .pool q s).1 = .ok reply →
        ∃ rs, ((c.insert (first :: others)).run b s).value = .ok rs ∧
          c.Numbers first others rs reply := by
  refine ⟨_, sendsMatrix_insertStatement, ?_, ?_, ?_, ?_⟩
  · rw [run_insert]
  · intro others' hperm
    rw [run_insert, insertStatement_of_perm hperm]
  · intro e he
    rw [run_insert, he]
    rfl
  · intro reply hreply
    refine ⟨_, ?_, numbers_numberedBy reply⟩
    rw [run_insert, hreply]
    rfl

end Collection

end RowQuery

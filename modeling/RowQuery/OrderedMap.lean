/-
  RowQuery — maps that remember the order in which their keys first came.

  Records, sort orders and the members of a JSON object all follow one rule: a
  key that is set again keeps its first place and takes its last value.

  * `putEntry k v es` is the rule on a list of entries, and `mergeEntries` is its
    repetition over a list of members;
  * `OrderedMap α` is a list of entries whose keys are pairwise distinct;
  * `keys_insert`: setting a key changes the keys only by adding a new one last;
  * `get?_insert`: after setting a key it has the new value, and the others keep
    theirs.
-/

namespace RowQuery

universe u

variable {α : Type u}

/-! ## Entries -/

/-- `es` with the value of `k` set to `v`: a key that is present keeps its place,
    a new one goes last. -/
def putEntry (k : String) (v : α) : List (String × α) → List (String × α)
  | [] => [(k, v)]
  | (k', v') :: es => if k' = k then (k, v) :: es else (k', v') :: putEntry k v es

/-- The entries set one after the other. -/
def mergeEntries (es : List (String × α)) : List (String × α) :=
  es.foldl (fun acc e => putEntry e.1 e.2 acc) []

theorem keys_putEntry (k : String) (v : α) (es : List (String × α)) :
    (putEntry k v es).map Prod.fst =
      if k ∈ es.map Prod.fst then es.map Prod.fst else es.map Prod.fst ++ [k] := by
  induction es with
  | nil => simp [putEntry]
  | cons e es ih =>
    obtain ⟨k', v'⟩ := e
    by_cases h : k' = k
    · simp [putEntry, h]
    · have hk : ¬ k = k' := fun hkk => h hkk.symm
      simp only [putEntry, h, if_false, List.map_cons, ih, List.mem_cons, hk, false_or]
      split <;> simp

theorem lookup_putEntry (k k' : String) (v : α) (es : List (String × α)) :
    (putEntry k v es).lookup k' = if k' = k then some v else es.lookup k' := by
  induction es with
  | nil =>
    by_cases h : k' = k
    · simp [putEntry, h]
    · simp [putEntry, List.lookup_cons, beq_eq_false_iff_ne.2 h, h]
  | cons e es ih =>
    obtain ⟨a, b⟩ := e
    by_cases h : a = k
    · subst h
      by_cases h' : k' = a
      · simp [putEntry, h']
      · simp [putEntry, List.lookup_cons, beq_eq_false_iff_ne.2 h', h']
    · by_cases h' : k' = a
      · subst h'
        simp [putEntry, h]
      · simp [putEntry, h, List.lookup_cons, beq_eq_false_iff_ne.2 h', ih]

/-! ## Maps -/

/-- A map from names to values, in the order in which the names first came. -/
structure OrderedMap (α : Type u) where
  /-- The entries, first name first. -/
  entries : List (String × α)
  /-- No name occurs twice. -/
  nodup : (entries.map Prod.fst).Nodup

namespace OrderedMap

@[ext] theorem ext {m n : OrderedMap α} (h : m.entries = n.entries) : m = n := by
  cases m; cases n; simp_all

instance [DecidableEq α] : DecidableEq (OrderedMap α) := fun m n =>
  decidable_of_iff (m.entries = n.entries) ⟨ext, fun h => h ▸ rfl⟩

/-- The map without entries. -/
def empty : OrderedMap α := ⟨[], List.nodup_nil⟩

instance : Inhabited (OrderedMap α) := ⟨empty⟩

/-- Sets the value of a name: one that is present keeps its place, a new one goes last. -/
def insert (m : OrderedMap α) (k : String) (v : α) : OrderedMap α where
  entries := putEntry k v m.entries
  nodup := by
    rw [keys_putEntry]
    split
    · exact m.nodup
    · rename_i h
      rw [List.nodup_append]
      exact ⟨m.nodup, by simp, fun a ha b hb => by
        simp only [List.mem_singleton] at hb
        exact fun hab => h (hb ▸ hab ▸ ha)⟩

/-- The map of a list of settings, made one after the other. -/
def ofList (es : List (String × α)) : OrderedMap α :=
  es.foldl (fun m e => m.insert e.1 e.2) empty

/-- The value of a name. -/
def get? (m : OrderedMap α) (k : String) : Option α := m.entries.lookup k

/-- Whether a name has a value. -/
def contains (m : OrderedMap α) (k : String) : Bool := (m.get? k).isSome

/-- The names, in order. -/
def keys (m : OrderedMap α) : List String := m.entries.map Prod.fst

/-- The values, in the order of their names. -/
def values (m : OrderedMap α) : List α := m.entries.map Prod.snd

/-- Whether there are no entries. -/
def isEmpty (m : OrderedMap α) : Bool := m.entries.isEmpty

theorem keys_insert (m : OrderedMap α) (k : String) (v : α) :
    (m.insert k v).keys = if k ∈ m.keys then m.keys else m.keys ++ [k] :=
  keys_putEntry k v m.entries

theorem get?_insert (m : OrderedMap α) (k k' : String) (v : α) :
    (m.insert k v).get? k' = if k' = k then some v else m.get? k' :=
  lookup_putEntry k k' v m.entries

end OrderedMap

end RowQuery

/-
  RowQuery — maps made from lists of settings.

  * `OrderedMap.entries_insert`: a key is set in its place, or last;
  * `OrderedMap.get?_eq_some_iff`: a key has the value of its only entry, so that the order of
    the entries does not matter (`get?_of_perm`);
  * `OrderedMap.ofList_entries`: a map is made again from its own entries;
  * `OrderedMap.keys_ofList`, `OrderedMap.get?_ofList`: first places and last values;
  * `Settles` says both of a list of settings and what is left of it, `OrderedMap.settles_ofList`
    that this is what a map keeps;
  * `OrderedMap.mem_of_mem_ofList`: an entry of a map is one of the settings.
-/
import Mathlib.Data.List.Induction
import RowQuery.OrderedMap

namespace RowQuery

universe u

variable {α : Type u}

/-- A new key goes last. -/
theorem putEntry_of_notMem {k : String} {es : List (String × α)} (h : k ∉ es.map Prod.fst) (v : α) :
    putEntry k v es = es ++ [(k, v)] := by
  induction es with
  | nil => rfl
  | cons e es ih =>
    obtain ⟨k', v'⟩ := e
    rw [List.map_cons, List.mem_cons, not_or] at h
    have hne : ¬ k' = k := fun heq => h.1 heq.symm
    rw [putEntry, if_neg hne, ih h.2, List.cons_append]

/-- A key that is present keeps its place. -/
theorem putEntry_of_mem {k : String} {es : List (String × α)} (hes : (es.map Prod.fst).Nodup)
    (h : k ∈ es.map Prod.fst) (v : α) :
    putEntry k v es = es.map fun e => if e.1 = k then (k, v) else e := by
  induction es with
  | nil => cases h
  | cons e es ih =>
    obtain ⟨k', v'⟩ := e
    rw [List.map_cons, List.nodup_cons] at hes
    by_cases hk : k' = k
    · subst hk
      have hothers : es.map (fun e => if e.1 = k' then (k', v) else e) = es := by
        refine (List.map_congr_left fun e he => ?_).trans (List.map_id es)
        exact if_neg fun heq => hes.1 (List.mem_map.2 ⟨e, he, heq⟩)
      rw [putEntry, if_pos rfl, List.map_cons, if_pos rfl, hothers]
    · have hmem := (List.mem_cons.1 h).resolve_left fun heq => hk heq.symm
      rw [putEntry, if_neg hk, List.map_cons, if_neg hk, ih hes.2 hmem]

theorem mem_of_mem_putEntry {k : String} {v : α} {es : List (String × α)} {e : String × α}
    (h : e ∈ putEntry k v es) : e = (k, v) ∨ e ∈ es := by
  induction es with
  | nil => exact Or.inl (List.mem_singleton.1 h)
  | cons first es ih =>
    obtain ⟨k', v'⟩ := first
    rw [putEntry] at h
    by_cases hk : k' = k
    · rw [if_pos hk] at h
      rcases List.mem_cons.1 h with rfl | h
      · exact Or.inl rfl
      · exact Or.inr (List.mem_cons_of_mem _ h)
    · rw [if_neg hk] at h
      rcases List.mem_cons.1 h with rfl | h
      · exact Or.inr List.mem_cons_self
      · rcases ih h with rfl | h
        · exact Or.inl rfl
        · exact Or.inr (List.mem_cons_of_mem _ h)

/-- Values are looked up before they are changed, or after. -/
theorem lookup_map_snd {β : Type} (g : α → β) (es : List (String × α)) (k : String) :
    (es.map fun e => (e.1, g e.2)).lookup k = (es.lookup k).map g := by
  induction es with
  | nil => rfl
  | cons e es ih =>
    obtain ⟨k', v⟩ := e
    by_cases h : k = k'
    · rw [List.map_cons, h, List.lookup_cons_self, List.lookup_cons_self, Option.map_some]
    · have hne : (k == k') = false := beq_eq_false_iff_ne.2 h
      rw [List.map_cons, List.lookup_cons, List.lookup_cons, hne, ih]

/-- The last value of a key is the one behind which the key does not come again. -/
theorem lookup_reverse_eq_some_iff {es : List (String × α)} {k : String} {v : α} :
    es.reverse.lookup k = some v ↔
      ∃ before after, es = before ++ (k, v) :: after ∧ k ∉ after.map Prod.fst := by
  rw [List.lookup_eq_some_iff]
  constructor
  · rintro ⟨after, before, hsplit, hafter⟩
    refine ⟨before.reverse, after.reverse, by simpa using congrArg List.reverse hsplit, ?_⟩
    rintro hmem
    obtain ⟨e, he, rfl⟩ := List.mem_map.1 hmem
    simpa using hafter e (List.mem_reverse.1 he)
  · rintro ⟨before, after, rfl, hafter⟩
    refine ⟨after.reverse, before.reverse, by simp, fun e he => bne_iff_ne.2 ?_⟩
    rintro rfl
    exact hafter (List.mem_map_of_mem (List.mem_reverse.1 he))

/-- **What is left of settings** that are made one after the other: each key once, where it is
    set first, with what it is set to last. -/
structure Settles (es ms : List (String × α)) : Prop where
  /-- The keys come in the order of their first settings. -/
  keys : ms.map Prod.fst = (es.map Prod.fst).eraseDups
  nodup : (ms.map Prod.fst).Nodup
  /-- The value of a key is that of the setting behind which the key is not set again. -/
  last : ∀ k v, (k, v) ∈ ms ↔
    ∃ before after, es = before ++ (k, v) :: after ∧ k ∉ after.map Prod.fst

namespace OrderedMap

/-- **A key is set in its place, or last**, and all other entries are left as they are. -/
theorem entries_insert (m : OrderedMap α) (k : String) (v : α) :
    (m.insert k v).entries =
      if k ∈ m.keys then m.entries.map fun e => if e.1 = k then (k, v) else e
      else m.entries ++ [(k, v)] := by
  by_cases h : k ∈ m.keys
  · rw [if_pos h]
    exact putEntry_of_mem m.nodup h v
  · rw [if_neg h]
    exact putEntry_of_notMem h v

/-- A key has the value of its only entry. -/
theorem get?_eq_some_iff {m : OrderedMap α} {k : String} {v : α} :
    m.get? k = some v ↔ (k, v) ∈ m.entries := by
  obtain ⟨es, hes⟩ := m
  change es.lookup k = some v ↔ (k, v) ∈ es
  induction es with
  | nil => simp
  | cons e es ih =>
    rw [List.map_cons, List.nodup_cons] at hes
    rw [List.lookup_cons, List.mem_cons]
    by_cases hk : k = e.1
    · subst hk
      have hnot : (e.1, v) ∉ es := fun hmem => hes.1 (List.mem_map.2 ⟨_, hmem, rfl⟩)
      rw [beq_self_eq_true]
      simp [hnot, Prod.ext_iff, eq_comm]
    · have hne : ¬ (k, v) = e := fun heq => hk (congrArg Prod.fst heq)
      rw [beq_eq_false_iff_ne.2 hk]
      simp only [hne, false_or]
      exact ih hes.2

/-- The values under the keys do not depend on the order of the entries. -/
theorem get?_of_perm {m n : OrderedMap α} (h : m.entries.Perm n.entries) (k : String) :
    m.get? k = n.get? k :=
  Option.ext fun v => by rw [get?_eq_some_iff, get?_eq_some_iff, h.mem_iff]

/-- Settings of new and distinct keys go behind the entries of a map. -/
theorem entries_foldl_insert (es : List (String × α)) (m : OrderedMap α)
    (h : ((m.entries ++ es).map Prod.fst).Nodup) :
    (es.foldl (fun m e => m.insert e.1 e.2) m).entries = m.entries ++ es := by
  induction es generalizing m with
  | nil => exact (List.append_nil _).symm
  | cons e es ih =>
    have hnew : e.1 ∉ m.entries.map Prod.fst := by
      rw [List.map_append, List.nodup_append] at h
      intro hmem
      exact h.2.2 _ hmem _ List.mem_cons_self rfl
    have hentries : (m.insert e.1 e.2).entries = m.entries ++ [e] := putEntry_of_notMem hnew _
    rw [List.foldl_cons, ih]
    · rw [hentries, List.append_assoc, List.singleton_append]
    · rw [hentries, List.append_assoc, List.singleton_append]
      exact h

/-- The values of the keys are the values, in their order. -/
theorem map_get?_keys (m : OrderedMap α) : m.keys.map m.get? = m.values.map some := by
  rw [keys, values, List.map_map, List.map_map]
  exact List.map_congr_left fun e he => get?_eq_some_iff.2 he

theorem mem_keys_of_contains {m : OrderedMap α} {k : String} (h : m.contains k = true) :
    k ∈ m.keys := by
  obtain ⟨v, hv⟩ := Option.isSome_iff_exists.1 h
  exact List.mem_map_of_mem (get?_eq_some_iff.1 hv)

theorem contains_of_mem_keys {m : OrderedMap α} {k : String} (h : k ∈ m.keys) :
    m.contains k = true := by
  obtain ⟨⟨k', v⟩, hmem, rfl⟩ := List.mem_map.1 h
  exact Option.isSome_iff_exists.2 ⟨v, get?_eq_some_iff.2 hmem⟩

/-- Settings of distinct keys are the entries of the map that is made from them. -/
theorem entries_ofList {es : List (String × α)} (h : (es.map Prod.fst).Nodup) :
    (ofList es).entries = es := entries_foldl_insert es empty h

/-- **A map is made again from its own entries.** -/
theorem ofList_entries (m : OrderedMap α) : ofList m.entries = m := ext (entries_ofList m.nodup)

theorem ofList_concat (es : List (String × α)) (e : String × α) :
    ofList (es ++ [e]) = (ofList es).insert e.1 e.2 := List.foldl_append

/-- **The keys of a map** are those that are set, each where it is first. -/
theorem keys_ofList (es : List (String × α)) : (ofList es).keys = (es.map Prod.fst).eraseDups := by
  induction es using List.reverseRecOn with
  | nil => rfl
  | append_singleton es e ih =>
    rw [ofList_concat, keys_insert, ih, List.map_append, List.eraseDups_append]
    by_cases h : e.1 ∈ es.map Prod.fst
    · have hremoved : [e.1].removeAll (es.map Prod.fst) = [] := by simp [List.removeAll, h]
      rw [if_pos (List.mem_eraseDups.2 h), List.map_singleton, hremoved]
      exact (List.append_nil _).symm
    · have hkept : [e.1].removeAll (es.map Prod.fst) = [e.1] := by simp [List.removeAll, h]
      rw [if_neg (mt List.mem_eraseDups.1 h), List.map_singleton, hkept]
      rfl

/-- **A key has the value that it is set to last.** -/
theorem get?_ofList (es : List (String × α)) (k : String) :
    (ofList es).get? k = es.reverse.lookup k := by
  induction es using List.reverseRecOn with
  | nil => rfl
  | append_singleton es e ih =>
    rw [ofList_concat, get?_insert, ih, List.reverse_append, List.reverse_singleton,
      List.singleton_append, List.lookup_cons]
    by_cases h : k = e.1
    · rw [if_pos h, beq_iff_eq.2 h]
    · rw [if_neg h, beq_eq_false_iff_ne.2 h]

/-- **A map keeps first places and last values.** -/
theorem settles_ofList (es : List (String × α)) : Settles es (ofList es).entries where
  keys := keys_ofList es
  nodup := (ofList es).nodup
  last k v := by rw [← get?_eq_some_iff, get?_ofList, lookup_reverse_eq_some_iff]

/-- Settings that are made in a list are those that are made in a map. -/
theorem mergeEntries_eq_entries (es : List (String × α)) :
    mergeEntries es = (ofList es).entries := by
  induction es using List.reverseRecOn with
  | nil => rfl
  | append_singleton es e ih =>
    have hlast : mergeEntries (es ++ [e]) = putEntry e.1 e.2 (mergeEntries es) := List.foldl_append
    rw [hlast, ih, ofList_concat]
    rfl

/-- An entry of a map is one of the settings that it is made from. -/
theorem mem_of_mem_ofList {es : List (String × α)} {e : String × α}
    (h : e ∈ (ofList es).entries) : e ∈ es := by
  have hmem : ∀ (fs : List (String × α)) (m : OrderedMap α),
      e ∈ (fs.foldl (fun m e => m.insert e.1 e.2) m).entries → e ∈ m.entries ∨ e ∈ fs := by
    intro fs
    induction fs with
    | nil =>
      intro m hm
      exact Or.inl hm
    | cons f fs ih =>
      intro m hm
      rcases ih _ hm with hm | hm
      · rcases mem_of_mem_putEntry hm with rfl | hm
        · exact Or.inr List.mem_cons_self
        · exact Or.inl hm
      · exact Or.inr (List.mem_cons_of_mem _ hm)
  rcases hmem es empty h with h | h
  · cases h
  · exact h

end OrderedMap

end RowQuery

/-
  RowQuery — how deep what is read is nested.

  A text is read only if its tree is nested no deeper than `Json.maxDepth`, and what is read of
  a tree is nested no deeper than the tree. So a value that was read is written in a text that
  is read again, by either route.

  * `Draft.nesting_le_of_tree?`: the tree of a draft is as flat as was asked for;
  * `Decoder.NoDeeper`: a decoder adds no containers; `NoDeeper.list`, `NoDeeper.map`: it goes
    from decoders to those that are built from them;
  * `Decoder.Reads`: both routes read a text alike; `RoundTrips.reads_of_ofText`: they read any
    text with the draft of a good value.
-/
import RowQuery.Proofs.Decode.RoundTrip
import RowQuery.Proofs.Decode.Routes
import RowQuery.Proofs.Json.Values

namespace RowQuery

namespace Json

theorem itemNesting_le_iff {js : List Json} {n : Nat} :
    itemNesting js ≤ n ↔ ∀ j ∈ js, j.nesting ≤ n := by
  induction js with
  | nil => simp [itemNesting]
  | cons j js ih => simp [itemNesting, ih]

theorem memberNesting_le_iff {ms : List (String × Json)} {n : Nat} :
    memberNesting ms ≤ n ↔ ∀ m ∈ ms, m.2.nesting ≤ n := by
  induction ms with
  | nil => simp [memberNesting]
  | cons m ms ih => simp [memberNesting, ih]

theorem keys_memberDrafts : ∀ ms : List (String × Json),
    (memberDrafts ms).filterMap Prod.fst = ms.map Prod.fst
  | [] => rfl
  | (k, _) :: ms => congrArg (k :: ·) (keys_memberDrafts ms)

mutual

/-- The draft of a tree has no key twice in an object if the tree has none. -/
theorem distinctKeys_draft : ∀ {j : Json}, j.DistinctKeys → j.draft.distinctKeys = true
  | null, _ | bool _, _ | num _, _ | str _, _ => rfl
  | arr _, h => distinctKeysOfItems_drafts h
  | obj ms, h => by
    rw [draft, Draft.distinctKeys, keys_memberDrafts, decide_eq_true h.1,
      distinctKeysOfMembers_drafts h.2]
    rfl

theorem distinctKeysOfItems_drafts : ∀ {js : List Json}, ItemsDistinctKeys js →
    Draft.distinctKeysOfItems (drafts js) = true
  | [], _ => rfl
  | _ :: _, h => by
    rw [drafts, Draft.distinctKeysOfItems, distinctKeys_draft h.1, distinctKeysOfItems_drafts h.2]
    rfl

theorem distinctKeysOfMembers_drafts : ∀ {ms : List (String × Json)}, MembersDistinctKeys ms →
    Draft.distinctKeysOfMembers (memberDrafts ms) = true
  | [], _ => rfl
  | (_, _) :: _, h => by
    rw [memberDrafts, Draft.distinctKeysOfMembers, distinctKeys_draft h.1,
      distinctKeysOfMembers_drafts h.2]
    rfl

end

end Json

/-! ## Trees of drafts -/

namespace Draft

mutual

/-- The tree of a draft is nested as deep as was allowed, or less. -/
theorem nesting_le_of_tree? : ∀ {d : Draft} {depth : Nat} {j : Json}, d.tree? depth = some j →
    j.nesting ≤ depth
  | .null, _, _, h | .bool _, _, _, h => by
    cases h
    exact Nat.zero_le _
  | .num _, _, _, h | .str _, _, _, h => by
    obtain ⟨_, -, rfl⟩ := Option.map_eq_some_iff.1 h
    exact Nat.zero_le _
  | .arr _ _, 0, _, h | .obj _ _, 0, _, h | .arr _ false, _ + 1, _, h | .obj _ false, _ + 1, _, h
  | .broken, _, _, h => by cases h
  | .arr _ true, _ + 1, _, h => by
    obtain ⟨js, hjs, rfl⟩ := Option.map_eq_some_iff.1 h
    exact Nat.succ_le_succ (Json.itemNesting_le_iff.2 (nesting_le_of_itemTrees? hjs))
  | .obj _ true, _ + 1, _, h => by
    obtain ⟨ms, hms, rfl⟩ := Option.map_eq_some_iff.1 h
    refine Nat.succ_le_succ (Json.memberNesting_le_iff.2 fun m hm => ?_)
    rw [OrderedMap.mergeEntries_eq_entries] at hm
    exact nesting_le_of_memberTrees? hms m (OrderedMap.mem_of_mem_ofList hm)

theorem nesting_le_of_itemTrees? : ∀ {ds : List Draft} {depth : Nat} {js : List Json},
    itemTrees? depth ds = some js → ∀ j ∈ js, j.nesting ≤ depth
  | [], _, _, h => by
    cases h
    exact List.forall_mem_nil _
  | _ :: _, _, _, h => by
    obtain ⟨_, _, hj, hrest, rfl⟩ := itemTrees?_cons_eq_some.1 h
    exact List.forall_mem_cons.2 ⟨nesting_le_of_tree? hj, nesting_le_of_itemTrees? hrest⟩

theorem nesting_le_of_memberTrees? : ∀ {ds : List (Option String × Draft)} {depth : Nat}
    {ms : List (String × Json)}, memberTrees? depth ds = some ms →
      ∀ m ∈ ms, m.2.nesting ≤ depth
  | [], _, _, h => by
    cases h
    exact List.forall_mem_nil _
  | (_, _) :: _, _, _, h => by
    obtain ⟨_, _, _, -, hj, hrest, rfl⟩ := memberTrees?_cons_eq_some.1 h
    exact List.forall_mem_cons.2 ⟨nesting_le_of_tree? hj, nesting_le_of_memberTrees? hrest⟩

end

end Draft

theorem Json.nesting_le_of_ofText? {text : String} {j : Json} (h : ofText? text = some j) :
    j.nesting ≤ maxDepth := by
  rw [ofText?, ofTextWithin?] at h
  split at h
  · exact Draft.nesting_le_of_tree? h
  · cases h

/-! ## Values -/

namespace Scalar

mutual

/-- A value is nested no deeper than the tree it was read from. -/
theorem nesting_le_of_ofJson? : ∀ {j : Json} {s : Scalar}, ofJson? j = some s →
    s.toJson.nesting ≤ j.nesting
  | .null, _, h | .bool _, _, h | .str _, _, h => by
    cases h
    exact Nat.le_refl _
  | .num n, s, h => by
    rw [ofJson?] at h
    cases hn : n.toInt64? with
    | some i =>
      rw [hn] at h
      cases h
      exact Nat.le_refl _
    | none =>
      rw [hn] at h
      cases h
      rw [toJson]
      split <;> exact Nat.le_refl _
  | .arr items, _, h => by
    obtain ⟨ss, hss, rfl⟩ := Option.map_eq_some_iff.1 h
    exact Nat.succ_le_succ (itemNesting_le_of_ofJsonItems? hss)
  | .obj _, _, h => by cases h

theorem itemNesting_le_of_ofJsonItems? : ∀ {js : List Json} {ss : List Scalar},
    ofJsonItems? js = some ss → Json.itemNesting (itemsToJson ss) ≤ Json.itemNesting js
  | [], _, h => by
    cases h
    exact Nat.le_refl _
  | j :: js, _, h => by
    rw [ofJsonItems?] at h
    obtain ⟨s, hs, h⟩ := Option.bind_eq_some_iff.1 h
    obtain ⟨rest, hrest, h⟩ := Option.bind_eq_some_iff.1 h
    cases h
    have hhead := nesting_le_of_ofJson? hs
    have htail := itemNesting_le_of_ofJsonItems? hrest
    simp only [itemsToJson, Json.itemNesting]
    omega

end

end Scalar

/-! ## Decoders -/

namespace Decoder

variable {α : Type} {d : Decoder α} {toJson : α → Json}

/-- **A decoder adds no containers**: what it reads is written no deeper nested than the tree it
    was read from. -/
structure NoDeeper (d : Decoder α) (toJson : α → Json) : Prop where
  nesting_le : ∀ {j a}, d.ofTree j = .ok a → (toJson a).nesting ≤ j.nesting

theorem noDeeper_scalar : NoDeeper .scalar Scalar.toJson := by
  refine ⟨fun {j s} h => Scalar.nesting_le_of_ofJson? (j := j) ?_⟩
  simp only [scalar, viaTree] at h
  cases hj : Scalar.ofJson? j with
  | some s' =>
    simp only [hj] at h
    rw [Except.ok.inj h]
  | none =>
    simp only [hj] at h
    cases h

theorem NoDeeper.itemNesting_le (h : d.NoDeeper toJson) {js : List Json} {as : List α}
    (has : js.mapM d.ofTree = .ok as) :
    Json.itemNesting (as.map toJson) ≤ Json.itemNesting js := by
  induction js generalizing as with
  | nil =>
    cases has
    exact Nat.le_refl _
  | cons j js ih =>
    rw [List.mapM_cons] at has
    obtain ⟨b, hb, has⟩ := except_bind_eq_ok.1 has
    obtain ⟨bs, hbs, has⟩ := except_bind_eq_ok.1 has
    cases has
    have hhead := h.nesting_le hb
    have htail := ih hbs
    simp only [List.map_cons, Json.itemNesting]
    omega

theorem NoDeeper.list (h : d.NoDeeper toJson) :
    NoDeeper (.list d) fun as => .arr (as.map toJson) := by
  refine ⟨fun {j as} has => ?_⟩
  cases j with
  | arr items => exact Nat.succ_le_succ (h.itemNesting_le has)
  | _ => cases has

theorem NoDeeper.nesting_le_of_treeEntries (h : d.NoDeeper toJson) {n : Nat}
    {ms : List (String × Json)} (hms : ∀ m ∈ ms, m.2.nesting ≤ n) {es : List (String × α)}
    (hes : treeEntries d.ofTree ms = .ok es) : ∀ e ∈ es, (toJson e.2).nesting ≤ n := by
  induction ms generalizing es with
  | nil =>
    cases hes
    exact List.forall_mem_nil _
  | cons m ms ih =>
    rw [treeEntries] at hes
    obtain ⟨a, ha, hes⟩ := except_bind_eq_ok.1 hes
    obtain ⟨rest, hrest, hes⟩ := except_bind_eq_ok.1 hes
    cases hes
    rw [List.forall_mem_cons] at hms
    exact List.forall_mem_cons.2 ⟨(h.nesting_le ha).trans hms.1, ih hms.2 hrest⟩

theorem NoDeeper.map (h : d.NoDeeper toJson) :
    NoDeeper (.map d) fun m => .obj (m.entries.map fun e => (e.1, toJson e.2)) := by
  refine ⟨fun {j m} hm => ?_⟩
  cases j with
  | obj members =>
    obtain ⟨es, hes, rfl⟩ := except_map_eq_ok.1 hm
    have hmembers := Json.memberNesting_le_iff.1 (Nat.le_refl (Json.memberNesting members))
    have hentries := h.nesting_le_of_treeEntries hmembers hes
    refine Nat.succ_le_succ (Json.memberNesting_le_iff.2 ?_)
    simp only [List.mem_map]
    rintro _ ⟨e, he, rfl⟩
    exact hentries e (OrderedMap.mem_of_mem_ofList he)
  | _ => cases hm

/-! ## Reading again -/

/-- **Both routes read a value** from a text. -/
structure Reads (d : Decoder α) (text : String) (a : α) : Prop where
  direct : d.ofText text = .ok a
  viaTree : d.ofTextViaTree text = .ok a

/-- **A text with the draft of a good value is read as that value**, if its numbers are the values
    of their texts and it is not nested too deep. -/
theorem RoundTrips.reads_of_ofText {Good : α → Prop} (h : d.RoundTrips toJson Good)
    (hroutes : d.Agrees) {a : α} (ha : Good a) (hkeys : (toJson a).DistinctKeys)
    (hreads : (toJson a).ReadsBack) (hdepth : (toJson a).nesting ≤ Json.maxDepth) {text : String}
    (htext : Draft.ofText text = ((toJson a).draft, true)) : d.Reads text a := by
  have htree : Json.ofText? text = some (toJson a) := by
    rw [Json.ofText?, Json.ofTextWithin?, htext]
    exact Json.tree?_draft hkeys hreads hdepth
  have hvia : d.ofTextViaTree text = .ok a := by
    rw [ofTextViaTree, htree]
    simp only [h.reads a ha]
    rfl
  have hdraft : (Draft.ofText text).1.distinctKeys = true := by
    rw [htext]
    exact Json.distinctKeys_draft hkeys
  exact ⟨hroutes.ofText hdraft hvia, hvia⟩

end Decoder

end RowQuery

/-
  RowQuery — objects in which a key comes more than once.

  On the direct route a map is set member by member, as they are met. On the other route the
  tree of the object has already kept the last value of each key in its first place, and the
  map is made of what is left. Either way it is the map of all members.

  * `Decoder.Spells`: a text is an object with these members, repeats included;
  * `Spells.ofText`, `Spells.ofTextViaTree`: **both routes make the map of the members**;
  * `RoundTrips.spells_compact`: the plain text of an object with given members.
-/
import RowQuery.Proofs.Decode.RoundTrip
import RowQuery.Proofs.Json.Text

namespace RowQuery

open Draft

namespace Decoder

variable {α : Type} {d : Decoder α} {text : String} {es : List (String × α)}

/-- **A text is an object with these members**, in their order and repeats included, however
    the keys and the values are spelled. -/
def Spells (d : Decoder α) (text : String) (es : List (String × α)) : Prop :=
  ∃ members js, Draft.ofText text = (.obj members true, true) ∧
    memberTrees? (Json.maxDepth - 1) members = some js ∧ treeEntries d.ofTree js = .ok es

/-! ## By way of a tree -/

theorem treeEntries_cons_eq_ok {read : Json → Except DataError α} {k : String} {j : Json}
    {js : List (String × Json)} :
    treeEntries read ((k, j) :: js) = .ok es ↔
      ∃ a rest, read j = .ok a ∧ treeEntries read js = .ok rest ∧ es = (k, a) :: rest := by
  rw [treeEntries]
  cases read j with
  | error e =>
    constructor
    · intro h
      cases h
    · rintro ⟨_, _, ha, -⟩
      cases ha
  | ok a =>
    cases treeEntries read js with
    | error e =>
      constructor
      · intro h
        cases h
      · rintro ⟨_, _, -, hrest, -⟩
        cases hrest
    | ok rest =>
      constructor
      · intro h
        cases h
        exact ⟨a, rest, rfl, rfl, rfl⟩
      · rintro ⟨_, _, ha, hrest, rfl⟩
        cases ha
        cases hrest
        rfl

/-- To set a tree and read it is to read it and set it. -/
theorem treeEntries_putEntry {read : Json → Except DataError α} {k : String} {j : Json} {a : α}
    (ha : read j = .ok a) {js : List (String × Json)} (hjs : treeEntries read js = .ok es) :
    treeEntries read (putEntry k j js) = .ok (putEntry k a es) := by
  induction js generalizing es with
  | nil =>
    cases hjs
    exact treeEntries_cons_eq_ok.2 ⟨a, [], ha, rfl, rfl⟩
  | cons first js ih =>
    obtain ⟨k', j'⟩ := first
    obtain ⟨a', rest, ha', hrest, rfl⟩ := treeEntries_cons_eq_ok.1 hjs
    rw [putEntry, putEntry]
    split
    · exact treeEntries_cons_eq_ok.2 ⟨a, rest, ha, hrest, rfl⟩
    · exact treeEntries_cons_eq_ok.2 ⟨a', _, ha', ih hrest, rfl⟩

/-- What is left of trees is read as what is left of their values. -/
theorem treeEntries_mergeEntries {read : Json → Except DataError α} {js : List (String × Json)}
    (hjs : treeEntries read js = .ok es) :
    treeEntries read (mergeEntries js) = .ok (mergeEntries es) := by
  -- the members that are already set go along with those that are still to be set
  have hall : ∀ (js js' : List (String × Json)) {es es' : List (String × α)},
      treeEntries read js = .ok es → treeEntries read js' = .ok es' →
      treeEntries read (js.foldl (fun acc e => putEntry e.1 e.2 acc) js') =
        .ok (es.foldl (fun acc e => putEntry e.1 e.2 acc) es') := by
    intro js
    induction js with
    | nil =>
      intro js' es es' hes hes'
      cases hes
      exact hes'
    | cons first js ih =>
      intro js' es es' hes hes'
      obtain ⟨a, rest, ha, hrest, rfl⟩ := treeEntries_cons_eq_ok.1 hes
      have hset := treeEntries_putEntry (k := first.1) ha hes'
      have hnext := ih _ hrest hset
      exact hnext
  exact hall js [] hjs rfl

/-- **By way of a tree** the map of all members is made. -/
theorem Spells.ofTextViaTree (h : d.Spells text es) :
    (Decoder.map d).ofTextViaTree text = .ok (.ofList es) := by
  obtain ⟨members, js, htext, hjs, hes⟩ := h
  have htree : Json.ofText? text = some (.obj (mergeEntries js)) := by
    rw [Json.ofText?, Json.ofTextWithin?, htext]
    change (memberTrees? (Json.maxDepth - 1) members).map _ = _
    rw [hjs]
    rfl
  rw [Decoder.ofTextViaTree, htree]
  change Except.mapError TextError.data ((treeEntries d.ofTree (mergeEntries js)).map OrderedMap.ofList) = _
  rw [treeEntries_mergeEntries hes, OrderedMap.mergeEntries_eq_entries]
  exact congrArg Except.ok (OrderedMap.ofList es).ofList_entries

/-! ## Directly -/

theorem draftEntries_viaTree {read : Json → Except DataError α} {depth : Nat}
    {members : List (Option String × Draft)} {js : List (String × Json)}
    (hjs : memberTrees? depth members = some js) (hes : treeEntries read js = .ok es) :
    draftEntries ((viaTree read).ofDraft depth) true members = .ok es := by
  induction members generalizing js es with
  | nil =>
    cases hjs
    cases hes
    rfl
  | cons m members ih =>
    obtain ⟨key, j, rest, hkey, hj, hrest, rfl⟩ := memberTrees?_cons_eq_some.1 hjs
    obtain ⟨a, as, ha, has, rfl⟩ := treeEntries_cons_eq_ok.1 hes
    obtain ⟨k, draft⟩ := m
    obtain rfl : k = some key := hkey
    have hread : (viaTree read).ofDraft depth draft = .ok a := by
      simp only [viaTree, hj, ha]
      rfl
    rw [draftEntries, hread, ih hrest has]
    rfl

/-- **Directly** the map of all members is made as well, if their values are read from
    trees. -/
theorem Spells.ofText {read : Json → Except DataError α} (h : (viaTree read).Spells text es) :
    (Decoder.map (viaTree read)).ofText text = .ok (.ofList es) := by
  obtain ⟨members, js, htext, hjs, hes⟩ := h
  have hentries : draftEntries ((viaTree read).ofDraft (Json.maxDepth - 1)) true members = .ok es :=
    draftEntries_viaTree hjs hes
  have hdraft : (Decoder.map (viaTree read)).ofDraft Json.maxDepth (.obj members true) =
      .ok (.ofList es) := by
    change (draftEntries ((viaTree read).ofDraft (Json.maxDepth - 1)) true members).map _ = _
    rw [hentries]
    rfl
  rw [Decoder.ofText, htext]
  simp only [hdraft, if_true]

/-! ## Plain texts -/

/-- The plain text of an object with given members. -/
theorem RoundTrips.spells_compact {toJson : α → Json} {Good : α → Prop}
    (h : d.RoundTrips toJson Good) (hes : ∀ e ∈ es, Good e.2)
    (hkeys : Json.MembersDistinctKeys (es.map fun e => (e.1, toJson e.2)))
    (hreads : Json.MembersReadBack (es.map fun e => (e.1, toJson e.2)))
    (hdepth : (Json.obj (es.map fun e => (e.1, toJson e.2))).nesting ≤ Json.maxDepth) :
    d.Spells (Json.obj (es.map fun e => (e.1, toJson e.2))).compact es :=
  ⟨_, _, Json.ofText_compact _,
    Json.memberTrees?_memberDrafts hkeys hreads (Nat.le_of_succ_le_succ hdepth),
    treeEntries_toJson h hes⟩

end Decoder

end RowQuery

/-
  RowQuery — drafts without defects, and their trees.

  * `Draft.distinctKeys` says that no object of a draft has a key twice;
  * `Draft.Draws` relates such a draft to its tree, at most so many containers deep;
  * `ofDraft?_of_tree?`: a draft has the outermost shape of its tree;
  * `Draws.arr`, `Draws.obj`: the parts of a draft are drafts of the parts of its tree;
  * `Draws.scannable`: a draft of a tree can be scanned.
-/
import Mathlib.Data.List.Forall2
import RowQuery.Decode.Error
import RowQuery.Proofs.OrderedMap

namespace RowQuery

theorem mergeEntries_of_nodup {α : Type} {es : List (String × α)}
    (h : (es.map Prod.fst).Nodup) : mergeEntries es = es := by
  rw [OrderedMap.mergeEntries_eq_entries, OrderedMap.entries_ofList h]

namespace Draft

mutual

/-- Whether no object has a key twice. -/
def distinctKeys : Draft → Bool
  | arr items _ => distinctKeysOfItems items
  | obj members _ => decide (members.filterMap Prod.fst).Nodup && distinctKeysOfMembers members
  | _ => true

/-- Whether no object in any of these drafts has a key twice. -/
def distinctKeysOfItems : List Draft → Bool
  | [] => true
  | d :: ds => d.distinctKeys && distinctKeysOfItems ds

/-- Whether no object in the value of any of these members has a key twice. -/
def distinctKeysOfMembers : List (Option String × Draft) → Bool
  | [] => true
  | (_, d) :: ms => d.distinctKeys && distinctKeysOfMembers ms

end

/-- **The draft of a tree** at most `depth` containers deep, without repeated keys. -/
structure Draws (depth : Nat) (d : Draft) (j : Json) : Prop where
  tree? : d.tree? depth = some j
  distinctKeys : d.distinctKeys = true

/-- A member with a key and the draft of a tree. -/
structure DrawsMember (depth : Nat) (m : Option String × Draft) (e : String × Json) : Prop where
  key : m.1 = some e.1
  value : m.2.Draws depth e.2

variable {depth : Nat} {d : Draft}

/-! ## Parts -/

theorem itemTrees?_cons_eq_some {ds : List Draft} {js : List Json} :
    itemTrees? depth (d :: ds) = some js ↔
      ∃ j rest, d.tree? depth = some j ∧ itemTrees? depth ds = some rest ∧ js = j :: rest := by
  rw [itemTrees?]
  cases d.tree? depth <;> cases itemTrees? depth ds <;> simp [eq_comm]

theorem memberTrees?_cons_eq_some {k : Option String} {ms : List (Option String × Draft)}
    {es : List (String × Json)} :
    memberTrees? depth ((k, d) :: ms) = some es ↔
      ∃ key j rest, k = some key ∧ d.tree? depth = some j ∧
        memberTrees? depth ms = some rest ∧ es = (key, j) :: rest := by
  rw [memberTrees?]
  cases k <;> cases d.tree? depth <;> cases memberTrees? depth ms <;> simp [eq_comm]

theorem draws_of_itemTrees? {ds : List Draft} {js : List Json}
    (h : itemTrees? depth ds = some js) (hkeys : distinctKeysOfItems ds = true) :
    List.Forall₂ (Draws depth) ds js := by
  induction ds generalizing js with
  | nil =>
    obtain rfl := Option.some.inj h
    exact .nil
  | cons d ds ih =>
    obtain ⟨j, rest, hj, hrest, rfl⟩ := itemTrees?_cons_eq_some.1 h
    rw [distinctKeysOfItems, Bool.and_eq_true] at hkeys
    exact .cons ⟨hj, hkeys.1⟩ (ih hrest hkeys.2)

theorem draws_of_memberTrees? {ms : List (Option String × Draft)} {es : List (String × Json)}
    (h : memberTrees? depth ms = some es) (hkeys : distinctKeysOfMembers ms = true) :
    List.Forall₂ (DrawsMember depth) ms es := by
  induction ms generalizing es with
  | nil =>
    obtain rfl := Option.some.inj h
    exact .nil
  | cons m ms ih =>
    obtain ⟨key, j, rest, hk, hj, hrest, rfl⟩ := memberTrees?_cons_eq_some.1 h
    rw [distinctKeysOfMembers, Bool.and_eq_true] at hkeys
    exact .cons ⟨hk, hj, hkeys.1⟩ (ih hrest hkeys.2)

/-- The keys of members with trees. -/
theorem filterMap_fst_of_draws {ms : List (Option String × Draft)} {es : List (String × Json)}
    (h : List.Forall₂ (DrawsMember depth) ms es) :
    ms.filterMap Prod.fst = es.map Prod.fst := by
  induction h with
  | nil => rfl
  | cons hm _ ih => rw [List.filterMap_cons, hm.key, List.map_cons, ih]

/-! ## Shapes -/

/-- The outermost shape of a draft is that of its tree. -/
theorem ofDraft?_of_tree? {j : Json} (h : d.tree? depth = some j) :
    Found.ofDraft? d = some (.ofJson j) := by
  cases d with
  | null | bool b =>
    obtain rfl := Option.some.inj h
    rfl
  | num l =>
    obtain ⟨n, hn, rfl⟩ := Option.map_eq_some_iff.1 h
    rw [Found.ofDraft?, hn]
    rfl
  | str text =>
    obtain ⟨s, rfl, rfl⟩ := Option.map_eq_some_iff.1 h
    rfl
  | arr items closed =>
    cases depth with
    | zero => cases h
    | succ inner =>
      cases closed with
      | false => cases h
      | true =>
        obtain ⟨js, -, rfl⟩ := Option.map_eq_some_iff.1 h
        rfl
  | obj members closed =>
    cases depth with
    | zero => cases h
    | succ inner =>
      cases closed with
      | false => cases h
      | true =>
        obtain ⟨ms, -, rfl⟩ := Option.map_eq_some_iff.1 h
        rfl
  | broken => cases h

namespace Draws

theorem null (h : Draws depth d .null) : d = .null := by
  have hfound := ofDraft?_of_tree? h.tree?
  cases d <;> simp [Found.ofDraft?, Found.ofJson] at hfound ⊢

theorem str {s : String} (h : Draws depth d (.str s)) : d = .str (some s) := by
  have hfound := ofDraft?_of_tree? h.tree?
  cases d <;> simp [Found.ofDraft?, Found.ofJson] at hfound ⊢
  exact hfound

theorem arr {js : List Json} (h : Draws depth d (.arr js)) :
    ∃ inner items, depth = inner + 1 ∧ d = .arr items true ∧
      List.Forall₂ (Draws inner) items js := by
  have hfound := ofDraft?_of_tree? h.tree?
  obtain ⟨items, closed, rfl⟩ : ∃ items closed, d = .arr items closed := by
    cases d <;> simp [Found.ofDraft?, Found.ofJson] at hfound ⊢
  obtain ⟨h, hkeys⟩ := h
  cases depth with
  | zero => cases h
  | succ inner =>
    cases closed with
    | false => cases h
    | true =>
      obtain ⟨js', hjs, heq⟩ := Option.map_eq_some_iff.1 h
      obtain rfl := Json.arr.inj heq
      exact ⟨inner, items, rfl, rfl, draws_of_itemTrees? hjs hkeys⟩

theorem obj {es : List (String × Json)} (h : Draws depth d (.obj es)) :
    ∃ inner members, depth = inner + 1 ∧ d = .obj members true ∧ (es.map Prod.fst).Nodup ∧
      List.Forall₂ (DrawsMember inner) members es := by
  have hfound := ofDraft?_of_tree? h.tree?
  obtain ⟨members, closed, rfl⟩ : ∃ members closed, d = .obj members closed := by
    cases d <;> simp [Found.ofDraft?, Found.ofJson] at hfound ⊢
  obtain ⟨h, hkeys⟩ := h
  rw [Draft.distinctKeys, Bool.and_eq_true, decide_eq_true_eq] at hkeys
  cases depth with
  | zero => cases h
  | succ inner =>
    cases closed with
    | false => cases h
    | true =>
      obtain ⟨ms, hms, heq⟩ := Option.map_eq_some_iff.1 h
      have hdraws := draws_of_memberTrees? hms hkeys.2
      have hnodup : (ms.map Prod.fst).Nodup := filterMap_fst_of_draws hdraws ▸ hkeys.1
      rw [mergeEntries_of_nodup hnodup] at heq
      obtain rfl := Json.obj.inj heq
      exact ⟨inner, members, rfl, rfl, hnodup, hdraws⟩

end Draws

/-! ## Scanning -/

mutual

theorem scannable_of_tree? {depth : Nat} :
    ∀ {d : Draft} {j : Json}, d.tree? depth = some j → d.scannable = true
  | .null, _, _ | .bool _, _, _ | .num _, _, _ | .str _, _, _ => rfl
  | .arr items closed, j, h => by
    cases depth with
    | zero => cases h
    | succ depth =>
      rw [tree?] at h
      cases closed with
      | false => cases h
      | true =>
        obtain ⟨js, hjs, -⟩ := Option.map_eq_some_iff.1 h
        exact scannableItems_of_itemTrees? hjs
  | .obj members closed, j, h => by
    cases depth with
    | zero => cases h
    | succ depth =>
      rw [tree?] at h
      cases closed with
      | false => cases h
      | true =>
        obtain ⟨ms, hms, -⟩ := Option.map_eq_some_iff.1 h
        exact scannableMembers_of_memberTrees? hms
  | .broken, _, h => by cases h

theorem scannableItems_of_itemTrees? {depth : Nat} :
    ∀ {ds : List Draft} {js : List Json}, itemTrees? depth ds = some js →
      scannableItems ds = true
  | [], _, _ => rfl
  | d :: ds, js, h => by
    obtain ⟨j, rest, hj, hrest, -⟩ := itemTrees?_cons_eq_some.1 h
    rw [scannableItems, scannable_of_tree? hj, scannableItems_of_itemTrees? hrest]
    rfl

theorem scannableMembers_of_memberTrees? {depth : Nat} :
    ∀ {ms : List (Option String × Draft)} {es : List (String × Json)},
      memberTrees? depth ms = some es → scannableMembers ms = true
  | [], _, _ => rfl
  | (k, d) :: ms, es, h => by
    obtain ⟨key, j, rest, -, hj, hrest, -⟩ := memberTrees?_cons_eq_some.1 h
    rw [scannableMembers, scannable_of_tree? hj, scannableMembers_of_memberTrees? hrest]
    rfl

end

end Draft

end RowQuery

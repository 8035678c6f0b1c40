/-
  RowQuery — decoders that read back what is written.

  A decoder and a writer belong together if the decoder reads back every good value, and
  reads nothing but good values. So what has been read once is read again from what is
  written for it, in however many ways it could be spelled.

  * `Decoder.RoundTrips` is this relation, `Decoder.Canonical` has its consequence with it;
  * `RoundTrips.optional`, `RoundTrips.list`, `RoundTrips.map`, `RoundTrips.names`: it goes
    from decoders to those that are built from them;
  * `Shape.treeMembers_cons`, `Shape.yields`: the same for structures, field by field.
-/
import RowQuery.Decode.Decoder
import RowQuery.Proofs.Condition.Compile
import RowQuery.Proofs.Json.Scalar
import RowQuery.Proofs.OrderedMap

namespace RowQuery

namespace Decoder

variable {α σ : Type}

/-- **A decoder reads back what is written for good values, and reads only good values.** -/
structure RoundTrips (d : Decoder α) (toJson : α → Json) (Good : α → Prop) : Prop where
  reads : ∀ a, Good a → d.ofTree (toJson a) = .ok a
  yields : ∀ {j a}, d.ofTree j = .ok a → Good a

/-- **What is written is a canonical form**: whatever tree a value was read from, it is read
    again from what is written for it. -/
structure Canonical (d : Decoder α) (toJson : α → Json) (Good : α → Prop) : Prop extends
    RoundTrips d toJson Good where
  rereads : ∀ {j a}, d.ofTree j = .ok a → d.ofTree (toJson a) = .ok a

variable {d : Decoder α} {toJson : α → Json} {Good : α → Prop}

theorem RoundTrips.canonical (h : d.RoundTrips toJson Good) : d.Canonical toJson Good :=
  ⟨h, fun {_ a} ha => h.reads a (h.yields ha)⟩

/-- Where all values are good, nothing has to be said about them. -/
theorem RoundTrips.of_forall (h : d.RoundTrips toJson Good) (hall : ∀ a, Good a) :
    d.RoundTrips toJson fun _ => True :=
  ⟨fun a _ => h.reads a (hall a), fun {_ _} _ => True.intro⟩

/-! ## Single values -/

theorem roundTrips_word :
    RoundTrips .word (fun n => .num (.ofUInt64 n)) fun _ => True where
  reads n _ := by
    have hread := Number.toUInt64?_ofUInt64 n
    simp only [word, ofFound, Found.ofJson]
    rw [hread]
  yields _ := True.intro

theorem roundTrips_string : RoundTrips .string .str fun _ => True where
  reads _ _ := rfl
  yields _ := True.intro

theorem roundTrips_scalar : RoundTrips .scalar Scalar.toJson Scalar.Finite where
  reads s hs := by
    simp only [scalar, viaTree, Scalar.ofJson?_toJson hs]
  yields {j s} h := by
    refine Scalar.finite_of_ofJson? (j := j) ?_
    simp only [scalar, viaTree] at h
    cases hj : Scalar.ofJson? j with
    | some s' =>
      simp only [hj] at h
      rw [Except.ok.inj h]
    | none =>
      simp only [hj] at h
      cases h

/-- Enumerated names, each written as the string of its name. -/
theorem roundTrips_names {known : List (String × α)} {name : α → String}
    (h : ∀ a, known.lookup (name a) = some a) :
    RoundTrips (.names known) (fun a => .str (name a)) fun _ => True where
  reads a _ := by
    change ofName known (name a) = _
    rw [ofName, h]
  yields _ := True.intro

/-! ## Optional values, lists and maps -/

/-- Optional values, if null is written for none of the values. -/
theorem RoundTrips.optional (h : d.RoundTrips toJson Good) (hnull : ∀ a, toJson a ≠ .null) :
    RoundTrips (.optional d) (Json.ofOption toJson) fun o => ∀ a ∈ o, Good a where
  reads o ho := by
    cases o with
    | none => rfl
    | some a =>
      have hread := h.reads a (ho a rfl)
      have hsome : (Decoder.optional d).ofTree (toJson a) = (d.ofTree (toJson a)).map some := by
        cases hj : toJson a with
        | null => exact absurd hj (hnull a)
        | _ => rfl
      rw [Json.ofOption, hsome, hread]
      rfl
  yields {j o} ho a ha := by
    obtain rfl : o = some a := ha
    cases j with
    | null => cases ho
    | _ =>
      obtain ⟨b, hb, heq⟩ := except_map_eq_ok.1 ho
      obtain rfl := Option.some.inj heq
      exact h.yields hb

theorem mapM_toJson (h : d.RoundTrips toJson Good) {as : List α} (has : ∀ a ∈ as, Good a) :
    (as.map toJson).mapM d.ofTree = .ok as := by
  induction as with
  | nil => rfl
  | cons a as ih =>
    have hhead := h.reads a (has a List.mem_cons_self)
    have htail := ih fun b hb => has b (List.mem_cons_of_mem _ hb)
    rw [List.map_cons, List.mapM_cons, hhead, htail]
    rfl

theorem good_of_mapM (h : d.RoundTrips toJson Good) {js : List Json} {as : List α}
    (has : js.mapM d.ofTree = .ok as) : ∀ a ∈ as, Good a := by
  induction js generalizing as with
  | nil =>
    cases has
    intro a ha
    cases ha
  | cons j js ih =>
    rw [List.mapM_cons] at has
    obtain ⟨b, hb, has⟩ := except_bind_eq_ok.1 has
    obtain ⟨bs, hbs, has⟩ := except_bind_eq_ok.1 has
    cases has
    intro a ha
    rcases List.mem_cons.1 ha with rfl | ha
    · exact h.yields hb
    · exact ih hbs a ha

theorem RoundTrips.list (h : d.RoundTrips toJson Good) :
    RoundTrips (.list d) (fun as => .arr (as.map toJson)) fun as => ∀ a ∈ as, Good a where
  reads _ has := mapM_toJson h has
  yields {j as} has := by
    cases j with
    | arr items => exact good_of_mapM h has
    | _ => cases has

theorem treeEntries_toJson (h : d.RoundTrips toJson Good) {es : List (String × α)}
    (hes : ∀ e ∈ es, Good e.2) :
    treeEntries d.ofTree (es.map fun e => (e.1, toJson e.2)) = .ok es := by
  induction es with
  | nil => rfl
  | cons e es ih =>
    have hhead := h.reads e.2 (hes e List.mem_cons_self)
    have htail := ih fun e' he' => hes e' (List.mem_cons_of_mem _ he')
    rw [List.map_cons, treeEntries, hhead, htail]
    rfl

theorem good_of_treeEntries (h : d.RoundTrips toJson Good) {ms : List (String × Json)}
    {es : List (String × α)} (hes : treeEntries d.ofTree ms = .ok es) : ∀ e ∈ es, Good e.2 := by
  induction ms generalizing es with
  | nil =>
    cases hes
    intro e he
    cases he
  | cons m ms ih =>
    rw [treeEntries] at hes
    obtain ⟨a, ha, hes⟩ := except_bind_eq_ok.1 hes
    obtain ⟨rest, hrest, hes⟩ := except_bind_eq_ok.1 hes
    cases hes
    intro e he
    rcases List.mem_cons.1 he with rfl | he
    · exact h.yields ha
    · exact ih hrest e he

/-- Maps: the order of the keys is kept, and of a key that comes twice the last value. -/
theorem RoundTrips.map (h : d.RoundTrips toJson Good) :
    RoundTrips (.map d) (fun m => .obj (m.entries.map fun e => (e.1, toJson e.2)))
      fun m => ∀ v ∈ m.values, Good v where
  reads m hm := by
    have hentries : ∀ e ∈ m.entries, Good e.2 := fun e he => hm _ (List.mem_map_of_mem he)
    change (treeEntries d.ofTree (m.entries.map fun e => (e.1, toJson e.2))).map _ = _
    rw [treeEntries_toJson h hentries]
    exact congrArg Except.ok m.ofList_entries
  yields {j m} hm := by
    cases j with
    | obj members =>
      obtain ⟨es, hes, rfl⟩ := except_map_eq_ok.1 hm
      intro v hv
      obtain ⟨e, he, rfl⟩ := List.mem_map.1 hv
      exact good_of_treeEntries h hes e (OrderedMap.mem_of_mem_ofList he)
    | _ => cases hm

/-! ## Structures -/

/-- What is read into a field keeps a structure good. -/
def Field.Keeps (Good : σ → Prop) (f : Field σ) : Prop :=
  ∀ j u a, f.ofTree j = .ok u → Good a → Good (u a)

theorem RoundTrips.field (h : d.RoundTrips toJson Good) {name : String} {set : α → σ → σ}
    {Good' : σ → Prop} (hset : ∀ v a, Good v → Good' a → Good' (set v a)) :
    (Field.of name d set).Keeps Good' := by
  intro j u a hu ha
  obtain ⟨v, hv, rfl⟩ := except_map_eq_ok.1 hu
  exact hset v a (h.yields hv) ha

namespace Shape

variable {s : Shape σ} {a : σ}

/-- The first member of an object, which has the name of a field, is put into it. -/
theorem treeMembers_cons {k : String} {set : α → σ → σ} {v : α} {ms : List (String × Json)}
    (hfield : s.field? k = some (.of k d set)) {j : Json} (hv : d.ofTree j = .ok v) :
    s.treeMembers a ((k, j) :: ms) = s.treeMembers (set v a) ms := by
  have hset : (Field.of k d set).ofTree j = .ok (set v) := by
    change (d.ofTree j).map set = _
    rw [hv]
    rfl
  rw [treeMembers, hfield]
  simp only [hset]
  rfl

/-- An object whose members are put into a structure, and none is missing. -/
theorem ofTree_obj {ms : List (String × Json)} (hms : s.treeMembers s.blank ms = .ok a)
    (hmissing : s.missing? (ms.map Prod.fst) = none) : (struct s).ofTree (.obj ms) = .ok a := by
  change s.ofTree (.obj ms) = .ok a
  simp only [ofTree, hms, hmissing]
  rfl

variable {Good' : σ → Prop}

theorem good_of_treeMembers (hfields : ∀ f ∈ s.fields, f.Keeps Good')
    {ms : List (String × Json)} {a' : σ} (ha : Good' a) (h : s.treeMembers a ms = .ok a') :
    Good' a' := by
  induction ms generalizing a with
  | nil =>
    cases h
    exact ha
  | cons m ms ih =>
    rw [treeMembers] at h
    cases hf : s.field? m.1 with
    | none =>
      simp only [hf] at h
      exact ih ha h
    | some f =>
      simp only [hf] at h
      obtain ⟨u, hu, h⟩ := except_bind_eq_ok.1 h
      exact ih (hfields f (List.mem_of_find?_eq_some hf) _ u a hu ha) h

theorem good_of_treeItems {fs : List (Field σ)} (hfields : ∀ f ∈ fs, f.Keeps Good')
    {js : List Json} {a' : σ} (ha : Good' a) (h : treeItems a fs js = .ok a') : Good' a' := by
  induction fs generalizing a js with
  | nil =>
    rw [treeItems] at h
    · cases h
      exact ha
    · rintro f fs j js hf
      cases hf
  | cons f fs ih =>
    cases js with
    | nil =>
      rw [treeItems] at h
      · cases h
        exact ha
      · rintro f fs j js - hj
        cases hj
    | cons j js =>
      rw [treeItems] at h
      obtain ⟨u, hu, h⟩ := except_bind_eq_ok.1 h
      have hrest := fun g hg => hfields g (List.mem_cons_of_mem _ hg)
      exact ih hrest (hfields f List.mem_cons_self j u a hu ha) h

/-- **A structure is good if it is so without fields and all fields keep it so**, whether it
    is read from an object or from an array. -/
theorem yields (hblank : Good' s.blank) (hfields : ∀ f ∈ s.fields, f.Keeps Good') {j : Json}
    (h : (struct s).ofTree j = .ok a) : Good' a := by
  change s.ofTree j = _ at h
  cases j with
  | obj members =>
    rw [ofTree] at h
    obtain ⟨a', ha', h⟩ := except_bind_eq_ok.1 h
    cases hm : s.missing? (members.map Prod.fst) with
    | some e =>
      simp only [hm] at h
      cases h
    | none =>
      simp only [hm] at h
      cases h
      exact good_of_treeMembers hfields hblank ha'
  | arr items =>
    rw [ofTree] at h
    obtain ⟨a', ha', h⟩ := except_bind_eq_ok.1 h
    split at h
    · cases h
    · split at h
      · cases h
      · cases h
        exact good_of_treeItems hfields hblank ha'
  | _ => cases h

end Shape

end Decoder

end RowQuery

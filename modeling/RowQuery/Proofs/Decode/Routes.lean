/-
  RowQuery — the two routes of a decoder.

  What a decoder reads from a tree it also reads directly from the draft of the tree, if no
  object has a key twice: unknown fields are skipped on either route, and a structure that
  is complete in one is complete in the other.  The direct route has to get along without
  the tree: a value has to fit the depth that is left, a known field has to be new, and the
  end of a container has to come when it is due.

  * `Decoder.Agrees` is this relation between the routes;
  * `Agrees.optional`, `Agrees.list`, `Agrees.map`, `agrees_names`: it goes from decoders to
    those that are built from them;
  * `agrees_struct`: the same for structures, field by field;
  * `Agrees.ofText`: what it says of whole texts.
-/
import RowQuery.Decode.Decoder
import RowQuery.Proofs.Except
import RowQuery.Proofs.Json.Draft

namespace RowQuery

open Draft

namespace Decoder

variable {α σ : Type}

/-- **The direct route reads what the other reads.** -/
structure Agrees (d : Decoder α) : Prop where
  reads : ∀ {depth : Nat} {draft : Draft} {j : Json} {a : α}, draft.Draws depth j →
    d.ofTree j = .ok a → d.ofDraft depth draft = .ok a

variable {d : Decoder α}

/-! ## Single values -/

theorem agrees_viaTree (ofTree : Json → Except DataError α) : (viaTree ofTree).Agrees := by
  refine ⟨fun {depth draft j a} hdraw ha => ?_⟩
  change ofTree j = .ok a at ha
  simp only [viaTree, hdraw.tree?, ha]
  rfl

theorem agrees_ofFound (read : Found → Except DataError α) : (ofFound read).Agrees := by
  refine ⟨fun {depth draft j a} hdraw ha => ?_⟩
  change read (.ofJson j) = .ok a at ha
  simp only [ofFound, ofDraft?_of_tree? hdraw.tree?, ha]
  rfl

/-- Optional values. -/
theorem Agrees.optional (h : d.Agrees) : (Decoder.optional d).Agrees := by
  refine ⟨fun {depth draft j o} hdraw ho => ?_⟩
  by_cases hj : j = .null
  · subst hj
    rw [hdraw.null]
    cases ho
    rfl
  · have hdraft : draft ≠ .null := by
      rintro rfl
      exact hj (Option.some.inj hdraw.tree?).symm
    have htree : (Decoder.optional d).ofTree j = (d.ofTree j).map some := by
      cases j <;> first | rfl | exact absurd rfl hj
    have hdirect : (Decoder.optional d).ofDraft depth draft =
        (d.ofDraft depth draft).map some := by
      cases draft <;> first | rfl | exact absurd rfl hdraft
    rw [htree] at ho
    obtain ⟨a, ha, rfl⟩ := except_map_eq_ok.1 ho
    rw [hdirect, h.reads hdraw ha]
    rfl

/-! ## Lists and maps -/

theorem draftItems_of_mapM (h : d.Agrees) {depth : Nat} {ds : List Draft} {js : List Json}
    (hdraws : List.Forall₂ (Draws depth) ds js) {as : List α}
    (has : js.mapM d.ofTree = .ok as) : draftItems (d.ofDraft depth) true ds = .ok as := by
  induction hdraws generalizing as with
  | nil =>
    cases has
    rfl
  | cons hdraw _ ih =>
    rw [List.mapM_cons] at has
    obtain ⟨a, ha, has⟩ := except_bind_eq_ok.1 has
    obtain ⟨rest, hrest, has⟩ := except_bind_eq_ok.1 has
    cases has
    rw [draftItems, h.reads hdraw ha, ih hrest]
    rfl

/-- Lists, item by item. -/
theorem Agrees.list (h : d.Agrees) : (Decoder.list d).Agrees := by
  refine ⟨fun {depth draft j as} hdraw has => ?_⟩
  cases j with
  | arr js =>
    obtain ⟨inner, items, rfl, rfl, hitems⟩ := hdraw.arr
    exact draftItems_of_mapM h hitems has
  | _ => cases has

theorem draftEntries_of_treeEntries (h : d.Agrees) {depth : Nat}
    {ms : List (Option String × Draft)} {es : List (String × Json)}
    (hdraws : List.Forall₂ (DrawsMember depth) ms es) {as : List (String × α)}
    (has : treeEntries d.ofTree es = .ok as) :
    draftEntries (d.ofDraft depth) true ms = .ok as := by
  induction hdraws generalizing as with
  | nil =>
    cases has
    rfl
  | @cons m e ms es hdraw _ ih =>
    obtain ⟨k, draft⟩ := m
    obtain rfl : k = some e.1 := hdraw.key
    rw [treeEntries] at has
    obtain ⟨a, ha, has⟩ := except_bind_eq_ok.1 has
    obtain ⟨rest, hrest, has⟩ := except_bind_eq_ok.1 has
    cases has
    rw [draftEntries, h.reads hdraw.value ha, ih hrest]
    rfl

/-- Maps, member by member. -/
theorem Agrees.map (h : d.Agrees) : (Decoder.map d).Agrees := by
  refine ⟨fun {depth draft j m} hdraw hm => ?_⟩
  cases j with
  | obj es =>
    obtain ⟨inner, members, rfl, rfl, -, hmembers⟩ := hdraw.obj
    obtain ⟨as, has, rfl⟩ := except_map_eq_ok.1 hm
    change (draftEntries (d.ofDraft inner) true members).map OrderedMap.ofList = _
    rw [draftEntries_of_treeEntries h hmembers has]
    rfl
  | _ => cases hm

/-! ## Enumerated names -/

theorem agrees_names (known : List (String × α)) : (names known).Agrees := by
  refine ⟨fun {depth draft j a} hdraw ha => ?_⟩
  cases j with
  | str name =>
    rw [hdraw.str]
    change ofName known name = .ok a at ha
    change (ofName known name).mapError _ = _
    rw [ha]
    rfl
  | obj es =>
    obtain ⟨inner, members, rfl, rfl, -, hmembers⟩ := hdraw.obj
    cases hmembers with
    | nil => cases ha
    | @cons m e ms es hm hms =>
      cases hms with
      | cons _ _ => cases ha
      | nil =>
        obtain ⟨k, draft⟩ := m
        obtain rfl : k = some e.1 := hm.key
        obtain ⟨b, hb, ha⟩ := except_bind_eq_ok.1 ha
        obtain ⟨u, hu, ha⟩ := except_bind_eq_ok.1 ha
        cases ha
        have hunit : unit.ofDraft inner draft = .ok u := (agrees_ofFound _).reads hm.value hu
        change ((ofName known e.1).mapError TextError.data >>= _) = _
        rw [hb]
        change (unit.ofDraft inner draft >>= _) = _
        rw [hunit]
        rfl
  | _ => cases ha

/-! ## Structures -/

/-- A field reads directly what it reads from a tree. -/
structure Field.Agrees (f : Field σ) : Prop where
  reads : ∀ {depth : Nat} {draft : Draft} {j : Json} {u : σ → σ}, draft.Draws depth j →
    f.ofTree j = .ok u → f.ofDraft depth draft = .ok u

theorem Agrees.field (h : d.Agrees) (name : String) (set : α → σ → σ) :
    (Field.of name d set).Agrees := by
  refine ⟨fun {depth draft j u} hdraw hu => ?_⟩
  obtain ⟨a, ha, rfl⟩ := except_map_eq_ok.1 hu
  change (d.ofDraft depth draft).map set = _
  rw [h.reads hdraw ha]
  rfl

namespace Shape

variable {s : Shape σ}

theorem missing?_eq_none {keys : List String} :
    s.missing? keys = none ↔ ∀ f ∈ s.fields.take s.required, f.name ∈ keys := by
  rw [missing?, Option.map_eq_none_iff, List.find?_eq_none]
  simp

/-- The members of an object, from left to right.  A required field has been seen or is
    still to come, and no key that is to come has been seen. -/
theorem draftMembers_of_treeMembers (hfields : ∀ f ∈ s.fields, f.Agrees) {depth : Nat}
    {ms : List (Option String × Draft)} {es : List (String × Json)}
    (hdraws : List.Forall₂ (DrawsMember depth) ms es) (hnodup : (es.map Prod.fst).Nodup)
    {seen : List String} (hseen : ∀ k ∈ es.map Prod.fst, k ∉ seen)
    (hrequired : ∀ f ∈ s.fields.take s.required, f.name ∈ seen ∨ f.name ∈ es.map Prod.fst)
    {a a' : σ} (h : s.treeMembers a es = .ok a') :
    s.draftMembers depth true seen a ms = .ok a' := by
  induction hdraws generalizing seen a with
  | nil =>
    have hmissing : s.missing? seen = none :=
      missing?_eq_none.2 fun f hf => (hrequired f hf).elim id fun hno => absurd hno List.not_mem_nil
    simp only [draftMembers, hmissing, if_true]
    cases h
    rfl
  | @cons m e ms es hdraw _ ih =>
    obtain ⟨k, draft⟩ := m
    obtain rfl : k = some e.1 := hdraw.key
    rw [List.map_cons, List.nodup_cons] at hnodup
    rw [List.map_cons, List.forall_mem_cons] at hseen
    rw [treeMembers] at h
    cases hf : s.field? e.1 with
    | some f =>
      -- a known field is put into the structure and counts as seen from here on
      simp only [hf] at h
      obtain ⟨u, hu, h⟩ := except_bind_eq_ok.1 h
      have hdirect := (hfields f (List.mem_of_find?_eq_some hf)).reads hdraw.value hu
      simp only [draftMembers, hf, if_neg hseen.1, hdirect]
      refine ih hnodup.2 ?_ (fun g hg => ?_) h
      · intro k hk hmem
        rcases List.mem_cons.1 hmem with rfl | hmem
        · exact hnodup.1 hk
        · exact hseen.2 k hk hmem
      · rcases hrequired g hg with hg | hg
        · exact Or.inl (List.mem_cons_of_mem _ hg)
        · rcases List.mem_cons.1 hg with hg | hg
          · exact Or.inl (hg ▸ List.mem_cons_self)
          · exact Or.inr hg
    | none =>
      -- an unknown field is no required one, and its value can be scanned
      simp only [hf] at h
      simp only [draftMembers, hf, scannable_of_tree? hdraw.value.tree?, if_true]
      refine ih hnodup.2 hseen.2 (fun g hg => ?_) h
      rcases hrequired g hg with hmem | hmem
      · exact Or.inl hmem
      · rcases List.mem_cons.1 hmem with hname | hmem
        · have hno := List.find?_eq_none.1 hf g (List.mem_of_mem_take hg)
          exact absurd hname (by simpa using hno)
        · exact Or.inr hmem

/-- The items of an array, from left to right: there are no more than fields, and with
    those before them as many as are required. -/
theorem draftItems_of_treeItems {fs : List (Field σ)} (hfields : ∀ f ∈ fs, f.Agrees)
    {depth : Nat} {ds : List Draft} {js : List Json}
    (hdraws : List.Forall₂ (Draws depth) ds js) (hlength : js.length ≤ fs.length)
    {given : Nat} (hrequired : s.required ≤ given + js.length) {a a' : σ}
    (h : treeItems a fs js = .ok a') : s.draftItems depth true given a fs ds = .ok a' := by
  induction hdraws generalizing fs given a with
  | nil =>
    have hgiven : ¬ given < s.required := Nat.not_lt.2 hrequired
    have hend : treeItems a fs [] = .ok a := by cases fs <;> rfl
    rw [hend] at h
    cases h
    cases fs <;> simp [draftItems, hgiven]
  | @cons draft j ds js hdraw _ ih =>
    cases fs with
    | nil => cases hlength
    | cons f fs =>
      rw [List.forall_mem_cons] at hfields
      rw [treeItems] at h
      obtain ⟨u, hu, h⟩ := except_bind_eq_ok.1 h
      rw [draftItems, hfields.1.reads hdraw hu]
      refine ih hfields.2 (Nat.le_of_succ_le_succ hlength) ?_ h
      rw [List.length_cons] at hrequired
      omega

/-- **Structures**, whether they come as objects or as arrays. -/
theorem agrees_struct (hfields : ∀ f ∈ s.fields, f.Agrees) : (struct s).Agrees := by
  refine ⟨fun {depth draft j a} hdraw h => ?_⟩
  change s.ofTree j = .ok a at h
  cases j with
  | obj es =>
    obtain ⟨inner, members, rfl, rfl, hnodup, hmembers⟩ := hdraw.obj
    rw [ofTree] at h
    obtain ⟨a', ha', h⟩ := except_bind_eq_ok.1 h
    cases hmissing : s.missing? (es.map Prod.fst) with
    | some e =>
      simp only [hmissing] at h
      cases h
    | none =>
      simp only [hmissing] at h
      cases h
      exact draftMembers_of_treeMembers hfields hmembers hnodup (fun _ _ => List.not_mem_nil)
        (fun f hf => Or.inr (missing?_eq_none.1 hmissing f hf)) ha'
  | arr js =>
    obtain ⟨inner, items, rfl, rfl, hitems⟩ := hdraw.arr
    rw [ofTree] at h
    obtain ⟨a', ha', h⟩ := except_bind_eq_ok.1 h
    split at h
    · cases h
    · split at h
      · cases h
      · rename_i hrequired hlength
        cases h
        exact draftItems_of_treeItems hfields hitems (Nat.not_lt.1 hlength)
          (Nat.zero_add _ ▸ Nat.not_lt.1 hrequired) ha'
  | _ => cases h

end Shape

/-! ## Texts -/

/-- Of a text in which no object has a key twice. -/
theorem Agrees.ofText (h : d.Agrees) {text : String} {a : α}
    (hkeys : (Draft.ofText text).1.distinctKeys = true) (ha : d.ofTextViaTree text = .ok a) :
    d.ofText text = .ok a := by
  rw [ofTextViaTree, Json.ofText?, Json.ofTextWithin?] at ha
  rw [Decoder.ofText]
  generalize Draft.ofText text = r at hkeys ha ⊢
  obtain ⟨draft, ended⟩ := r
  cases ended with
  | false => cases ha
  | true =>
    cases hj : draft.tree? Json.maxDepth with
    | none =>
      simp only [hj] at ha
      cases ha
    | some j =>
      simp only [hj] at ha
      have hread : d.ofTree j = .ok a := by
        cases hr : d.ofTree j with
        | error e =>
          rw [hr] at ha
          cases ha
        | ok b =>
          rw [hr] at ha
          cases ha
          rfl
      simp only [h.reads ⟨hj, hkeys⟩ hread, if_true]

end Decoder

end RowQuery

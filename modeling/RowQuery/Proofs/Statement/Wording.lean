/-
  RowQuery — the word RETURNING in a layout.

  Names are written into statements as they are, with marks, blanks and punctuation between
  them and what is fixed.  These separate words, so a statement has the word RETURNING only
  if a name in it has: as the word itself, or as a part of the name that is taken for a word.

  * `Sql.Returning`: a text that is all code has the word;
  * `Layout.Tells`: of the text of a layout, certain names tell whether it has;
  * `Tells.glue`, `tells_separated`, `tells_assembled`: from parts to wholes;
  * `tells_layout`, `tells_assignments` and so on: clause by clause.
-/
import RowQuery.Proofs.Sql.Words
import RowQuery.Proofs.Statement.Demand

namespace RowQuery

namespace Sql

/-- Whether a text that is all code has the word RETURNING. -/
def Returning (cs : List Char) : Prop := "returning" ∈ wordsOf cs

instance (cs : List Char) : Decidable (Returning cs) := inferInstanceAs (Decidable (_ ∈ _))

theorem not_returning_nil : ¬ Returning [] := by decide

theorem returning_append {c : Char} (hc : Separates c) (cs rest : List Char) :
    Returning (cs ++ c :: rest) ↔ Returning cs ∨ Returning rest := by
  rw [Returning, wordsOf_append hc, List.mem_append]
  rfl

theorem returning_cons {c : Char} (hc : Separates c) (rest : List Char) :
    Returning (c :: rest) ↔ Returning rest := by
  rw [Returning, wordsOf_cons hc]
  rfl

/-- Fixed text without the word after which a word can begin. -/
def endsWords (s : String) : Bool :=
  s.toList.getLast?.any (Separates ·) && decide (IsCode s.toList) && decide (¬ Returning s.toList)

/-- Fixed text without the word between words. -/
def partsWords (s : String) : Bool := endsWords s && s.toList.head?.any (Separates ·)

theorem isCode_of_endsWords {s : String} (h : endsWords s = true) : IsCode s.toList := by
  simp only [endsWords, Bool.and_eq_true, decide_eq_true_eq] at h
  exact h.1.2

theorem returning_append_of_endsWords {s : String} (h : endsWords s = true) (rest : List Char) :
    Returning (s.toList ++ rest) ↔ Returning rest := by
  simp only [endsWords, Bool.and_eq_true, decide_eq_true_eq] at h
  obtain ⟨⟨hlast, -⟩, hno⟩ := h
  obtain ⟨c, hc, hsep⟩ := (Option.any_eq_true _ _).1 hlast
  obtain ⟨cs, hs⟩ := List.getLast?_eq_some_iff.1 hc
  have hsep : Separates c := of_decide_eq_true hsep
  rw [hs, returning_append hsep] at hno
  rw [hs, List.append_assoc, List.singleton_append, returning_append hsep]
  exact or_iff_right fun hcs => hno (Or.inl hcs)

theorem returning_append_of_partsWords {s : String} (h : partsWords s = true)
    (cs rest : List Char) :
    Returning (cs ++ (s.toList ++ rest)) ↔ Returning cs ∨ Returning rest := by
  rw [partsWords, Bool.and_eq_true] at h
  obtain ⟨hends, hbegins⟩ := h
  obtain ⟨c, hc, hsep⟩ := (Option.any_eq_true _ _).1 hbegins
  obtain ⟨cs', hs⟩ := List.head?_eq_some_iff.1 hc
  have hsep : Separates c := of_decide_eq_true hsep
  have hrest := returning_append_of_endsWords hends rest
  rw [hs, List.cons_append, returning_cons hsep] at hrest
  rw [hs, List.cons_append, returning_append hsep, hrest]

end Sql

open Sql

namespace Layout

/-- **The names that tell** whether the text of a layout has the word RETURNING, before
    anything that does not go on with its last word. -/
structure Tells (L : Layout) (ns : List String) : Prop where
  code : IsCode L.text
  returning : ∀ rest : List Char, (∀ c, rest.head? = some c → Separates c) →
    (Returning (L.text ++ rest) ↔ (∃ n ∈ ns, Returning n.toList) ∨ Returning rest)

variable {L A B : Layout} {ns ms : List String} {s : String}

/-! ## Pieces -/

theorem tells_nil : Tells [] [] where
  code := List.forall_mem_nil _
  returning rest _ := by simp

/-- A text tells for itself. -/
theorem tells_text (h : IsCode s.toList) : Tells [.plain s] [s] where
  code := by simpa [Piece.text] using h
  returning rest hrest := by
    have htext : Layout.text [.plain s] = s.toList := List.append_nil _
    rw [htext]
    simp only [List.mem_singleton, exists_eq_left]
    cases rest with
    | nil => rw [List.append_nil]; exact (or_iff_left not_returning_nil).symm
    | cons c rest =>
      have hc := hrest c rfl
      rw [returning_append hc, returning_cons hc]

/-- The names that matter are those that have the word. -/
theorem Tells.of_iff (h : L.Tells ns)
    (hiff : (∃ n ∈ ns, Returning n.toList) ↔ ∃ n ∈ ms, Returning n.toList) : L.Tells ms :=
  ⟨h.code, fun rest hrest => (h.returning rest hrest).trans (or_congr_left hiff)⟩

/-- Fixed text without the word does not tell. -/
theorem tells_fixed (hcode : IsCode s.toList) (hno : ¬ Returning s.toList) : Tells [.plain s] [] :=
  (tells_text hcode).of_iff (by simpa using hno)

theorem tells_cons (hs : endsWords s = true) (hL : L.Tells ns) : Tells (.plain s :: L) ns where
  code := isCode_append.2 ⟨isCode_of_endsWords hs, hL.code⟩
  returning rest hrest := by
    rw [text_cons, List.append_assoc]
    exact (returning_append_of_endsWords hs _).trans (hL.returning rest hrest)

theorem tells_mark (name : String) (value : Scalar) (hL : L.Tells ns) :
    Tells (.mark name value :: L) ns where
  code := isCode_cons.2 ⟨Or.inl rfl, hL.code⟩
  returning rest hrest :=
    (returning_cons (c := '?') (by decide) (L.text ++ rest)).trans (hL.returning rest hrest)

/-! ## Parts and wholes -/

/-- Layouts with fixed text between them that parts words. -/
theorem Tells.glue (hA : A.Tells ns) (hs : partsWords s = true) (hB : B.Tells ms) :
    Tells (A ++ .plain s :: B) (ns ++ ms) := by
  rw [partsWords, Bool.and_eq_true] at hs
  obtain ⟨hends, hbegins⟩ := hs
  obtain ⟨c, hc, hsep⟩ := (Option.any_eq_true _ _).1 hbegins
  have hrest := tells_cons hends hB
  refine ⟨?_, fun rest hr => ?_⟩
  · rw [text_append]
    exact isCode_append.2 ⟨hA.code, hrest.code⟩
  · have hhead : ∀ d, (Layout.text (.plain s :: B) ++ rest).head? = some d → Separates d := by
      intro d hd
      rw [text_cons, List.append_assoc, Piece.text, List.head?_append, hc, Option.some_or] at hd
      exact Option.some.inj hd ▸ of_decide_eq_true hsep
    rw [text_append, List.append_assoc, hA.returning _ hhead, hrest.returning rest hr]
    simp only [List.mem_append, or_and_right, exists_or, or_assoc]

/-- Fixed text behind a layout. -/
theorem Tells.close (hA : A.Tells ns) (hs : partsWords s = true) :
    Tells (A ++ [.plain s]) ns := by
  have h := hA.glue hs tells_nil
  rwa [List.append_nil] at h

theorem tells_separated (hs : partsWords s = true) {Ls : List Layout} {nss : List (List String)}
    (h : List.Forall₂ Tells Ls nss) : (separated s Ls).Tells nss.flatten := by
  induction h with
  | nil => exact tells_nil
  | @cons L ns Ls nss hL hLs ih =>
    cases hLs with
    | nil =>
      rw [separated_single, List.flatten_cons, List.flatten_nil, List.append_nil]
      exact hL
    | cons _ _ =>
      rw [separated_cons_cons, List.flatten_cons]
      exact hL.glue hs ih

/-- Layouts with commas between them, each with the names that tell for it. -/
theorem tells_list {α : Type} {xs : List α} {f : α → Layout} {g : α → List String}
    (h : ∀ x ∈ xs, (f x).Tells (g x)) : (separated ", " (xs.map f)).Tells (xs.flatMap g) := by
  rw [List.flatMap_def]
  refine tells_separated (by decide) ?_
  rw [List.forall₂_map_left_iff, List.forall₂_map_right_iff, List.forall₂_same]
  exact h

/-- The names that tell for a clause that a statement may lack. -/
def TellsClause (L : Option Layout) (ns : List String) : Prop := L.elim (ns = []) (Tells · ns)

theorem tells_assembled {Ls : List (Option Layout)} {nss : List (List String)}
    (h : List.Forall₂ TellsClause Ls nss) {head : Layout} (hhead : head.Tells ns) :
    (assembled head Ls).Tells (ns ++ nss.flatten) := by
  induction h generalizing head ns with
  | nil => exact (List.append_nil ns).symm ▸ hhead
  | @cons L ms Ls nss hL _ ih =>
    rw [List.flatten_cons, ← List.append_assoc]
    cases L with
    | none =>
      obtain rfl : ms = [] := hL
      rw [List.append_nil]
      exact ih hhead
    | some L => exact ih (hhead.glue (by decide) hL)

/-- What is assembled begins with its head. -/
theorem prefix_text_assembled (head : Layout) (Ls : List (Option Layout)) :
    head.text <+: (assembled head Ls).text := by
  induction Ls generalizing head with
  | nil => exact List.prefix_refl _
  | cons L Ls ih =>
    cases L with
    | none => exact ih head
    | some L =>
      have hhead := ih (head ++ .plain " " :: L)
      rw [text_append] at hhead
      exact (List.prefix_append _ _).trans hhead

end Layout

open Layout

/-! ## Conditions -/

namespace Condition

theorem tells_leafLayout {c : Comparison} (h : IsCode c.field.toList) :
    (leafLayout c).Tells [c.field] := by
  have hop : Tells [.plain c.operator.sql] [] := by
    cases c.operator <;> exact tells_fixed (by decide) (by decide)
  have hmark := tells_mark c.field c.value tells_nil
  exact (tells_text h).glue (by decide) (hop.glue (by decide) hmark)

theorem tells_parenthesizedLayout {L : Layout} {ns : List String} (h : L.Tells ns) :
    (parenthesizedLayout L).Tells ns := tells_cons (by decide) (h.close (by decide))

mutual

/-- The fields of a condition tell for its layout. -/
theorem tells_layout : ∀ {c : Condition}, (∀ l ∈ c.leaves, IsCode l.field.toList) →
    c.layout.Tells (c.leaves.map Comparison.field)
  | .leaf c, h => tells_leafLayout (h c (by simp [leaves]))
  | .group joiner members, h => by
    rw [layout]
    have hjoiner : partsWords joiner.separator = true := by cases joiner <;> decide
    obtain ⟨nss, hmembers, hnss⟩ := tells_memberLayouts h
    exact hnss ▸ tells_separated hjoiner hmembers

theorem tells_memberLayouts : ∀ {cs : List Condition},
    (∀ l ∈ memberLeaves cs, IsCode l.field.toList) →
      ∃ nss, List.Forall₂ Tells (memberLayouts cs) nss ∧
        nss.flatten = (memberLeaves cs).map Comparison.field
  | [], _ => ⟨[], .nil, rfl⟩
  | c :: cs, h => by
    simp only [memberLeaves, List.mem_append] at h
    have hc := tells_layout fun l hl => h l (Or.inl hl)
    obtain ⟨nss, hmembers, hnss⟩ := tells_memberLayouts fun l hl => h l (Or.inr hl)
    refine ⟨_ :: nss, .cons (tells_parenthesizedLayout hc) hmembers, ?_⟩
    rw [List.flatten_cons, hnss, memberLeaves, List.map_append]

end

theorem tells_filterLayout {c : Condition} (h : ∀ l ∈ c.leaves, IsCode l.field.toList) :
    c.filterLayout.Tells (c.leaves.map Comparison.field) :=
  tells_cons (by decide) (tells_layout h)

theorem tells_filterLayout? {o : Option Condition} (h : ∀ n ∈ names? o, IsCode n.toList) :
    TellsClause (filterLayout? o) (names? o) := by
  cases o with
  | none => rfl
  | some c => exact tells_filterLayout fun l hl => h l.field (List.mem_map_of_mem hl)

end Condition

/-! ## ORDER BY, GROUP BY and LIMIT -/

theorem SortOrder.tells_layout? {o : Option SortOrder}
    (h : ∀ n ∈ o.elim [] OrderedMap.keys, IsCode n.toList) :
    TellsClause (layout? o) (o.elim [] OrderedMap.keys) := by
  cases o with
  | none => rfl
  | some s =>
    rw [layout?, Option.bind_some, OrderedMap.isEmpty]
    split
    · rename_i hempty
      exact List.map_eq_nil_iff.2 (List.isEmpty_iff.1 hempty)
    · have hentries : (separated ", " (s.entries.map fun e =>
          [.plain e.1, .plain " ", .plain e.2.sql])).Tells (s.entries.flatMap fun e => [e.1]) := by
        refine tells_list fun e he => ?_
        have hname : IsCode e.1.toList := h e.1 (List.mem_map_of_mem he)
        have hdir : Tells [.plain e.2.sql] [] := by
          cases e.2 <;> exact tells_fixed (by decide) (by decide)
        exact (tells_text hname).glue (by decide) hdir
      rw [← List.map_eq_flatMap] at hentries
      exact tells_cons (by decide) hentries

theorem tells_names {ns : List String} (h : ∀ n ∈ ns, IsCode n.toList) : (names ns).Tells ns := by
  have hnames := tells_list fun n hn => tells_text (h n hn)
  rwa [List.flatMap_singleton'] at hnames

theorem tells_groupByLayout? {o : Option (List String)} (h : ∀ n ∈ o.getD [], IsCode n.toList) :
    TellsClause (groupByLayout? o) (o.getD []) := by
  cases o with
  | none => rfl
  | some fields =>
    rw [groupByLayout?, Option.bind_some]
    split
    · rename_i hempty
      exact List.isEmpty_iff.1 hempty
    · exact tells_cons (by decide) (tells_names h)

theorem toLower_eq_self {c : Char} (h : c.toNat < 'A'.toNat ∨ 'Z'.toNat < c.toNat) :
    c.toLower = c := by
  have hupper : ¬ (c.val ≥ 'A'.val ∧ c.val ≤ 'Z'.val) := fun ⟨hge, hle⟩ => by
    have hA : 'A'.toNat ≤ c.toNat := hge
    have hZ : c.toNat ≤ 'Z'.toNat := hle
    omega
  exact dif_neg hupper

theorem toLower_of_isDigit {c : Char} (h : c.isDigit = true) : c.toLower = c := by
  have hle : c.toNat ≤ '9'.toNat := of_decide_eq_true ((Bool.and_eq_true _ _).mp h).2
  exact toLower_eq_self (Or.inl (Nat.lt_of_le_of_lt hle (by decide)))

/-- The word for a number is another one. -/
theorem not_returning_of_isDigit {cs : List Char} (h : ∀ c ∈ cs, c.isDigit = true) :
    ¬ Returning cs := by
  have hlower : cs.map Char.toLower = cs :=
    (List.map_congr_left fun c hc => toLower_of_isDigit (h c hc)).trans (List.map_id cs)
  have hword : ∀ c ∈ cs, isWordChar c.toLower = true := by
    intro c hc
    have hdigit := h c hc
    have hle : c.val.toNat ≤ 57 := of_decide_eq_true ((Bool.and_eq_true _ _).mp hdigit).2
    have halnum : isAlphanumeric c = true :=
      isAlphanumeric_of_isAlphanum (by simp [Char.isAlphanum, hdigit])
        (Nat.lt_of_le_of_lt hle (by decide))
    rw [toLower_of_isDigit hdigit, isWordChar, halnum, Bool.true_or]
  by_cases hne : cs = []
  · exact hne ▸ not_returning_nil
  · rw [Returning, wordsOf_eq_singleton hword hne, hlower, List.mem_singleton]
    intro heq
    have hr : 'r' ∈ cs := by
      rw [← String.toList_ofList (l := cs), ← heq]
      decide
    exact absurd (h 'r' hr) (by decide)

theorem tells_limitLayout? (limit offset : Option UInt64) :
    TellsClause (limitLayout? limit offset) [] := by
  have hcode : ∀ n : UInt64, IsCode (toString n).toList := fun n =>
    isCode_of_isOrdinary (List.all_eq_true.1 (all_isOrdinary_toString n))
  have hno : ∀ n : UInt64, ¬ Returning (toString n).toList := fun n =>
    not_returning_of_isDigit fun c hc => isDigit_of_mem_toString hc
  have hend : endsWords "LIMIT " = true := by decide
  match limit, offset with
  | some limit, some offset =>
    refine tells_fixed ?_ ?_
    · simp only [String.toList_append, isCode_append]
      exact ⟨⟨⟨isCode_of_endsWords hend, hcode offset⟩, by decide⟩, hcode limit⟩
    · simp only [String.toList_append, List.append_assoc]
      rw [returning_append_of_endsWords hend, returning_append_of_partsWords (by decide)]
      exact not_or.2 ⟨hno offset, hno limit⟩
  | some limit, none =>
    refine tells_fixed ?_ ?_
    · rw [String.toList_append, isCode_append]
      exact ⟨isCode_of_endsWords hend, hcode limit⟩
    · rw [String.toList_append, returning_append_of_endsWords hend]
      exact hno limit
  | none, _ => rfl

/-! ## What a statement selects, assigns and inserts -/

/-- The functions of an aggregate and the names of its columns do not tell. -/
theorem AggregateRequest.tells_selectors (r : AggregateRequest) :
    ∀ s ∈ r.selectors, Tells [.plain s.1] [] ∧ Tells [.plain s.2.2] [] := by
  simp only [selectors, List.forall_mem_cons]
  refine ⟨⟨?_, ?_⟩, ⟨?_, ?_⟩, ⟨?_, ?_⟩, ⟨?_, ?_⟩, ⟨?_, ?_⟩, List.forall_mem_nil _⟩ <;>
    exact tells_fixed (by decide) (by decide)

/-- The columns that selectors ask for, those of them that have a field. -/
theorem tells_columns {ss : List (String × Option String × String)}
    (hfixed : ∀ s ∈ ss, Tells [.plain s.1] [] ∧ Tells [.plain s.2.2] [])
    (h : ∀ n ∈ ss.filterMap fun s => s.2.1, IsCode n.toList) :
    ∃ nss, nss.flatten = (ss.filterMap fun s => s.2.1) ∧
      List.Forall₂ Tells (ss.filterMap fun s => s.2.1.map fun field =>
        [.plain s.1, .plain "(", .plain field, .plain ") AS ", .plain s.2.2]) nss := by
  induction ss with
  | nil => exact ⟨[], rfl, .nil⟩
  | cons s ss ih =>
    rw [List.forall_mem_cons] at hfixed
    obtain ⟨⟨hfun, hname⟩, hfixed⟩ := hfixed
    simp only [List.filterMap_cons] at h ⊢
    cases hfield : s.2.1 with
    | none =>
      rw [hfield] at h
      exact ih hfixed h
    | some field =>
      rw [hfield, List.forall_mem_cons] at h
      obtain ⟨nss, hnss, hcolumns⟩ := ih hfixed h.2
      have hcall := (tells_text h.1).glue (s := ") AS ") (by decide) hname
      have hcolumn := hfun.glue (s := "(") (by decide) hcall
      refine ⟨[field] :: nss, ?_, .cons hcolumn hcolumns⟩
      rw [List.flatten_cons, hnss]
      rfl

theorem AggregateRequest.tells_layout {r : AggregateRequest}
    (h : ∀ n ∈ r.fields, IsCode n.toList) : r.layout.Tells r.fields := by
  rw [layout]
  split
  · rename_i hempty
    have hfields : r.fields = [] := by
      rw [selected, List.isEmpty_iff] at hempty
      rw [fields, List.filterMap_eq_nil_iff]
      intro s hs
      have hnone := List.filterMap_eq_nil_iff.1 hempty s hs
      rwa [Option.map_eq_none_iff] at hnone
    exact hfields ▸ tells_fixed (by decide) (by decide)
  · obtain ⟨nss, hnss, hcolumns⟩ := tells_columns r.tells_selectors h
    rw [fields, ← hnss]
    exact tells_separated (by decide) hcolumns

theorem Record.tells_assignments {r : Record} (h : ∀ n ∈ r.keys, IsCode n.toList) :
    (Record.assignments r).Tells r.keys := by
  have hentries := tells_list fun e (he : e ∈ r.entries) =>
    (tells_text (h e.1 (List.mem_map_of_mem he))).glue (s := " = ") (by decide)
      (tells_mark e.1 e.2 tells_nil)
  have hkeys : r.keys = r.entries.flatMap fun e => [e.1] ++ [] := List.map_eq_flatMap
  rw [hkeys]
  exact hentries

theorem Record.tells_row (columns : List String) (r : Record) :
    (Record.row columns r).Tells [] := by
  have hmarks := tells_list fun e (_ : e ∈ Record.slots columns r) =>
    tells_mark e.1 e.2 tells_nil
  rw [List.flatMap_eq_nil_iff.2 fun _ _ => rfl] at hmarks
  exact tells_cons (by decide) (hmarks.close (by decide))

end RowQuery

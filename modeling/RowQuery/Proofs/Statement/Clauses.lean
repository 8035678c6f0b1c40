/-
  RowQuery — layouts of clauses and of whole statements.

  Names in lists, sort orders, limits, assignments and groups of marks have layouts made
  from what they are written from. Where a clause may be missing, so may its layout.

  * `Layout.Writes` is the relation between a layout and the text of a clause;
  * `Layout.assembled` puts layouts of clauses after the head of a statement, as `assemble`
    does with their texts (`Layout.text_assembled`).
-/
import Mathlib.Data.List.Forall2
import RowQuery.Collection.Write
import RowQuery.Proofs.Condition.Layout
import RowQuery.Proofs.Request.Compile

namespace RowQuery

/-! ## Lists -/

namespace Layout

/-- The layout of names with commas between them. -/
def names (ns : List String) : Layout := separated ", " (ns.map fun n => [.plain n])

/-- The text of layouts with a text between them, by the texts of the layouts. -/
theorem text_separated_map {α : Type} {separator : String} {xs : List α} {f : α → Layout}
    {g : α → String} (h : ∀ x ∈ xs, (f x).text = (g x).toList) :
    (separated separator (xs.map f)).text = (separator.intercalate (xs.map g)).toList := by
  rw [text_separated, String.toList_intercalate, List.map_map, List.map_map]
  exact congrArg _ (List.map_congr_left h)

theorem slots_separated_map {α : Type} {separator : String} {xs : List α} {f : α → Layout} :
    (separated separator (xs.map f)).slots = xs.flatMap fun x => (f x).slots := by
  rw [slots_separated, List.flatMap_map]

/-- Sound layouts with commas between them. -/
theorem sound_list {α : Type} {xs : List α} {f : α → Layout} (h : ∀ x ∈ xs, (f x).Sound) :
    (separated ", " (xs.map f)).Sound := by
  refine sound_separated (by decide) ?_
  intro L hL
  obtain ⟨x, hx, rfl⟩ := List.mem_map.1 hL
  exact h x hx

theorem text_names (ns : List String) : (names ns).text = (", ".intercalate ns).toList := by
  rw [names, text_separated_map (g := id) fun n _ => by simp [Piece.text], List.map_id]

theorem slots_names (ns : List String) : (names ns).slots = [] := by
  rw [names, slots_separated_map]
  simp

theorem sound_names {ns : List String} (h : ∀ n ∈ ns, Sql.Closed n) : (names ns).Sound :=
  sound_list fun n hn => sound_name (h n hn)

end Layout

/-! ## Clauses that a statement may lack -/

/-- What a clause adds to a statement: a blank and its text, or nothing if it has none. -/
def behind : Option String → String
  | some text => if text.isEmpty then "" else " " ++ text
  | none => ""

theorem assemble_cons (head : String) (clause : Option String) (clauses : List (Option String)) :
    assemble head (clause :: clauses) = assemble (head ++ behind clause) clauses := by
  rw [assemble, List.foldl_cons, ← assemble]
  cases clause with
  | none => rw [behind, String.append_empty]
  | some text =>
    simp only [behind]
    split
    · rw [String.append_empty]
    · rw [String.append_assoc]

/-- Clauses come after the head of a statement. -/
theorem exists_assemble_eq (head : String) (clauses : List (Option String)) :
    ∃ rest, assemble head clauses = head ++ rest := by
  induction clauses generalizing head with
  | nil => exact ⟨"", String.append_empty.symm⟩
  | cons clause clauses ih =>
    obtain ⟨rest, hrest⟩ := ih (head ++ behind clause)
    refine ⟨behind clause ++ rest, ?_⟩
    rw [assemble_cons, hrest, String.append_assoc]

theorem behind_of_ne_empty {text : String} (h : text ≠ "") : behind (some text) = " " ++ text :=
  if_neg fun he => h (String.isEmpty_iff.1 he)

theorem assemble_some {t : String} (ht : t ≠ "") (head : String) (ts : List (Option String)) :
    assemble head (some t :: ts) = assemble (head ++ " " ++ t) ts := by
  rw [assemble_cons, behind_of_ne_empty ht, String.append_assoc]

namespace Layout

/-- A layout is that of a clause of a statement: it has its text, and where there is none
    the clause has no text either. -/
inductive Writes : Option Layout → Option String → Prop where
  | none : Writes none none
  | empty : Writes none (some "")
  | some {L : Layout} {t : String} (ht : t ≠ "") (h : L.text = t.toList) :
    Writes (some L) (some t)

/-- The layout of a statement: that of its head, and after it those of its clauses. -/
def assembled (head : Layout) : List (Option Layout) → Layout
  | [] => head
  | none :: Ls => assembled head Ls
  | some L :: Ls => assembled (head ++ .plain " " :: L) Ls

/-- The layout of a statement has the text that is assembled. -/
theorem text_assembled {Ls : List (Option Layout)} {ts : List (Option String)}
    (hw : List.Forall₂ Writes Ls ts) {head : Layout} {t : String} (h : head.text = t.toList) :
    (assembled head Ls).text = (assemble t ts).toList := by
  induction hw generalizing head t with
  | nil => exact h
  | cons hL _ ih =>
    cases hL with
    | none | empty => exact ih h
    | some ht hL =>
      rw [assemble_some ht]
      refine ih ?_
      rw [text_append, text_cons, h, hL]
      simp [Piece.text]

theorem slots_assembled (head : Layout) (Ls : List (Option Layout)) :
    (assembled head Ls).slots = head.slots ++ Ls.flatMap fun L => L.elim [] slots := by
  induction Ls generalizing head with
  | nil => simp [assembled]
  | cons L Ls ih => cases L <;> simp [assembled, ih]

theorem sound_assembled {Ls : List (Option Layout)} (hL : ∀ L, some L ∈ Ls → L.Sound)
    {head : Layout} (h : head.Sound) : (assembled head Ls).Sound := by
  induction Ls generalizing head with
  | nil => exact h
  | cons M Ls ih =>
    have hrest := fun L hL' => hL L (List.mem_cons_of_mem _ hL')
    cases M with
    | none => exact ih hrest h
    | some M =>
      have hM : M.Sound := hL M (by simp)
      exact ih hrest (h.glue (by decide) hM)

end Layout

/-! ## WHERE, ORDER BY, GROUP BY and LIMIT -/

/-- The layout of the WHERE clause of an optional condition. -/
def Condition.filterLayout? (c : Option Condition) : Option Layout := c.map Condition.filterLayout

/-- What the marks of an optional condition stand for. -/
def Condition.slots? (c : Option Condition) : List (String × Scalar) :=
  c.elim [] fun c => c.leaves.map Comparison.slot

/-- The names of the fields of an optional condition. -/
def Condition.names? (c : Option Condition) : List String :=
  c.elim [] fun c => c.leaves.map Comparison.field

theorem Clause.filter_ne_empty (c : Clause) : c.filter.text ≠ "" := by
  simp [Clause.filter]

/-- A removal with a condition is told from one without. -/
theorem RemoveClauses.isUnconditioned_filter (c : Clause) :
    (RemoveClauses.mk c.filter).isUnconditioned = false := by
  rw [isUnconditioned, Clause.isEmpty, Bool.eq_false_iff]
  intro hempty
  exact c.filter_ne_empty (String.isEmpty_iff.1 hempty)

theorem Condition.writes_filterLayout {c : Condition} {a : Clause} (h : c.compile = .ok a) :
    Layout.Writes (some c.filterLayout) (some a.filter.text) :=
  .some a.filter_ne_empty (text_filterLayout h)

theorem Condition.writes_filter? {o : Option Condition} {clause : Option Clause}
    (h : Condition.filter? o = .ok clause) :
    Layout.Writes (filterLayout? o) (clause.map Clause.text) := by
  rcases filter?_eq_ok h with ⟨rfl, rfl⟩ | ⟨c, a, rfl, hc, rfl⟩
  · exact .none
  · exact writes_filterLayout hc

theorem Condition.values_of_filter? {o : Option Condition} {clause : Option Clause}
    (h : Condition.filter? o = .ok clause) :
    clause.elim [] Clause.values = (Condition.slots? o).map Prod.snd := by
  rcases filter?_eq_ok h with ⟨rfl, rfl⟩ | ⟨c, a, rfl, hc, rfl⟩
  · rfl
  · exact (values_of_compile hc).trans (by simp [slots?, Comparison.slot])

theorem Condition.sound_filterLayout? {o : Option Condition}
    (h : ∀ n ∈ Condition.names? o, Sql.Closed n) {L : Layout} (hL : Condition.filterLayout? o = some L) : L.Sound := by
  obtain ⟨cond, rfl, rfl⟩ := Option.map_eq_some_iff.1 hL
  exact Condition.sound_filterLayout fun l hl => h _ (List.mem_map_of_mem hl)

/-- The layout of the ORDER BY clause of a sort order. -/
def SortOrder.layout (s : SortOrder) : Layout :=
  .plain "ORDER BY " :: Layout.separated ", "
    (s.entries.map fun e => [.plain e.1, .plain " ", .plain e.2.sql])

/-- The layout of the ORDER BY clause of an optional sort order. -/
def SortOrder.layout? (s : Option SortOrder) : Option Layout :=
  s.bind fun s => if s.isEmpty then none else some (layout s)

theorem SortOrder.writes_orderBy? (s : Option SortOrder) :
    Layout.Writes (layout? s) (s.bind SortOrder.orderBy?) := by
  cases s with
  | none => exact .none
  | some s =>
    rw [layout?, Option.bind_some, Option.bind_some, SortOrder.orderBy?]
    split
    · exact .none
    · refine .some (by simp) ?_
      rw [layout, Layout.text_cons, Layout.text_separated_map fun e _ => ?_, String.toList_append]
      · rfl
      · simp [Piece.text]

theorem SortOrder.slots_layout (s : SortOrder) : (layout s).slots = [] := by
  rw [layout, Layout.slots_plain, Layout.slots_separated_map]
  simp

theorem SortOrder.sound_layout {s : SortOrder} (h : ∀ n ∈ s.keys, Sql.Closed n) :
    (layout s).Sound := by
  refine Layout.sound_plain (by decide) (Layout.sound_list ?_)
  intro e he
  have hname : Sql.Closed e.1 := h e.1 (List.mem_map_of_mem he)
  have hdir : e.2.sql.toList.all Sql.isOrdinary = true := by cases e.2 <;> decide
  exact Layout.sound_name_cons hname (by decide) (Layout.sound_plain hdir Layout.sound_nil)

theorem SortOrder.slots_layout? (s : Option SortOrder) : (layout? s).elim [] Layout.slots = [] := by
  cases s with
  | none => rfl
  | some s =>
    rw [layout?, Option.bind_some]
    split
    · rfl
    · exact slots_layout s

theorem SortOrder.sound_layout? {o : Option SortOrder}
    (h : ∀ n ∈ o.elim [] OrderedMap.keys, Sql.Closed n) {L : Layout} (hL : layout? o = some L) : L.Sound := by
  obtain ⟨s, rfl, hL'⟩ := Option.bind_eq_some_iff.1 hL
  split at hL'
  · cases hL'
  · obtain rfl := Option.some.inj hL'
    exact sound_layout h

/-- The layout of the GROUP BY clause of an optional list of fields. -/
def groupByLayout? (fields : Option (List String)) : Option Layout :=
  fields.bind fun fields =>
    if fields.isEmpty then none else some (.plain "GROUP BY " :: Layout.names fields)

theorem writes_groupByClause? (fields : Option (List String)) :
    Layout.Writes (groupByLayout? fields) (fields.bind groupByClause?) := by
  cases fields with
  | none => exact .none
  | some fields =>
    rw [groupByLayout?, Option.bind_some, Option.bind_some, groupByClause?]
    split
    · exact .none
    · refine .some (by simp) ?_
      rw [Layout.text_cons, Layout.text_names, String.toList_append]
      rfl

theorem slots_groupByLayout? (fields : Option (List String)) :
    (groupByLayout? fields).elim [] Layout.slots = [] := by
  cases fields with
  | none => rfl
  | some fields =>
    rw [groupByLayout?, Option.bind_some]
    split
    · rfl
    · exact Layout.slots_names fields

theorem sound_groupByLayout? {o : Option (List String)} (h : ∀ n ∈ o.getD [], Sql.Closed n)
    {L : Layout} (hL : groupByLayout? o = some L) : L.Sound := by
  obtain ⟨fields, rfl, hL'⟩ := Option.bind_eq_some_iff.1 hL
  split at hL'
  · cases hL'
  · obtain rfl := Option.some.inj hL'
    exact Layout.sound_plain (by decide) (Layout.sound_names h)

/-- The layout of a LIMIT clause. -/
def limitLayout? (limit offset : Option UInt64) : Option Layout :=
  (limitClause? limit offset).map fun t => [.plain t]

theorem isDigit_of_mem_toString {n : UInt64} {c : Char} (hc : c ∈ (toString n).toList) :
    c.isDigit = true := by
  have h : toString n = n.toNat.repr := rfl
  rw [h, Nat.toList_repr] at hc
  exact Nat.isDigit_of_mem_toDigits (by decide) (Nat.le_refl 10) hc

theorem all_isOrdinary_toString (n : UInt64) :
    (toString n).toList.all Sql.isOrdinary = true := by
  rw [List.all_eq_true]
  exact fun c hc => Sql.isOrdinary_of_isDigit (isDigit_of_mem_toString hc)

theorem writes_limitClause? (limit offset : Option UInt64) :
    Layout.Writes (limitLayout? limit offset) (limitClause? limit offset) := by
  rw [limitLayout?]
  match limit, offset with
  | some limit, some offset => exact .some (by simp) (by simp [Piece.text])
  | some limit, none => exact .some (by simp) (by simp [Piece.text])
  | none, _ => exact .none

theorem slots_limitLayout? (limit offset : Option UInt64) :
    (limitLayout? limit offset).elim [] Layout.slots = [] := by
  rw [limitLayout?]
  cases limitClause? limit offset <;> rfl

theorem sound_limitLayout? {limit offset : Option UInt64} {L : Layout}
    (h : limitLayout? limit offset = some L) : L.Sound := by
  have hd := all_isOrdinary_toString
  have hl : "LIMIT ".toList.all Sql.isOrdinary = true := by decide
  have hc : ", ".toList.all Sql.isOrdinary = true := by decide
  match limit, offset with
  | some limit, some offset =>
    obtain rfl := Option.some.inj h
    refine Layout.sound_plain ?_ Layout.sound_nil
    simp only [String.toList_append, List.all_append, hl, hc, hd, Bool.and_self]
  | some limit, none =>
    obtain rfl := Option.some.inj h
    refine Layout.sound_plain ?_ Layout.sound_nil
    simp only [String.toList_append, List.all_append, hl, hd, Bool.and_self]
  | none, _ => cases h

/-! ## What a statement selects, assigns and inserts -/

/-- The layout of the columns that an aggregate asks for. -/
def AggregateRequest.layout (r : AggregateRequest) : Layout :=
  if r.selected.isEmpty then [.plain "*"]
  else Layout.separated ", " (r.selectors.filterMap fun s => s.2.1.map fun field =>
    [.plain s.1, .plain "(", .plain field, .plain ") AS ", .plain s.2.2])

/-- The fields that an aggregate asks for. -/
def AggregateRequest.fields (r : AggregateRequest) : List String :=
  r.selectors.filterMap fun s => s.2.1

theorem AggregateRequest.text_layout (r : AggregateRequest) :
    r.layout.text =
      (if r.selected.isEmpty then "*" else ", ".intercalate r.selected).toList := by
  rw [layout]
  split
  · simp [Piece.text]
  · rw [Layout.text_separated, String.toList_intercalate, selected, List.map_filterMap,
      List.map_filterMap]
    congr 2
    funext s
    cases s.2.1 <;> simp [Piece.text]

theorem AggregateRequest.slots_layout (r : AggregateRequest) : r.layout.slots = [] := by
  rw [layout]
  split
  · rfl
  · rw [Layout.slots_separated, List.flatMap_eq_nil_iff]
    intro L hL
    obtain ⟨s, -, hs⟩ := List.mem_filterMap.1 hL
    obtain ⟨field, -, rfl⟩ := Option.map_eq_some_iff.1 hs
    rfl

theorem AggregateRequest.all_isOrdinary_selectors (r : AggregateRequest) :
    ∀ s ∈ r.selectors, s.1.toList.all Sql.isOrdinary = true ∧
      s.2.2.toList.all Sql.isOrdinary = true := by
  simp only [selectors, List.forall_mem_cons]
  exact ⟨by decide, by decide, by decide, by decide, by decide, by simp⟩

theorem AggregateRequest.sound_layout {r : AggregateRequest} (h : ∀ n ∈ r.fields, Sql.Closed n) :
    r.layout.Sound := by
  rw [layout]
  split
  · exact Layout.sound_plain (by decide) Layout.sound_nil
  · refine Layout.sound_separated (by decide) ?_
    intro L hL
    obtain ⟨s, hs, hL⟩ := List.mem_filterMap.1 hL
    obtain ⟨field, hf, rfl⟩ := Option.map_eq_some_iff.1 hL
    obtain ⟨hfun, hcol⟩ := r.all_isOrdinary_selectors s hs
    have hname : Sql.Closed field := h field (List.mem_filterMap.2 ⟨s, hs, hf⟩)
    refine Layout.sound_plain hfun (Layout.sound_plain (by decide) ?_)
    exact Layout.sound_name_cons hname (by decide) (Layout.sound_plain hcol Layout.sound_nil)

/-- The layout of the assignments of a payload. -/
def Record.assignments (r : Record) : Layout :=
  Layout.separated ", " (r.entries.map fun e => [.plain e.1, .plain " = ", .mark e.1 e.2])

theorem Record.text_assignments (r : Record) :
    (Record.assignments r).text = (", ".intercalate (r.keys.map (· ++ " = ?"))).toList := by
  rw [assignments, OrderedMap.keys, List.map_map]
  exact Layout.text_separated_map fun e _ => by simp [Piece.text]

theorem Record.slots_assignments (r : Record) : (Record.assignments r).slots = r.entries := by
  rw [assignments, Layout.slots_separated_map]
  exact (List.flatMap_singleton' r.entries)

theorem Record.sound_assignments {r : Record} (h : ∀ n ∈ r.keys, Sql.Closed n) :
    (Record.assignments r).Sound := by
  refine Layout.sound_list ?_
  intro e he
  have hname : Sql.Closed e.1 := h e.1 (List.mem_map_of_mem he)
  exact Layout.sound_name_cons hname (by decide) (Layout.sound_mark e.1 e.2 Layout.sound_nil)

/-- What the marks of an inserted record stand for. -/
def Record.slots (columns : List String) (r : Record) : List (String × Scalar) :=
  columns.map fun column => (column, (r.get? column).getD .null)

/-- The layout of the marks of an inserted record. -/
def Record.row (columns : List String) (r : Record) : Layout :=
  .plain "(" :: (Layout.separated ", " ((Record.slots columns r).map fun e => [.mark e.1 e.2]) ++
    [.plain ")"])

theorem Record.text_row (columns : List String) (r : Record) :
    (Record.row columns r).text = (Collection.markGroup columns.length).toList := by
  have hmarks : ((Record.slots columns r).map fun _ => "?") =
      List.replicate columns.length "?" := by
    rw [slots, List.map_map, ← List.map_const']
    rfl
  rw [row, Layout.text_cons, Layout.text_append,
    Layout.text_separated_map (g := fun _ => "?") (fun e _ => rfl), hmarks]
  simp [Collection.markGroup, Piece.text]

theorem Record.slots_row (columns : List String) (r : Record) :
    (Record.row columns r).slots = Record.slots columns r := by
  rw [row, Layout.slots_plain, Layout.slots_append, Layout.slots_separated_map]
  simp only [Layout.slots_plain, Layout.slots_nil, List.append_nil]
  exact List.flatMap_singleton' _

theorem Record.sound_row (columns : List String) (r : Record) : (Record.row columns r).Sound := by
  have hmarks := Layout.sound_list fun e (_ : e ∈ Record.slots columns r) =>
    Layout.sound_mark e.1 e.2 Layout.sound_nil
  exact Layout.sound_plain (by decide) (hmarks.glue (by decide) Layout.sound_nil)

end RowQuery

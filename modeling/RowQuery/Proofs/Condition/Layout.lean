/-
  RowQuery — layouts of conditions.

  A condition has a layout made from its tree, in which the mark of each comparison stands
  after the name of its field.

  * `Condition.layout`, `Condition.filterLayout`: of its predicate, and of its WHERE clause;
  * `text_layout`, `slots_layout`: it has the text of the compiled predicate, and its marks
    stand for the comparisons in pre-order;
  * `sound_layout`: it is sound when the names of the fields are closed.
-/
import RowQuery.Proofs.Condition.Compile
import RowQuery.Proofs.Statement.Layout

namespace RowQuery

/-- What the mark of a comparison stands for. -/
def Comparison.slot (c : Comparison) : String × Scalar := (c.field, c.value)

namespace Condition

/-- The layout of a comparison. -/
def leafLayout (c : Comparison) : Layout :=
  [.plain c.field, .plain " ", .plain c.operator.sql, .plain " ", .mark c.field c.value]

/-- The layout of a predicate in parentheses. -/
def parenthesizedLayout (L : Layout) : Layout := .plain "(" :: (L ++ [.plain ")"])

mutual

/-- The layout of the predicate of a condition. -/
def layout : Condition → Layout
  | leaf c => leafLayout c
  | group joiner members => Layout.separated joiner.separator (memberLayouts members)

/-- The layouts of the predicates of the members of a group. -/
def memberLayouts : List Condition → List Layout
  | [] => []
  | c :: cs => parenthesizedLayout c.layout :: memberLayouts cs

end

/-! ## Text -/

theorem text_parenthesizedLayout {L : Layout} {clause : Clause}
    (h : L.text = clause.text.toList) :
    (parenthesizedLayout L).text = clause.parenthesized.text.toList := by
  simp [parenthesizedLayout, Clause.parenthesized, h, Piece.text]

mutual

/-- The layout of a condition has the text of its predicate. -/
theorem text_layout : ∀ {c : Condition} {clause : Clause}, c.compile = .ok clause →
    c.layout.text = clause.text.toList
  | .leaf c, clause, h => by
    obtain ⟨-, rfl⟩ := compile_leaf_eq_ok.1 h
    simp [layout, leafLayout, Piece.text]
  | .group joiner members, clause, h => by
    obtain ⟨-, clauses, hm, rfl⟩ := compile_group_eq_ok.1 h
    rw [layout, Layout.text_separated, text_memberLayouts hm, Clause.joined,
      String.toList_intercalate, List.map_map]
    rfl

theorem text_memberLayouts : ∀ {cs : List Condition} {clauses : List Clause},
    compileMembers cs = .ok clauses →
      (memberLayouts cs).map Layout.text = clauses.map fun a => a.parenthesized.text.toList
  | [], clauses, h => by
    cases h
    rfl
  | c :: cs, clauses, h => by
    obtain ⟨a, as, ha, has, rfl⟩ := compileMembers_cons_eq_ok.1 h
    rw [memberLayouts, List.map_cons, text_parenthesizedLayout (text_layout ha),
      text_memberLayouts has, List.map_cons]

end

/-! ## Slots -/

mutual

/-- The marks of the layout of a condition stand for its comparisons, in pre-order. -/
theorem slots_layout : ∀ c : Condition, c.layout.slots = c.leaves.map Comparison.slot
  | .leaf c => rfl
  | .group joiner members => by
    rw [layout, Layout.slots_separated, slots_memberLayouts members, leaves]

theorem slots_memberLayouts : ∀ cs : List Condition,
    (memberLayouts cs).flatMap Layout.slots = (memberLeaves cs).map Comparison.slot
  | [] => rfl
  | c :: cs => by
    rw [memberLayouts, List.flatMap_cons, slots_memberLayouts cs, memberLeaves, List.map_append,
      ← slots_layout c]
    simp [parenthesizedLayout]

end

/-! ## Soundness -/

theorem sound_leafLayout {c : Comparison} (h : Sql.Closed c.field) : (leafLayout c).Sound := by
  have hop : c.operator.sql.toList.all Sql.isOrdinary = true := by
    cases c.operator <;> decide
  have hmark := Layout.sound_mark c.field c.value Layout.sound_nil
  have hrest := Layout.sound_plain hop (Layout.sound_plain (s := " ") (by decide) hmark)
  exact Layout.sound_name_cons h (by decide) hrest

theorem sound_parenthesizedLayout {L : Layout} (h : L.Sound) : (parenthesizedLayout L).Sound := by
  have hinner : Layout.Sound (L ++ [.plain ")"]) := h.glue (by decide) Layout.sound_nil
  exact Layout.sound_plain (by decide) hinner

mutual

/-- The layout of a condition on closed names is sound. -/
theorem sound_layout : ∀ {c : Condition}, (∀ l ∈ c.leaves, Sql.Closed l.field) → c.layout.Sound
  | .leaf c, h => sound_leafLayout (h c (by simp [leaves]))
  | .group joiner members, h => by
    rw [layout]
    have hglue : Layout.isGlue joiner.separator = true := by cases joiner <;> decide
    exact Layout.sound_separated hglue (sound_memberLayouts h)

theorem sound_memberLayouts : ∀ {cs : List Condition},
    (∀ l ∈ memberLeaves cs, Sql.Closed l.field) → ∀ L ∈ memberLayouts cs, L.Sound
  | [], _, L, hL => by cases hL
  | c :: cs, h, L, hL => by
    simp only [memberLeaves, List.mem_append] at h
    rcases List.mem_cons.1 hL with rfl | hL
    · exact sound_parenthesizedLayout (sound_layout fun l hl => h l (Or.inl hl))
    · exact sound_memberLayouts (fun l hl => h l (Or.inr hl)) L hL

end

/-! ## WHERE clauses -/

/-- The layout of the WHERE clause of a condition. -/
def filterLayout (c : Condition) : Layout := .plain "WHERE " :: c.layout

theorem text_filterLayout {c : Condition} {clause : Clause} (h : c.compile = .ok clause) :
    c.filterLayout.text = clause.filter.text.toList := by
  rw [filterLayout, Layout.text_cons, text_layout h]
  simp [Clause.filter, Piece.text]

theorem slots_filterLayout (c : Condition) :
    c.filterLayout.slots = c.leaves.map Comparison.slot := slots_layout c

theorem sound_filterLayout {c : Condition} (h : ∀ l ∈ c.leaves, Sql.Closed l.field) :
    c.filterLayout.Sound := Layout.sound_plain (by decide) (sound_layout h)

end Condition

end RowQuery

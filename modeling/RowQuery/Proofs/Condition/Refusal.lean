/-
  RowQuery — which conditions compile, and what is kept of them.

  A condition is refused for an empty group or a comparison without a field, wherever it is in
  the tree, and the first such node in pre-order is told.  Of a condition that compiles no
  comparison is lost: each has its value and its mark, and the only other `?` in the text are
  those of the names.

  * `Condition.nodes` are the nodes of a condition in pre-order, and `Condition.flaw?` is what
    is wrong with a single one;
  * `compile_eq_error_iff`: a condition is refused with its first flaw;
  * `questionMarks_of_compile`: the `?` of a predicate;
  * `compile_exact`: both together.
-/
import RowQuery.Proofs.Condition.Compile
import RowQuery.Proofs.Condition.RoundTrip

namespace RowQuery

namespace Condition

/-! ## Flaws -/

mutual

/-- **The nodes of a condition** in pre-order: itself, then those of its members. -/
def nodes : Condition → List Condition
  | leaf c => [leaf c]
  | group joiner members => group joiner members :: memberNodes members

/-- The nodes of conditions, left to right. -/
def memberNodes : List Condition → List Condition
  | [] => []
  | c :: cs => c.nodes ++ memberNodes cs

end

/-- **What is wrong with a node**, apart from the conditions under it. -/
def flaw? : Condition → Option ConditionError
  | leaf c => if c.field = "" then some (.malformed .emptyField) else none
  | group _ [] => some (.malformed .noChildren)
  | group _ (_ :: _) => none

theorem compile_leaf_eq_error {c : Comparison} {e : ConditionError} :
    (leaf c).compile = .error e ↔ (leaf c).flaw? = some e := by
  rw [compile, Comparison.compile, flaw?]
  by_cases h : c.field = ""
  · simp [h]
  · simp [h]

mutual

/-- **A condition is refused with its first flaw**, and for no other cause. -/
theorem compile_eq_error_iff : ∀ {c : Condition} {e : ConditionError},
    c.compile = .error e ↔ c.nodes.findSome? flaw? = some e
  | .leaf c, e => by
    rw [compile_leaf_eq_error, nodes, List.findSome?_singleton]
  | .group joiner [], e => by
    rw [compile, nodes, List.findSome?_cons, flaw?]
    simp
  | .group joiner (c :: cs), e => by
    rw [compile_group_cons, except_map_eq_error, nodes, List.findSome?_cons, flaw?]
    exact compileMembers_eq_error_iff

theorem compileMembers_eq_error_iff : ∀ {cs : List Condition} {e : ConditionError},
    compileMembers cs = .error e ↔ (memberNodes cs).findSome? flaw? = some e
  | [], e => by simp [compileMembers, memberNodes]
  | c :: cs, e => by
    have hhead : c.nodes.findSome? flaw? = none ↔ ∃ a, c.compile = .ok a :=
      (except_exists_ok_iff fun _ => compile_eq_error_iff).symm
    have hrest : ∀ a, (do return a :: (← compileMembers cs) : Except ConditionError _) = .error e ↔
        compileMembers cs = .error e := fun a => except_map_eq_error (f := (a :: ·))
    rw [compileMembers, except_bind_eq_error, memberNodes, List.findSome?_append,
      Option.or_eq_some_iff, hhead, ← compile_eq_error_iff, ← compileMembers_eq_error_iff]
    simp only [hrest, exists_and_right]

end

/-! ## What is wrong with a condition -/

mutual

theorem leaf_mem_nodes_iff {l : Comparison} : ∀ {c : Condition}, leaf l ∈ c.nodes ↔ l ∈ c.leaves
  | .leaf c => by simp [nodes, leaves]
  | .group joiner members => by
    rw [nodes, leaves, List.mem_cons, leaf_mem_memberNodes_iff]
    simp

theorem leaf_mem_memberNodes_iff {l : Comparison} : ∀ {cs : List Condition},
    leaf l ∈ memberNodes cs ↔ l ∈ memberLeaves cs
  | [] => by simp [memberNodes, memberLeaves]
  | c :: cs => by
    rw [memberNodes, memberLeaves, List.mem_append, List.mem_append, leaf_mem_nodes_iff,
      leaf_mem_memberNodes_iff]

end

theorem isSome_flaw?_iff {c : Condition} :
    c.flaw?.isSome ↔ (∃ joiner, c = group joiner []) ∨ ∃ l, c = leaf l ∧ l.field = "" := by
  cases c with
  | leaf l => by_cases h : l.field = "" <;> simp [flaw?, h]
  | group joiner members => cases members <;> simp [flaw?]

/-- A condition is refused exactly if a group in it is empty, or a comparison has no field. -/
theorem exists_error_iff {c : Condition} :
    (∃ e, c.compile = .error e) ↔
      (∃ joiner, group joiner [] ∈ c.nodes) ∨ ∃ l ∈ c.leaves, l.field = "" := by
  simp only [compile_eq_error_iff, ← Option.isSome_iff_exists, List.findSome?_isSome_iff,
    isSome_flaw?_iff, ← leaf_mem_nodes_iff]
  constructor
  · rintro ⟨_, hn, ⟨joiner, rfl⟩ | ⟨l, rfl, hl⟩⟩
    · exact Or.inl ⟨joiner, hn⟩
    · exact Or.inr ⟨l, hn, hl⟩
  · rintro (⟨joiner, hn⟩ | ⟨l, hn, hl⟩)
    · exact ⟨_, hn, Or.inl ⟨joiner, rfl⟩⟩
    · exact ⟨_, hn, Or.inr ⟨l, rfl, hl⟩⟩

/-- What is read from a JSON tree is refused only for a comparison without a field. -/
theorem exists_error_iff_of_ofJson {j : Json} {c : Condition} (h : ofJson j = .ok c) :
    (∃ e, c.compile = .error e) ↔ ∃ l ∈ c.leaves, l.field = "" := by
  constructor
  · rintro ⟨e, he⟩
    by_contra hnone
    obtain ⟨clause, hclause⟩ := exists_compile (writable_of_ofJson h).noEmptyGroup
      fun l hl hfield => hnone ⟨l, hl, hfield⟩
    rw [he] at hclause
    cases hclause
  · exact fun hfield => exists_error_iff.2 (Or.inr hfield)

/-! ## Marks -/

/-- How many `?` a text has. -/
def questionMarks (text : String) : Nat := text.toList.count '?'

theorem questionMarks_append (a b : String) :
    questionMarks (a ++ b) = questionMarks a + questionMarks b := by
  rw [questionMarks, String.toList_append, List.count_append]
  rfl

theorem questionMarks_intercalate {separator : String} (h : questionMarks separator = 0) :
    ∀ texts : List String,
      questionMarks (separator.intercalate texts) = (texts.map questionMarks).sum
  | [] => rfl
  | [text] => by simp
  | text :: next :: texts => by
    rw [String.intercalate_cons_cons, questionMarks_append, questionMarks_append, h,
      questionMarks_intercalate h (next :: texts)]
    rfl

mutual

/-- **The `?` of a predicate**: a mark for each comparison, and those of the names. -/
theorem questionMarks_of_compile : ∀ {c : Condition} {clause : Clause}, c.compile = .ok clause →
    questionMarks clause.text =
      c.leafCount + (c.leaves.map fun l => questionMarks l.field).sum
  | .leaf c, clause, h => by
    obtain ⟨-, rfl⟩ := compile_leaf_eq_ok.1 h
    have hoperator : questionMarks c.operator.sql = 0 := by cases c.operator <;> decide
    have hblank : questionMarks " " = 0 := by decide
    have hmark : questionMarks " ?" = 1 := by decide
    simp only [questionMarks_append, hoperator, hblank, hmark, leafCount, leaves, List.map_cons,
      List.map_nil, List.sum_cons, List.sum_nil]
    omega
  | .group joiner members, clause, h => by
    obtain ⟨-, clauses, hm, rfl⟩ := compile_group_eq_ok.1 h
    have hseparator : questionMarks joiner.separator = 0 := by cases joiner <;> decide
    rw [Clause.joined, questionMarks_intercalate hseparator, List.map_map, leafCount, leaves]
    exact questionMarks_of_compileMembers hm

theorem questionMarks_of_compileMembers : ∀ {cs : List Condition} {clauses : List Clause},
    compileMembers cs = .ok clauses →
      (clauses.map fun a => questionMarks a.parenthesized.text).sum =
        memberLeafCount cs + ((memberLeaves cs).map fun l => questionMarks l.field).sum
  | [], clauses, h => by
    cases h
    rfl
  | c :: cs, clauses, h => by
    obtain ⟨a, as, ha, has, rfl⟩ := compileMembers_cons_eq_ok.1 h
    have hparentheses : questionMarks a.parenthesized.text = questionMarks a.text := by
      have hopening : questionMarks "(" = 0 := by decide
      have hclosing : questionMarks ")" = 0 := by decide
      rw [Clause.parenthesized, questionMarks_append, questionMarks_append, hopening, hclosing]
      omega
    rw [List.map_cons, List.sum_cons, hparentheses, questionMarks_of_compile ha,
      questionMarks_of_compileMembers has, memberLeafCount, memberLeaves, List.map_append,
      List.sum_append]
    omega

end

/-! ## Compilation -/

/-- **Compilation refuses exactly the conditions with a flaw, and loses nothing of the others.**
    The first flaw in pre-order is told; what was read from JSON has no other flaw than a
    comparison without a field.  The values of a predicate are those of the comparisons in
    pre-order, and there are as many marks in its text, the `?` of the names apart. -/
theorem compile_exact (c : Condition) :
    ((∃ e, c.compile = .error e) ↔
        (∃ joiner, group joiner [] ∈ c.nodes) ∨ ∃ l ∈ c.leaves, l.field = "") ∧
      (∀ e, c.compile = .error e ↔ ∃ before n after, c.nodes = before ++ n :: after ∧
        n.flaw? = some e ∧ ∀ m ∈ before, m.flaw? = none) ∧
      (∀ j, ofJson j = .ok c →
        ((∃ e, c.compile = .error e) ↔ ∃ l ∈ c.leaves, l.field = "")) ∧
      ∀ clause, c.compile = .ok clause →
        clause.values = c.leaves.map Comparison.value ∧ clause.values.length = c.leafCount ∧
          questionMarks clause.text =
            c.leafCount + (c.leaves.map fun l => questionMarks l.field).sum := by
  refine ⟨exists_error_iff, fun e => ?_, fun j => exists_error_iff_of_ofJson,
    fun clause h => ⟨values_of_compile h, ?_, questionMarks_of_compile h⟩⟩
  · rw [compile_eq_error_iff, List.findSome?_eq_some_iff]
  · rw [values_of_compile h, List.length_map, length_leaves]

/-- Two comparisons in a group within a group, one of them of a quoted name with a `?`. -/
theorem compile_exact_quoted_name :
    let c := group .or [leaf ⟨"a", .eq, .int 1⟩, group .and [leaf ⟨"\"b?\"", .within, .list []⟩]]
    let clause : Clause := ⟨"(a = ?) OR ((\"b?\" IN ?))", [.int 1, .list []]⟩
    ofJson c.toJson = .ok c ∧ c.compile = .ok clause ∧ (¬ ∃ l ∈ c.leaves, l.field = "") ∧
      (¬ ∃ e, c.compile = .error e) ∧ clause.values.length = c.leafCount ∧
      questionMarks clause.text = 3 := by
  intro c clause
  have hread : ofJson c.toJson = .ok c := by rfl
  have hcompile : c.compile = .ok clause := by rfl
  obtain ⟨-, -, hrefused, hkept⟩ := compile_exact c
  obtain ⟨-, hlength, hmarks⟩ := hkept clause hcompile
  have hnamed : ¬ ∃ l ∈ c.leaves, l.field = "" := by decide
  exact ⟨hread, hcompile, hnamed, fun h => hnamed ((hrefused _ hread).1 h), hlength,
    hmarks.trans (by decide)⟩

/-- The empty field is told, since it comes before the empty group. -/
example :
    (group .and [leaf ⟨"a", .eq, .null⟩, group .or [leaf ⟨"", .eq, .null⟩], group .or []]).compile =
      .error (.malformed .emptyField) := by
  rfl

end Condition

end RowQuery

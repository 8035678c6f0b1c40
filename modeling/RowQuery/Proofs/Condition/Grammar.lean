/-
  RowQuery — which JSON trees are conditions, and what is wrong with the others.

  The reader of conditions is compared with a grammar. A tree that the grammar has is read
  as a condition of the same nesting; of any other tree the reader tells the first defect,
  where a node comes before the conditions under it, and these come in their order.

  * `Json.IsCondition` is the grammar, with `Operator.Spelled` and `Joiner.Spelled` for the
    names in it;
  * `Condition.Mirrors`: a condition has the nesting and the comparisons of a tree;
  * `Json.nodes` are the nodes of a tree in document order, `Json.Defect` is what is wrong
    with a single one, and `Json.FirstDefect` what is wrong with the first such node;
  * `Condition.accepts_its_grammar`: a tree is read exactly if the grammar has it.
-/
import Mathlib.Data.List.Forall2
import RowQuery.Condition.Json
import RowQuery.Proofs.Condition.RoundTrip
import RowQuery.Request.Error

namespace RowQuery

/-! ## Names -/

/-- **The spellings of an operator**: its name, or `notin` for the absence from a list, in
    any ASCII case and after at most one `$`. -/
def Operator.Spelled (op : Operator) (s : String) : Prop :=
  ∃ base, (s = base ∨ s = "$" ++ base) ∧
    (asciiLower base = op.name ∨ (op = notWithin ∧ asciiLower base = "notin"))

/-- **The spellings of a joiner**: its name in any ASCII case. -/
def Joiner.Spelled (joiner : Joiner) (s : String) : Prop := asciiLower s = joiner.name

namespace Operator

theorem folded_dollar (base : String) : folded ("$" ++ base) = asciiLower base := by
  have h : ("$" ++ base).toList = '$' :: base.toList := by simp
  rw [folded, h]
  simp

theorem folded_of_head {s : String} (h : s.toList.head? ≠ some '$') : folded s = asciiLower s := by
  rw [folded]
  split
  · rename_i cs hs
    rw [hs] at h
    exact absurd rfl h
  · rfl

/-- A name that begins with `$` stays so in lower case. -/
theorem head?_of_asciiLower {s t : String} (h : asciiLower s = t) (ht : t.toList.head? ≠ some '$') :
    s.toList.head? ≠ some '$' := by
  intro hs
  obtain ⟨cs, hcs⟩ := List.head?_eq_some_iff.1 hs
  rw [← h, toList_asciiLower, hcs] at ht
  exact ht rfl

theorem ofName?_of_folded {s : String} {op : Operator} (h : folded s = op.name) :
    ofName? s = some op := by
  rw [ofName?, h]
  cases op <;> decide

theorem ofName?_of_folded_notin {s : String} (h : folded s = "notin") :
    ofName? s = some notWithin := by
  rw [ofName?, h]
  rfl

theorem spelled_of_folded {s : String} {op : Operator}
    (h : folded s = op.name ∨ (op = notWithin ∧ folded s = "notin")) : op.Spelled s := by
  by_cases hs : s.toList.head? = some '$'
  · obtain ⟨cs, hcs⟩ := List.head?_eq_some_iff.1 hs
    have hbase : s = "$" ++ String.ofList cs := by
      apply String.toList_inj.1
      simp [hcs]
    rw [hbase, folded_dollar] at h
    exact ⟨String.ofList cs, Or.inr hbase, h⟩
  · rw [folded_of_head hs] at h
    exact ⟨s, Or.inl rfl, h⟩

/-- **A name is read as an operator exactly if it is one of its spellings.** -/
theorem ofName?_eq_some_iff {s : String} {op : Operator} :
    ofName? s = some op ↔ op.Spelled s := by
  constructor
  · intro h
    apply spelled_of_folded
    rw [ofName?] at h
    split at h
    · rename_i hn
      exact Or.inr ⟨(Option.some.inj h).symm, hn⟩
    · have hname := List.find?_some h
      simp only [decide_eq_true_eq] at hname
      exact Or.inl hname.symm
  · rintro ⟨base, hs, hbase⟩
    have hplain : base.toList.head? ≠ some '$' := by
      rcases hbase with hbase | ⟨-, hbase⟩
      · exact head?_of_asciiLower hbase (by cases op <;> decide)
      · exact head?_of_asciiLower hbase (by decide)
    have hfolded : folded s = asciiLower base := by
      rcases hs with rfl | rfl
      · exact folded_of_head hplain
      · exact folded_dollar base
    rcases hbase with hbase | ⟨rfl, hbase⟩
    · exact ofName?_of_folded (hfolded.trans hbase)
    · exact ofName?_of_folded_notin (hfolded.trans hbase)

end Operator

theorem Joiner.ofName?_eq_some_iff {s : String} {joiner : Joiner} :
    ofName? s = some joiner ↔ joiner.Spelled s := by
  rw [Spelled, ofName?]
  by_cases hand : asciiLower s = "and"
  · rw [if_pos hand, hand]
    cases joiner <;> decide
  · rw [if_neg hand]
    by_cases hor : asciiLower s = "or"
    · rw [if_pos hor, hor]
      cases joiner <;> decide
    · rw [if_neg hor]
      cases joiner <;> simp [name, hand, hor]

/-! ## The grammar -/

namespace Json

/-- **A value stands** under a key, or under another key if there is no such key. -/
def Stands (key other : String) (members : List (String × Json)) (j : Json) : Prop :=
  member? key members = some j ∨ (member? key members = none ∧ member? other members = some j)

/-- An object has this string under `operator`. -/
def Named (members : List (String × Json)) (name : String) : Prop :=
  member? "operator" members = some (.str name)

/-- **The node of a group**: a joiner's name, and an array under `conditions`, not empty. -/
structure GroupNode (joiner : Joiner) (items : List Json) (members : List (String × Json)) :
    Prop where
  children : member? "conditions" members = some (.arr items)
  nonempty : items ≠ []
  joined : ∃ name, Named members name ∧ joiner.Spelled name

/-- **The node of a comparison**: a field, an operator's name, and a value without objects. -/
structure LeafNode (field : String) (op : Operator) (operand : Json)
    (members : List (String × Json)) : Prop where
  childless : member? "conditions" members = none
  left : Stands "field" "left" members (.str field)
  right : Stands "value" "right" members operand
  free : operand.objectFree = true
  compared : ∃ name, Named members name ∧ op.Spelled name

/-- **The grammar of conditions.** -/
inductive IsCondition : Json → Prop
  | group {joiner : Joiner} {items : List Json} {members : List (String × Json)}
      (node : GroupNode joiner items members) (conditions : ∀ j ∈ items, IsCondition j) :
      IsCondition (.obj members)
  | leaf {field : String} {op : Operator} {operand : Json} {members : List (String × Json)}
      (node : LeafNode field op operand members) : IsCondition (.obj members)

end Json

/-- **A condition mirrors a tree** if it has the nodes of the tree, children in their order. -/
inductive Condition.Mirrors : Condition → Json → Prop
  | group {joiner : Joiner} {cs : List Condition} {items : List Json}
      {members : List (String × Json)} (node : Json.GroupNode joiner items members)
      (children : List.Forall₂ Mirrors cs items) : Mirrors (.group joiner cs) (.obj members)
  | leaf {c : Comparison} {operand : Json} {members : List (String × Json)}
      (node : Json.LeafNode c.field c.operator operand members)
      (value : Scalar.ofJson? operand = some c.value) : Mirrors (.leaf c) (.obj members)

/-! ## Defects -/

namespace Json

/-- **What is wrong with a node**, apart from the conditions under it. Each defect is told of
    a node that has none of those before it. -/
inductive Defect : Json → ConditionError → Prop
  | notAnObject {j : Json} (h : ∀ members, j ≠ .obj members) :
      Defect j (.malformed .notAnObject)
  | groupWithoutOperator {members : List (String × Json)} {j : Json}
      (group : member? "conditions" members = some j) (h : ∀ name, ¬ Named members name) :
      Defect (.obj members) (.malformed .groupWithoutOperator)
  | unsupportedJoiner {members : List (String × Json)} {j : Json} {name : String}
      (group : member? "conditions" members = some j) (named : Named members name)
      (h : ∀ joiner : Joiner, ¬ joiner.Spelled name) :
      Defect (.obj members) (.unsupportedJoiner name)
  | childrenNotAnArray {members : List (String × Json)} {j : Json} {name : String}
      {joiner : Joiner} (group : member? "conditions" members = some j)
      (named : Named members name) (spelled : joiner.Spelled name) (h : ∀ items, j ≠ .arr items) :
      Defect (.obj members) (.malformed .childrenNotAnArray)
  | noChildren {members : List (String × Json)} {name : String} {joiner : Joiner}
      (group : member? "conditions" members = some (.arr [])) (named : Named members name)
      (spelled : joiner.Spelled name) :
      Defect (.obj members) (.malformed .noChildren)
  | neitherLeafNorGroup {members : List (String × Json)}
      (childless : member? "conditions" members = none)
      (h : (∀ field, ¬ Stands "field" "left" members (.str field)) ∨
        ∀ operand, ¬ Stands "value" "right" members operand) :
      Defect (.obj members) (.malformed .neitherLeafNorGroup)
  | leafWithoutOperator {members : List (String × Json)} {field : String} {operand : Json}
      (childless : member? "conditions" members = none)
      (left : Stands "field" "left" members (.str field))
      (right : Stands "value" "right" members operand) (h : ∀ name, ¬ Named members name) :
      Defect (.obj members) (.malformed (.leafWithoutOperator field))
  | unsupportedOperator {members : List (String × Json)} {field name : String} {operand : Json}
      (childless : member? "conditions" members = none)
      (left : Stands "field" "left" members (.str field))
      (right : Stands "value" "right" members operand) (named : Named members name)
      (h : ∀ op : Operator, ¬ op.Spelled name) :
      Defect (.obj members) (.unsupportedOperator name)
  | unsupportedValue {members : List (String × Json)} {field name : String} {operand : Json}
      {op : Operator} (childless : member? "conditions" members = none)
      (left : Stands "field" "left" members (.str field))
      (right : Stands "value" "right" members operand) (named : Named members name)
      (spelled : op.Spelled name) (h : operand.objectFree = false) :
      Defect (.obj members) (.malformed (.unsupportedValue field))

/-- A node without a defect. -/
def Flawless (j : Json) : Prop := ∀ e, ¬ Defect j e

/-- **The defect of the first defective node** of a list. -/
inductive FirstDefect : List Json → ConditionError → Prop
  | here {j : Json} {js : List Json} {e : ConditionError} (h : Defect j e) :
      FirstDefect (j :: js) e
  | later {j : Json} {js : List Json} {e : ConditionError} (h : Flawless j)
      (hs : FirstDefect js e) : FirstDefect (j :: js) e

mutual

/-- **The nodes of a tree** in document order: itself, then those of the trees under
    `conditions`. -/
def nodes : Json → List Json
  | .obj members => .obj members :: nodesUnder members
  | j => [j]

/-- The nodes under the key `conditions`. -/
def nodesUnder : List (String × Json) → List Json
  | [] => []
  | (key, j) :: members => if key = "conditions" then nodesOf j else nodesUnder members

/-- The nodes in the value of the key `conditions`. -/
def nodesOf : Json → List Json
  | .arr items => nodesOfItems items
  | _ => []

/-- The nodes of trees, left to right. -/
def nodesOfItems : List Json → List Json
  | [] => []
  | j :: js => j.nodes ++ nodesOfItems js

end

theorem nodesUnder_eq (members : List (String × Json)) :
    nodesUnder members = ((member? "conditions" members).map nodesOf).getD [] := by
  induction members with
  | nil => simp [nodesUnder, member?]
  | cons m ms ih =>
    obtain ⟨key, j⟩ := m
    rw [nodesUnder, member?, List.lookup_cons]
    by_cases h : key = "conditions"
    · subst h
      simp
    · have hne : ("conditions" == key) = false := beq_eq_false_iff_ne.2 fun h' => h h'.symm
      simp [h, hne, ih, member?]

theorem nodes_group {joiner : Joiner} {items : List Json} {members : List (String × Json)}
    (h : GroupNode joiner items members) :
    nodes (.obj members) = .obj members :: nodesOfItems items := by
  simp [nodes, nodesUnder_eq, h.children, nodesOf]

theorem nodes_leaf {field : String} {op : Operator} {operand : Json}
    {members : List (String × Json)} (h : LeafNode field op operand members) :
    nodes (.obj members) = [.obj members] := by
  simp [nodes, nodesUnder_eq, h.childless]

theorem mem_nodes_self (j : Json) : ∃ js, j.nodes = j :: js := by
  cases j <;> simp [nodes]

/-! ## First defects -/

theorem FirstDefect.append_left {js ks : List Json} {e : ConditionError} (h : FirstDefect js e) :
    FirstDefect (js ++ ks) e := by
  induction h with
  | here h => exact .here h
  | later h _ ih => exact .later h ih

theorem FirstDefect.append_right {js ks : List Json} {e : ConditionError}
    (hjs : ∀ j ∈ js, Flawless j) (h : FirstDefect ks e) : FirstDefect (js ++ ks) e := by
  induction js with
  | nil => exact h
  | cons j js ih =>
    exact .later (hjs j (by simp)) (ih fun i hi => hjs i (by simp [hi]))

theorem not_firstDefect {js : List Json} {e : ConditionError} (hjs : ∀ j ∈ js, Flawless j) :
    ¬ FirstDefect js e := by
  intro h
  induction h with
  | here h => exact hjs _ (by simp) _ h
  | later _ _ ih => exact ih fun i hi => hjs i (by simp [hi])

end Json

/-! ## One node -/

mutual

/-- A value has a scalar exactly if no object occurs in it. -/
theorem Scalar.isSome_ofJson? : ∀ j : Json, (ofJson? j).isSome = j.objectFree
  | .null | .bool _ | .str _ | .obj _ => by simp [ofJson?, Json.objectFree]
  | .num n => by
    rw [ofJson?, Json.objectFree]
    · cases n.toInt64? <;> rfl
    · intro _ h; cases h
    · intro _ h; cases h
  | .arr items => by simp [ofJson?, Json.objectFree, isSome_ofJsonItems? items]

theorem Scalar.isSome_ofJsonItems? : ∀ js : List Json,
    (ofJsonItems? js).isSome = Json.objectFreeItems js
  | [] => rfl
  | j :: js => by
    rw [ofJsonItems?, Json.objectFreeItems, ← isSome_ofJson? j, ← isSome_ofJsonItems? js]
    cases ofJson? j <;> cases ofJsonItems? js <;> rfl

end

namespace Condition

open Json

theorem operatorName?_eq_some_iff {members : List (String × Json)} {name : String} :
    operatorName? members = some name ↔ Named members name := by
  rw [operatorName?, Named]
  cases member? "operator" members with
  | none => simp
  | some j => cases j <;> simp [string?]

theorem operatorName?_eq_none_iff {members : List (String × Json)} :
    operatorName? members = none ↔ ∀ name, ¬ Named members name := by
  rw [Option.eq_none_iff_forall_ne_some]
  simp only [ne_eq, operatorName?_eq_some_iff]

theorem eitherMember?_eq_some_iff {key other : String} {members : List (String × Json)}
    {j : Json} : eitherMember? key other members = some j ↔ Stands key other members j := by
  rw [eitherMember?, Stands]
  cases member? key members <;> simp

theorem ofJson_group {members : List (String × Json)} {j : Json}
    (h : member? "conditions" members = some j) :
    ofJson (.obj members) =
      (joinerOfJson members).bind fun joiner => (ofConditions j).map (group joiner) := by
  rw [ofJson, groupOfMembers?_eq, h]
  cases joinerOfJson members with
  | error e => rfl
  | ok joiner => cases h : ofConditions j <;> simp [h, Except.bind, Except.map] <;> rfl

theorem ofJson_leaf {members : List (String × Json)} (h : member? "conditions" members = none) :
    ofJson (.obj members) = (comparisonOfJson members).map leaf := by
  rw [ofJson, groupOfMembers?_eq, h]
  cases comparisonOfJson members <;> rfl

theorem joinerOfJson_of_spelled {members : List (String × Json)} {name : String} {joiner : Joiner}
    (named : Named members name) (spelled : joiner.Spelled name) :
    joinerOfJson members = .ok joiner := by
  rw [joinerOfJson, operatorName?_eq_some_iff.2 named]
  simp [Joiner.ofName, Joiner.ofName?_eq_some_iff.2 spelled]

theorem comparisonOfJson_of_spelled {members : List (String × Json)} {field name : String}
    {op : Operator} {operand : Json} (left : Stands "field" "left" members (.str field))
    (right : Stands "value" "right" members operand) (named : Named members name)
    (spelled : op.Spelled name) :
    comparisonOfJson members = match Scalar.ofJson? operand with
      | none => .error (.malformed (.unsupportedValue field))
      | some value => .ok ⟨field, op, value⟩ := by
  rw [comparisonOfJson, eitherMember?_eq_some_iff.2 left, eitherMember?_eq_some_iff.2 right,
    operatorName?_eq_some_iff.2 named]
  simp only [Operator.ofName, Operator.ofName?_eq_some_iff.2 spelled]
  rfl

theorem comparisonOfJson_of_neither {members : List (String × Json)}
    (h : (∀ field, ¬ Stands "field" "left" members (.str field)) ∨
      ∀ operand, ¬ Stands "value" "right" members operand) :
    comparisonOfJson members = .error (.malformed .neitherLeafNorGroup) := by
  simp only [← eitherMember?_eq_some_iff] at h
  rw [comparisonOfJson]
  split
  · rename_i field operand hfield hvalue
    rcases h with h | h
    · exact absurd hfield (h field)
    · exact absurd hvalue (h operand)
  · rfl

/-- **Each defect is told**, whatever the conditions under the node are. -/
theorem ofJson_of_defect {j : Json} {e : ConditionError} (h : Defect j e) :
    ofJson j = .error e := by
  cases h with
  | notAnObject h => cases j <;> simp_all [ofJson]
  | groupWithoutOperator group h =>
    rw [ofJson_group group, joinerOfJson, operatorName?_eq_none_iff.2 h]
    rfl
  | unsupportedJoiner group named h =>
    simp only [← Joiner.ofName?_eq_some_iff] at h
    rw [ofJson_group group, joinerOfJson, operatorName?_eq_some_iff.2 named]
    simp only [Joiner.ofName, Option.eq_none_iff_forall_ne_some.2 h]
    rfl
  | childrenNotAnArray group named spelled h =>
    rw [ofJson_group group, joinerOfJson_of_spelled named spelled, ofConditions]
    · rfl
    · exact h []
    · exact fun i is => h (i :: is)
  | noChildren group named spelled =>
    rw [ofJson_group group, joinerOfJson_of_spelled named spelled]
    rfl
  | neitherLeafNorGroup childless h =>
    rw [ofJson_leaf childless, comparisonOfJson_of_neither h]
    rfl
  | leafWithoutOperator childless left right h =>
    rw [ofJson_leaf childless, comparisonOfJson, eitherMember?_eq_some_iff.2 left,
      eitherMember?_eq_some_iff.2 right, operatorName?_eq_none_iff.2 h]
    rfl
  | unsupportedOperator childless left right named h =>
    simp only [← Operator.ofName?_eq_some_iff] at h
    rw [ofJson_leaf childless, comparisonOfJson, eitherMember?_eq_some_iff.2 left,
      eitherMember?_eq_some_iff.2 right, operatorName?_eq_some_iff.2 named]
    simp only [Operator.ofName, Option.eq_none_iff_forall_ne_some.2 h]
    rfl
  | unsupportedValue childless left right named spelled h =>
    rw [← Scalar.isSome_ofJson?, Option.isSome_eq_false_iff, Option.isNone_iff_eq_none] at h
    rw [ofJson_leaf childless, comparisonOfJson_of_spelled left right named spelled, h]
    rfl

theorem ofJson_groupNode {joiner : Joiner} {items : List Json} {members : List (String × Json)}
    (h : GroupNode joiner items members) :
    ofJson (.obj members) = (ofJsonItems items).map (group joiner) := by
  obtain ⟨name, named, spelled⟩ := h.joined
  rw [ofJson_group h.children, joinerOfJson_of_spelled named spelled]
  cases items with
  | nil => exact absurd rfl h.nonempty
  | cons j js => rfl

theorem ofJson_leafNode {field : String} {op : Operator} {operand : Json}
    {members : List (String × Json)} (h : LeafNode field op operand members) :
    ∃ value, Scalar.ofJson? operand = some value ∧
      ofJson (.obj members) = .ok (leaf ⟨field, op, value⟩) := by
  have hsome : (Scalar.ofJson? operand).isSome := by rw [Scalar.isSome_ofJson?, h.free]
  obtain ⟨value, hvalue⟩ := Option.isSome_iff_exists.1 hsome
  obtain ⟨name, named, spelled⟩ := h.compared
  refine ⟨value, hvalue, ?_⟩
  rw [ofJson_leaf h.childless, comparisonOfJson_of_spelled h.left h.right named spelled, hvalue]
  rfl

end Condition

namespace Json

theorem Defect.unique {j : Json} {e e' : ConditionError} (h : Defect j e) (h' : Defect j e') :
    e = e' :=
  Except.error.inj ((Condition.ofJson_of_defect h).symm.trans (Condition.ofJson_of_defect h'))

theorem FirstDefect.unique {js : List Json} {e e' : ConditionError} (h : FirstDefect js e)
    (h' : FirstDefect js e') : e = e' := by
  induction h with
  | here h =>
    cases h' with
    | here h' => exact h.unique h'
    | later hflawless _ => exact absurd h (hflawless _)
  | later hflawless _ ih =>
    cases h' with
    | here h' => exact absurd h' (hflawless _)
    | later _ h' => exact ih h'

theorem flawless_groupNode {joiner : Joiner} {items : List Json} {members : List (String × Json)}
    (h : GroupNode joiner items members) : Flawless (.obj members) := by
  obtain ⟨children, nonempty, name, named, spelled⟩ := h
  intro e hd
  cases hd <;> simp_all [Named]

theorem flawless_leafNode {field : String} {op : Operator} {operand : Json}
    {members : List (String × Json)} (h : LeafNode field op operand members) :
    Flawless (.obj members) := by
  intro e hd
  obtain ⟨value, -, hok⟩ := Condition.ofJson_leafNode h
  rw [Condition.ofJson_of_defect hd] at hok
  cases hok

theorem defect_or_groupNode {members : List (String × Json)} {j : Json}
    (group : member? "conditions" members = some j) :
    (∃ e, Defect (.obj members) e) ∨ ∃ joiner items, GroupNode joiner items members := by
  by_cases hnamed : ∃ name, Named members name
  · obtain ⟨name, named⟩ := hnamed
    by_cases hspelled : ∃ joiner : Joiner, joiner.Spelled name
    · obtain ⟨joiner, spelled⟩ := hspelled
      by_cases hitems : ∃ items, j = .arr items
      · obtain ⟨items, rfl⟩ := hitems
        by_cases hnil : items = []
        · subst hnil
          exact Or.inl ⟨_, .noChildren group named spelled⟩
        · exact Or.inr ⟨joiner, items, group, hnil, name, named, spelled⟩
      · exact Or.inl ⟨_, .childrenNotAnArray group named spelled (not_exists.1 hitems)⟩
    · exact Or.inl ⟨_, .unsupportedJoiner group named (not_exists.1 hspelled)⟩
  · exact Or.inl ⟨_, .groupWithoutOperator group (not_exists.1 hnamed)⟩

theorem defect_or_leafNode {members : List (String × Json)}
    (childless : member? "conditions" members = none) :
    (∃ e, Defect (.obj members) e) ∨ ∃ field op operand, LeafNode field op operand members := by
  by_cases hleft : ∃ field, Stands "field" "left" members (.str field)
  · by_cases hright : ∃ operand, Stands "value" "right" members operand
    · obtain ⟨field, left⟩ := hleft
      obtain ⟨operand, right⟩ := hright
      by_cases hnamed : ∃ name, Named members name
      · obtain ⟨name, named⟩ := hnamed
        by_cases hspelled : ∃ op : Operator, op.Spelled name
        · obtain ⟨op, spelled⟩ := hspelled
          cases hfree : operand.objectFree with
          | true => exact Or.inr ⟨field, op, operand, childless, left, right, hfree, name, named, spelled⟩
          | false => exact Or.inl ⟨_, .unsupportedValue childless left right named spelled hfree⟩
        · exact Or.inl ⟨_, .unsupportedOperator childless left right named (not_exists.1 hspelled)⟩
      · exact Or.inl ⟨_, .leafWithoutOperator childless left right (not_exists.1 hnamed)⟩
    · exact Or.inl ⟨_, .neitherLeafNorGroup childless (Or.inr (not_exists.1 hright))⟩
  · exact Or.inl ⟨_, .neitherLeafNorGroup childless (Or.inl (not_exists.1 hleft))⟩

/-- **A node has a defect, or it is a node of the grammar.** -/
theorem defect_or_node (j : Json) :
    (∃ e, Defect j e) ∨ ∃ members, j = .obj members ∧
      ((∃ joiner items, GroupNode joiner items members) ∨
        ∃ field op operand, LeafNode field op operand members) := by
  by_cases hobj : ∃ members, j = .obj members
  · obtain ⟨members, rfl⟩ := hobj
    cases hm : member? "conditions" members with
    | some j => exact (defect_or_groupNode hm).imp_right fun h => ⟨members, rfl, Or.inl h⟩
    | none => exact (defect_or_leafNode hm).imp_right fun h => ⟨members, rfl, Or.inr h⟩
  · exact Or.inl ⟨_, .notAnObject (not_exists.1 hobj)⟩

/-! ## Trees -/

theorem sizeOf_member? {key : String} {j : Json} : ∀ {members : List (String × Json)},
    member? key members = some j → sizeOf j < sizeOf members
  | [], h => by cases h
  | (k, i) :: members, h => by
    rw [member?, List.lookup_cons] at h
    cases hk : key == k with
    | true =>
      simp only [hk, Option.some.injEq] at h
      subst h
      simp only [List.cons.sizeOf_spec, Prod.mk.sizeOf_spec]
      omega
    | false =>
      simp only [hk] at h
      have := sizeOf_member? h
      simp only [List.cons.sizeOf_spec]
      omega

/-- **Induction on the nesting of a tree**: what holds of the children of a group holds of the
    group. -/
theorem inductionOn {P : Json → Prop} (j : Json)
    (node : ∀ j, (∀ members joiner items, j = .obj members → GroupNode joiner items members →
      ∀ i ∈ items, P i) → P j) : P j := by
  apply node
  intro members joiner items hj hgroup i hi
  have hitems := sizeOf_member? hgroup.children
  have hchild := List.sizeOf_lt_of_mem hi
  have : sizeOf i < sizeOf j := by
    subst hj
    simp only [Json.arr.sizeOf_spec, Json.obj.sizeOf_spec] at *
    omega
  exact inductionOn i node
termination_by sizeOf j

theorem flawless_nodesOfItems : ∀ {items : List Json},
    (∀ i ∈ items, ∀ n ∈ i.nodes, Flawless n) → ∀ n ∈ nodesOfItems items, Flawless n
  | [], _, n, hn => by simp [nodesOfItems] at hn
  | i :: items, h, n, hn => by
    rw [nodesOfItems, List.mem_append] at hn
    rcases hn with hn | hn
    · exact h i (by simp) n hn
    · exact flawless_nodesOfItems (fun i hi => h i (by simp [hi])) n hn

/-- **A tree of the grammar has no defect**, at any node. -/
theorem IsCondition.flawless {j : Json} (h : j.IsCondition) : ∀ n ∈ j.nodes, Flawless n := by
  induction h with
  | group node _ ih =>
    simpa [nodes_group node] using ⟨flawless_groupNode node, flawless_nodesOfItems ih⟩
  | leaf node => simpa [nodes_leaf node] using flawless_leafNode node

end Json

namespace Condition

open Json

/-- The outcome of reading a tree, as its nodes have it. -/
def Judged (j : Json) : Prop :=
  (∃ c, ofJson j = .ok c ∧ c.Mirrors j ∧ j.IsCondition ∧ ∀ n ∈ j.nodes, Flawless n) ∨
    ∃ e, ofJson j = .error e ∧ FirstDefect j.nodes e

/-- The outcome of reading trees, left to right. -/
def ItemsJudged (js : List Json) : Prop :=
  (∃ cs, ofJsonItems js = .ok cs ∧ List.Forall₂ Mirrors cs js ∧ (∀ j ∈ js, j.IsCondition) ∧
      ∀ n ∈ nodesOfItems js, Flawless n) ∨
    ∃ e, ofJsonItems js = .error e ∧ FirstDefect (nodesOfItems js) e

theorem itemsJudged : ∀ {js : List Json}, (∀ j ∈ js, Judged j) → ItemsJudged js
  | [], _ => Or.inl ⟨[], rfl, .nil, by simp, by simp [nodesOfItems]⟩
  | j :: js, h => by
    rcases h j (by simp) with ⟨c, hc, hmirrors, hcondition, hflawless⟩ | ⟨e, he, hdefect⟩
    · rcases itemsJudged fun i hi => h i (List.mem_cons_of_mem j hi) with
        ⟨cs, hcs, hall, hconditions, hrest⟩ | ⟨e, he, hdefect⟩
      · refine Or.inl ⟨c :: cs, ?_, .cons hmirrors hall, ?_, ?_⟩
        · rw [ofJsonItems, hc, hcs]
          rfl
        · simpa using ⟨hcondition, hconditions⟩
        · intro n hn
          rw [nodesOfItems, List.mem_append] at hn
          rcases hn with hn | hn
          · exact hflawless n hn
          · exact hrest n hn
      · refine Or.inr ⟨e, ?_, ?_⟩
        · rw [ofJsonItems, hc, he]
          rfl
        · rw [nodesOfItems]
          exact hdefect.append_right hflawless
    · refine Or.inr ⟨e, ?_, ?_⟩
      · rw [ofJsonItems, he]
        rfl
      · rw [nodesOfItems]
        exact hdefect.append_left

/-- **Every tree is read, without a defect, or its first defect is told.** -/
theorem judged (j : Json) : Judged j := by
  induction j using Json.inductionOn with
  | node j ih =>
    rcases defect_or_node j with ⟨e, he⟩ | ⟨members, rfl, ⟨joiner, items, hnode⟩ | hleaf⟩
    · obtain ⟨js, hjs⟩ := mem_nodes_self j
      exact Or.inr ⟨e, ofJson_of_defect he, hjs ▸ .here he⟩
    · rw [Judged, ofJson_groupNode hnode, nodes_group hnode]
      rcases itemsJudged (ih members joiner items rfl hnode) with
        ⟨cs, hcs, hall, hconditions, hrest⟩ | ⟨e, he, hdefect⟩
      · refine Or.inl ⟨group joiner cs, by rw [hcs]; rfl, .group hnode hall,
          .group hnode hconditions, ?_⟩
        simpa using ⟨flawless_groupNode hnode, hrest⟩
      · exact Or.inr ⟨e, by rw [he]; rfl, .later (flawless_groupNode hnode) hdefect⟩
    · obtain ⟨field, op, operand, hleaf⟩ := hleaf
      obtain ⟨value, hvalue, hok⟩ := ofJson_leafNode hleaf
      refine Or.inl ⟨_, hok, .leaf hleaf hvalue, .leaf hleaf, ?_⟩
      simpa [nodes_leaf hleaf] using flawless_leafNode hleaf

/-- **A tree is refused with its first defect**, and for no other cause. -/
theorem ofJson_eq_error_iff {j : Json} {e : ConditionError} :
    ofJson j = .error e ↔ FirstDefect j.nodes e := by
  rcases judged j with ⟨c, hc, -, -, hflawless⟩ | ⟨e', he', hdefect⟩
  · simp [hc, not_firstDefect hflawless]
  · rw [he', Except.error.injEq]
    constructor
    · rintro rfl
      exact hdefect
    · exact hdefect.unique

/-- **A tree is read as a condition exactly if the grammar has it.** -/
theorem exists_ofJson_iff {j : Json} : (∃ c, ofJson j = .ok c) ↔ j.IsCondition := by
  constructor
  · rintro ⟨c, hc⟩
    rcases judged j with ⟨_, -, -, hcondition, -⟩ | ⟨e, he, -⟩
    · exact hcondition
    · rw [hc] at he
      cases he
  · intro hcondition
    rcases judged j with ⟨c, hc, -⟩ | ⟨e, -, hdefect⟩
    · exact ⟨c, hc⟩
    · exact absurd hdefect (not_firstDefect hcondition.flawless)

theorem mirrors_of_ofJson {j : Json} {c : Condition} (h : ofJson j = .ok c) : c.Mirrors j := by
  rcases judged j with ⟨c', hc', hmirrors, -⟩ | ⟨e, he, -⟩
  · rw [h] at hc'
    cases hc'
    exact hmirrors
  · rw [h] at he
    cases he

/-- **The reader of conditions accepts exactly its grammar.** What it reads has the nesting
    and the comparisons of the tree, and no empty group; of any other tree it tells the defect
    of the first defective node, as an invalid condition. -/
theorem accepts_its_grammar (j : Json) :
    ((∃ c, ofJson j = .ok c) ↔ j.IsCondition) ∧
      (∀ c, ofJson j = .ok c → c.Mirrors j ∧ c.NoEmptyGroup) ∧
      (∀ e, ofJson j = .error e ↔ FirstDefect j.nodes e) ∧
      ∀ e, ofJson j = .error e →
        (RequestError.condition e).isInvalidCondition = true ∧
          (RequestError.condition e).code = "INVALID_CONDITION" :=
  ⟨exists_ofJson_iff, fun _ h => ⟨mirrors_of_ofJson h, (writable_of_ofJson h).noEmptyGroup⟩,
    fun _ => ofJson_eq_error_iff, fun _ _ => ⟨rfl, rfl⟩⟩

/-- The unknown joiner of an inner group is told, although a comparison after it and one under
    it are defective too. -/
example :
    ofJson (.obj [("operator", .str "AND"), ("conditions", .arr [
      .obj [("operator", .str "xor"), ("conditions", .arr [.null])],
      .obj [("left", .str "a"), ("operator", .str "$eq")]])]) =
      .error (.unsupportedJoiner "xor") := by
  rfl

end Condition

end RowQuery

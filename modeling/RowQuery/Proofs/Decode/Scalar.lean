/-
  RowQuery — values captured from JSON trees.

  A value is read from a tree without saying its type, so each tree must be taken by the type
  that it is of, in every item of every list. It is, and what was read writes the tree again.
  Only an integer beyond a signed word is another tree then: the nearest double.

  * `Json.Within`: a tree is another one, or a part of it at some depth;
  * `Scalar.Captures`: a value is of the type of its tree, item by item;
  * `Json.rounded`: integers beyond a signed word in a tree as doubles;
  * `Decoder.scalar_captures`: which trees are read, what of them, and what is written again.
-/
import RowQuery.Decode.Decoder
import RowQuery.Proofs.Condition.Grammar
import RowQuery.Proofs.Json.Scalar

namespace RowQuery

/-! ## Parts of trees -/

namespace Json

/-- **A tree is within another one** if it is that tree, or within an item or the value of a
    member of it. -/
inductive Within (part : Json) : Json → Prop
  | self : Within part part
  | item {items : List Json} {j : Json} (mem : j ∈ items) (h : Within part j) :
      Within part (.arr items)
  | member {members : List (String × Json)} {key : String} {j : Json} (mem : (key, j) ∈ members)
      (h : Within part j) : Within part (.obj members)

/-- All integers in a tree are signed words. -/
def Fits (j : Json) : Prop :=
  ∀ n inRange, (num (.int n inRange)).Within j → n ≤ Number.maxInt64

mutual

theorem objectFree_iff : ∀ {j : Json}, j.objectFree = true ↔ ∀ members, ¬ (obj members).Within j
  | .null | .bool _ | .num _ | .str _ => by
    simp only [objectFree, true_iff]
    intro members h
    cases h
  | .arr items => by
    rw [objectFree, objectFreeItems_iff]
    constructor
    · intro h members hin
      cases hin with
      | item mem hin => exact h _ mem members hin
    · exact fun h j mem members hin => h members (.item mem hin)
  | .obj members => by
    simp only [objectFree, Bool.false_eq_true, false_iff, not_forall, not_not]
    exact ⟨members, .self⟩

theorem objectFreeItems_iff : ∀ {js : List Json},
    objectFreeItems js = true ↔ ∀ j ∈ js, ∀ members, ¬ (obj members).Within j
  | [] => by simp [objectFreeItems]
  | j :: js => by
    rw [objectFreeItems, Bool.and_eq_true, objectFree_iff, objectFreeItems_iff,
      List.forall_mem_cons]

end

end Json

/-! ## What is read of a tree -/

/-- **A value captures a tree** if it is of the type of the tree, item by item. An integer is
    one if it is a signed word, and else the double nearest to it. -/
inductive Scalar.Captures : Scalar → Json → Prop
  | null : Captures .null .null
  | bool {b : Bool} : Captures (.bool b) (.bool b)
  | int {n : Int} {h : Number.minInt64 ≤ n ∧ n ≤ Number.maxUInt64} {word : Int64}
      (same : word.toInt = n) : Captures (.int word) (.num (.int n h))
  | large {n : Int} {h : Number.minInt64 ≤ n ∧ n ≤ Number.maxUInt64} (large : Number.maxInt64 < n) :
      Captures (.float (UInt64.ofNat n.toNat).toFloat) (.num (.int n h))
  | float {x : Float} {h : x.isFinite = true} : Captures (.float x) (.num (.float x h))
  | text {s : String} : Captures (.text s) (.str s)
  | list {ss : List Scalar} {js : List Json} (items : List.Forall₂ Captures ss js) :
      Captures (.list ss) (.arr js)

namespace Scalar

theorem captures_num {n : Number} {s : Scalar} (h : ofJson? (.num n) = some s) :
    s.Captures (.num n) := by
  rw [ofJson?] at h
  cases n with
  | float x hx =>
    cases h
    exact .float
  | int n hn =>
    rw [Number.toInt64?] at h
    by_cases hle : n ≤ Number.maxInt64
    · rw [if_pos hle] at h
      cases h
      have hmin : -2 ^ 63 ≤ n := hn.1
      have hmax : n ≤ 2 ^ 63 - 1 := hle
      exact .int (Int64.toInt_ofInt_of_le hmin (by omega))
    · rw [if_neg hle] at h
      cases h
      have hlarge : Number.maxInt64 < n := Int.not_le.1 hle
      have hpos : ¬ n < 0 := by
        simp only [Number.maxInt64] at hlarge
        omega
      have habs : n.natAbs = n.toNat := by omega
      rw [Number.toFloat, if_neg hpos, habs]
      exact .large hlarge

mutual

/-- What is read of a tree is of its type. -/
theorem captures_of_ofJson? : ∀ {j : Json} {s : Scalar}, ofJson? j = some s → s.Captures j
  | .null, s, h => by
    cases h
    exact .null
  | .bool _, s, h => by
    cases h
    exact .bool
  | .str _, s, h => by
    cases h
    exact .text
  | .num n, s, h => captures_num h
  | .arr items, s, h => by
    rw [ofJson?] at h
    obtain ⟨ss, hss, rfl⟩ := Option.map_eq_some_iff.1 h
    exact .list (captures_of_ofJsonItems? hss)
  | .obj _, s, h => by
    rw [ofJson?] at h
    cases h

theorem captures_of_ofJsonItems? : ∀ {js : List Json} {ss : List Scalar},
    ofJsonItems? js = some ss → List.Forall₂ Captures ss js
  | [], ss, h => by
    rw [ofJsonItems?] at h
    cases h
    exact .nil
  | j :: js, ss, h => by
    rw [ofJsonItems?] at h
    obtain ⟨s, hs, h⟩ := Option.bind_eq_some_iff.1 h
    obtain ⟨rest, hrest, h⟩ := Option.bind_eq_some_iff.1 h
    cases h
    exact .cons (captures_of_ofJson? hs) (captures_of_ofJsonItems? hrest)

end

end Scalar

/-! ## What is written again -/

/-- A number as it is written again: an integer beyond a signed word is the nearest double. -/
def Number.rounded : Number → Number
  | .int n h =>
    if n ≤ maxInt64 then .int n h
    else .float (UInt64.ofNat n.toNat).toFloat (isFinite_toFloat_word _)
  | .float x h => .float x h

namespace Json

mutual

/-- **A tree whose integers beyond a signed word are the nearest doubles**, otherwise the same. -/
def rounded : Json → Json
  | num n => num n.rounded
  | arr items => arr (roundedItems items)
  | j => j

/-- Trees whose integers beyond a signed word are the nearest doubles. -/
def roundedItems : List Json → List Json
  | [] => []
  | j :: js => j.rounded :: roundedItems js

end

mutual

/-- A tree of signed words and doubles is left as it is. -/
theorem rounded_of_fits : ∀ {j : Json}, j.Fits → j.rounded = j
  | .null, _ | .bool _, _ | .str _, _ | .obj _, _ => rfl
  | .num (.float _ _), _ => rfl
  | .num (.int n inRange), h => by
    rw [rounded, Number.rounded, if_pos (h n inRange .self)]
  | .arr items, h => by
    rw [rounded, roundedItems_of_fits fun j hj n inRange hin => h n inRange (.item hj hin)]

theorem roundedItems_of_fits : ∀ {js : List Json}, (∀ j ∈ js, j.Fits) → roundedItems js = js
  | [], _ => rfl
  | j :: js, h => by
    rw [roundedItems, rounded_of_fits (h j List.mem_cons_self),
      roundedItems_of_fits fun j' hj' => h j' (List.mem_cons_of_mem _ hj')]

end

end Json

namespace Scalar

theorem toJson_float {x : Float} (h : x.isFinite = true) :
    (float x).toJson = .num (.float x h) := by
  have hfinite : Number.ofFloat? x = some (.float x h) := dif_pos h
  simp only [toJson, hfinite]

mutual

/-- What captures a tree writes it again, but for integers beyond a signed word. -/
theorem Captures.toJson : ∀ {j : Json} {s : Scalar}, s.Captures j → s.toJson = j.rounded
  | .null, _, .null | .bool _, _, .bool | .str _, _, .text => rfl
  | .num _, _, .float => toJson_float _
  | .num (.int n h), .int word, .int same => by
    have hlt := word.toInt_lt
    have hle : n ≤ Number.maxInt64 := by
      simp only [Number.maxInt64]
      omega
    subst same
    rw [Json.rounded, Number.rounded, if_pos hle]
    rfl
  | .num (.int n h), _, .large hlarge => by
    rw [Json.rounded, Number.rounded, if_neg (Int.not_le.2 hlarge)]
    exact toJson_float _
  | .arr _, _, .list items => by
    rw [Scalar.toJson, Json.rounded, toJson_items items]

theorem Captures.toJson_items : ∀ {js : List Json} {ss : List Scalar},
    List.Forall₂ Captures ss js → itemsToJson ss = Json.roundedItems js
  | [], _, .nil => rfl
  | _ :: _, _, .cons h hs => by
    rw [itemsToJson, Json.roundedItems, h.toJson, toJson_items hs]

end

end Scalar

/-! ## The decoder -/

namespace Decoder

theorem scalar_eq_ok_iff {v : Json} {s : Scalar} :
    scalar.ofTree v = .ok s ↔ Scalar.ofJson? v = some s := by
  rw [scalar, viaTree]
  cases h : Scalar.ofJson? v with
  | none => simp [h]
  | some s' => simp [h]

/-- A spelling that is not that of a whole number is a double. -/
theorem number_of_not_whole {l : Literal} {n : Number} (h : Number.ofLiteral? l = some n)
    (hwhole : l.whole = false) : ∃ finite, n = .float l.read finite := by
  rw [Number.ofLiteral?, dif_neg fun hall => Bool.noConfusion (hwhole.symm.trans hall.1),
    Number.ofFloat?] at h
  split at h
  · cases h
    exact ⟨_, rfl⟩
  · cases h

/-- **Values are captured from trees without objects, and written again.** Each part is read as
    what it is: an integer as an integer or, beyond a signed word, as the nearest double; what
    is spelled with a fraction or an exponent as a double; a list as the list of its items.
    What was read writes the tree again, with the doubles for such integers. In turn, what a
    value of finite doubles writes is read as that value. -/
theorem scalar_captures :
    (∀ v, (∃ s, scalar.ofTree v = .ok s) ↔ ∀ members, ¬ (Json.obj members).Within v) ∧
    (∀ v s, scalar.ofTree v = .ok s →
      s.Captures v ∧ s.toJson = v.rounded ∧ (v.Fits → s.toJson = v)) ∧
    (∀ l n, Number.ofLiteral? l = some n → l.whole = false →
      scalar.ofTree (.num n) = .ok (.float l.read)) ∧
    ∀ s : Scalar, s.Finite → scalar.ofTree s.toJson = .ok s := by
  simp only [scalar_eq_ok_iff]
  refine ⟨?_, ?_, ?_, ?_⟩
  · intro v
    rw [← Option.isSome_iff_exists, Scalar.isSome_ofJson?, Json.objectFree_iff]
  · intro v s h
    have hcaptures := Scalar.captures_of_ofJson? h
    refine ⟨hcaptures, hcaptures.toJson, fun hfits => ?_⟩
    rw [hcaptures.toJson, Json.rounded_of_fits hfits]
  · intro l n hl hwhole
    obtain ⟨finite, rfl⟩ := number_of_not_whole hl hwhole
    rfl
  · exact fun s hs => Scalar.ofJson?_toJson hs

end Decoder

end RowQuery

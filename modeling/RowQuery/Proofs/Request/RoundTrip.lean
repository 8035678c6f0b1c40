/-
  RowQuery — requests and settings written as JSON trees and read back.

  All decoders of requests and settings round-trip, those of structures because their
  fields do. A request can be written if all its conditions can, and the doubles in its
  records are finite.

  * `roundTrips_condition`, `roundTrips_sortOrder`, `roundTrips_record`: the parts;
  * `FindRequest.Writable` and so on: which requests can be written;
  * `Decoder.reads_what_is_written`: decoding undoes encoding for all of them, and what has
    been decoded is decoded again.
-/
import RowQuery.Collection.Basic
import RowQuery.Proofs.Condition.RoundTrip
import RowQuery.Proofs.Decode.RoundTrip
import RowQuery.Request.Basic

namespace RowQuery

open Decoder

/-! ## Parts of requests -/

theorem Direction.ofJson?_toJson (d : Direction) : Direction.ofJson? d.toJson = some d := by
  cases d <;> rfl

theorem roundTrips_direction :
    RoundTrips Direction.decoder Direction.toJson fun _ => True where
  reads d _ := by
    simp only [Direction.decoder, viaTree, Direction.ofJson?_toJson]
  yields _ := True.intro

theorem roundTrips_sortOrder :
    RoundTrips SortOrder.decoder SortOrder.toJson fun _ => True :=
  roundTrips_direction.map.of_forall fun _ _ _ => True.intro

/-- A record can be written if all doubles in it are finite. -/
def Record.Writable (r : Record) : Prop := ∀ v ∈ r.values, v.Finite

theorem roundTrips_record : RoundTrips Record.decoder Record.toJson Record.Writable :=
  roundTrips_scalar.map

theorem roundTrips_condition :
    RoundTrips Condition.decoder Condition.toJson Condition.Writable where
  reads c hc := by
    change (Condition.ofJson c.toJson).mapError _ = _
    rw [Condition.ofJson_toJson hc]
    rfl
  yields {j c} h := by
    refine Condition.writable_of_ofJson (j := j) ?_
    change (Condition.ofJson j).mapError _ = _ at h
    cases hj : Condition.ofJson j with
    | ok c' =>
      rw [hj] at h
      cases h
      rfl
    | error e =>
      rw [hj] at h
      cases h

theorem Condition.toJson_ne_null (c : Condition) : c.toJson ≠ .null := by
  cases c <;> simp [toJson]

/-! Optional fields; the tree of none of their values is null. -/

theorem roundTrips_condition? :
    RoundTrips (.optional Condition.decoder) (Json.ofOption Condition.toJson)
      fun o => ∀ c ∈ o, c.Writable :=
  roundTrips_condition.optional Condition.toJson_ne_null

theorem roundTrips_sortOrder? :
    RoundTrips (.optional SortOrder.decoder) (Json.ofOption SortOrder.toJson) fun _ => True :=
  (roundTrips_sortOrder.optional fun _ => Json.noConfusion).of_forall fun _ _ _ => True.intro

theorem roundTrips_word? :
    RoundTrips (.optional .word) (Json.ofOption fun n => .num (.ofUInt64 n)) fun _ => True :=
  (roundTrips_word.optional fun _ => Json.noConfusion).of_forall fun _ _ _ => True.intro

theorem roundTrips_string? :
    RoundTrips (.optional .string) (Json.ofOption .str) fun _ => True :=
  (roundTrips_string.optional fun _ => Json.noConfusion).of_forall fun _ _ _ => True.intro

theorem roundTrips_strings? :
    RoundTrips (.optional (.list .string)) (Json.ofOption .strings) fun _ => True :=
  (roundTrips_string.list.optional fun _ => Json.noConfusion).of_forall
    fun _ _ _ _ _ => True.intro

/-! ## Requests -/

/-- A find request can be written if its condition can. -/
def FindRequest.Writable (r : FindRequest) : Prop := ∀ c ∈ r.condition, c.Writable

theorem roundTrips_findRequest :
    RoundTrips FindRequest.decoder FindRequest.toJson FindRequest.Writable where
  reads r hr := by
    refine Shape.ofTree_obj ?_ rfl
    rw [Shape.treeMembers_cons rfl (roundTrips_condition?.reads _ hr),
      Shape.treeMembers_cons rfl (roundTrips_sortOrder?.reads _ True.intro),
      Shape.treeMembers_cons rfl (roundTrips_word?.reads _ True.intro),
      Shape.treeMembers_cons rfl (roundTrips_word?.reads _ True.intro)]
    rfl
  yields := by
    intro j r
    refine Shape.yields ?_ ?_
    · intro c hc
      cases hc
    · simp only [FindRequest.shape, List.forall_mem_cons]
      exact ⟨roundTrips_condition?.field fun _ _ hv _ => hv,
        roundTrips_sortOrder?.field fun _ _ _ hr => hr,
        roundTrips_word?.field fun _ _ _ hr => hr,
        roundTrips_word?.field fun _ _ _ hr => hr, List.forall_mem_nil _⟩

/-- A count request can be written if its condition can. -/
def CountRequest.Writable (r : CountRequest) : Prop := ∀ c ∈ r.condition, c.Writable

theorem roundTrips_countRequest :
    RoundTrips CountRequest.decoder CountRequest.toJson CountRequest.Writable where
  reads r hr := by
    refine Shape.ofTree_obj ?_ rfl
    rw [Shape.treeMembers_cons rfl (roundTrips_condition?.reads _ hr)]
    rfl
  yields := by
    intro j r
    refine Shape.yields ?_ ?_
    · intro c hc
      cases hc
    · simp only [CountRequest.shape, List.forall_mem_cons]
      exact ⟨roundTrips_condition?.field fun _ _ hv _ => hv, List.forall_mem_nil _⟩

/-- A remove request can be written if its condition can. -/
def RemoveRequest.Writable (r : RemoveRequest) : Prop := ∀ c ∈ r.condition, c.Writable

theorem roundTrips_removeRequest :
    RoundTrips RemoveRequest.decoder RemoveRequest.toJson RemoveRequest.Writable where
  reads r hr := by
    refine Shape.ofTree_obj ?_ rfl
    rw [Shape.treeMembers_cons rfl (roundTrips_condition?.reads _ hr)]
    rfl
  yields := by
    intro j r
    refine Shape.yields ?_ ?_
    · intro c hc
      cases hc
    · simp only [RemoveRequest.shape, List.forall_mem_cons]
      exact ⟨roundTrips_condition?.field fun _ _ hv _ => hv, List.forall_mem_nil _⟩

/-- An update request can be written if its payloads and its conditions can. -/
structure UpdateRequest.Writable (r : UpdateRequest) : Prop where
  updates : ∀ fields ∈ r.updates, fields.Writable
  conditions : ∀ c ∈ r.conditions, c.Writable

theorem roundTrips_updateRequest :
    RoundTrips UpdateRequest.decoder UpdateRequest.toJson UpdateRequest.Writable where
  reads r hr := by
    refine Shape.ofTree_obj ?_ rfl
    rw [Shape.treeMembers_cons rfl (roundTrips_record.list.reads _ hr.updates),
      Shape.treeMembers_cons rfl (roundTrips_condition.list.reads _ hr.conditions)]
    rfl
  yields := by
    intro j r
    refine Shape.yields ?_ ?_
    · exact ⟨List.forall_mem_nil _, List.forall_mem_nil _⟩
    · simp only [UpdateRequest.shape, List.forall_mem_cons]
      exact ⟨roundTrips_record.list.field fun _ _ hv hr => ⟨hv, hr.conditions⟩,
        roundTrips_condition.list.field fun _ _ hv hr => ⟨hr.updates, hv⟩,
        List.forall_mem_nil _⟩

/-- An aggregate request can be written if its condition can. -/
def AggregateRequest.Writable (r : AggregateRequest) : Prop := ∀ c ∈ r.condition, c.Writable

theorem roundTrips_aggregateRequest :
    RoundTrips AggregateRequest.decoder AggregateRequest.toJson AggregateRequest.Writable where
  reads r hr := by
    refine Shape.ofTree_obj ?_ rfl
    rw [Shape.treeMembers_cons rfl (roundTrips_string?.reads _ True.intro),
      Shape.treeMembers_cons rfl (roundTrips_string?.reads _ True.intro),
      Shape.treeMembers_cons rfl (roundTrips_string?.reads _ True.intro),
      Shape.treeMembers_cons rfl (roundTrips_string?.reads _ True.intro),
      Shape.treeMembers_cons rfl (roundTrips_string?.reads _ True.intro),
      Shape.treeMembers_cons rfl (roundTrips_strings?.reads _ True.intro),
      Shape.treeMembers_cons rfl (roundTrips_sortOrder?.reads _ True.intro),
      Shape.treeMembers_cons rfl (roundTrips_condition?.reads _ hr)]
    rfl
  yields := by
    intro j r
    refine Shape.yields ?_ ?_
    · intro c hc
      cases hc
    · simp only [AggregateRequest.shape, List.forall_mem_cons]
      exact ⟨roundTrips_string?.field fun _ _ _ hr => hr,
        roundTrips_string?.field fun _ _ _ hr => hr,
        roundTrips_string?.field fun _ _ _ hr => hr,
        roundTrips_string?.field fun _ _ _ hr => hr,
        roundTrips_string?.field fun _ _ _ hr => hr,
        roundTrips_strings?.field fun _ _ _ hr => hr,
        roundTrips_sortOrder?.field fun _ _ _ hr => hr,
        roundTrips_condition?.field fun _ _ hv _ => hv, List.forall_mem_nil _⟩

/-! ## Settings -/

theorem SurplusPayload.lookup_name (a : SurplusPayload) : known.lookup a.name = some a := by
  cases a <;> rfl

theorem UnconditionedRemove.lookup_name (a : UnconditionedRemove) :
    known.lookup a.name = some a := by
  cases a <;> rfl

theorem NonNumericCount.lookup_name (a : NonNumericCount) : known.lookup a.name = some a := by
  cases a <;> rfl

theorem roundTrips_policy : RoundTrips Policy.decoder Policy.toJson fun _ => True where
  reads p _ := by
    refine Shape.ofTree_obj ?_ rfl
    rw [Shape.treeMembers_cons rfl ((roundTrips_names SurplusPayload.lookup_name).reads _ True.intro),
      Shape.treeMembers_cons rfl
        ((roundTrips_names UnconditionedRemove.lookup_name).reads _ True.intro),
      Shape.treeMembers_cons rfl
        ((roundTrips_names NonNumericCount.lookup_name).reads _ True.intro)]
    rfl
  yields _ := True.intro

theorem roundTrips_collectionOptions :
    RoundTrips CollectionOptions.decoder CollectionOptions.toJson fun _ => True where
  reads o _ := by
    refine Shape.ofTree_obj ?_ rfl
    rw [Shape.treeMembers_cons rfl (roundTrips_string.reads _ True.intro),
      Shape.treeMembers_cons rfl (roundTrips_policy.reads _ True.intro)]
    rfl
  yields _ := True.intro

/-! ## All of them -/

/-- **Decoding undoes encoding**, for requests and settings of all kinds, as long as their
    conditions have no empty group and their doubles are finite. What has been decoded from
    any tree is like that, so that it is decoded again from what is written for it. -/
theorem Decoder.reads_what_is_written :
    FindRequest.decoder.Canonical FindRequest.toJson FindRequest.Writable ∧
    CountRequest.decoder.Canonical CountRequest.toJson CountRequest.Writable ∧
    RemoveRequest.decoder.Canonical RemoveRequest.toJson RemoveRequest.Writable ∧
    UpdateRequest.decoder.Canonical UpdateRequest.toJson UpdateRequest.Writable ∧
    AggregateRequest.decoder.Canonical AggregateRequest.toJson AggregateRequest.Writable ∧
    SortOrder.decoder.Canonical SortOrder.toJson (fun _ => True) ∧
    Policy.decoder.Canonical Policy.toJson (fun _ => True) ∧
    CollectionOptions.decoder.Canonical CollectionOptions.toJson (fun _ => True) ∧
    Condition.decoder.Canonical Condition.toJson Condition.Writable :=
  ⟨roundTrips_findRequest.canonical, roundTrips_countRequest.canonical,
    roundTrips_removeRequest.canonical, roundTrips_updateRequest.canonical,
    roundTrips_aggregateRequest.canonical, roundTrips_sortOrder.canonical,
    roundTrips_policy.canonical, roundTrips_collectionOptions.canonical,
    roundTrips_condition.canonical⟩

/-- A find request that is spelled as an array, with other names for the parts of its
    condition, a number that is no signed word, and a direction that is a text. -/
theorem Decoder.reads_what_is_written_for_other_spellings :
    let j : Json := .arr
      [.obj [("left", .str "qty"), ("operator", .str "$NotIn"),
        ("right", .arr [.num (.ofInt64 1), .num (.ofUInt64 0x8000000000000000)])],
      .obj [("qty", .str " DESC ")]]
    let values : Scalar := .list [.int 1, .float (UInt64.toFloat 0x8000000000000000)]
    let r : FindRequest :=
      ⟨some (.leaf ⟨"qty", .notWithin, values⟩), some (.ofList [("qty", .desc)]), none, none⟩
    FindRequest.decoder.ofTree j = .ok r ∧ r.Writable ∧
      FindRequest.decoder.ofTree r.toJson = .ok r := by
  intro j values r
  have hj : FindRequest.decoder.ofTree j = .ok r := rfl
  have hfind := reads_what_is_written.1
  exact ⟨hj, hfind.yields hj, hfind.rereads hj⟩

end RowQuery

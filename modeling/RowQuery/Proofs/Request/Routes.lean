/-
  RowQuery — requests and settings read by either route.

  The fields of all requests and settings are read directly as they are read from a tree,
  so the requests and settings are; conditions, directions and values in records are read
  from a tree on either route.

  * `agrees_findRequest` and so on: the decoders one by one;
  * `Decoder.routes_agree`: a text that decodes through a tree decodes directly, and to the
    same, if no object in it has a key twice.
-/
import RowQuery.Collection.Basic
import RowQuery.Proofs.Decode.Routes
import RowQuery.Request.Basic

namespace RowQuery

open Decoder

/-! ## Parts of requests -/

theorem agrees_condition : Condition.decoder.Agrees := agrees_viaTree _

theorem agrees_sortOrder : SortOrder.decoder.Agrees := Agrees.map (agrees_viaTree _)

theorem agrees_record : Record.decoder.Agrees := Agrees.map (agrees_viaTree _)

theorem agrees_word : word.Agrees := agrees_ofFound _

theorem agrees_string : string.Agrees := agrees_ofFound _

/-! ## Requests -/

theorem agrees_findRequest : FindRequest.decoder.Agrees := by
  refine Shape.agrees_struct ?_
  simp only [FindRequest.shape, List.forall_mem_cons]
  exact ⟨agrees_condition.optional.field _ _, agrees_sortOrder.optional.field _ _,
    agrees_word.optional.field _ _, agrees_word.optional.field _ _, List.forall_mem_nil _⟩

theorem agrees_countRequest : CountRequest.decoder.Agrees := by
  refine Shape.agrees_struct ?_
  simp only [CountRequest.shape, List.forall_mem_cons]
  exact ⟨agrees_condition.optional.field _ _, List.forall_mem_nil _⟩

theorem agrees_removeRequest : RemoveRequest.decoder.Agrees := by
  refine Shape.agrees_struct ?_
  simp only [RemoveRequest.shape, List.forall_mem_cons]
  exact ⟨agrees_condition.optional.field _ _, List.forall_mem_nil _⟩

theorem agrees_updateRequest : UpdateRequest.decoder.Agrees := by
  refine Shape.agrees_struct ?_
  simp only [UpdateRequest.shape, List.forall_mem_cons]
  exact ⟨agrees_record.list.field _ _, agrees_condition.list.field _ _, List.forall_mem_nil _⟩

theorem agrees_aggregateRequest : AggregateRequest.decoder.Agrees := by
  refine Shape.agrees_struct ?_
  simp only [AggregateRequest.shape, List.forall_mem_cons]
  exact ⟨agrees_string.optional.field _ _, agrees_string.optional.field _ _,
    agrees_string.optional.field _ _, agrees_string.optional.field _ _,
    agrees_string.optional.field _ _, agrees_string.list.optional.field _ _,
    agrees_sortOrder.optional.field _ _, agrees_condition.optional.field _ _,
    List.forall_mem_nil _⟩

/-! ## Settings -/

theorem agrees_policy : Policy.decoder.Agrees := by
  refine Shape.agrees_struct ?_
  simp only [Policy.shape, List.forall_mem_cons]
  exact ⟨(agrees_names _).field _ _, (agrees_names _).field _ _, (agrees_names _).field _ _,
    List.forall_mem_nil _⟩

theorem agrees_collectionOptions : CollectionOptions.decoder.Agrees := by
  refine Shape.agrees_struct ?_
  simp only [CollectionOptions.shape, List.forall_mem_cons]
  exact ⟨agrees_string.field _ _, agrees_policy.field _ _, List.forall_mem_nil _⟩

/-! ## All of them -/

/-- **The two routes agree.**  Where a text in which no object has a key twice is read as a
    tree and the tree decodes, the text decodes directly to the same: requests and settings
    of all kinds. -/
theorem Decoder.routes_agree {text : String}
    (hkeys : (Draft.ofText text).1.distinctKeys = true) :
    (∀ r, FindRequest.decoder.ofTextViaTree text = .ok r →
      FindRequest.decoder.ofText text = .ok r) ∧
    (∀ r, CountRequest.decoder.ofTextViaTree text = .ok r →
      CountRequest.decoder.ofText text = .ok r) ∧
    (∀ r, RemoveRequest.decoder.ofTextViaTree text = .ok r →
      RemoveRequest.decoder.ofText text = .ok r) ∧
    (∀ r, UpdateRequest.decoder.ofTextViaTree text = .ok r →
      UpdateRequest.decoder.ofText text = .ok r) ∧
    (∀ r, AggregateRequest.decoder.ofTextViaTree text = .ok r →
      AggregateRequest.decoder.ofText text = .ok r) ∧
    (∀ p, Policy.decoder.ofTextViaTree text = .ok p → Policy.decoder.ofText text = .ok p) ∧
    (∀ o, CollectionOptions.decoder.ofTextViaTree text = .ok o →
      CollectionOptions.decoder.ofText text = .ok o) :=
  ⟨fun _ => agrees_findRequest.ofText hkeys, fun _ => agrees_countRequest.ofText hkeys,
    fun _ => agrees_removeRequest.ofText hkeys, fun _ => agrees_updateRequest.ofText hkeys,
    fun _ => agrees_aggregateRequest.ofText hkeys, fun _ => agrees_policy.ofText hkeys,
    fun _ => agrees_collectionOptions.ofText hkeys⟩

/-- Options that come as an array, their policy as an object with a setting in object form
    and an unknown field. -/
theorem Decoder.routes_agree_array_of_fields :
    let text := "[\"key\",\x7b\"nonNumericCount\":\x7b\"error\":null\x7d," ++
      "\"note\":[\x7b\"surplusPayload\":0.5\x7d]\x7d]"
    let o : CollectionOptions := ⟨"key", { Policy.default with nonNumericCount := .error }⟩
    (Draft.ofText text).1.distinctKeys = true ∧
      CollectionOptions.decoder.ofTextViaTree text = .ok o ∧
      CollectionOptions.decoder.ofText text = .ok o := by
  intro text o
  have hkeys : (Draft.ofText text).1.distinctKeys = true := by decide +kernel
  have htree : CollectionOptions.decoder.ofTextViaTree text = .ok o := by decide +kernel
  have hagree := routes_agree hkeys
  exact ⟨hkeys, htree, hagree.2.2.2.2.2.2 o htree⟩

end RowQuery

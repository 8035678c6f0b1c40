/-
  RowQuery — the operations of a collection, all kinds together.

  An operation works on clauses, on a whole statement or on records. A demand is what it
  is compiled from: a request of some kind, or records to add.

  * `Operation.dialogue` is the dialogue of an operation on a collection;
  * `Operation.statements` are the statements that it may send;
  * `Demand.compile` makes an operation of a demand.
-/
import RowQuery.Proofs.Collection.Batch

namespace RowQuery

variable {α : Type}

/-- The result of an operation. -/
inductive Answer where
  | rows (rs : List Record)
  | count (n : RowCount)
  | removed (stats : RemoveStats)
  | updated (stats : UpdateStats)
deriving DecidableEq

/-- An operation of a collection. -/
inductive Operation where
  | find (input : Input FindClauses)
  | count (input : Input CountClauses)
  | aggregate (f : AggregateClauses)
  | insert (records : List Record)
  | remove (input : Input RemoveClauses)
  | removeAll
  | update (input : Input (List UpdateClauses))

namespace Operation

/-- The dialogue of an operation, whose result is made an answer. -/
def answering (toAnswer : α → Answer) (d : Dialogue (Except StoreError α)) :
    Dialogue (Except StoreError Answer) :=
  d.bind fun r => .done (r.map toAnswer)

/-- The dialogue of an operation on a collection. -/
def dialogue (c : Collection) : Operation → Dialogue (Except StoreError Answer)
  | find input => answering .rows (c.find input)
  | count input => answering .count (c.count input)
  | aggregate f => answering .rows (c.aggregate f)
  | insert records => answering .rows (c.insert records)
  | remove input => answering .removed (c.remove input)
  | removeAll => answering .removed c.removeAll
  | update input => answering .updated (c.update input)

/-- The statements that an operation may send, in order. -/
def statements (c : Collection) : Operation → List Statement
  | find input => [c.findStatement input]
  | count input => [c.countStatement input]
  | aggregate f => [c.aggregateStatement f]
  | insert [] => []
  | insert (r :: rs) => [c.insertStatement r.keys (r :: rs)]
  | remove (.raw sql) => [.raw sql]
  | remove (.compiled f) =>
    if f.isUnconditioned && c.options.policy.unconditionedRemove = .refuse then []
    else [⟨assemble c.deleteHead [some f.filter.text], f.filter.values⟩]
  | removeAll => [.raw c.deleteHead]
  | update (.raw sql) => [.raw sql]
  | update (.compiled fs) => fs.map c.updateStatement

end Operation

/-! ## Demands -/

/-- What is asked of a collection: a request of some kind, or records to add. -/
inductive Demand where
  | find (r : FindRequest)
  | count (r : CountRequest)
  | aggregate (r : AggregateRequest)
  | remove (r : RemoveRequest)
  | update (r : UpdateRequest)
  | insert (records : List Record)

/-- The operation that a demand is compiled to under a policy. -/
def Demand.compile (p : Policy) : Demand → Except RequestError Operation
  | find r => r.compile.map fun f => .find (.compiled f)
  | count r => r.compile.map fun f => .count (.compiled f)
  | aggregate r => r.compile.map .aggregate
  | remove r => r.compile.map fun f => .remove (.compiled f)
  | update r => (r.compile p).map fun fs => .update (.compiled fs)
  | insert records => .ok (.insert records)

end RowQuery

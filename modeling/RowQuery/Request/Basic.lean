/-
  RowQuery — requests: what is asked of a table, before it is compiled.

  Each kind of request is a structure with a decoder and a canonical JSON object.
  Every field may be left out or `null`, except that the payloads of an update have
  to be given, and that lists of payloads and conditions may not be `null`.
-/
import RowQuery.Condition.Json
import RowQuery.Request.Sort

namespace RowQuery

/-- The decoder of conditions; the tree of a condition is always read first. -/
def Condition.decoder : Decoder Condition := .viaTree fun j =>
  (Condition.ofJson j).mapError .condition

/-! ## Kinds of requests -/

/-- The rows that hold a condition, in an order, some of them. -/
structure FindRequest where
  condition : Option Condition
  sort : Option SortOrder
  limit : Option UInt64
  /-- Counts only with a limit. -/
  offset : Option UInt64
deriving DecidableEq

/-- The number of rows that hold a condition. -/
structure CountRequest where
  condition : Option Condition
deriving DecidableEq

/-- The removal of the rows that hold a condition. -/
structure RemoveRequest where
  condition : Option Condition
deriving DecidableEq

/-- New values for the rows that hold a condition, for several conditions; payload `i`
    goes with condition `i`. -/
structure UpdateRequest where
  updates : List Record
  conditions : List Condition
deriving DecidableEq

/-- Totals over the rows that hold a condition, by groups. -/
structure AggregateRequest where
  sum : Option String
  average : Option String
  min : Option String
  max : Option String
  count : Option String
  groupBy : Option (List String)
  sort : Option SortOrder
  condition : Option Condition
deriving DecidableEq

namespace FindRequest

/-- The request for all rows. -/
def blank : FindRequest := ⟨none, none, none, none⟩

/-- Find requests as JSON structures. -/
def shape : Decoder.Shape FindRequest where
  phrase := "struct FindParams"
  blank := blank
  fields :=
    [.of "condition" (.optional Condition.decoder) fun v r => { r with condition := v },
     .of "sort" (.optional SortOrder.decoder) fun v r => { r with sort := v },
     .of "limit" (.optional .word) fun v r => { r with limit := v },
     .of "offset" (.optional .word) fun v r => { r with offset := v }]
  required := 0

/-- The decoder of find requests. -/
def decoder : Decoder FindRequest := .struct shape

/-- The JSON object of a find request. -/
def toJson (r : FindRequest) : Json :=
  .obj [("condition", .ofOption Condition.toJson r.condition),
    ("sort", .ofOption SortOrder.toJson r.sort),
    ("limit", .ofOption (fun n => .num (.ofUInt64 n)) r.limit),
    ("offset", .ofOption (fun n => .num (.ofUInt64 n)) r.offset)]

end FindRequest

namespace CountRequest

/-- Count requests as JSON structures. -/
def shape : Decoder.Shape CountRequest where
  phrase := "struct CountParams"
  blank := ⟨none⟩
  fields := [.of "condition" (.optional Condition.decoder) fun v _ => ⟨v⟩]
  required := 0

/-- The decoder of count requests. -/
def decoder : Decoder CountRequest := .struct shape

/-- The JSON object of a count request. -/
def toJson (r : CountRequest) : Json :=
  .obj [("condition", .ofOption Condition.toJson r.condition)]

end CountRequest

namespace RemoveRequest

/-- Remove requests as JSON structures. -/
def shape : Decoder.Shape RemoveRequest where
  phrase := "struct RemoveParams"
  blank := ⟨none⟩
  fields := [.of "condition" (.optional Condition.decoder) fun v _ => ⟨v⟩]
  required := 0

/-- The decoder of remove requests. -/
def decoder : Decoder RemoveRequest := .struct shape

/-- The JSON object of a remove request. -/
def toJson (r : RemoveRequest) : Json :=
  .obj [("condition", .ofOption Condition.toJson r.condition)]

end RemoveRequest

/-- The decoder of records. -/
def Record.decoder : Decoder Record := .map .scalar

namespace UpdateRequest

/-- The update of the rows that hold one condition. -/
def single (fields : Record) (condition : Condition) : UpdateRequest := ⟨[fields], [condition]⟩

/-- Update requests as JSON structures. -/
def shape : Decoder.Shape UpdateRequest where
  phrase := "struct UpdateRequest"
  blank := ⟨[], []⟩
  fields :=
    [.of "updates" (.list Record.decoder) fun v r => { r with updates := v },
     .of "conditions" (.list Condition.decoder) fun v r => { r with conditions := v }]
  required := 1

/-- The decoder of update requests. -/
def decoder : Decoder UpdateRequest := .struct shape

/-- The JSON object of an update request. -/
def toJson (r : UpdateRequest) : Json :=
  .obj [("updates", .arr (r.updates.map Record.toJson)),
    ("conditions", .arr (r.conditions.map Condition.toJson))]

end UpdateRequest

namespace AggregateRequest

/-- The request for all rows as they are. -/
def blank : AggregateRequest := ⟨none, none, none, none, none, none, none, none⟩

/-- Aggregate requests as JSON structures. -/
def shape : Decoder.Shape AggregateRequest where
  phrase := "struct AggregationParams"
  blank := blank
  fields :=
    [.of "sum" (.optional .string) fun v r => { r with sum := v },
     .of "average" (.optional .string) fun v r => { r with average := v },
     .of "min" (.optional .string) fun v r => { r with min := v },
     .of "max" (.optional .string) fun v r => { r with max := v },
     .of "count" (.optional .string) fun v r => { r with count := v },
     .of "groupBy" (.optional (.list .string)) fun v r => { r with groupBy := v },
     .of "sort" (.optional SortOrder.decoder) fun v r => { r with sort := v },
     .of "condition" (.optional Condition.decoder) fun v r => { r with condition := v }]
  required := 0

/-- The decoder of aggregate requests. -/
def decoder : Decoder AggregateRequest := .struct shape

/-- The JSON object of an aggregate request. -/
def toJson (r : AggregateRequest) : Json :=
  .obj [("sum", .ofOption .str r.sum), ("average", .ofOption .str r.average),
    ("min", .ofOption .str r.min), ("max", .ofOption .str r.max),
    ("count", .ofOption .str r.count), ("groupBy", .ofOption .strings r.groupBy),
    ("sort", .ofOption SortOrder.toJson r.sort),
    ("condition", .ofOption Condition.toJson r.condition)]

end AggregateRequest

end RowQuery

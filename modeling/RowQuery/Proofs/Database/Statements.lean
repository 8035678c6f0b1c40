/-
  RowQuery — texts that are one statement.

  A text is carried out statement by statement, and each statement ends with a semicolon. A text
  in which no semicolon stands before the last token is one statement, which is carried out or
  refused as a whole; so is each text without the character, since the tokens are made of the
  characters of the text.

  * `Token.Single`: tokens of one statement; `Token.single_ofStatement`: those of a text without
    semicolons are;
  * `Statement.Single`: what is sent of a statement is one statement;
  * `Database.run_of_single`: such a text is carried out as a whole, or not at all.
-/
import RowQuery.Database.Session
import RowQuery.Proofs.Database.Tokens
import RowQuery.Proofs.Except
import RowQuery.Proofs.Sql.Expansion

namespace RowQuery

namespace Database

/-! ## Tokens -/

namespace Token

/-- **Tokens of one statement**: a semicolon can only be the last of them. -/
def Single (ts : List Token) : Prop := ∀ t ∈ ts.dropLast, t.isSymbol ";" = false

instance (ts : List Token) : Decidable (Single ts) := inferInstanceAs (Decidable (∀ _ ∈ _, _))

theorem statements_of_single {t : Token} {ts : List Token} (h : Single (t :: ts)) :
    statements (t :: ts) = [t :: ts] := by
  induction ts generalizing t with
  | nil =>
    rw [statements]
    split <;> rfl
  | cons u ts ih =>
    obtain ⟨ht, hts⟩ := List.forall_mem_cons.1 h
    rw [statements, ht, ih hts]
    rfl

/-- Tokens are made of the characters of their text. -/
theorem mem_of_mem_scan {marks : Nat} {gap cs : List Char} {t : Token} (ht : t ∈ scan marks gap cs) :
    ∀ c ∈ t.spelling.toList, c ∈ cs := by
  induction marks, gap, cs using scan.induct with
  | case1 marks gap =>
    rw [scan] at ht
    cases ht
  | case2 marks gap c cs begun size spelling hbegun ih =>
    rw [scan] at ht
    simp only [hbegun, begun] at ht
    exact fun d hd => List.mem_cons_of_mem c (List.mem_of_mem_drop (ih ht d hd))
  | case3 marks gap c cs begun size kind hbegun ih =>
    rw [scan] at ht
    simp only [hbegun, begun] at ht
    rcases List.mem_cons.1 ht with rfl | ht
    · intro d hd
      rw [String.toList_ofList] at hd
      rcases List.mem_cons.1 hd with rfl | hd
      · exact List.mem_cons_self
      · exact List.mem_cons_of_mem c (List.mem_of_mem_take hd)
    · exact fun d hd => List.mem_cons_of_mem c (List.mem_of_mem_drop (ih ht d hd))

/-- **A text without semicolons is one statement.** -/
theorem single_ofStatement {sql : String} (h : ';' ∉ sql.toList) : Single (ofStatement sql) := by
  intro t ht
  rw [Bool.eq_false_iff]
  intro hsymbol
  rw [isSymbol, Bool.and_eq_true, decide_eq_true_iff, decide_eq_true_iff] at hsymbol
  refine h (mem_of_mem_scan (List.dropLast_subset _ ht) ';' ?_)
  rw [hsymbol.2]
  exact List.mem_singleton_self ';'

end Token

end Database

/-! ## Statements -/

/-- **What is sent of a statement is one statement.** -/
def Statement.Single (q : Statement) : Prop :=
  Database.Token.Single (Database.Token.ofStatement (Sql.expand q.sql q.values).1)

instance (q : Statement) : Decidable q.Single :=
  inferInstanceAs (Decidable (Database.Token.Single _))

/-- A statement without semicolons is one, whatever its values are. -/
theorem Statement.single_of_notMem {q : Statement} (h : ';' ∉ q.sql.toList) : q.Single := by
  refine Database.Token.single_ofStatement fun hmem => ?_
  rcases Sql.mem_expand hmem with hmem | hmem
  · exact h hmem
  · exact absurd hmem (by decide)

namespace Database

/-! ## What is carried out of them -/

variable {d d' : Database} {sql : String} {bound : List Bound}

/-- **One statement is carried out as a whole, or has no effect.** -/
theorem run_of_single (h : Token.Single (Token.ofStatement sql)) :
    d.run sql bound =
      match d.carryOut (bound.map Value.ofBound) (Token.ofStatement sql) with
      | .ok (d', outcomes) => (.ok (told outcomes), d')
      | .error r => (.error r.failure, d) := by
  rw [run]
  cases hts : Token.ofStatement sql with
  | nil => rfl
  | cons t ts =>
    rw [Token.statements_of_single (hts ▸ h), carryOutAll]
    cases d.carryOut (bound.map Value.ofBound) (t :: ts) with
    | error r => rfl
    | ok p =>
      obtain ⟨d', outcomes⟩ := p
      simp [carryOutAll, Except.map, except_mapError_ok]

/-- The command of a text is what is carried out of it. -/
theorem run_of_command {c : Command} (h : Token.Single (Token.ofStatement sql))
    (hc : Command.ofTokens (Token.ofStatement sql) = .ok (some c)) :
    d.run sql bound =
      match c.run (bound.map Value.ofBound) d with
      | .ok (d', outcome) => (.ok (told [outcome]), d')
      | .error r => (.error r.failure, d) := by
  have hcarried : d.carryOut (bound.map Value.ofBound) (Token.ofStatement sql) =
      (c.run (bound.map Value.ofBound) d).map fun p => (p.1, [p.2]) := by
    rw [carryOut, hc]
    change (c.run (bound.map Value.ofBound) d >>= _) = _
    cases c.run (bound.map Value.ofBound) d <;> rfl
  rw [run_of_single h, hcarried]
  cases c.run (bound.map Value.ofBound) d <;> rfl

theorem run_of_refusal {r : Refusal} (h : Token.Single (Token.ofStatement sql))
    (hr : Command.ofTokens (Token.ofStatement sql) = .error r) :
    d.run sql bound = (.error r.failure, d) := by
  rw [run_of_single h, carryOut, hr]
  rfl

end Database

end RowQuery

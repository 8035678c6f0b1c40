/-
  RowQuery — statements that only read.

  A single statement that begins with SELECT is one query, whatever its table and its clauses
  are: it is answered or refused, and the database is the same afterwards.

  * `Statement.Selects`: statements that begin with SELECT, which stays in front when their
    marks are expanded;
  * `Command.exists_query_of_selects`: their commands are queries;
  * `Command.ofTokens_select`: which query is read from what follows the word;
  * `Select.run_plain`: the rows of a query that has no groups, no order and no limit;
  * `Database.run_of_selects`: they leave the database alone;
  * `Database.run_of_error`: so does a single statement that is refused.
-/
import RowQuery.Proofs.Database.Reading
import RowQuery.Proofs.Database.Statements

namespace RowQuery

/-- **Statements that begin with SELECT.** -/
def Statement.Selects (q : Statement) : Prop := "SELECT ".toList <+: q.sql.toList

instance (q : Statement) : Decidable q.Selects := inferInstanceAs (Decidable (_ <+: _))

namespace Database

/-! ## The command of a statement -/

/-- The token of the word SELECT at the front of a text. -/
def selectToken : Token := Reading.word [] "SELECT"

theorem Token.ofStatement_of_selects {sql : String} (h : "SELECT ".toList <+: sql.toList) :
    ∃ ts, Token.ofStatement sql = selectToken :: ts := by
  obtain ⟨rest, hrest⟩ := h
  have htext : sql.toList = "SELECT".toList ++ ' ' :: rest := hrest.symm
  have hword : Token.isWordText "SELECT".toList = true := by decide
  exact ⟨_, by rw [Token.ofStatement, htext, Token.scan_word hword]; rfl⟩

/-- The action after the word SELECT is a query. -/
theorem Action.exists_query_of_reading {ts rest : List Token} {a : Action}
    (h : Action.reading (selectToken :: ts) = .ok (a, rest)) : ∃ q, a = .query q := by
  obtain ⟨q?, ts', hquery, h⟩ := Reading.bind_eq_ok.1 h
  have hselect : Reading.keyword? "select" (selectToken :: ts) = .ok (true, ts) := by
    exact Reading.keyword?_of_isWord (by decide)
  rw [Query.reading?, Reading.bind_of_ok hselect, if_pos rfl] at hquery
  obtain ⟨s, ts'', -, hquery⟩ := Reading.bind_eq_ok.1 hquery
  cases hquery
  cases h
  exact ⟨_, rfl⟩

/-- **A statement that begins with SELECT is a query**, if it is a statement at all. -/
theorem Command.exists_query_of_selects {sql : String} (h : "SELECT ".toList <+: sql.toList)
    {c? : Option Command} (hc : Command.ofTokens (Token.ofStatement sql) = .ok c?) :
    ∃ q, c? = some ⟨[], .query q⟩ := by
  obtain ⟨ts, hts⟩ := Token.ofStatement_of_selects h
  have hlacks : ∀ k, k ≠ "select" → Reading.Lacks k (selectToken :: ts) := by
    rintro k hk t ⟨⟩
    have hlower : asciiLower selectToken.spelling = "select" := by decide
    simp [Token.isWord, hlower, hk.symm]
  rw [hts, Command.ofTokens, Command.dropSemicolons_cons (by decide)] at hc
  simp only at hc
  cases hread : Command.reading (selectToken :: ts) with
  | error e =>
    rw [hread] at hc
    cases hc
  | ok p =>
    obtain ⟨command, rest⟩ := p
    rw [hread] at hc
    simp only at hc
    rw [Command.reading_of_lacks (hlacks _ (by decide)) (hlacks _ (by decide))] at hread
    obtain ⟨a, ts', ha, hread⟩ := Reading.bind_eq_ok.1 hread
    obtain ⟨q, rfl⟩ := Action.exists_query_of_reading ha
    cases hread
    split at hc
    · cases hc
      exact ⟨q, rfl⟩
    · cases hc

/-- What follows the word SELECT is the query of a statement, if it is read to its end. -/
theorem Command.ofTokens_select {sql : String} {ts : List Token} {q : Select}
    (hts : Token.ofStatement sql = selectToken :: ts) (h : Select.reading ts = .ok (q, [])) :
    Command.ofTokens (Token.ofStatement sql) = .ok (some ⟨[], .query (.select q)⟩) := by
  have hkeyword : Reading.keyword? "select" (selectToken :: ts) = .ok (true, ts) :=
    Reading.keyword?_of_isWord (by decide)
  have hquery : Query.reading? (selectToken :: ts) = .ok (some (.select q), []) := by
    rw [Query.reading?, Reading.bind_of_ok hkeyword, if_pos rfl, Reading.bind_of_ok h]
    rfl
  have haction : Action.reading (selectToken :: ts) = .ok (.query (.select q), []) := by
    rw [Action.reading, Reading.bind_of_ok hquery]
    rfl
  refine Command.ofTokens_of_ok hts rfl ?_
  refine (Command.reading_of_lacks (by rintro t ⟨⟩; rfl) (by rintro t ⟨⟩; rfl)).trans ?_
  exact Reading.bind_of_ok haction

/-! ## Plain queries -/

/-- Without terms to sort by, groups stay in their order. -/
theorem sortGroups_nil (groups : List Group) : sortGroups [] groups = groups := by
  have hsorted : (groups.map fun g => (([] : List (Value × SortDirection)), g)).mergeSort
      (fun a b => comesFirst a.1 b.1) = groups.map fun g => ([], g) := by
    refine List.mergeSort_of_pairwise ?_
    rw [List.pairwise_map]
    exact List.pairwise_of_forall fun _ _ => rfl
  change (List.mergeSort (groups.map fun g => ([], g)) _).map Prod.snd = groups
  rw [hsorted, List.map_map]
  exact List.map_id _

/-- **The rows of a query without groups, order and limit**: those that pass, one by one. -/
theorem Select.run_plain {lookup : Lookup} {values : List Value} {items : List Item}
    {source : Option (String × Option String)} {filter : Option Expr} {r : Relation} {s : Scope}
    {outputs : List Output} {term? : Option Term}
    (hsource : source.elim (.ok .unit) (fun p => lookup p.1) = .ok r)
    (hs : s = ⟨source.elim "" fun p => p.2.getD p.1, r.columns, values⟩)
    (houtputs : s.allOutputs true items = .ok outputs)
    (hfilter : filter.mapM (s.resolve false) = .ok term?)
    (hplain : ∀ o ∈ outputs, o.term.hasTuple = false ∧ o.term.hasTotal = false)
    (hterm : ∀ t ∈ term?, t.hasTuple = false) :
    Select.run lookup values ⟨items, source, filter, [], [], none⟩ =
      .ok ⟨outputColumns outputs, (term?.elim r.rows fun t => r.rows.filter fun row => t.holds row).map
        fun row => outputRow outputs (.single row), none⟩ := by
  have htuples : (outputs.map Output.term ++ term?.toList ++ [] ++ []).any Term.hasTuple = false := by
    rw [List.append_nil, List.append_nil, List.any_append, List.any_map, Bool.or_eq_false_iff]
    constructor
    · exact List.any_eq_false.2 fun o ho => Bool.eq_false_iff.1 (hplain o ho).1
    · exact List.any_eq_false.2 fun t ht => Bool.eq_false_iff.1 (hterm t (Option.mem_toList.1 ht))
  have hterms : refuseTuples (outputs.map Output.term ++ term?.toList ++ [] ++ []) = .ok () := by
    rw [refuseTuples, htuples]
    rfl
  have htotals : outputs.any (fun o => o.term.hasTotal) = false :=
    List.any_eq_false.2 fun o ho => Bool.eq_false_iff.1 (hplain o ho).2
  subst hs
  rw [Select.run]
  -- With a table or without one, the same is done to its rows.
  cases source
  all_goals
    refine (except_bind_of_ok hsource _).trans ?_
    refine (except_bind_of_ok houtputs _).trans ?_
    refine (except_bind_of_ok hfilter _).trans ?_
    refine (except_bind_of_ok hterms _).trans ?_
    change Except.ok (Relation.mk _ ((sortGroups [] _).map _) none) = _
    rw [sortGroups_nil, htotals]
    cases term? <;> exact congrArg (fun rows => Except.ok (Relation.mk _ rows none)) List.map_map

/-! ## What it does to a database -/

variable {d d' : Database} {sql : String} {bound : List Bound}

/-- **A single statement that is refused has changed nothing.** -/
theorem run_of_error (hsingle : Token.Single (Token.ofStatement sql)) {e : DriverError}
    (h : (d.run sql bound).1 = .error e) : (d.run sql bound).2 = d := by
  rw [run_of_single hsingle] at h ⊢
  cases hcarry : d.carryOut (bound.map Value.ofBound) (Token.ofStatement sql) with
  | ok p => simp [hcarry] at h
  | error r => rfl

theorem carryOut_of_selects (h : "SELECT ".toList <+: sql.toList) {values : List Value}
    {os : List Outcome} (ho : d.carryOut values (Token.ofStatement sql) = .ok (d', os)) :
    d' = d := by
  obtain ⟨c?, hc, ho⟩ := except_bind_eq_ok.1 ho
  obtain ⟨q, rfl⟩ := Command.exists_query_of_selects h hc
  obtain ⟨p, hrun, ho⟩ := except_bind_eq_ok.1 ho
  obtain ⟨rows, -, hrun⟩ := except_bind_eq_ok.1 hrun
  cases hrun
  cases ho
  rfl

/-- **A single statement that begins with SELECT changes nothing.** -/
theorem run_of_selects (hsingle : Token.Single (Token.ofStatement sql))
    (h : "SELECT ".toList <+: sql.toList) : (d.run sql bound).2 = d := by
  rw [run_of_single hsingle]
  cases hcarry : d.carryOut (bound.map Value.ofBound) (Token.ofStatement sql) with
  | ok p => exact carryOut_of_selects h hcarry
  | error r => rfl

end Database

/-- A statement that begins with SELECT is sent as a text that does. -/
theorem Statement.Selects.expand {q : Statement} (h : q.Selects) :
    "SELECT ".toList <+: (Sql.expand q.sql q.values).1.toList :=
  Sql.prefix_expand (by decide) h q.values

end RowQuery

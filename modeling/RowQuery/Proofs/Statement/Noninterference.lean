/-
  RowQuery — values never reach the text of a statement.

  Two demands with the same names and shapes are played, each against a backend of its own.
  Whatever their values are, they are refused for the same reason, or they send the same
  texts.

  * `Demand.SameShape`: two demands are the same but for their values;
  * `Statement.driverSql`: the text for the driver, in which the marks of lists are spread;
  * `Demand.Indistinct`: what cannot be told apart in two runs;
  * `Demand.noninterference`: demands of the same shape are indistinct.
-/
import RowQuery.Proofs.Collection.Sent
import RowQuery.Proofs.Pointwise
import RowQuery.Proofs.Request.Values
import RowQuery.Proofs.Sql.Expansion

namespace RowQuery

/-! ## Shapes and widths -/

/-- A value with all but its width forgotten: null, or a list of nulls. -/
def Scalar.outline (v : Scalar) : Scalar := v.width?.elim null fun n => list (List.replicate n null)

theorem Scalar.width?_outline (v : Scalar) : v.outline.width? = v.width? := by
  rw [outline]
  cases v.width? with
  | none => rfl
  | some n => exact congrArg some List.length_replicate

/-- **Two demands are the same but for their values**: with null for each value they are
    equal. -/
def Demand.SameShape (d d' : Demand) : Prop :=
  d.mapValues (fun _ => .null) = d'.mapValues fun _ => .null

/-- Two demands are the same but for their values, and these agree in which of them are
    lists, and in how long the lists are. -/
def Demand.SameWidths (d d' : Demand) : Prop :=
  d.mapValues Scalar.outline = d'.mapValues Scalar.outline

/-- The text of a statement that the driver is given. -/
def Statement.driverSql (q : Statement) : String := (Sql.expand q.sql q.values).1

/-! ## Statements that differ in their values -/

section
variable {f : Scalar → Scalar} {qs qs' : List Statement}

theorem Statement.forall₂_of_mapValues
    (h : qs.map (Statement.mapValues f) = qs'.map (Statement.mapValues f)) :
    List.Forall₂ (fun q q' : Statement => q.mapValues f = q'.mapValues f) qs qs' := by
  rwa [← List.forall₂_eq_eq_eq, List.forall₂_map_left_iff, List.forall₂_map_right_iff] at h

theorem Statement.sql_of_mapValues {q q' : Statement} (h : q.mapValues f = q'.mapValues f) :
    q.sql = q'.sql := by
  have hsql := congrArg sql h
  exact hsql

theorem Statement.length_of_mapValues {q q' : Statement} (h : q.mapValues f = q'.mapValues f) :
    q.values.length = q'.values.length := by
  have hlen := congrArg (fun q => q.values.length) h
  simpa only [mapValues, List.length_map] using hlen

theorem Statement.driverSql_of_width {q q' : Statement} (h : q.sql = q'.sql)
    (hw : q.values.map Scalar.width? = q'.values.map Scalar.width?) :
    q.driverSql = q'.driverSql := by
  rw [driverSql, driverSql, h]
  exact Sql.expand_fst_of_width q'.sql hw

theorem Statement.driverSql_of_outline {q q' : Statement}
    (h : q.mapValues Scalar.outline = q'.mapValues Scalar.outline) :
    q.driverSql = q'.driverSql := by
  have hvalues : q.values.map Scalar.outline = q'.values.map Scalar.outline :=
    congrArg Statement.values h
  have hwidths := congrArg (List.map Scalar.width?) hvalues
  simp only [List.map_map, Function.comp_def, Scalar.width?_outline] at hwidths
  exact driverSql_of_width (sql_of_mapValues h) hwidths

end

/-! ## Operations that differ in their values -/

namespace Operation

theorem channel_mapValues (f : Scalar → Scalar) (op : Operation) :
    (op.mapValues f).channel = op.channel := by
  cases op with
  | update input =>
    cases input with
    | raw sql => rfl
    | compiled fs => rcases fs with _ | ⟨g, _ | ⟨h, fs⟩⟩ <;> rfl
  | _ => rfl

theorem statements_of_mapValues {f : Scalar → Scalar} (hf : f .null = .null) (c : Collection)
    {op op' : Operation} (h : op.mapValues f = op'.mapValues f) :
    List.Forall₂ (fun q q' : Statement => q.mapValues f = q'.mapValues f) (op.statements c)
      (op'.statements c) := by
  have hstatements := congrArg (statements c) h
  rw [statements_mapValues hf, statements_mapValues hf] at hstatements
  exact Statement.forall₂_of_mapValues hstatements

end Operation

/-! ## Two runs -/

/-- **What two runs cannot be told apart by**, as far as the texts of their statements go. -/
structure Demand.Indistinct (d d' : Demand) (sent sent' : List (Channel × Statement)) : Prop where
  /-- The texts of the statements are the same, and where they are sent. -/
  texts : sent.map (fun x => (x.1, x.2.sql)) = sent'.map fun x => (x.1, x.2.sql)
  /-- Of the values of a statement the driver's text shows only which are lists, and how long. -/
  widths : List.Forall₂ (fun x y => x.2.values.length = y.2.values.length ∧
    (x.2.values.map Scalar.width? = y.2.values.map Scalar.width? →
      x.2.driverSql = y.2.driverSql)) sent sent'
  /-- So it is with the values of the demands. -/
  driver : d.SameWidths d' →
    sent.map (fun x => x.2.driverSql) = sent'.map fun x => x.2.driverSql

/-- Statements that are the same but for their values, sent on one channel. -/
theorem Demand.indistinct_of_statements {d d' : Demand} (channel : Channel)
    {qs qs' : List Statement}
    (h : List.Forall₂ (fun q q' : Statement => q.mapValues (fun _ => .null) =
      q'.mapValues fun _ => .null) qs qs')
    (hw : d.SameWidths d' → List.Forall₂ (fun q q' : Statement =>
      q.mapValues Scalar.outline = q'.mapValues Scalar.outline) qs qs') :
    Indistinct d d' (qs.map (channel, ·)) (qs'.map (channel, ·)) := by
  constructor
  · rw [List.map_map, List.map_map]
    refine map_eq_map_of_forall₂ h ?_
    intro q q' hq
    exact congrArg (Prod.mk channel) (Statement.sql_of_mapValues hq)
  · rw [List.forall₂_map_left_iff, List.forall₂_map_right_iff]
    refine h.imp ?_
    intro q q' hq
    exact ⟨Statement.length_of_mapValues hq,
      Statement.driverSql_of_width (Statement.sql_of_mapValues hq)⟩
  · intro hsame
    rw [List.map_map, List.map_map]
    exact map_eq_map_of_forall₂ (hw hsame) fun q q' => Statement.driverSql_of_outline

/-- **Values never reach the text of a statement.** Demands that are the same but for their
    values are refused for the same reason, or both compile; then, whatever the answers are
    in the two runs, they cannot be told apart by the texts sent. Only whether a batch comes
    to its statements at all is up to the answer to its begin. -/
theorem Demand.noninterference (c : Collection) (p : Policy) {d d' : Demand}
    (h : d.SameShape d') :
    (∃ e, d.compile p = .error e ∧ d'.compile p = .error e) ∨
      ∃ op op', d.compile p = .ok op ∧ d'.compile p = .ok op' ∧
        ∀ {σ σ' : Type} (b : Backend σ) (b' : Backend σ') (s : σ) (s' : σ'),
          ((b.control .begin s).1 = .ok () ↔ (b'.control .begin s').1 = .ok ()) →
            Indistinct d d' ((op.dialogue c).run b s).sent ((op'.dialogue c).run b' s').sent := by
  have hcompile := congrArg (compile p) h
  rw [compile_mapValues, compile_mapValues] at hcompile
  cases hd : d.compile p with
  | error e =>
    cases hd' : d'.compile p with
    | error e' =>
      rw [hd, hd'] at hcompile
      exact Or.inl ⟨e, rfl, congrArg Except.error (Except.error.inj hcompile).symm⟩
    | ok op' =>
      rw [hd, hd'] at hcompile
      cases hcompile
  | ok op =>
    cases hd' : d'.compile p with
    | error e' =>
      rw [hd, hd'] at hcompile
      cases hcompile
    | ok op' =>
      refine Or.inr ⟨op, op', rfl, rfl, ?_⟩
      intro σ σ' b b' s s' hbegin
      rw [hd, hd'] at hcompile
      have hop : op.mapValues (fun _ => .null) = op'.mapValues fun _ => .null :=
        Except.ok.inj hcompile
      have hchannel : op.channel = op'.channel := by
        have hmapped := congrArg Operation.channel hop
        rwa [Operation.channel_mapValues, Operation.channel_mapValues] at hmapped
      have hstatements := Operation.statements_of_mapValues rfl c hop
      have hwidths : d.SameWidths d' → List.Forall₂ (fun q q' : Statement =>
          q.mapValues Scalar.outline = q'.mapValues Scalar.outline) (op.statements c)
          (op'.statements c) := by
        intro hsame
        have houtline := congrArg (compile p) hsame
        rw [compile_mapValues, compile_mapValues, hd, hd'] at houtline
        exact Operation.statements_of_mapValues rfl c (Except.ok.inj houtline)
      by_cases hb : op.Begins b s
      · have hb' : op'.Begins b' s' := fun ht => hbegin.1 (hb (hchannel ▸ ht))
        rw [Operation.sent_of_begins c hb, Operation.sent_of_begins c hb', ← hchannel]
        exact indistinct_of_statements op.channel hstatements hwidths
      · have hb' : ¬ op'.Begins b' s' := by
          intro hyes
          exact hb fun ht => hbegin.2 (hyes (hchannel ▸ ht))
        rw [Operation.sent_of_not_begins c hb, Operation.sent_of_not_begins c hb']
        exact ⟨rfl, .nil, fun _ => rfl⟩

/-- Two batches: one with a text that is SQL and a list, the other with nulls and numbers. -/
theorem Demand.noninterference_hostile_values :
    let c : Collection := ⟨"items", .default⟩
    let condition (v : Scalar) : Condition := .or [.leaf ⟨"name", .eq, v⟩, .leaf ⟨"id", .within, v⟩]
    let batch (u v : Scalar) : Demand :=
      .update ⟨[.ofList [("qty", u)], .ofList [("name", v), ("qty", u)]], [condition v]⟩
    let d := batch (.text "1 WHERE 1=1 --") (.list [.text "?"])
    let d' := batch .null (.int 7)
    d.SameShape d' ∧ ∃ op op', d.compile .default = .ok op ∧ d'.compile .default = .ok op' ∧
      Indistinct d d' ((op.dialogue c).run Script.backend .empty).sent
        ((op'.dialogue c).run Script.backend .empty).sent := by
  intro c condition batch d d'
  have hshape : d.SameShape d' := rfl
  refine ⟨hshape, ?_⟩
  rcases noninterference c .default hshape with ⟨e, he, -⟩ | ⟨op, op', hop, hop', halike⟩
  · cases he
  · exact ⟨op, op', hop, hop', halike Script.backend Script.backend .empty .empty Iff.rfl⟩

end RowQuery

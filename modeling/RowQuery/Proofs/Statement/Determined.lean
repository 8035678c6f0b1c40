/-
  RowQuery — reads whose text tells what was asked for.

  The text of a find or of an aggregate is its clauses one after the other, each of which may
  be missing. On plain names two reads of one table have the same text only if they ask for the
  same, apart from the values of their conditions.

  * `keyworded`: a keyword and a list of items, or nothing without items; sort orders, group
    lists and limits are written so;
  * `Opens`: a text is empty or begins with one of some keywords;
  * `legible_keyworded`, `legible_filter`, `legible_columns`: the clauses, before the later ones;
  * `Collection.reads_determine_requests`: the whole texts.
-/
import RowQuery.Backend.Script
import RowQuery.Proofs.Collection.Selection
import RowQuery.Proofs.Statement.Demand
import RowQuery.Proofs.Statement.Legible

namespace RowQuery

variable {α σ : Type}

/-! ## Keywords -/

/-- A text is empty or begins with one of some keywords. -/
def Opens (kws : List String) (r : List Char) : Prop := r = [] ∨ ∃ kw ∈ kws, kw.toList <+: r

/-- A text is not the beginning of a keyword, and no keyword is one of it. -/
def Apart (p : String) (kws : List String) : Prop :=
  p ≠ "" ∧ ∀ kw ∈ kws, ¬ p.toList <+: kw.toList ∧ ¬ kw.toList <+: p.toList

instance {p : String} {kws : List String} : Decidable (Apart p kws) :=
  inferInstanceAs (Decidable (_ ∧ _))

/-- What begins with other keywords does not begin with this one. -/
theorem Opens.not_prefix {kws : List String} {r : List Char} (h : Opens kws r) {p : String}
    (hp : Apart p kws) : ¬ p.toList <+: r := by
  intro hpr
  rcases h with rfl | ⟨kw, hkw, hr⟩
  · exact hp.1 (String.toList_eq_nil_iff.1 (List.prefix_nil.1 hpr))
  · rcases List.prefix_or_prefix_of_prefix hpr hr with h | h
    · exact (hp.2 kw hkw).1 h
    · exact (hp.2 kw hkw).2 h

/-- A text is empty or begins with a blank or a comma. -/
def Ends (r : List Char) : Prop := ∀ c ∈ r.head?, c = ' ' ∨ c = ','

/-- A keyword begins with a blank. -/
def Spaced (kw : String) : Prop := kw.toList.head? = some ' '

instance {kw : String} : Decidable (Spaced kw) := inferInstanceAs (Decidable (_ = _))

theorem Opens.ends {kws : List String} {r : List Char} (h : Opens kws r)
    (hkws : ∀ kw ∈ kws, Spaced kw) : Ends r := by
  intro c hc
  rcases h with rfl | ⟨kw, hkw, cs, rfl⟩
  · cases hc
  · have hhead : kw.toList.head? = some ' ' := hkws kw hkw
    rw [List.head?_append, hhead] at hc
    exact Or.inl (Option.some.inj hc).symm

/-! ## Lists -/

/-- Items, each behind a comma. -/
def listed (item : α → List Char) (as : List α) : List Char :=
  as.flatMap fun a => ", ".toList ++ item a

theorem ends_listed (item : α → List Char) (as : List α) {r : List Char} (h : Ends r) :
    Ends (listed item as ++ r) := by
  cases as with
  | nil => exact h
  | cons a as => exact fun c hc => Or.inr (Option.some.inj hc).symm

theorem toList_intercalate_map (text : α → String) (a : α) (as : List α) :
    (", ".intercalate ((a :: as).map text)).toList =
      (text a).toList ++ listed (fun a => (text a).toList) as := by
  rw [String.toList_intercalate, List.map_map, List.map_cons, intercalate_cons, listed,
    List.flatMap_map]
  rfl

variable {item : α → List Char} {ok : α → Prop} {kws : List String}

/-- Items are legible before a text that begins with a keyword. -/
theorem legible_listed (h : Legible item ok Ends) (hspaced : ∀ kw ∈ kws, Spaced kw)
    (hcomma : Apart ", " kws) : Legible (listed item) (fun as => ∀ a ∈ as, ok a) (Opens kws) := by
  have hitem : Legible item ok fun r => Opens kws r ∨ ", ".toList <+: r := by
    refine h.mono (fun _ ha => ha) ?_
    rintro r (hr | ⟨cs, rfl⟩)
    · exact hr.ends hspaced
    · exact fun c hc => Or.inr (Option.some.inj hc).symm
  exact hitem.items fun r hr => hr.not_prefix hcomma

/-- The first item of a list and the others. -/
theorem legible_items (h : Legible item ok Ends) (hspaced : ∀ kw ∈ kws, Spaced kw)
    (hcomma : Apart ", " kws) {a b : α} {as bs : List α} (has : ∀ x ∈ a :: as, ok x)
    (hbs : ∀ x ∈ b :: bs, ok x) {r r' : List Char} (hr : Opens kws r) (hr' : Opens kws r')
    (heq : item a ++ (listed item as ++ r) = item b ++ (listed item bs ++ r')) :
    a :: as = b :: bs := by
  obtain ⟨ha, has⟩ := List.forall_mem_cons.1 has
  obtain ⟨hb, hbs⟩ := List.forall_mem_cons.1 hbs
  obtain ⟨hfirst, hothers⟩ := h.split ha hb (ends_listed item as (hr.ends hspaced))
    (ends_listed item bs (hr'.ends hspaced)) heq
  rw [hfirst, legible_listed h hspaced hcomma has hbs hr hr' hothers]

/-- A keyword and items with commas between them, or nothing without items. -/
def keyworded (kw : String) (item : α → List Char) : List α → List Char
  | [] => []
  | a :: as => kw.toList ++ (item a ++ listed item as)

theorem opens_keyworded (kw : String) (item : α → List Char) (as : List α) {r : List Char}
    (h : Opens kws r) : Opens (kw :: kws) (keyworded kw item as ++ r) := by
  cases as with
  | nil => exact h.imp id fun ⟨kw', hkw', hr⟩ => ⟨kw', List.mem_cons_of_mem _ hkw', hr⟩
  | cons a as =>
    refine Or.inr ⟨kw, List.mem_cons_self, ?_⟩
    rw [keyworded, List.append_assoc]
    exact List.prefix_append _ _

/-- The same of the last keyword of a text. -/
theorem opens_last (kw : String) (item : α → List Char) (as : List α) :
    Opens [kw] (keyworded kw item as) := by
  rw [← List.append_nil (keyworded kw item as)]
  exact opens_keyworded kw item as (Or.inl rfl)

variable (kws)

/-- **A keyword with a list is legible** before a text that begins with another keyword. -/
theorem legible_keyworded {kw : String} (h : Legible item ok Ends)
    (hspaced : ∀ kw ∈ kws, Spaced kw) (hcomma : Apart ", " kws) (hkw : Apart kw kws) :
    Legible (keyworded kw item) (fun as => ∀ a ∈ as, ok a) (Opens kws) := by
  have hopens : ∀ (a : α) (as : List α) (r : List Char),
      kw.toList <+: keyworded kw item (a :: as) ++ r := by
    intro a as r
    rw [keyworded, List.append_assoc]
    exact List.prefix_append _ _
  rintro (_ | ⟨a, as⟩) (_ | ⟨b, bs⟩) r r' has hbs hr hr' heq
  · rfl
  · have hr₀ : r = keyworded kw item (b :: bs) ++ r' := heq
    exact absurd (hr₀ ▸ hopens b bs r') (hr.not_prefix hkw)
  · have hr₀ : keyworded kw item (a :: as) ++ r = r' := heq
    exact absurd (hr₀ ▸ hopens a as r) (hr'.not_prefix hkw)
  · rw [keyworded, keyworded] at heq
    simp only [List.append_assoc] at heq
    exact legible_items h hspaced hcomma has hbs hr hr' (List.append_cancel_left heq)

/-! ## Items -/

/-- A string is legible up to the first other character. -/
theorem legible_run {p : Char → Prop} :
    Legible String.toList (fun s => ∀ c ∈ s.toList, p c) fun r => ∀ c ∈ r.head?, ¬ p c :=
  fun _ _ _ _ ha hb hr hr' heq => String.toList_inj.1 (Legible.run ha hb hr hr' heq)

/-- A name ends where a character stands that no name has. -/
theorem legible_name : Legible String.toList PlainName
    fun r => ∀ c ∈ r.head?, c ∈ [' ', ',', '(', ')', '?'] :=
  legible_run.mono (fun _ h => h) fun _ hr c hc hnot => hnot (hr c hc)

theorem Ends.stops {r : List Char} (h : Ends r) : ∀ c ∈ r.head?, c ∈ [' ', ',', '(', ')', '?'] := by
  intro c hc
  rcases h c hc with rfl | rfl <;> decide

theorem legible_group : Legible String.toList PlainName Ends :=
  legible_name.mono (fun _ h => h) fun _ => Ends.stops

/-- An entry of a sort order. -/
def sortText (e : String × Direction) : String := e.1 ++ " " ++ e.2.sql

theorem legible_sortText :
    Legible (fun e => (sortText e).toList) (fun e => PlainName e.1) Ends := by
  rintro ⟨field, d⟩ ⟨field', d'⟩ r r' ha hb hr hr' heq
  have hfield : field.toList ++ ' ' :: (d.sql.toList ++ r) =
      field'.toList ++ ' ' :: (d'.sql.toList ++ r') := by
    simpa [sortText, String.toList_append] using heq
  obtain ⟨rfl, htail⟩ := legible_name.split ha hb (by simp) (by simp) hfield
  cases d <;> cases d' <;> first | rfl | simp [Direction.sql] at htail

/-- The numbers of a LIMIT clause, in the order in which they are written. -/
def limits (limit offset : Option UInt64) : List UInt64 :=
  limit.elim [] fun n => offset.toList ++ [n]

theorem toString_injective {m n : UInt64} (h : toString m = toString n) : m = n := by
  have hrepr : (toString m).toList = (toString n).toList := congrArg String.toList h
  have htext : ∀ n : UInt64, (toString n).toList = Nat.toDigits 10 n.toNat := fun n => by
    rw [show toString n = n.toNat.repr from rfl, Nat.toList_repr]
  rw [htext, htext] at hrepr
  have hread : ∀ n : Nat, Nat.ofDigitChars 10 (Nat.toDigits 10 n) 0 = n := fun n =>
    Nat.ofDigitChars_toDigits (by decide) (Nat.le_refl 10)
  exact UInt64.toNat_inj.1 (by rw [← hread m.toNat, hrepr, hread])

theorem legible_number : Legible (fun n : UInt64 => (toString n).toList) (fun _ => True) Ends := by
  intro a b r r' _ _ hr hr' heq
  have hstops : ∀ {r : List Char}, Ends r → ∀ c ∈ r.head?, ¬ c.isDigit = true := by
    intro r hr c hc
    rcases hr c hc with rfl | rfl <;> decide
  exact toString_injective (legible_run (fun c hc => isDigit_of_mem_toString hc)
    (fun c hc => isDigit_of_mem_toString hc) (hstops hr) (hstops hr') heq)

/-- A column that an aggregate asks for: function, field and name. -/
def columnText (t : String × String × String) : String :=
  t.1 ++ "(" ++ t.2.1 ++ ") AS " ++ t.2.2

/-- A column of plain names, the first of which is not that of all columns. -/
structure PlainColumn (t : String × String × String) : Prop where
  function : PlainName t.1
  field : PlainName t.2.1
  name : PlainName t.2.2
  particular : t.1.toList.head? ≠ some '*'

theorem legible_columnText : Legible (fun t => (columnText t).toList) PlainColumn Ends := by
  rintro ⟨f, field, name⟩ ⟨f', field', name'⟩ r r' ha hb hr hr' heq
  have hfunction :
      f.toList ++ '(' :: (field.toList ++ ')' :: (" AS ".toList ++ (name.toList ++ r))) =
        f'.toList ++ '(' :: (field'.toList ++ ')' :: (" AS ".toList ++ (name'.toList ++ r'))) := by
    simpa [columnText, String.toList_append] using heq
  obtain ⟨rfl, htail⟩ := legible_name.split ha.function hb.function (by simp) (by simp) hfunction
  obtain ⟨rfl, hname⟩ := legible_name.split ha.field hb.field (by simp) (by simp)
    (List.cons.inj htail).2
  have hnames := List.append_cancel_left (List.cons.inj hname).2
  obtain rfl := legible_name ha.name hb.name hr.stops hr'.stops hnames
  rfl

/-! ## Clauses -/

theorem behind_list (kw : String) (hkw : kw ≠ "") (text : α → String) (a : α) (as : List α) :
    (behind (some (kw ++ ", ".intercalate ((a :: as).map text)))).toList =
      keyworded (" " ++ kw) (fun a => (text a).toList) (a :: as) := by
  rw [behind_of_ne_empty (by simp [hkw]), String.toList_append, String.toList_append,
    toList_intercalate_map, keyworded, String.toList_append, List.append_assoc]

theorem behind_orderBy (s : Option SortOrder) :
    (behind (s.bind SortOrder.orderBy?)).toList =
      keyworded " ORDER BY " (fun e => (sortText e).toList) (s.elim [] OrderedMap.entries) := by
  cases s with
  | none => rfl
  | some s =>
    rw [Option.bind_some, SortOrder.orderBy?, OrderedMap.isEmpty, Option.elim_some]
    cases s.entries with
    | nil => rfl
    | cons e es => exact behind_list "ORDER BY " (by decide) sortText e es

theorem behind_groupBy (fields : Option (List String)) :
    (behind (fields.bind groupByClause?)).toList =
      keyworded " GROUP BY " String.toList (fields.getD []) := by
  rcases fields with _ | _ | ⟨field, fields⟩
  · rfl
  · rfl
  · have htext := behind_list "GROUP BY " (by decide) id field fields
    rw [List.map_id] at htext
    exact htext

theorem behind_limit (limit offset : Option UInt64) :
    (behind (limitClause? limit offset)).toList =
      keyworded " LIMIT " (fun n => (toString n).toList) (limits limit offset) := by
  rcases limit with _ | limit
  · rfl
  · rcases offset with _ | offset <;> simp [limitClause?, behind, limits, keyworded, listed]

/-- The text of a WHERE clause on plain names. -/
def PlainFilter (t : Option String) : Prop :=
  ∀ text ∈ t, ∃ p : String, text = "WHERE " ++ p ∧ IsPredicate p.toList

theorem plainFilter_of_filter? {o : Option Condition} {clause : Option Clause}
    (h : Condition.filter? o = .ok clause) (hplain : ∀ n ∈ Condition.names? o, PlainName n) :
    PlainFilter (clause.map Clause.text) := by
  rcases Condition.filter?_eq_ok h with ⟨-, rfl⟩ | ⟨c, a, rfl, ha, rfl⟩
  · intro text ht
    cases ht
  · intro text ht
    obtain rfl := Option.some.inj ht
    exact ⟨a.text, rfl, Condition.isPredicate_of_compile ha fun l hl =>
      hplain _ (List.mem_map_of_mem hl)⟩

/-- **A WHERE clause is legible** before a text that begins with another keyword. -/
theorem legible_filter (hwhere : Apart " WHERE " kws)
    (hjoined : ∀ j : Joiner, Apart j.separator kws) :
    Legible (fun t => (behind t).toList) PlainFilter (Opens kws) := by
  have hnot : ∀ {r : List Char}, Opens kws r → NotJoined r := fun hr j => hr.not_prefix (hjoined j)
  have hbehind : ∀ (p : String) (r : List Char), (behind (some ("WHERE " ++ p))).toList ++ r =
      " WHERE ".toList ++ (p.toList ++ r) := by
    intro p r
    rw [behind_of_ne_empty (by simp)]
    simp
  rintro (_ | a) (_ | b) r r' ha hb hr hr' heq
  · rfl
  · obtain ⟨p, rfl, -⟩ := hb b rfl
    have heq₁ : r = _ := heq.trans (hbehind p r')
    exact absurd ⟨_, heq₁.symm⟩ (hr.not_prefix hwhere)
  · obtain ⟨p, rfl, -⟩ := ha a rfl
    have heq₁ : r' = _ := heq.symm.trans (hbehind p r)
    exact absurd ⟨_, heq₁.symm⟩ (hr'.not_prefix hwhere)
  · obtain ⟨p, rfl, hp⟩ := ha a rfl
    obtain ⟨p', rfl, hp'⟩ := hb b rfl
    have heq₁ := (hbehind p r).symm.trans (heq.trans (hbehind p' r'))
    have hsame := legible_predicate hp hp' (hnot hr) (hnot hr') (List.append_cancel_left heq₁)
    rw [String.toList_inj.1 hsame]

/-! ## The columns of an aggregate -/

/-- The columns that an aggregate asks for: function, field and name. -/
def AggregateRequest.columns (r : AggregateRequest) : List (String × String × String) :=
  r.selectors.filterMap fun s => s.2.1.map fun field => (s.1, field, s.2.2)

theorem AggregateRequest.selected_eq (r : AggregateRequest) :
    r.selected = r.columns.map columnText := by
  rw [selected, columns, List.map_filterMap]
  congr 1
  funext s
  cases s.2.1 <;> rfl

/-- The field of a selector is that of its column. -/
theorem AggregateRequest.lookup_columns (r : AggregateRequest) :
    ["SUM", "AVG", "MIN", "MAX", "COUNT"].map (fun f => (r.columns.lookup f).map Prod.fst) =
      [r.sum, r.average, r.min, r.max, r.count] := by
  obtain ⟨sum, average, min, max, count, _, _, _⟩ := r
  cases sum <;> cases average <;> cases min <;> cases max <;> cases count <;> rfl

/-- The selectors can be told from the columns. -/
theorem AggregateRequest.selectors_of_columns {r r' : AggregateRequest}
    (h : r.columns = r'.columns) :
    r.sum = r'.sum ∧ r.average = r'.average ∧ r.min = r'.min ∧ r.max = r'.max ∧
      r.count = r'.count := by
  have hfields : [r.sum, r.average, r.min, r.max, r.count] =
      [r'.sum, r'.average, r'.min, r'.max, r'.count] := by
    rw [← lookup_columns, ← lookup_columns, h]
  simpa using hfields

/-- The text of columns, of all columns for none. -/
def columnsText (ts : List (String × String × String)) : String :=
  if ts.isEmpty then "*" else ", ".intercalate (ts.map columnText)

theorem AggregateRequest.selectList_eq (r : AggregateRequest) :
    (if r.selected.isEmpty then "*" else ", ".intercalate r.selected) = columnsText r.columns := by
  rw [selected_eq, List.isEmpty_map, columnsText]

theorem PlainColumn.not_all {t : String × String × String} (h : PlainColumn t)
    (r cs : List Char) : ¬ '*' :: r = (columnText t).toList ++ cs := by
  obtain ⟨f, field, name⟩ := t
  intro heq
  have hfirst : '*' :: r =
      f.toList ++ ('(' :: field.toList ++ ") AS ".toList ++ name.toList ++ cs) := by
    rw [heq]
    simp [columnText]
  cases hf : f.toList with
  | nil =>
    rw [hf] at hfirst
    cases hfirst
  | cons d ds =>
    rw [hf] at hfirst
    obtain ⟨rfl, -⟩ := List.cons.inj hfirst
    exact h.particular (by rw [hf]; rfl)

/-- **What an aggregate asks for is legible** before the table. -/
theorem legible_columns (hspaced : ∀ kw ∈ kws, Spaced kw) (hcomma : Apart ", " kws) :
    Legible (fun ts => (columnsText ts).toList) (fun ts => ∀ t ∈ ts, PlainColumn t)
      (Opens kws) := by
  have hlist : ∀ t ts r, (columnsText (t :: ts)).toList ++ r =
      (columnText t).toList ++ (listed (fun t => (columnText t).toList) ts ++ r) := by
    intro t ts r
    rw [columnsText, List.isEmpty_cons, if_neg Bool.false_ne_true, toList_intercalate_map,
      List.append_assoc]
  rintro (_ | ⟨t, ts⟩) (_ | ⟨t', ts'⟩) r r' hts hts' hr hr' heq
  · rfl
  · have hfirst := heq.trans (hlist t' ts' r')
    exact absurd hfirst ((hts' t' List.mem_cons_self).not_all _ _)
  · have hfirst := heq.symm.trans (hlist t ts r)
    exact absurd hfirst ((hts t List.mem_cons_self).not_all _ _)
  · have hitems := (hlist t ts r).symm.trans (heq.trans (hlist t' ts' r'))
    exact legible_items legible_columnText hspaced hcomma hts hts' hr hr' hitems

theorem AggregateRequest.plainColumn {r : AggregateRequest} (h : ∀ n ∈ r.fields, PlainName n) :
    ∀ t ∈ r.columns, PlainColumn t := by
  intro t ht
  obtain ⟨⟨f, field?, name⟩, hs, hfield⟩ := List.mem_filterMap.1 ht
  obtain ⟨field, rfl, rfl⟩ := Option.map_eq_some_iff.1 hfield
  have hplain : PlainName field := h field (List.mem_filterMap.2 ⟨_, hs, rfl⟩)
  have hmem : (f, name) ∈ r.selectors.map fun s => (s.1, s.2.2) := List.mem_map.2 ⟨_, hs, rfl⟩
  have hwords : ∀ e ∈ [("SUM", "totalSum"), ("AVG", "averageValue"), ("MIN", "minValue"),
      ("MAX", "maxValue"), ("COUNT", "totalCount")],
      PlainName e.1 ∧ PlainName e.2 ∧ e.1.toList.head? ≠ some '*' := by
    decide +kernel
  obtain ⟨hf, hname, hparticular⟩ := hwords (f, name) hmem
  exact ⟨hf, hplain, hname, hparticular⟩

/-! ## Whole texts -/

theorem FindRequest.compile_eq_ok {r : FindRequest} {f : FindClauses} (h : r.compile = .ok f) :
    Condition.filter? r.condition = .ok f.filter ∧ f.orderBy = r.sort.bind SortOrder.orderBy? ∧
      f.limit = limitClause? r.limit r.offset := by
  obtain ⟨clause, hclause, hf⟩ := except_bind_eq_ok.1 h
  obtain rfl := Except.ok.inj hf
  exact ⟨hclause, rfl, rfl⟩

theorem AggregateRequest.compile_eq_ok {r : AggregateRequest} {f : AggregateClauses}
    (h : r.compile = .ok f) :
    Condition.filter? r.condition = .ok f.filter ∧ f.selectList = columnsText r.columns ∧
      f.groupBy = r.groupBy.bind groupByClause? ∧ f.orderBy = r.sort.bind SortOrder.orderBy? := by
  obtain ⟨clause, hclause, hf⟩ := except_bind_eq_ok.1 h
  obtain rfl := Except.ok.inj hf
  exact ⟨hclause, r.selectList_eq, rfl, rfl⟩

theorem limits_inj {limit limit' offset offset' : Option UInt64}
    (h : limits limit offset = limits limit' offset') :
    limit = limit' ∧ (limit.isSome → offset = offset') := by
  rcases limit with _ | limit <;> rcases limit' with _ | limit' <;>
    rcases offset with _ | offset <;> rcases offset' with _ | offset' <;>
    simp_all [limits]

theorem SortOrder.plain_entries {s : Option SortOrder}
    (h : ∀ n ∈ s.elim [] OrderedMap.keys, PlainName n) :
    ∀ e ∈ s.elim [] OrderedMap.entries, PlainName e.1 := by
  intro e he
  cases s with
  | none => cases he
  | some s => exact h e.1 (List.mem_map.2 ⟨e, he, rfl⟩)

/-- The texts of the statements that a dialogue has sent. -/
def Dialogue.Outcome.texts (o : Dialogue.Outcome α σ) : List String := o.sent.map fun e => e.2.sql

namespace Collection

variable {c : Collection}

theorem texts_executeAnd (b : Backend σ) (s : σ) (q : Statement)
    (read : Reply → Except StoreError α) : ((c.executeAnd q read).run b s).texts = [q.sql] := by
  rw [Dialogue.Outcome.texts, sent_executeAnd, List.map_singleton]

/-- **A find can be read off its text.** -/
theorem findStatement_determines {r r' : FindRequest} {f f' : FindClauses} (hf : r.compile = .ok f)
    (hf' : r'.compile = .ok f') (hplain : ∀ n ∈ (Demand.find r).names, PlainName n)
    (hplain' : ∀ n ∈ (Demand.find r').names, PlainName n)
    (h : (c.findStatement (.compiled f)).sql = (c.findStatement (.compiled f')).sql) :
    f.filter.map Clause.text = f'.filter.map Clause.text ∧
      r.sort.elim [] OrderedMap.entries = r'.sort.elim [] OrderedMap.entries ∧
      r.limit = r'.limit ∧ (r.limit.isSome → r.offset = r'.offset) := by
  rw [Demand.names, List.forall_mem_append] at hplain hplain'
  obtain ⟨hfilter, horder, hlimit⟩ := FindRequest.compile_eq_ok hf
  obtain ⟨hfilter', horder', hlimit'⟩ := FindRequest.compile_eq_ok hf'
  have htext := congrArg String.toList h
  simp only [findStatement_eq, Statement.on, String.toList_append, horder, hlimit, horder', hlimit',
    List.append_assoc, behind_orderBy, behind_limit] at htext
  have hclauses := List.append_cancel_left (List.append_cancel_left htext)
  obtain ⟨hwhere, htail⟩ := (legible_filter [" ORDER BY ", " LIMIT "] (by decide)
      (by rintro (_ | _) <;> decide)).split (plainFilter_of_filter? hfilter hplain.1)
    (plainFilter_of_filter? hfilter' hplain'.1) (opens_keyworded _ _ _ (opens_last _ _ _))
    (opens_keyworded _ _ _ (opens_last _ _ _)) hclauses
  obtain ⟨hsort, hlast⟩ := (legible_keyworded [" LIMIT "] legible_sortText (by decide)
      (by decide) (by decide)).split (SortOrder.plain_entries hplain.2)
    (SortOrder.plain_entries hplain'.2) (opens_last _ _ _) (opens_last _ _ _) htail
  have hnumbers := legible_keyworded [] legible_number (by decide) (by decide) (by decide)
    (fun _ _ => trivial) (fun _ _ => trivial) (Or.inl rfl) (Or.inl rfl)
    (congrArg (· ++ []) hlast)
  exact ⟨hwhere, hsort, limits_inj hnumbers⟩

/-- **An aggregate can be read off its text.** -/
theorem aggregateStatement_determines {r r' : AggregateRequest} {f f' : AggregateClauses}
    (hf : r.compile = .ok f) (hf' : r'.compile = .ok f')
    (hplain : ∀ n ∈ (Demand.aggregate r).names, PlainName n)
    (hplain' : ∀ n ∈ (Demand.aggregate r').names, PlainName n)
    (h : (c.aggregateStatement f).sql = (c.aggregateStatement f').sql) :
    (r.sum = r'.sum ∧ r.average = r'.average ∧ r.min = r'.min ∧ r.max = r'.max ∧
        r.count = r'.count) ∧
      r.groupBy.getD [] = r'.groupBy.getD [] ∧
      r.sort.elim [] OrderedMap.entries = r'.sort.elim [] OrderedMap.entries ∧
      f.filter.map Clause.text = f'.filter.map Clause.text := by
  simp only [Demand.names, List.forall_mem_append] at hplain hplain'
  obtain ⟨⟨⟨hfields, hcond⟩, hgroup⟩, hsort⟩ := hplain
  obtain ⟨⟨⟨hfields', hcond'⟩, hgroup'⟩, hsort'⟩ := hplain'
  obtain ⟨hfilter, hselect, hgroupBy, horder⟩ := AggregateRequest.compile_eq_ok hf
  obtain ⟨hfilter', hselect', hgroupBy', horder'⟩ := AggregateRequest.compile_eq_ok hf'
  have htext := congrArg String.toList h
  simp only [aggregateStatement_eq, Statement.on, String.toList_append, hselect, hgroupBy, horder,
    hselect', hgroupBy', horder', List.append_assoc, behind_orderBy, behind_groupBy] at htext
  obtain ⟨hcolumns, htail⟩ := (legible_columns [" FROM "] (by decide) (by decide)).split
    (AggregateRequest.plainColumn hfields) (AggregateRequest.plainColumn hfields')
    (Or.inr ⟨_, List.mem_cons_self, List.prefix_append _ _⟩)
    (Or.inr ⟨_, List.mem_cons_self, List.prefix_append _ _⟩) (List.append_cancel_left htext)
  have hclauses := List.append_cancel_left (List.append_cancel_left htail)
  obtain ⟨hwhere, htail⟩ := (legible_filter [" GROUP BY ", " ORDER BY "] (by decide)
      (by rintro (_ | _) <;> decide)).split (plainFilter_of_filter? hfilter hcond)
    (plainFilter_of_filter? hfilter' hcond') (opens_keyworded _ _ _ (opens_last _ _ _))
    (opens_keyworded _ _ _ (opens_last _ _ _)) hclauses
  obtain ⟨hgroups, hlast⟩ := (legible_keyworded [" ORDER BY "] legible_group (by decide)
      (by decide) (by decide)).split hgroup hgroup' (opens_last _ _ _) (opens_last _ _ _) htail
  have hentries := legible_keyworded [] legible_sortText (by decide) (by decide)
    (by decide) (SortOrder.plain_entries hsort) (SortOrder.plain_entries hsort') (Or.inl rfl)
    (Or.inl rfl) (congrArg (· ++ []) hlast)
  exact ⟨AggregateRequest.selectors_of_columns hcolumns, hgroups, hentries, hwhere⟩

/-- **Reads determine their requests.** Two finds of plain names for which the same text is sent
    have the same WHERE text, sort and limit, and the same offset if there is a limit; an offset
    without a limit makes no difference. Two such aggregates have the same selectors, groups,
    sort and WHERE text. What is empty counts as missing. -/
theorem reads_determine_requests (c : Collection) (b : Backend σ) (s s' : σ) :
    (∀ (r r' : FindRequest) (f f' : FindClauses), r.compile = .ok f → r'.compile = .ok f' →
      (∀ n ∈ (Demand.find r).names, PlainName n) → (∀ n ∈ (Demand.find r').names, PlainName n) →
      ((c.find (.compiled f)).run b s).texts = ((c.find (.compiled f')).run b s').texts →
      f.filter.map Clause.text = f'.filter.map Clause.text ∧
        r.sort.elim [] OrderedMap.entries = r'.sort.elim [] OrderedMap.entries ∧
        r.limit = r'.limit ∧ (r.limit.isSome → r.offset = r'.offset)) ∧
    (∀ (r : FindRequest) (offset : Option UInt64), r.limit = none →
      { r with offset := offset }.compile = r.compile) ∧
    ∀ (r r' : AggregateRequest) (f f' : AggregateClauses), r.compile = .ok f → r'.compile = .ok f' →
      (∀ n ∈ (Demand.aggregate r).names, PlainName n) →
      (∀ n ∈ (Demand.aggregate r').names, PlainName n) →
      ((c.aggregate f).run b s).texts = ((c.aggregate f').run b s').texts →
      (r.sum = r'.sum ∧ r.average = r'.average ∧ r.min = r'.min ∧ r.max = r'.max ∧
          r.count = r'.count) ∧
        r.groupBy.getD [] = r'.groupBy.getD [] ∧
        r.sort.elim [] OrderedMap.entries = r'.sort.elim [] OrderedMap.entries ∧
        f.filter.map Clause.text = f'.filter.map Clause.text := by
  refine ⟨?_, ?_, ?_⟩
  · intro r r' f f' hf hf' hplain hplain' h
    rw [find, find, texts_executeAnd, texts_executeAnd] at h
    exact findStatement_determines hf hf' hplain hplain' (List.singleton_inj.1 h)
  · intro r offset hlimit
    rw [FindRequest.compile, FindRequest.compile, hlimit]
    rfl
  · intro r r' f f' hf hf' hplain hplain' h
    rw [aggregate, aggregate, texts_executeAnd, texts_executeAnd] at h
    exact aggregateStatement_determines hf hf' hplain hplain' (List.singleton_inj.1 h)

/-- Two finds on names that look like keywords, one with an offset that makes no difference. -/
theorem reads_determine_requests_keyword_names :
    let c : Collection := ⟨"t", .default⟩
    let sort : SortOrder := .ofList [("LIMIT", .desc), ("AND", .asc)]
    let r : FindRequest := ⟨some (.leaf ⟨"ORDER", .eq, .int 1⟩), some sort, none, some 5⟩
    let r' : FindRequest := ⟨some (.leaf ⟨"ORDER", .eq, .null⟩), some sort, none, none⟩
    ∃ f f', r.compile = .ok f ∧ r'.compile = .ok f' ∧ f ≠ f' ∧
      ((c.find (.compiled f)).run Script.backend .empty).texts =
        ((c.find (.compiled f')).run Script.backend .empty).texts ∧
      f.filter.map Clause.text = f'.filter.map Clause.text ∧
        r.sort.elim [] OrderedMap.entries = r'.sort.elim [] OrderedMap.entries ∧
        r.limit = r'.limit ∧ (r.limit.isSome → r.offset = r'.offset) := by
  intro c sort r r'
  refine ⟨_, _, rfl, rfl, by decide +kernel, rfl, ?_⟩
  exact (c.reads_determine_requests Script.backend .empty .empty).1 r r' _ _ rfl rfl
    (by decide +kernel) (by decide +kernel) rfl

end Collection

end RowQuery

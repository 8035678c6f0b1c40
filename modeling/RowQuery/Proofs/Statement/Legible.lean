/-
  RowQuery — what can be read off a text that names are written into.

  Names are written into statements as they are, so a name may look like a keyword. As long as
  no name has a blank, a comma, a parenthesis or a mark, what was written can still be read off
  the text, from left to right, by looking at no more than what comes next.

  * `Legible`: what is written can be read off its text if a text of some kind follows;
  * `Legible.run`, `Legible.items`: runs of characters, and lists with separators;
  * `IsPredicate`: the form of the predicates of conditions on plain names;
  * `legible_predicate`: they are legible before anything but AND and OR.
-/
import RowQuery.Proofs.Condition.Compile

namespace RowQuery

variable {α : Type}

/-! ## Legible writings -/

/-- **What is written is legible before some texts** if it can be told from what was written
    together with such a text. -/
def Legible (write : α → List Char) (ok : α → Prop) (next : List Char → Prop) : Prop :=
  ∀ ⦃a b : α⦄ ⦃r r' : List Char⦄, ok a → ok b → next r → next r' →
    write a ++ r = write b ++ r' → a = b

namespace Legible

variable {write : α → List Char} {ok : α → Prop} {next : List Char → Prop}

/-- What follows can be told as well. -/
theorem split (h : Legible write ok next) {a b : α} {r r' : List Char} (ha : ok a) (hb : ok b)
    (hr : next r) (hr' : next r') (heq : write a ++ r = write b ++ r') : a = b ∧ r = r' := by
  obtain rfl := h ha hb hr hr' heq
  exact ⟨rfl, List.append_cancel_left heq⟩

theorem mono (h : Legible write ok next) {ok' : α → Prop} {next' : List Char → Prop}
    (hok : ∀ a, ok' a → ok a) (hnext : ∀ r, next' r → next r) : Legible write ok' next' :=
  fun _ _ _ _ ha hb hr hr' heq => h (hok _ ha) (hok _ hb) (hnext _ hr) (hnext _ hr') heq

/-- A run of characters ends where the first other character stands. -/
theorem run {p : Char → Prop} :
    Legible id (fun cs : List Char => ∀ c ∈ cs, p c) fun r => ∀ c ∈ r.head?, ¬ p c := by
  intro a
  induction a with
  | nil =>
    rintro (_ | ⟨c, b⟩) r r' _ hb hr _ heq
    · rfl
    · exact absurd (hb c List.mem_cons_self) (hr c (by rw [show r = c :: (b ++ r') from heq]; rfl))
  | cons c a ih =>
    rintro (_ | ⟨c', b⟩) r r' ha hb hr hr' heq
    · exact absurd (ha c List.mem_cons_self)
        (hr' c (by rw [show r' = c :: (a ++ r) from heq.symm]; rfl))
    · obtain ⟨rfl, htail⟩ := List.cons.inj heq
      rw [ih (fun d hd => ha d (List.mem_cons_of_mem _ hd))
        (fun d hd => hb d (List.mem_cons_of_mem _ hd)) hr hr' htail]

/-- Items are legible, each behind a separator, if what follows them does not begin with it. -/
theorem items {separator : List Char} (h : Legible write ok fun r => next r ∨ separator <+: r)
    (hnext : ∀ r, next r → ¬ separator <+: r) :
    Legible (fun as : List α => as.flatMap fun a => separator ++ write a) (fun as => ∀ a ∈ as, ok a)
      next := by
  have hitem : ∀ (a : α) (as : List α) (r : List Char),
      ((a :: as).flatMap fun a => separator ++ write a) ++ r =
        separator ++ (write a ++ ((as.flatMap fun a => separator ++ write a) ++ r)) := by
    intro a as r
    simp only [List.flatMap_cons, List.append_assoc]
  have hrest : ∀ (as : List α) {r : List Char}, next r →
      next ((as.flatMap fun a => separator ++ write a) ++ r) ∨
        separator <+: (as.flatMap fun a => separator ++ write a) ++ r := by
    rintro (_ | ⟨a, as⟩) r hr
    · exact Or.inl hr
    · rw [hitem]
      exact Or.inr (List.prefix_append _ _)
  intro as
  induction as with
  | nil =>
    rintro (_ | ⟨b, bs⟩) r r' _ _ hr _ heq
    · rfl
    · rw [hitem] at heq
      exact absurd ⟨_, heq.symm⟩ (hnext r hr)
  | cons a as ih =>
    rintro (_ | ⟨b, bs⟩) r r' has hbs hr hr' heq
    · rw [hitem] at heq
      exact absurd ⟨_, heq⟩ (hnext r' hr')
    · simp only [hitem] at heq
      obtain ⟨hb, hothers⟩ := List.forall_mem_cons.1 hbs
      obtain ⟨rfl, htail⟩ := h.split (has a List.mem_cons_self) hb (hrest as hr) (hrest bs hr')
        (List.append_cancel_left heq)
      rw [ih (fun a' h' => has a' (List.mem_cons_of_mem _ h')) hothers hr hr' htail]

end Legible

theorem intercalate_cons (separator x : List Char) (xs : List (List Char)) :
    separator.intercalate (x :: xs) = x ++ xs.flatMap fun y => separator ++ y := by
  induction xs generalizing x with
  | nil => simp [List.intercalate]
  | cons y xs ih =>
    rw [List.intercalate_cons_cons, ih y, List.flatMap_cons]
    simp only [List.append_assoc]

/-! ## Predicates -/

/-- **A name is plain** if it has no blank, comma, parenthesis or mark. It may be a keyword. -/
def PlainName (name : String) : Prop := ∀ c ∈ name.toList, c ∉ [' ', ',', '(', ')', '?']

instance {name : String} : Decidable (PlainName name) :=
  List.decidableBAll (fun c => c ∉ [' ', ',', '(', ')', '?']) name.toList

/-- A text in parentheses. -/
def enclosed (t : List Char) : List Char := '(' :: (t ++ [')'])

/-- The members of a group behind its first one. -/
def otherMembers (joiner : Joiner) (rest : List (List Char)) : List Char :=
  rest.flatMap fun t => joiner.separator.toList ++ enclosed t

/-- **The form of a predicate**: a comparison is all up to its mark, and a group has each of its
    members in parentheses. -/
inductive IsPredicate : List Char → Prop
  | comparison {body : List Char} (plain : '?' ∉ body) (outside : body.head? ≠ some '(') :
      IsPredicate (body ++ ['?'])
  | group {joiner : Joiner} {first : List Char} {rest : List (List Char)}
      (hfirst : IsPredicate first) (hrest : ∀ t ∈ rest, IsPredicate t) :
      IsPredicate (enclosed first ++ otherMembers joiner rest)

namespace Condition

theorem text_joined (joiner : Joiner) (a : Clause) (as : List Clause) :
    (Clause.joined joiner.separator (a :: as)).text.toList =
      enclosed a.text.toList ++ otherMembers joiner (as.map fun a => a.text.toList) := by
  rw [Clause.joined, String.toList_intercalate, List.map_cons, List.map_cons, intercalate_cons,
    List.map_map, List.flatMap_map, otherMembers, List.flatMap_map]
  simp [Clause.parenthesized, enclosed]

mutual

/-- Conditions on plain names have predicates of that form. -/
theorem isPredicate_of_compile : ∀ {c : Condition} {a : Clause}, c.compile = .ok a →
    (∀ l ∈ c.leaves, PlainName l.field) → IsPredicate a.text.toList
  | .leaf c, a, h, hplain => by
    obtain ⟨-, rfl⟩ := compile_leaf_eq_ok.1 h
    have hname : PlainName c.field := hplain c (List.mem_singleton_self c)
    have htext : (c.field ++ " " ++ c.operator.sql ++ " ?").toList =
        (c.field.toList ++ ' ' :: (c.operator.sql.toList ++ [' '])) ++ ['?'] := by
      simp
    have hsql : '?' ∉ c.operator.sql.toList := by
      cases c.operator <;> decide
    rw [htext]
    refine .comparison ?_ ?_
    · intro hmem
      simp only [List.mem_append, List.mem_cons] at hmem
      rcases hmem with hmem | hmem | hmem | hmem | hmem
      · exact hname _ hmem (by decide)
      · exact absurd hmem (by decide)
      · exact hsql hmem
      · exact absurd hmem (by decide)
      · cases hmem
    · cases hfield : c.field.toList with
      | nil => simp
      | cons first cs =>
        intro heq
        obtain rfl := Option.some.inj heq
        exact hname '(' (by rw [hfield]; exact List.mem_cons_self) (by decide)
  | .group joiner [], a, h, _ => absurd rfl (compile_group_eq_ok.1 h).1
  | .group joiner (c :: cs), a, h, hplain => by
    obtain ⟨-, clauses, hclauses, rfl⟩ := compile_group_eq_ok.1 h
    obtain ⟨b, bs, hb, hbs, rfl⟩ := compileMembers_cons_eq_ok.1 hclauses
    rw [leaves, memberLeaves] at hplain
    rw [text_joined]
    exact .group (isPredicate_of_compile hb fun l hl => hplain l (List.mem_append_left _ hl))
      (isPredicate_of_compileMembers hbs fun l hl => hplain l (List.mem_append_right _ hl))

theorem isPredicate_of_compileMembers : ∀ {cs : List Condition} {as : List Clause},
    compileMembers cs = .ok as → (∀ l ∈ memberLeaves cs, PlainName l.field) →
      ∀ t ∈ as.map fun a => a.text.toList, IsPredicate t
  | [], as, h, _ => by
    cases h
    exact fun t ht => (List.not_mem_nil ht).elim
  | c :: cs, as, h, hplain => by
    obtain ⟨b, bs, hb, hbs, rfl⟩ := compileMembers_cons_eq_ok.1 h
    rw [memberLeaves] at hplain
    rw [List.map_cons, List.forall_mem_cons]
    exact ⟨isPredicate_of_compile hb fun l hl => hplain l (List.mem_append_left _ hl),
      isPredicate_of_compileMembers hbs fun l hl => hplain l (List.mem_append_right _ hl)⟩

end

end Condition

/-- A text does not go on with AND or OR. -/
def NotJoined (r : List Char) : Prop := ∀ joiner : Joiner, ¬ joiner.separator.toList <+: r

/-- A comparison ends with its mark. -/
theorem legible_comparison :
    Legible (fun body : List Char => body ++ ['?']) (fun body => '?' ∉ body) fun _ => True := by
  intro a b r r' ha hb _ _ heq
  rw [List.append_assoc, List.append_assoc] at heq
  exact Legible.run (p := fun c => c ≠ '?') (fun c hc h => ha (h ▸ hc)) (fun c hc h => hb (h ▸ hc))
    (by simp) (by simp) heq

/-- What is in parentheses is legible before anything. -/
theorem legible_enclosed {ok : List Char → Prop} (h : Legible id ok NotJoined) :
    Legible enclosed ok fun _ => True := by
  have hclose : ∀ r, NotJoined (')' :: r) := by
    rintro r (_ | _) ⟨cs, hcs⟩ <;> cases hcs
  intro a b r r' ha hb _ _ heq
  have hinner : a ++ (')' :: r) = b ++ (')' :: r') := by
    simpa [enclosed] using heq
  exact h ha hb (hclose r) (hclose r') hinner

/-- The text of the members behind the first one can be told, whatever joins them. -/
theorem otherMembers_eq {ok : List Char → Prop} (h : Legible enclosed ok fun _ => True)
    {j j' : Joiner} {rest rest' : List (List Char)} {r r' : List Char} (hrest : ∀ t ∈ rest, ok t)
    (hrest' : ∀ t ∈ rest', ok t) (hr : NotJoined r) (hr' : NotJoined r')
    (heq : otherMembers j rest ++ r = otherMembers j' rest' ++ r') :
    otherMembers j rest = otherMembers j' rest' := by
  have hcons : ∀ (j : Joiner) (t : List Char) (rest : List (List Char)) (r : List Char),
      otherMembers j (t :: rest) ++ r =
        j.separator.toList ++ (enclosed t ++ (otherMembers j rest ++ r)) := by
    intro j t rest r
    simp only [otherMembers, List.flatMap_cons, List.append_assoc]
  rcases rest with _ | ⟨t, rest⟩ <;> rcases rest' with _ | ⟨t', rest'⟩
  · rfl
  · rw [hcons] at heq
    exact absurd ⟨_, heq.symm⟩ (hr j')
  · rw [hcons] at heq
    exact absurd ⟨_, heq⟩ (hr' j)
  · have hsame : j = j' := by
      rw [hcons, hcons] at heq
      cases j <;> cases j' <;> first | rfl | simp [Joiner.separator] at heq
    subst hsame
    have hitem : Legible enclosed ok fun r => NotJoined r ∨ j.separator.toList <+: r :=
      h.mono (fun _ ht => ht) fun _ _ => trivial
    rw [hitem.items (fun r hr => hr j) hrest hrest' hr hr' heq]

theorem length_lt_group {joiner : Joiner} {first t : List Char} {rest : List (List Char)}
    (h : t = first ∨ t ∈ rest) :
    t.length < (enclosed first ++ otherMembers joiner rest).length := by
  rcases h with rfl | h
  · simp only [enclosed, List.length_append, List.length_cons]
    omega
  · obtain ⟨before, after, rfl⟩ := List.append_of_mem h
    simp only [enclosed, otherMembers, List.flatMap_append, List.flatMap_cons, List.length_append,
      List.length_cons]
    omega

/-- A comparison does not begin as a group does. -/
theorem comparison_ne_enclosed {body t cs r r' : List Char} (h : body.head? ≠ some '(') :
    ¬ body ++ ['?'] ++ r = enclosed t ++ cs ++ r' := by
  rintro heq
  cases body with
  | nil => cases heq
  | cons c body =>
    obtain ⟨rfl, -⟩ := List.cons.inj heq
    exact h rfl

/-- **Predicates are legible** before anything but AND and OR. The induction is on a bound of
    the lengths, so that the members of groups are legible before the groups are. -/
theorem legible_predicate : Legible id IsPredicate NotJoined := by
  have hbounded : ∀ n, Legible id (fun t => IsPredicate t ∧ t.length < n) NotJoined := by
    intro n
    induction n with
    | zero => exact fun _ _ _ _ ha => absurd ha.2 (Nat.not_lt_zero _)
    | succ n ih =>
      rintro a b r r' ⟨ha, hlength⟩ ⟨hb, hlength'⟩ hr hr' heq
      cases ha with
      | comparison plain outside =>
        cases hb with
        | comparison plain' outside' =>
          rw [legible_comparison plain plain' trivial trivial heq]
        | group => exact absurd heq (comparison_ne_enclosed outside)
      | @group j first rest hfirst hrest =>
        cases hb with
        | comparison plain' outside' => exact absurd heq.symm (comparison_ne_enclosed outside')
        | @group j' first' rest' hfirst' hrest' =>
          have hmembers := legible_enclosed ih
          have hlt : ∀ t, t = first ∨ t ∈ rest → t.length < n := fun t ht =>
            Nat.lt_of_lt_of_le (length_lt_group ht) (Nat.le_of_lt_succ hlength)
          have hlt' : ∀ t, t = first' ∨ t ∈ rest' → t.length < n := fun t ht =>
            Nat.lt_of_lt_of_le (length_lt_group ht) (Nat.le_of_lt_succ hlength')
          rw [id, id, List.append_assoc, List.append_assoc] at heq
          obtain ⟨rfl, htail⟩ := hmembers.split ⟨hfirst, hlt first (Or.inl rfl)⟩
            ⟨hfirst', hlt' first' (Or.inl rfl)⟩ trivial trivial heq
          exact congrArg (enclosed first ++ ·) (otherMembers_eq hmembers
            (fun t ht => ⟨hrest t ht, hlt t (Or.inr ht)⟩)
            (fun t ht => ⟨hrest' t ht, hlt' t (Or.inr ht)⟩) hr hr' htail)
  intro a b r r' ha hb
  exact hbounded (max a.length b.length + 1) ⟨ha, by omega⟩ ⟨hb, by omega⟩

end RowQuery

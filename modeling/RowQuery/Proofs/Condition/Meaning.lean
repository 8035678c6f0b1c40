/-
  RowQuery — what compiled conditions mean.

  A condition on plain names is read back from its text as the predicate that joins its
  members from left to right. Groups of one member leave no joiner in the text, and members
  are in parentheses, so precedence never comes between the members of a group.

  * `Condition.truth`: the truth of a condition, folded over its tree by the joiners;
  * `Condition.nested_tokens`: the reader takes the tokens of a condition and no others;
  * `Condition.meaning`: the text is read as a whole, with the comparisons of the tree in
    pre-order, and it is true, false or unknown whenever the tree is.
-/
import RowQuery.Proofs.Condition.Predicate
import RowQuery.Proofs.Condition.Spelling

namespace RowQuery

open Database Database.Reading

/-! ## Truth of conditions -/

namespace Joiner

/-- The truth of two members that are joined. -/
def combine : Joiner → Option Bool → Option Bool → Option Bool
  | and => Truth.and
  | or => Truth.or

/-- The truth of a group that says nothing. -/
def unit : Joiner → Option Bool
  | and => some true
  | or => some false

/-- The truth of a group, by those of its members. -/
def fold (joiner : Joiner) (ts : List (Option Bool)) : Option Bool :=
  ts.foldr joiner.combine joiner.unit

theorem combine_unit (joiner : Joiner) (a : Option Bool) : joiner.combine a joiner.unit = a := by
  cases joiner <;> rcases a with _ | _ | _ <;> rfl

theorem combine_assoc (joiner : Joiner) (a b c : Option Bool) :
    joiner.combine (joiner.combine a b) c = joiner.combine a (joiner.combine b c) := by
  cases joiner <;> rcases a with _ | _ | _ <;> rcases b with _ | _ | _ <;>
    rcases c with _ | _ | _ <;> rfl

/-- Two predicates with a joiner between them. -/
def join : Joiner → Predicate → Predicate → Predicate
  | and => .and
  | or => .or

theorem truth_join (joiner : Joiner) (v : Nat → Option Bool) (a b : Predicate) :
    (joiner.join a b).truth v = joiner.combine (a.truth v) (b.truth v) := by
  cases joiner <;> rfl

theorem comparisons_join (joiner : Joiner) (a b : Predicate) :
    (joiner.join a b).comparisons = a.comparisons ++ b.comparisons := by
  cases joiner <;> rfl

end Joiner

namespace Condition

mutual

/-- **The truth of a condition** when those of its comparisons are known; they are numbered
    in pre-order, after so many others. -/
def truth (v : Nat → Option Bool) (before : Nat) : Condition → Option Bool
  | leaf _ => v (before + 1)
  | group joiner members => joiner.fold (memberTruths v before members)

/-- The truths of conditions. -/
def memberTruths (v : Nat → Option Bool) (before : Nat) : List Condition → List (Option Bool)
  | [] => []
  | c :: cs => c.truth v before :: memberTruths v (before + c.leaves.length) cs

end

/-! ## Predicates of conditions -/

mutual

/-- The predicate that a condition is read as, after so many marks. -/
def predicate (marks : Nat) : Condition → Predicate
  | leaf c => .comparison c.field c.operator.sql (marks + 1)
  | group _ [] => .comparison "" "" 0
  | group joiner (c :: cs) =>
    joinFollowing joiner (marks + c.leaves.length) (c.predicate marks) cs

/-- A predicate with those of further members joined to it. -/
def joinFollowing (joiner : Joiner) (marks : Nat) (e : Predicate) : List Condition → Predicate
  | [] => e
  | c :: cs =>
    joinFollowing joiner (marks + c.leaves.length) (joiner.join e (c.predicate marks)) cs

end

/-- The comparisons of a tree: field, operator and number, after so many marks. -/
def numbered (marks : Nat) (ls : List Comparison) : List (String × String × Nat) :=
  (ls.zipIdx (marks + 1)).map fun l => (l.1.field, l.1.operator.sql, l.2)

theorem numbered_append (marks : Nat) (as bs : List Comparison) :
    numbered marks (as ++ bs) = numbered marks as ++ numbered (marks + as.length) bs := by
  rw [numbered, List.zipIdx_append, List.map_append, numbered, numbered, Nat.add_right_comm]

mutual

theorem comparisons_predicate : ∀ {c : Condition}, c.NoEmptyGroup → ∀ marks : Nat,
    (c.predicate marks).comparisons = numbered marks c.leaves
  | .leaf c, _, marks => rfl
  | .group joiner [], h, _ => absurd rfl h.1
  | .group joiner (c :: cs), h, marks => by
    obtain ⟨-, hc, hcs⟩ := h
    rw [predicate, comparisons_joinFollowing joiner hcs, comparisons_predicate hc, leaves,
      memberLeaves, numbered_append]

theorem comparisons_joinFollowing (joiner : Joiner) : ∀ {cs : List Condition}, NoneEmpty cs →
    ∀ (marks : Nat) (e : Predicate), (joinFollowing joiner marks e cs).comparisons =
      e.comparisons ++ numbered marks (memberLeaves cs)
  | [], _, marks, e => by simp [joinFollowing, memberLeaves, numbered]
  | c :: cs, h, marks, e => by
    obtain ⟨hc, hcs⟩ := h
    rw [joinFollowing, comparisons_joinFollowing joiner hcs, joiner.comparisons_join,
      comparisons_predicate hc, memberLeaves, numbered_append, List.append_assoc]

end

mutual

theorem truth_predicate (v : Nat → Option Bool) : ∀ {c : Condition}, c.NoEmptyGroup →
    ∀ marks : Nat, (c.predicate marks).truth v = c.truth v marks
  | .leaf c, _, marks => rfl
  | .group joiner [], h, _ => absurd rfl h.1
  | .group joiner (c :: cs), h, marks => by
    obtain ⟨-, hc, hcs⟩ := h
    rw [predicate, truth_joinFollowing v joiner hcs, truth_predicate v hc, truth, memberTruths]
    rfl

theorem truth_joinFollowing (v : Nat → Option Bool) (joiner : Joiner) :
    ∀ {cs : List Condition}, NoneEmpty cs → ∀ (marks : Nat) (e : Predicate),
      (joinFollowing joiner marks e cs).truth v =
        joiner.combine (e.truth v) (joiner.fold (memberTruths v marks cs))
  | [], _, marks, e => (joiner.combine_unit (e.truth v)).symm
  | c :: cs, h, marks, e => by
    obtain ⟨hc, hcs⟩ := h
    rw [joinFollowing, truth_joinFollowing v joiner hcs, joiner.truth_join, truth_predicate v hc,
      joiner.combine_assoc, memberTruths]
    rfl

end

/-! ## Reading -/

open Predicate

theorem operatorReading_tokens (op : Operator) (rest : List Token) :
    operatorReading (op.tokens ++ rest) = .ok (op.sql, rest) := by
  cases op <;> rfl

/-- A comparison is read from its tokens, whatever follows. -/
theorem primary_leafTokens {c : Comparison} (h : Token.IsPlain c.field) (inner : Reading Predicate)
    (gap : List Char) (marks : Nat) (rest : List Token) :
    primary inner (leafTokens gap marks c ++ rest) =
      .ok (.comparison c.field c.operator.sql (marks + 1), rest) := by
  have hsymbol : symbol? "(" (leafTokens gap marks c ++ rest) =
      .ok (false, leafTokens gap marks c ++ rest) := rfl
  have hname : nameOf ⟨gap, c.field, .word⟩ = some (c.field, false) := by
    have hreserved : reserved.contains (asciiLower c.field) = false := by
      rw [Bool.eq_false_iff]
      exact fun hc => h.2 (List.contains_iff_mem.1 hc)
    rw [nameOf]
    simp only [hreserved]
    rfl
  have hfield : take nameOf (leafTokens gap marks c ++ rest) =
      .ok ((c.field, false), c.operator.tokens ++ ⟨[' '], "?", .mark (marks + 1)⟩ :: rest) := by
    simp only [leafTokens, List.cons_append, take, hname, List.append_assoc, List.nil_append]
  have hoperator := operatorReading_tokens c.operator (⟨[' '], "?", .mark (marks + 1)⟩ :: rest)
  have hmark : take markOf (⟨[' '], "?", .mark (marks + 1)⟩ :: rest) = .ok (marks + 1, rest) := rfl
  rw [primary, bind_of_ok hsymbol, if_neg Bool.false_ne_true, comparisonReading, bind_of_ok hfield,
    bind_of_ok hoperator, bind_of_ok hmark]
  rfl

/-- A predicate in parentheses is read like a comparison, whatever follows. -/
theorem primary_parenthesizedTokens {inner : Reading Predicate} {e : Predicate} {ts : List Token}
    (h : ∀ rest, inner (ts ++ ⟨[], ")", .symbol⟩ :: rest) = .ok (e, ⟨[], ")", .symbol⟩ :: rest))
    (gap : List Char) (rest : List Token) :
    primary inner (parenthesizedTokens gap ts ++ rest) = .ok (e, rest) := by
  have htokens : parenthesizedTokens gap ts ++ rest =
      ⟨gap, "(", .symbol⟩ :: (ts ++ ⟨[], ")", .symbol⟩ :: rest) := by simp [parenthesizedTokens]
  rw [htokens]
  exact primary_parentheses (h rest)

theorem isWord_token (joiner : Joiner) : joiner.token.isWord joiner.name = true := by
  cases joiner <;> rfl

theorem length_le_followingTokens (joiner : Joiner) :
    ∀ (cs : List Condition) (marks : Nat), cs.length ≤ (followingTokens joiner marks cs).length
  | [], _ => Nat.le_refl 0
  | c :: cs, marks => by
    have hrest := length_le_followingTokens joiner cs (marks + c.leaves.length)
    rw [followingTokens]
    simp only [List.length_cons, List.length_append]
    omega

/-- The members of a group after the first are read one by one. `P` is what the reader of
    members has to know of the tokens behind a member. -/
theorem chain_followingTokens {joiner : Joiner} {next : Reading Predicate}
    {P : List Token → Prop} {rest : List Token} (hlacks : Lacks joiner.name rest)
    (hP : ∀ cs marks, P (followingTokens joiner marks cs ++ rest)) :
    ∀ {cs : List Condition},
      (∀ c ∈ cs, ∀ marks ts, P ts →
        next (parenthesizedTokens [' '] (c.tokens [] marks) ++ ts) = .ok (c.predicate marks, ts)) →
      ∀ {n : Nat}, cs.length ≤ n → ∀ (marks : Nat) (e : Predicate),
        chain (joined joiner.name joiner.join next) n e (followingTokens joiner marks cs ++ rest) =
          .ok (joinFollowing joiner marks e cs, rest)
  | [], _, n, _, marks, e => chain_joined_of_lacks hlacks n
  | c :: cs, hnext, n, hn, marks, e => by
    obtain ⟨n, rfl⟩ : ∃ m, n = m + 1 := ⟨n - 1, by simp at hn; omega⟩
    have hmember := hnext c List.mem_cons_self marks _ (hP cs (marks + c.leaves.length))
    have hothers := chain_followingTokens hlacks hP
      (fun d hd => hnext d (List.mem_cons_of_mem c hd)) (Nat.le_of_succ_le_succ hn)
      (marks + c.leaves.length) (joiner.join e (c.predicate marks))
    rw [followingTokens, List.cons_append, List.append_assoc,
      chain_joined (isWord_token joiner) hmember, hothers, joinFollowing]

/-- The members of a group after the first are all taken. -/
theorem repeated_followingTokens {joiner : Joiner} {next : Reading Predicate}
    {P : List Token → Prop} {rest : List Token} (hlacks : Lacks joiner.name rest)
    (hP : ∀ cs marks, P (followingTokens joiner marks cs ++ rest)) {cs : List Condition}
    (hnext : ∀ c ∈ cs, ∀ marks ts, P ts →
      next (parenthesizedTokens [' '] (c.tokens [] marks) ++ ts) = .ok (c.predicate marks, ts))
    (marks : Nat) (e : Predicate) :
    repeated (joined joiner.name joiner.join next) e (followingTokens joiner marks cs ++ rest) =
      .ok (joinFollowing joiner marks e cs, rest) := by
  have hlength := length_le_followingTokens joiner cs marks
  have hn : cs.length ≤ (followingTokens joiner marks cs ++ rest).length := by
    rw [List.length_append]
    omega
  rw [repeated_eq_chain]
  exact chain_followingTokens hlacks hP hnext hn marks e

/-! ## Whole conditions -/

mutual

/-- How deep groups are nested in a condition. -/
def depth : Condition → Nat
  | leaf _ => 0
  | group _ members => memberDepth members + 1

/-- How deep groups are nested in conditions. -/
def memberDepth : List Condition → Nat
  | [] => 0
  | c :: cs => max c.depth (memberDepth cs)

end

/-- What may follow the tokens of a predicate: no joiner. -/
def Stops (rest : List Token) : Prop := Lacks "and" rest ∧ Lacks "or" rest

theorem stops_parenthesis (rest : List Token) : Stops (⟨[], ")", .symbol⟩ :: rest) :=
  ⟨by rintro t ⟨⟩; rfl, by rintro t ⟨⟩; rfl⟩

theorem lacks_and_followingTokens {rest : List Token} (h : Lacks "and" rest)
    (cs : List Condition) (marks : Nat) : Lacks "and" (followingTokens .or marks cs ++ rest) := by
  cases cs with
  | nil => exact h
  | cons c cs =>
    rintro t ⟨⟩
    rfl

/-- Conjunctions that are one operand. -/
theorem conjunctions_of_primary {inner : Reading Predicate} {e : Predicate} {ts rest : List Token}
    (h : primary inner ts = .ok (e, rest)) (hlacks : Lacks "and" rest) :
    conjunctions inner ts = .ok (e, rest) := by
  rw [conjunctions, bind_of_ok h, repeated_eq_chain]
  exact chain_joined_of_lacks hlacks _

/-- Disjunctions that are one conjunction. -/
theorem disjunctions_of_conjunctions {inner : Reading Predicate} {e : Predicate}
    {ts rest : List Token} (h : conjunctions inner ts = .ok (e, rest)) (hlacks : Lacks "or" rest) :
    disjunctions inner ts = .ok (e, rest) := by
  rw [disjunctions, bind_of_ok h, repeated_eq_chain]
  exact chain_joined_of_lacks hlacks _

/-- The tokens of a group are read if those of its members are. -/
theorem disjunctions_group {inner : Reading Predicate} (joiner : Joiner) {c : Condition}
    {cs : List Condition} {rest : List Token} (hstops : Stops rest)
    (hinner : ∀ d ∈ c :: cs, ∀ marks ts, Stops ts →
      inner (d.tokens [] marks ++ ts) = .ok (d.predicate marks, ts))
    (gap : List Char) (marks : Nat) :
    disjunctions inner ((group joiner (c :: cs)).tokens gap marks ++ rest) =
      .ok ((group joiner (c :: cs)).predicate marks, rest) := by
  have hmember : ∀ d ∈ c :: cs, ∀ (g : List Char) marks ts,
      primary inner (parenthesizedTokens g (d.tokens [] marks) ++ ts) =
        .ok (d.predicate marks, ts) := by
    intro d hd g marks ts
    exact primary_parenthesizedTokens
      (fun after => hinner d hd marks _ (stops_parenthesis after)) g ts
  have hfirst := hmember c List.mem_cons_self gap marks
    (followingTokens joiner (marks + c.leaves.length) cs ++ rest)
  rw [tokens, predicate, List.append_assoc]
  cases joiner with
  | and =>
    -- all members are in one conjunction, which is the only disjunct
    have hand : Lacks (Joiner.name .and) rest := hstops.1
    have hothers := repeated_followingTokens (P := fun _ => True) hand (fun _ _ => trivial)
      (fun d hd marks ts _ => hmember d (List.mem_cons_of_mem c hd) [' '] marks ts)
      (marks + c.leaves.length) (c.predicate marks)
    have hconjunctions : conjunctions inner (parenthesizedTokens gap (c.tokens [] marks) ++
        (followingTokens .and (marks + c.leaves.length) cs ++ rest)) =
        .ok (joinFollowing .and (marks + c.leaves.length) (c.predicate marks) cs, rest) := by
      rw [conjunctions, bind_of_ok hfirst]
      exact hothers
    exact disjunctions_of_conjunctions hconjunctions hstops.2
  | or =>
    -- behind a member is an OR or what follows the group, so its conjunction ends there
    have hor : Lacks (Joiner.name .or) rest := hstops.2
    have hlacks := lacks_and_followingTokens hstops.1
    have hconjunctions := conjunctions_of_primary hfirst (hlacks cs (marks + c.leaves.length))
    have hothers := repeated_followingTokens hor hlacks
      (fun d hd marks ts hts => conjunctions_of_primary
        (hmember d (List.mem_cons_of_mem c hd) [' '] marks ts) hts)
      (marks + c.leaves.length) (c.predicate marks)
    rw [disjunctions, bind_of_ok hconjunctions]
    exact hothers

mutual

/-- **The tokens of a condition are read as its predicate**, and no others with them. -/
theorem nested_tokens : ∀ {c : Condition}, c.NoEmptyGroup → c.PlainFields →
    ∀ {depth : Nat}, c.depth < depth → ∀ (gap : List Char) (marks : Nat) {rest : List Token},
      Stops rest → nested depth (c.tokens gap marks ++ rest) = .ok (c.predicate marks, rest)
  | .leaf c, _, hp, depth + 1, _, gap, marks, rest, hstops => by
    have hplain : Token.IsPlain c.field := hp c (List.mem_singleton_self c)
    have hprimary := primary_leafTokens hplain (nested depth) gap marks rest
    rw [nested]
    exact disjunctions_of_conjunctions (conjunctions_of_primary hprimary hstops.1) hstops.2
  | .group joiner [], h, _, _, _, _, _, _, _ => absurd rfl h.1
  | .group joiner (c :: cs), h, hp, depth + 1, hd, gap, marks, rest, hstops => by
    have hdepth : memberDepth (c :: cs) < depth := Nat.lt_of_succ_lt_succ hd
    rw [nested]
    exact disjunctions_group joiner hstops (nested_memberTokens h.2 hp hdepth) gap marks

theorem nested_memberTokens : ∀ {cs : List Condition}, NoneEmpty cs →
    (∀ l ∈ memberLeaves cs, Token.IsPlain l.field) → ∀ {depth : Nat}, memberDepth cs < depth →
      ∀ c ∈ cs, ∀ marks ts, Stops ts →
        nested depth (c.tokens [] marks ++ ts) = .ok (c.predicate marks, ts)
  | [], _, _, _, _, c, hc => by cases hc
  | d :: cs, h, hp, depth, hdepth, c, hc => by
    intro marks ts hts
    simp only [memberLeaves, List.mem_append] at hp
    rw [memberDepth] at hdepth
    rcases List.mem_cons.1 hc with heq | hc
    · rw [heq]
      exact nested_tokens h.1 (fun l hl => hp l (Or.inl hl)) (by omega) [] marks hts
    · exact nested_memberTokens h.2 (fun l hl => hp l (Or.inr hl)) (by omega) c hc marks ts hts

end

mutual

/-- Groups are not nested deeper than there are tokens. -/
theorem depth_le_length : ∀ {c : Condition}, c.NoEmptyGroup → ∀ (gap : List Char) (marks : Nat),
    c.depth ≤ (c.tokens gap marks).length
  | .leaf c, _, gap, marks => Nat.zero_le _
  | .group joiner [], h, _, _ => absurd rfl h.1
  | .group joiner (c :: cs), h, gap, marks => by
    obtain ⟨-, hc, hcs⟩ := h
    have hfirst := depth_le_length hc [] marks
    have hothers := memberDepth_le_length joiner hcs (marks + c.leaves.length)
    rw [depth, memberDepth, tokens, parenthesizedTokens]
    simp only [List.length_append, List.length_cons, List.length_nil]
    omega

theorem memberDepth_le_length (joiner : Joiner) : ∀ {cs : List Condition}, NoneEmpty cs →
    ∀ marks : Nat, memberDepth cs ≤ (followingTokens joiner marks cs).length
  | [], _, _ => Nat.zero_le _
  | c :: cs, h, marks => by
    obtain ⟨hc, hcs⟩ := h
    have hfirst := depth_le_length hc [] marks
    have hothers := memberDepth_le_length joiner hcs (marks + c.leaves.length)
    rw [memberDepth, followingTokens, parenthesizedTokens]
    simp only [List.length_append, List.length_cons, List.length_nil]
    omega

end

/-! ## Meaning -/

theorem ne_empty_of_isPlain {name : String} (h : Token.IsPlain name) : name ≠ "" := by
  rintro rfl
  exact absurd h.1 (by decide)

/-- A compiled condition on plain names is read back as its predicate. -/
theorem ofText?_compile {c : Condition} {clause : Clause} (h : c.compile = .ok clause)
    (hne : c.NoEmptyGroup) (hp : c.PlainFields) :
    Predicate.ofText? clause.text = some (c.predicate 0) := by
  have hscan : Token.ofStatement clause.text = c.tokens [] 0 := by
    have hs := scan_compile h hp 0 [] [] (by rintro d ⟨⟩)
    rw [List.append_nil, Token.scan_nil, List.append_nil] at hs
    exact hs
  have hstops : Stops [] := ⟨by rintro t ⟨⟩, by rintro t ⟨⟩⟩
  have hdepth : c.depth < (c.tokens [] 0).length + 1 := Nat.lt_succ_of_le (depth_le_length hne [] 0)
  have hnested := nested_tokens hne hp hdepth [] 0 hstops
  rw [List.append_nil] at hnested
  have hleft : left (c.tokens [] 0) = .ok ((c.tokens [] 0).length, c.tokens [] 0) := rfl
  rw [ofText?, hscan, reading, bind_of_ok hleft, hnested]

/-- **Compilation preserves meaning**: the text of a condition on plain names is a predicate as
    a whole; its comparisons are those of the condition in pre-order, and it has the truth of
    the condition, whichever comparisons are true, false or unknown. -/
theorem meaning {c : Condition} (hne : c.NoEmptyGroup) (hp : c.PlainFields) :
    ∃ clause e, c.compile = .ok clause ∧ Predicate.ofText? clause.text = some e ∧
      e.comparisons = numbered 0 c.leaves ∧ ∀ v, e.truth v = c.truth v 0 := by
  have hfields : ∀ l ∈ c.leaves, l.field ≠ "" := fun l hl => ne_empty_of_isPlain (hp l hl)
  obtain ⟨clause, hcompile⟩ := exists_compile hne hfields
  refine ⟨clause, c.predicate 0, hcompile, ofText?_compile hcompile hne hp, ?_, ?_⟩
  · exact comparisons_predicate hne 0
  · intro v
    exact truth_predicate v hne 0

/-- A disjunction in a conjunction, with a group of one member in it. -/
theorem meaning_nested :
    let c : Condition := .and [.or [.leaf ⟨"a", .notWithin, .list []⟩, .leaf ⟨"b", .ne, .int 1⟩],
      .or [.leaf ⟨"c", .like, .null⟩]]
    c.NoEmptyGroup ∧ c.PlainFields ∧
      ∃ clause e, c.compile = .ok clause ∧ Predicate.ofText? clause.text = some e ∧
        e.comparisons = numbered 0 c.leaves ∧ ∀ v, e.truth v = c.truth v 0 := by
  intro c
  have hne : c.NoEmptyGroup := by
    simp [c, Condition.and, Condition.or, NoEmptyGroup, NoneEmpty]
  have hp : c.PlainFields := by
    have hall : ∀ l ∈ c.leaves, Token.IsPlain l.field := by decide
    exact hall
  exact ⟨hne, hp, meaning hne hp⟩

end Condition

end RowQuery

/-
  RowQuery — the tokens of compiled conditions.

  The predicate of a condition on plain names is split into one token for the name of each
  field, one or two for its operator and one for its mark, and those of parentheses and
  joiners around them.

  * `Condition.tokens` are the tokens, after a gap and so many marks;
  * `Condition.scan_compile`: they are what the text is split into, and the marks that
    follow are numbered after those of the condition.
-/
import RowQuery.Proofs.Condition.Compile
import RowQuery.Proofs.Database.Tokens

namespace RowQuery

open Database

/-! ## Tokens -/

/-- The tokens of an operator after a blank. -/
def Operator.tokens : Operator → List Token
  | notWithin => [⟨[' '], "NOT", .word⟩, ⟨[' '], "IN", .word⟩]
  | within => [⟨[' '], "IN", .word⟩]
  | like => [⟨[' '], "LIKE", .word⟩]
  | op => [⟨[' '], op.sql, .symbol⟩]

/-- The token of a joiner after a blank. -/
def Joiner.token : Joiner → Token
  | and => ⟨[' '], "AND", .word⟩
  | or => ⟨[' '], "OR", .word⟩

namespace Condition

/-- The tokens of a comparison. -/
def leafTokens (gap : List Char) (marks : Nat) (c : Comparison) : List Token :=
  ⟨gap, c.field, .word⟩ :: (c.operator.tokens ++ [⟨[' '], "?", .mark (marks + 1)⟩])

/-- Tokens in parentheses. -/
def parenthesizedTokens (gap : List Char) (ts : List Token) : List Token :=
  ⟨gap, "(", .symbol⟩ :: (ts ++ [⟨[], ")", .symbol⟩])

mutual

/-- The tokens of the predicate of a condition, after a gap and so many marks. -/
def tokens (gap : List Char) (marks : Nat) : Condition → List Token
  | leaf c => leafTokens gap marks c
  | group _ [] => []
  | group joiner (c :: cs) =>
    parenthesizedTokens gap (c.tokens [] marks) ++
      followingTokens joiner (marks + c.leaves.length) cs

/-- The tokens of the members of a group after the first. -/
def followingTokens (joiner : Joiner) (marks : Nat) : List Condition → List Token
  | [] => []
  | c :: cs =>
    joiner.token :: (parenthesizedTokens [' '] (c.tokens [] marks) ++
      followingTokens joiner (marks + c.leaves.length) cs)

end

/-- Whether all fields of a condition have plain names. -/
def PlainFields (c : Condition) : Prop := ∀ l ∈ c.leaves, Token.IsPlain l.field

/-! ## Splitting -/

variable {marks : Nat} {gap : List Char}

/-- An operator between blanks is split into its tokens. -/
theorem scan_operator (op : Operator) (rest : List Char) :
    Token.scan marks [] (' ' :: (op.sql.toList ++ ' ' :: rest)) =
      op.tokens ++ Token.scan marks [] (' ' :: rest) := by
  rw [Token.scan_blank, List.nil_append]
  cases op with
  | within => exact @Token.scan_word marks [' '] "IN" (by decide) rest
  | like => exact @Token.scan_word marks [' '] "LIKE" (by decide) rest
  | notWithin =>
    have hnot := @Token.scan_word marks [' '] "NOT" (by decide) ("IN".toList ++ ' ' :: rest)
    have hin := @Token.scan_word marks [' '] "IN" (by decide) rest
    rw [Token.scan_blank, List.nil_append, hin] at hnot
    exact hnot
  | eq | ne | gt | lt | gte | lte => exact Token.scan_comparison (by decide) rest

/-- What may follow a predicate: nothing, or the end of parentheses. -/
def Closes (rest : List Char) : Prop := ∀ c ∈ rest.head?, c = ')'

theorem scan_leaf {c : Comparison} (h : Token.IsPlain c.field) {rest : List Char}
    (hr : Closes rest) :
    Token.scan marks gap ((c.field ++ " " ++ c.operator.sql ++ " ?").toList ++ rest) =
      leafTokens gap marks c ++ Token.scan (marks + 1) [] rest := by
  have htext : (c.field ++ " " ++ c.operator.sql ++ " ?").toList ++ rest =
      c.field.toList ++ ' ' :: (c.operator.sql.toList ++ ' ' :: '?' :: rest) := by simp
  have hdigit : rest.head?.all (fun c => !c.isDigit) = true := by
    cases rest with
    | nil => rfl
    | cons d ds =>
      obtain rfl : d = ')' := hr d rfl
      rfl
  rw [htext, Token.scan_word h.1, scan_operator, Token.scan_blank, List.nil_append,
    Token.scan_mark hdigit]
  simp [leafTokens]

theorem scan_parenthesized {text rest : List Char} {ts : List Token} {after : Nat}
    (h : Token.scan marks [] (text ++ ')' :: rest) = ts ++ Token.scan after [] (')' :: rest)) :
    Token.scan marks gap ('(' :: (text ++ ')' :: rest)) =
      parenthesizedTokens gap ts ++ Token.scan after [] rest := by
  rw [Token.scan_lone (by decide), h, Token.scan_lone (by decide)]
  simp [parenthesizedTokens]

theorem scan_separator (joiner : Joiner) (rest : List Char) :
    Token.scan marks [] (joiner.separator.toList ++ '(' :: rest) =
      joiner.token :: Token.scan marks [' '] ('(' :: rest) := by
  have hword : ∀ w : String, Token.isWordText w.toList = true →
      Token.scan marks [] (' ' :: (w.toList ++ ' ' :: '(' :: rest)) =
        ⟨[' '], w, .word⟩ :: Token.scan marks [' '] ('(' :: rest) := by
    intro w hw
    rw [Token.scan_blank, Token.scan_word hw, Token.scan_blank]
    rfl
  cases joiner with
  | and => exact hword "AND" (by decide)
  | or => exact hword "OR" (by decide)

/-- The text of the members of a group after the first. -/
def followingText (joiner : Joiner) (as : List Clause) : List Char :=
  as.flatMap fun a => joiner.separator.toList ++ '(' :: (a.text.toList ++ [')'])

theorem text_joined_cons (joiner : Joiner) (a : Clause) (as : List Clause) :
    (Clause.joined joiner.separator (a :: as)).text.toList =
      '(' :: (a.text.toList ++ ')' :: followingText joiner as) := by
  rw [Clause.joined, String.toList_intercalate]
  induction as generalizing a with
  | nil => simp [Clause.parenthesized, followingText]
  | cons b bs ih =>
    have htail := ih b
    simp only [List.map_cons, List.intercalate_cons_cons] at htail ⊢
    rw [htail]
    simp [Clause.parenthesized, followingText]

mutual

/-- **The text of a compiled condition on plain names is split into its tokens.** -/
theorem scan_compile : ∀ {c : Condition} {clause : Clause}, c.compile = .ok clause →
    c.PlainFields → ∀ (marks : Nat) (gap rest : List Char), Closes rest →
      Token.scan marks gap (clause.text.toList ++ rest) =
        c.tokens gap marks ++ Token.scan (marks + c.leaves.length) [] rest
  | .leaf c, clause, h, hp, marks, gap, rest, hr => by
    obtain ⟨-, rfl⟩ := compile_leaf_eq_ok.1 h
    have hplain : Token.IsPlain c.field := hp c (List.mem_singleton_self c)
    exact scan_leaf hplain hr
  | .group joiner [], clause, h, _, _, _, _, _ => by cases h
  | .group joiner (c :: cs), clause, h, hp, marks, gap, rest, _ => by
    obtain ⟨-, clauses, hm, rfl⟩ := compile_group_eq_ok.1 h
    obtain ⟨a, as, ha, has, rfl⟩ := compileMembers_cons_eq_ok.1 hm
    simp only [PlainFields, leaves, memberLeaves, List.mem_append] at hp
    -- the first member up to its parenthesis, and the others behind it
    have hfirst := scan_compile ha (fun l hl => hp l (Or.inl hl)) marks []
      (')' :: (followingText joiner as ++ rest)) (by rintro d ⟨⟩; rfl)
    have hothers := scan_following joiner has (fun l hl => hp l (Or.inr hl))
      (marks + c.leaves.length) rest
    rw [text_joined_cons, List.cons_append, List.append_assoc, List.cons_append,
      scan_parenthesized hfirst, hothers, tokens, leaves, memberLeaves, List.length_append,
      List.append_assoc, Nat.add_assoc]

theorem scan_following (joiner : Joiner) : ∀ {cs : List Condition} {as : List Clause},
    compileMembers cs = .ok as → (∀ l ∈ memberLeaves cs, Token.IsPlain l.field) →
      ∀ (marks : Nat) (rest : List Char),
        Token.scan marks [] (followingText joiner as ++ rest) =
          followingTokens joiner marks cs ++
            Token.scan (marks + (memberLeaves cs).length) [] rest
  | [], as, h, _, marks, rest => by
    cases h
    rfl
  | c :: cs, clauses, h, hp, marks, rest => by
    obtain ⟨a, as, ha, has, rfl⟩ := compileMembers_cons_eq_ok.1 h
    simp only [memberLeaves, List.mem_append] at hp
    have hfirst := scan_compile ha (fun l hl => hp l (Or.inl hl)) marks []
      (')' :: (followingText joiner as ++ rest)) (by rintro d ⟨⟩; rfl)
    have hothers := scan_following joiner has (fun l hl => hp l (Or.inr hl))
      (marks + c.leaves.length) rest
    have htext : followingText joiner (a :: as) ++ rest = joiner.separator.toList ++
        '(' :: (a.text.toList ++ ')' :: (followingText joiner as ++ rest)) := by
      simp [followingText]
    rw [htext, scan_separator, scan_parenthesized hfirst, hothers, followingTokens, memberLeaves,
      List.length_append, List.cons_append, List.append_assoc, Nat.add_assoc]

end

end Condition

end RowQuery

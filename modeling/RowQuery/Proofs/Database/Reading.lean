/-
  RowQuery — how the readers of a database take the tokens in front of them.

  A reader that succeeds takes some tokens and leaves the others, so a text is read part by
  part: each reader has a lemma on the tokens that it takes, whatever follows them, as long
  as what follows does not go on with them.

  * `bind_of_ok`: one reader after the other;
  * `repeated_eq_chain`, `repeated_of_none`, `repeated_of_some`: readers that go on;
  * `commaList_listTokens`: items with commas between them;
  * `Expr.reading_mark`, `Expr.reading_equation`: a mark on its own, and one that is compared
    with a name;
  * `Command.ofTokens_of_ok`: a whole statement.
-/
import RowQuery.Database.Command
import RowQuery.Proofs.Database.Tokens

namespace RowQuery

namespace Database

namespace Reading

variable {α β : Type} {ts ts' rest : List Token}

/-! ## Keywords -/

theorem bind_of_ok {r : Reading α} {f : α → Reading β} {a : α} (h : r ts = .ok (a, ts')) :
    (r >>= f) ts = f a ts' := by
  show (r ts >>= fun p => f p.1 p.2) = _
  rw [h]
  rfl

theorem bind_of_error {r : Reading α} {f : α → Reading β} {e : Refusal} (h : r ts = .error e) :
    (r >>= f) ts = .error e := by
  show (r ts >>= fun p => f p.1 p.2) = _
  rw [h]
  rfl

/-- Two readers succeed one after the other if each does. -/
theorem bind_eq_ok {r : Reading α} {f : α → Reading β} {b : β} :
    (r >>= f) ts = .ok (b, rest) ↔ ∃ a ts', r ts = .ok (a, ts') ∧ f a ts' = .ok (b, rest) := by
  constructor
  · intro h
    cases hr : r ts with
    | error e =>
      rw [bind_of_error hr] at h
      cases h
    | ok p =>
      obtain ⟨a, ts'⟩ := p
      rw [bind_of_ok hr] at h
      exact ⟨a, ts', rfl, h⟩
  · rintro ⟨a, ts', hr, hf⟩
    rw [bind_of_ok hr, hf]

/-- Tokens do not begin with a keyword. -/
def Lacks (k : String) (ts : List Token) : Prop := ∀ t ∈ ts.head?, t.isWord k = false

theorem keyword?_of_isWord {k : String} {t : Token} (h : t.isWord k = true) :
    keyword? k (t :: ts) = .ok (true, ts) := by
  rw [keyword?]
  simp only [h, if_true]

theorem keyword?_of_lacks {k : String} (h : Lacks k ts) : keyword? k ts = .ok (false, ts) := by
  cases ts with
  | nil => rfl
  | cons t ts =>
    have ht : t.isWord k = false := h t rfl
    rw [keyword?]
    simp only [ht]
    rfl

/-! ## Repetition -/

theorem repeated_eq_chain {step : α → Reading (Option α)} {a : α} :
    repeated step a ts = chain step ts.length a ts := by
  have hleft : left ts = .ok (ts.length, ts) := rfl
  rw [repeated, bind_of_ok hleft]

theorem chain_of_none {step : α → Reading (Option α)} {a : α} (h : step a ts = .ok (none, ts))
    (n : Nat) : chain step n a ts = .ok (a, ts) := by
  cases n with
  | zero => rfl
  | succ n =>
    rw [chain, bind_of_ok h]
    rfl

/-- Nothing is taken where no step can be. -/
theorem repeated_of_none {step : α → Reading (Option α)} {a : α}
    (h : step a ts = .ok (none, ts)) : repeated step a ts = .ok (a, ts) := by
  rw [repeated_eq_chain]
  exact chain_of_none h _

/-- One step is taken where no other can follow. -/
theorem repeated_of_some {step : α → Reading (Option α)} {a b : α} {t : Token}
    (h : step a (t :: ts) = .ok (some b, ts')) (hstop : step b ts' = .ok (none, ts')) :
    repeated step a (t :: ts) = .ok (b, ts') := by
  rw [repeated_eq_chain, List.length_cons, chain, bind_of_ok h]
  exact chain_of_none hstop _

/-- Items are read one by one, each behind a separator. `P` is what the reader of an item has
    to know of the tokens behind it. -/
theorem chain_chunks {step : List β → Reading (Option (List β))} {separator : Token}
    {P : List Token → Prop} (hP : ∀ ts, P (separator :: ts)) (hrest : P rest)
    (hstop : ∀ bs, step bs rest = .ok (none, rest)) :
    ∀ {chunks : List (List Token × β)},
      (∀ i ∈ chunks, ∀ bs ts, P ts →
        step bs (separator :: (i.1 ++ ts)) = .ok (some (bs ++ [i.2]), ts)) →
      ∀ {n : Nat}, chunks.length ≤ n → ∀ bs : List β,
        chain step n bs (chunks.flatMap (fun i => separator :: i.1) ++ rest) =
          .ok (bs ++ chunks.map Prod.snd, rest)
  | [], _, n, _, bs => by simpa using chain_of_none (hstop bs) n
  | i :: chunks, hstep, n, hn, bs => by
    obtain ⟨n, rfl⟩ : ∃ m, n = m + 1 := ⟨n - 1, by simp at hn; omega⟩
    have hnext : P (chunks.flatMap (fun i => separator :: i.1) ++ rest) := by
      cases chunks with
      | nil => exact hrest
      | cons j chunks => exact hP _
    have hothers := chain_chunks hP hrest hstop (fun j hj => hstep j (List.mem_cons_of_mem i hj))
      (Nat.le_of_succ_le_succ hn) (bs ++ [i.2])
    have hread := hstep i List.mem_cons_self bs _ hnext
    rw [List.flatMap_cons, List.append_assoc, List.cons_append, chain, bind_of_ok hread]
    simpa using hothers

theorem length_le_flatMap_cons {separator : Token} (chunks : List (List Token × β)) :
    chunks.length ≤ (chunks.flatMap (fun i => separator :: i.1) ++ rest).length := by
  induction chunks with
  | nil => simp
  | cons i chunks ih =>
    simp only [List.flatMap_cons, List.length_append, List.length_cons] at ih ⊢
    omega

theorem repeated_chunks {step : List β → Reading (Option (List β))} {separator : Token}
    {P : List Token → Prop} (hP : ∀ ts, P (separator :: ts)) (hrest : P rest)
    (hstop : ∀ bs, step bs rest = .ok (none, rest)) {chunks : List (List Token × β)}
    (hstep : ∀ i ∈ chunks, ∀ bs ts, P ts →
      step bs (separator :: (i.1 ++ ts)) = .ok (some (bs ++ [i.2]), ts)) (bs : List β) :
    repeated step bs (chunks.flatMap (fun i => separator :: i.1) ++ rest) =
      .ok (bs ++ chunks.map Prod.snd, rest) := by
  rw [repeated_eq_chain]
  exact chain_chunks hP hrest hstop hstep (length_le_flatMap_cons chunks) bs

/-! ## Symbols -/

/-- A symbol after a gap. -/
def sign (gap : List Char) (s : String) : Token := ⟨gap, s, .symbol⟩

/-- The comma between two items. -/
def comma : Token := sign [] ","

/-- Tokens do not begin with a symbol. -/
def LacksSymbol (s : String) (ts : List Token) : Prop := ∀ t ∈ ts.head?, t.isSymbol s = false

theorem symbol?_of_lacks {s : String} (h : LacksSymbol s ts) : symbol? s ts = .ok (false, ts) := by
  cases ts with
  | nil => rfl
  | cons t ts =>
    have ht : t.isSymbol s = false := h t rfl
    rw [symbol?]
    simp only [ht]
    rfl

theorem symbol?_sign (gap : List Char) (s : String) :
    symbol? s (sign gap s :: ts) = .ok (true, ts) := by
  simp [symbol?, sign, Token.isSymbol]

theorem symbol?_comma : symbol? "," (comma :: ts) = .ok (true, ts) := symbol?_sign [] ","

theorem symbol_sign (gap : List Char) (s : String) : symbol s (sign gap s :: ts) = .ok ((), ts) := by
  rw [symbol, bind_of_ok (symbol?_sign gap s)]
  rfl

/-- The tokens of items with commas between them, each with what is read from it. -/
def listTokens : List (List Token × α) → List Token
  | [] => []
  | i :: is => i.1 ++ is.flatMap fun i => comma :: i.1

/-- Items with commas between them are taken up to a token that is no comma. -/
theorem commaList_listTokens {item : Reading α} {P : List Token → Prop}
    (hP : ∀ ts, P (comma :: ts)) (hrest : P rest) (hcomma : LacksSymbol "," rest)
    {items : List (List Token × α)} (hne : items ≠ [])
    (hitem : ∀ i ∈ items, ∀ ts, P ts → item (i.1 ++ ts) = .ok (i.2, ts)) :
    commaList item (listTokens items ++ rest) = .ok (items.map Prod.snd, rest) := by
  cases items with
  | nil => exact absurd rfl hne
  | cons first others =>
    have hnext : P (others.flatMap (fun i => comma :: i.1) ++ rest) := by
      cases others with
      | nil => exact hrest
      | cons i others => exact hP _
    rw [listTokens, List.append_assoc, commaList, bind_of_ok (hitem first List.mem_cons_self _ hnext)]
    refine repeated_chunks hP hrest ?_ ?_ [first.2]
    · intro as
      rw [bind_of_ok (symbol?_of_lacks hcomma)]
      rfl
    · intro i hi as ts hts
      rw [bind_of_ok symbol?_comma, if_pos rfl,
        bind_of_ok (hitem i (List.mem_cons_of_mem first hi) ts hts)]
      rfl

/-! ## Names -/

/-- The token of a word after a gap. -/
def word (gap : List Char) (w : String) : Token := ⟨gap, w, .word⟩

variable {w : String} {gap : List Char}

theorem nameOf_word (h : Token.IsPlain w) : nameOf (word gap w) = some (w, false) := by
  have hreserved : reserved.contains (asciiLower w) = false := by
    rw [Bool.eq_false_iff]
    exact fun hc => h.2 (List.contains_iff_mem.1 hc)
  rw [nameOf, word]
  simp only [hreserved]
  rfl

theorem name_word (h : Token.IsPlain w) : name (word gap w :: ts) = .ok (w, ts) := by
  have hlabel : label (word gap w) = some w := by
    change (nameOf (word gap w)).map Prod.fst = some w
    rw [nameOf_word h]
    rfl
  rw [name, take, hlabel]

theorem isWord_of_isPlain (h : Token.IsPlain w) {k : String} (hk : k ∈ reserved) :
    (word gap w).isWord k = false := by
  have hne : asciiLower w ≠ k := fun heq => h.2 (heq ▸ hk)
  simp [Token.isWord, word, hne]

/-- The token of a mark after a gap. -/
def markToken (gap : List Char) (n : Nat) : Token := ⟨gap, "?", .mark n⟩

end Reading

/-! ## Expressions -/

namespace Expr

open Reading

variable {ts rest : List Token} {e : Expr}

/-- **An operand ends** before a token that is no operator. -/
structure Ends (ts : List Token) : Prop where
  additive : ∀ t ∈ ts.head?, additive t = none
  ordering : ∀ t ∈ ts.head?, ordering t = none
  equating : ∀ t ∈ ts.head?, equating t = none
  not : Lacks "not" ts
  within : Lacks "in" ts
  like : Lacks "like" ts
  conjunctive : ∀ t ∈ ts.head?, conjunctive t = none
  disjunctive : ∀ t ∈ ts.head?, disjunctive t = none

theorem ends_nil : Ends [] := by
  constructor <;> rintro t ⟨⟩

theorem ends_comma (ts : List Token) : Ends (comma :: ts) := by
  constructor <;> (rintro t ⟨⟩; rfl)

theorem ends_parenthesis (ts : List Token) : Ends (sign [] ")" :: ts) := by
  constructor <;> (rintro t ⟨⟩; rfl)

theorem takeIf_of_none {α : Type} {accept : Token → Option α} (h : ∀ t ∈ ts.head?, accept t = none) :
    takeIf accept ts = .ok (none, ts) := by
  cases ts with
  | nil => rfl
  | cons t ts =>
    rw [takeIf]
    simp only [h t rfl]

theorem joined_of_none {operator : Token → Option (Expr → Expr → Expr)} {next : Reading Expr}
    (h : ∀ t ∈ ts.head?, operator t = none) (a : Expr) :
    joined operator next a ts = .ok (none, ts) := by
  rw [joined, bind_of_ok (takeIf_of_none h)]
  rfl

theorem sums_of_operand {inner : Reading Expr} (h : operand inner ts.length ts = .ok (e, rest))
    (hrest : ∀ t ∈ rest.head?, additive t = none) : sums inner ts = .ok (e, rest) := by
  have hleft : left ts = .ok (ts.length, ts) := rfl
  rw [sums, bind_of_ok hleft, bind_of_ok h]
  exact repeated_of_none (joined_of_none hrest e)

theorem orders_of_sums {inner : Reading Expr} (h : sums inner ts = .ok (e, rest))
    (hrest : ∀ t ∈ rest.head?, ordering t = none) : orders inner ts = .ok (e, rest) := by
  rw [orders, bind_of_ok h]
  exact repeated_of_none (joined_of_none hrest e)

theorem test_of_ends {inner : Reading Expr} (hrest : Ends rest) (a : Expr) :
    test inner a rest = .ok (none, rest) := by
  rw [test, bind_of_ok (joined_of_none hrest.equating a)]
  change membership inner a rest = .ok (none, rest)
  rw [membership, bind_of_ok (keyword?_of_lacks hrest.not),
    bind_of_ok (keyword?_of_lacks hrest.within), if_neg Bool.false_ne_true,
    bind_of_ok (keyword?_of_lacks hrest.like), if_neg Bool.false_ne_true,
    if_neg Bool.false_ne_true]
  rfl

theorem tests_of_orders {inner : Reading Expr} (h : orders inner ts = .ok (e, rest))
    (hrest : Ends rest) : tests inner ts = .ok (e, rest) := by
  rw [tests, bind_of_ok h]
  exact repeated_of_none (test_of_ends hrest e)

theorem disjunctions_of_tests {inner : Reading Expr} (h : tests inner ts = .ok (e, rest))
    (hrest : Ends rest) : disjunctions inner ts = .ok (e, rest) := by
  have hconjunctions : conjunctions inner ts = .ok (e, rest) := by
    rw [conjunctions, bind_of_ok h]
    exact repeated_of_none (joined_of_none hrest.conjunctive e)
  rw [disjunctions, bind_of_ok hconjunctions]
  exact repeated_of_none (joined_of_none hrest.disjunctive e)

theorem reading_of_tests (h : ∀ inner, tests inner ts = .ok (e, rest)) (hrest : Ends rest) :
    reading ts = .ok (e, rest) := by
  have hleft : left ts = .ok (ts.length, ts) := rfl
  rw [reading, bind_of_ok hleft, nested]
  exact disjunctions_of_tests (h _) hrest

theorem operand_mark (inner : Reading Expr) (gap : List Char) (n k : Nat) :
    operand inner (k + 1) (markToken gap n :: rest) = .ok (mark n, rest) := rfl

theorem orders_mark (inner : Reading Expr) (gap : List Char) (n : Nat) (hrest : Ends rest) :
    orders inner (markToken gap n :: rest) = .ok (mark n, rest) :=
  orders_of_sums (sums_of_operand (operand_mark inner gap n _) hrest.additive) hrest.ordering

/-- A mark is read on its own. -/
theorem reading_mark (gap : List Char) (n : Nat) (hrest : Ends rest) :
    reading (markToken gap n :: rest) = .ok (mark n, rest) :=
  reading_of_tests (fun inner => tests_of_orders (orders_mark inner gap n hrest) hrest) hrest

theorem operand_word {w : String} (hw : Token.IsPlain w) (inner : Reading Expr) (gap : List Char)
    (k : Nat) (hdot : LacksSymbol "." rest) (hcall : LacksSymbol "(" rest) :
    operand inner (k + 1) (word gap w :: rest) = .ok (name none w false, rest) := by
  have hminus : LacksSymbol "-" (word gap w :: rest) := by rintro t ⟨⟩; rfl
  have hopen : LacksSymbol "(" (word gap w :: rest) := by rintro t ⟨⟩; rfl
  have hvalue : ∀ t ∈ (word gap w :: rest).head?, ofToken? t = none := by
    rintro t ⟨⟩
    have hnull : (word gap w).isWord "null" = false := isWord_of_isPlain hw (by decide)
    change (if (word gap w).isWord "null" then _ else _) = _
    rw [hnull]
    rfl
  have htake : take nameOf (word gap w :: rest) = .ok ((w, false), rest) := by
    rw [take, nameOf_word hw]
  rw [operand, bind_of_ok (symbol?_of_lacks hminus), if_neg Bool.false_ne_true,
    bind_of_ok (symbol?_of_lacks hopen), if_neg Bool.false_ne_true,
    bind_of_ok (takeIf_of_none hvalue)]
  change named inner (word gap w :: rest) = _
  rw [named, bind_of_ok htake]
  change (symbol? "." >>= _) rest = _
  rw [bind_of_ok (symbol?_of_lacks hdot), if_neg Bool.false_ne_true,
    bind_of_ok (symbol?_of_lacks hcall), if_neg Bool.false_ne_true]
  rfl

/-- The tokens of a name that is compared with a mark. -/
def equationTokens (gap : List Char) (w : String) (n : Nat) : List Token :=
  [word gap w, sign [' '] "=", markToken [' '] n]

/-- **A name and a mark with `=` between them** are read as their comparison. -/
theorem reading_equation {w : String} (hw : Token.IsPlain w) (gap : List Char) (n : Nat)
    (hrest : Ends rest) :
    reading (equationTokens gap w n ++ rest) =
      .ok (compare .eq (name none w false) (mark n), rest) := by
  refine reading_of_tests ?_ hrest
  intro inner
  have hleft : orders inner (word gap w :: sign [' '] "=" :: markToken [' '] n :: rest) =
      .ok (name none w false, sign [' '] "=" :: markToken [' '] n :: rest) := by
    refine orders_of_sums (sums_of_operand (operand_word hw inner gap _ ?_ ?_) ?_) ?_ <;>
      (rintro t ⟨⟩; rfl)
  have hequals : takeIf equating (sign [' '] "=" :: markToken [' '] n :: rest) =
      .ok (some (compare .eq), markToken [' '] n :: rest) := rfl
  have hstep : test inner (name none w false) (sign [' '] "=" :: markToken [' '] n :: rest) =
      .ok (some (compare .eq (name none w false) (mark n)), rest) := by
    have hjoined : joined equating (orders inner) (name none w false)
        (sign [' '] "=" :: markToken [' '] n :: rest) =
          .ok (some (compare .eq (name none w false) (mark n)), rest) := by
      rw [joined, bind_of_ok hequals]
      change (orders inner >>= _) _ = _
      rw [bind_of_ok (orders_mark inner [' '] n hrest)]
      rfl
    rw [test, bind_of_ok hjoined]
    rfl
  change tests inner (word gap w :: sign [' '] "=" :: markToken [' '] n :: rest) = _
  rw [tests, bind_of_ok hleft]
  exact repeated_of_some hstep (test_of_ends hrest _)

end Expr

/-! ## Whole statements -/

namespace Command

variable {sql : String} {t : Token} {ts : List Token}

/-- A statement that begins with neither CREATE nor WITH is an action alone. -/
theorem reading_of_lacks (hcreate : Reading.Lacks "create" ts) (hwith : Reading.Lacks "with" ts) :
    reading ts = (Action.reading >>= fun a => pure ⟨[], a⟩) ts := by
  have hnamed : Reading.after? "with" (Reading.commaList namedQuery) ts = .ok (none, ts) := by
    rw [Reading.after?, Reading.bind_of_ok (Reading.keyword?_of_lacks hwith)]
    rfl
  rw [reading, Reading.bind_of_ok (Reading.keyword?_of_lacks hcreate), if_neg Bool.false_ne_true,
    Reading.bind_of_ok hnamed]
  rfl

theorem dropSemicolons_cons (ht : t.isSymbol ";" = false) : dropSemicolons (t :: ts) = t :: ts := by
  rw [dropSemicolons, List.dropWhile_cons, ht]
  rfl

/-- A statement is a command if that is read from all its tokens. -/
theorem ofTokens_of_ok {c : Command} (hts : Token.ofStatement sql = t :: ts)
    (ht : t.isSymbol ";" = false) (h : reading (t :: ts) = .ok (c, [])) :
    ofTokens (Token.ofStatement sql) = .ok (some c) := by
  rw [hts, ofTokens, dropSemicolons_cons ht]
  simp only [h]
  rfl

theorem ofTokens_of_error {e : Refusal} (hts : Token.ofStatement sql = t :: ts)
    (ht : t.isSymbol ";" = false) (h : reading (t :: ts) = .error e) :
    ofTokens (Token.ofStatement sql) = .error e := by
  rw [hts, ofTokens, dropSemicolons_cons ht]
  simp only [h]

end Command

end Database

end RowQuery

/-
  RowQuery — spellings of numbers.

  A number without a sign is spelled with digits before and after a point, and with a power of
  ten. A reader takes each part up to where it ends, so a spelling is read whatever follows it, as
  long as that does not go on with the number.

  * `Spelling.chars`, `Spelling.Valid`: the text of a spelling, and which of them are read;
  * `EndsNumber`: what may follow a number;
  * `unsigned?_chars`: **a spelling is read** part by part.
-/
import Mathlib.Data.List.Basic
import RowQuery.Json.Lexeme

namespace RowQuery

/-! ## Digits -/

theorem digitsValue_eq (n : Nat) (ds : List Char) :
    digitsValue n ds = Nat.ofDigitChars 10 ds n := by
  rw [digitsValue, Nat.ofDigitChars_eq_foldl]
  simp only [Nat.mul_comm]

theorem digitsValue_append (n : Nat) (ds ds' : List Char) :
    digitsValue n (ds ++ ds') = digitsValue (digitsValue n ds) ds' := List.foldl_append

namespace Decimal

theorem digitsValue_digitChars (n : Nat) : digitsValue 0 (digitChars n) = n := by
  rw [digitsValue_eq]
  exact Nat.ofDigitChars_toDigits (by decide) (Nat.le_refl 10)

theorem isDigit_digitChars {n : Nat} {c : Char} (h : c ∈ digitChars n) : c.isDigit = true :=
  Nat.isDigit_of_mem_toDigits (by decide) (Nat.le_refl 10) h

theorem digitChars_ne_nil (n : Nat) : digitChars n ≠ [] := Nat.toDigits_ne_nil

/-- A positive number begins with another digit than zero. -/
theorem head?_digitChars {n : Nat} (hn : n ≠ 0) : (digitChars n).head? ≠ some '0' := by
  induction n using Nat.strongRecOn with
  | ind n ih =>
    by_cases hsmall : n < 10
    · have hdigit : ∀ n : Fin 10, n.val ≠ 0 → some (Nat.digitChar n) ≠ some '0' := by decide
      rw [digitChars, Nat.toDigits_of_lt_base hsmall]
      exact hdigit ⟨n, hsmall⟩ hn
    · rw [digitChars, Nat.toDigits_of_base_le (by decide) (Nat.le_of_not_lt hsmall),
        List.head?_append_of_ne_nil _ Nat.toDigits_ne_nil]
      exact ih (n / 10) (by omega) (by omega)

end Decimal

/-! ## Spellings -/

namespace Spelling

/-- The point and what is behind it. -/
def fractionChars (s : Spelling) : List Char :=
  match s.fraction with
  | none => []
  | some ds => '.' :: ds

/-- The exponent. -/
def powerChars (s : Spelling) : List Char :=
  match s.power with
  | none => []
  | some (negative, ds) => 'e' :: (if negative then '-' else '+') :: ds

/-- The text of a spelling. -/
def chars (s : Spelling) : List Char := s.digits ++ (s.fractionChars ++ s.powerChars)

/-- **Digits are where digits belong**, and no zero is put in front of others. -/
structure Valid (s : Spelling) : Prop where
  digits : ∀ c ∈ s.digits, c.isDigit = true
  digits_ne : s.digits ≠ []
  zero : s.digits.head? = some '0' → s.digits.length = 1
  fraction : ∀ ds ∈ s.fraction, ds ≠ [] ∧ ∀ c ∈ ds, c.isDigit = true
  power : ∀ p ∈ s.power, p.2 ≠ [] ∧ ∀ c ∈ p.2, c.isDigit = true

theorem Valid.exists_chars_eq {s : Spelling} (hs : s.Valid) :
    ∃ c cs, s.chars = c :: cs ∧ c.isDigit = true := by
  obtain ⟨c, cs, hc⟩ := List.exists_cons_of_ne_nil hs.digits_ne
  refine ⟨c, cs ++ (s.fractionChars ++ s.powerChars), ?_, hs.digits c (hc ▸ List.mem_cons_self)⟩
  rw [chars, hc, List.cons_append]

end Spelling

/-- What follows a number and is no part of it. -/
def EndsNumber (rest : List Char) : Prop :=
  ∀ c ∈ rest.head?, c.isDigit = false ∧ c ≠ '.' ∧ c ≠ 'e' ∧ c ≠ 'E'

section
variable {ds rest : List Char}

theorem digits?_append (hds : ∀ c ∈ ds, c.isDigit = true) (hne : ds ≠ [])
    (hrest : ∀ c ∈ rest.head?, c.isDigit = false) : digits? (ds ++ rest) = some (ds, rest) := by
  have htake : rest.takeWhile Char.isDigit = [] := by
    cases rest with
    | nil => rfl
    | cons c rest => rw [List.takeWhile_cons, hrest c rfl]; rfl
  have hdrop : rest.dropWhile Char.isDigit = rest := by
    cases rest with
    | nil => rfl
    | cons c rest => rw [List.dropWhile_cons, hrest c rfl]; rfl
  rw [digits?, List.takeWhile_append_of_pos hds, List.dropWhile_append_of_pos hds, htake, hdrop,
    List.append_nil]
  cases ds with
  | nil => exact absurd rfl hne
  | cons d ds => rfl

theorem exponent?_chars {s : Spelling} (hs : s.Valid) (hrest : EndsNumber rest) :
    exponent? (s.powerChars ++ rest) = some (s.power, rest) := by
  obtain ⟨digits, fraction, power⟩ := s
  cases power with
  | none =>
    cases rest with
    | nil => rfl
    | cons c rest =>
      obtain ⟨-, -, he, hE⟩ := hrest c rfl
      exact if_neg (not_or.2 ⟨he, hE⟩)
  | some p =>
    obtain ⟨negative, ds⟩ := p
    obtain ⟨hne, hds⟩ := hs.power _ rfl
    have hdigits := digits?_append hds hne fun c hc => (hrest c hc).1
    cases negative with
    | true =>
      change (digits? (ds ++ rest)).map _ = _
      rw [hdigits]
      rfl
    | false =>
      change (digits? (ds ++ rest)).map _ = _
      rw [hdigits]
      rfl

/-- What comes behind the point, or in its place, is no digit. -/
theorem head?_powerChars {s : Spelling} (hrest : EndsNumber rest) {c : Char}
    (hc : c ∈ (s.powerChars ++ rest).head?) : c.isDigit = false ∧ c ≠ '.' := by
  obtain ⟨digits, fraction, power⟩ := s
  cases power with
  | none =>
    obtain ⟨hdigit, hpoint, -⟩ := hrest c hc
    exact ⟨hdigit, hpoint⟩
  | some p =>
    obtain rfl : 'e' = c := Option.some.inj hc
    decide

theorem fraction?_chars {s : Spelling} (hs : s.Valid) (hrest : EndsNumber rest) :
    fraction? (s.fractionChars ++ (s.powerChars ++ rest)) =
      some (s.fraction, s.powerChars ++ rest) := by
  cases hfraction : s.fraction with
  | none =>
    have hnone : s.fractionChars = [] := by rw [Spelling.fractionChars, hfraction]
    rw [hnone, List.nil_append]
    cases htail : s.powerChars ++ rest with
    | nil => rfl
    | cons c tail =>
      have hpoint : c ≠ '.' := (head?_powerChars hrest (by rw [htail]; rfl)).2
      rw [fraction?]
      exact fun cs h => hpoint (List.cons.inj h).1
  | some ds =>
    have hpoint : s.fractionChars = '.' :: ds := by rw [Spelling.fractionChars, hfraction]
    obtain ⟨hne, hds⟩ := hs.fraction ds hfraction
    rw [hpoint]
    change (digits? (ds ++ (s.powerChars ++ rest))).map _ = _
    rw [digits?_append hds hne fun c hc => (head?_powerChars hrest hc).1]
    rfl

/-- **A spelling is read part by part**, if what follows it is no part of it. -/
theorem unsigned?_chars {s : Spelling} (hs : s.Valid) (hrest : EndsNumber rest) (negative : Bool) :
    unsigned? negative (s.chars ++ rest) = some (⟨s, negative⟩, rest) := by
  have hbehind : ∀ c ∈ (s.fractionChars ++ (s.powerChars ++ rest)).head?, c.isDigit = false := by
    intro c hc
    cases hfraction : s.fraction with
    | none =>
      rw [Spelling.fractionChars, hfraction] at hc
      exact (head?_powerChars hrest hc).1
    | some ds =>
      rw [Spelling.fractionChars, hfraction] at hc
      obtain rfl : '.' = c := Option.some.inj hc
      decide
  have hzero : ¬ (s.digits.head? = some '0' ∧ s.digits.length ≠ 1) := fun h => h.2 (hs.zero h.1)
  have hdigits := digits?_append hs.digits hs.digits_ne hbehind
  rw [Spelling.chars, List.append_assoc, List.append_assoc, unsigned?]
  simp only [hdigits, Option.bind_eq_bind, Option.bind_some, if_neg hzero, fraction?_chars hs hrest,
    exponent?_chars hs hrest, Option.pure_def]

end

end RowQuery

/-
  RowQuery — the lexemes of a JSON text.

  `Lexeme.scan` cuts a text into lexemes and drops the white space between them; the
  first character that begins no lexeme gives `Lexeme.bad`, and nothing follows it.
  What depends on how a value is used is left open here: a number keeps its spelling,
  since only a number that is used has to fit a double, and a string whose escapes
  hold half a surrogate pair has no text, since only a string that is used needs one.
-/
import RowQuery.Json.Number

namespace RowQuery

/-- A lexeme of a JSON text. -/
inductive Lexeme where
  | openArr
  | closeArr
  | openObj
  | closeObj
  | comma
  | colon
  | null
  | bool (b : Bool)
  | num (l : Literal)
  | str (text : Option String)
  | bad
deriving DecidableEq, Repr

/-! ## Strings -/

/-- The value of a hexadecimal digit. -/
def hexValue? (c : Char) : Option Nat :=
  if c.isDigit then some (c.toNat - '0'.toNat)
  else if 'a' ≤ c ∧ c ≤ 'f' then some (c.toNat - 'a'.toNat + 10)
  else if 'A' ≤ c ∧ c ≤ 'F' then some (c.toNat - 'A'.toNat + 10)
  else none

/-- The value of four hexadecimal digits. -/
def hexUnit? (a b c d : Char) : Option Nat := do
  return (((← hexValue? a) * 16 + (← hexValue? b)) * 16 + (← hexValue? c)) * 16 + (← hexValue? d)

/-- The character of an escape of one letter. -/
def escaped? : Char → Option Char
  | '\x22' => some '\x22'
  | '\\' => some '\\'
  | '/' => some '/'
  | 'b' => some '\x08'
  | 'f' => some '\x0c'
  | 'n' => some '\n'
  | 'r' => some '\r'
  | 't' => some '\t'
  | _ => none

/-- The code units of a string literal, from after its opening quote, and the text after
    its closing quote; a character that is not escaped is one unit, whatever its size. -/
def stringUnits? : List Char → Option (List Nat × List Char)
  | [] => none
  | '\x22' :: rest => some ([], rest)
  | '\\' :: 'u' :: a :: b :: c :: d :: rest => do
    let unit ← hexUnit? a b c d
    let (units, after) ← stringUnits? rest
    return (unit :: units, after)
  | '\\' :: c :: rest => do
    let unit ← escaped? c
    let (units, after) ← stringUnits? rest
    return (unit.toNat :: units, after)
  | c :: rest =>
    if c = '\\' ∨ c.toNat < 0x20 then none
    else do
      let (units, after) ← stringUnits? rest
      return (c.toNat :: units, after)

theorem stringUnits?_length {cs : List Char} {units : List Nat} {after : List Char}
    (h : stringUnits? cs = some (units, after)) : after.length < cs.length := by
  fun_induction stringUnits? cs generalizing units after with
  | case1 => simp at h
  | case2 rest => simp_all
  | case3 a b c d rest ih =>
    simp only [Option.bind_eq_bind, Option.bind_eq_some_iff, Prod.exists] at h
    obtain ⟨_, _, us, af, h, he⟩ := h
    simp only [Option.pure_def, Option.some.injEq, Prod.mk.injEq] at he
    have := ih h
    simp only [List.length_cons, ← he.2]
    omega
  | case4 c rest _ ih =>
    simp only [Option.bind_eq_bind, Option.bind_eq_some_iff, Prod.exists] at h
    obtain ⟨_, _, us, af, h, he⟩ := h
    simp only [Option.pure_def, Option.some.injEq, Prod.mk.injEq] at he
    have := ih h
    simp only [List.length_cons, ← he.2]
    omega
  | case5 => simp at h
  | case6 c rest _ _ _ _ ih =>
    simp only [Option.bind_eq_bind, Option.bind_eq_some_iff, Prod.exists] at h
    obtain ⟨us, af, h, he⟩ := h
    simp only [Option.pure_def, Option.some.injEq, Prod.mk.injEq] at he
    have := ih h
    simp only [List.length_cons, ← he.2]
    omega

/-- The characters of code units: a leading half of a surrogate pair needs its trailing
    half right after it, and a trailing half its leading half right before it. -/
def charsOfUnits? : List Nat → Option (List Char)
  | [] => some []
  | u :: us =>
    if 0xD800 ≤ u ∧ u < 0xDC00 then
      match us with
      | v :: vs =>
        if 0xDC00 ≤ v ∧ v < 0xE000 then
          (charsOfUnits? vs).map (Char.ofNat ((u - 0xD800) * 0x400 + (v - 0xDC00) + 0x10000) :: ·)
        else none
      | [] => none
    else if 0xDC00 ≤ u ∧ u < 0xE000 then none
    else (charsOfUnits? us).map (Char.ofNat u :: ·)

/-- The text of code units, if no half of a surrogate pair is alone. -/
def textOfUnits? (units : List Nat) : Option String := (charsOfUnits? units).map String.ofList

/-! ## Numbers -/

/-- The digits at the start of a text, at least one, and what follows them. -/
def digits? (cs : List Char) : Option (List Char × List Char) :=
  match cs.takeWhile Char.isDigit with
  | [] => none
  | ds => some (ds, cs.dropWhile Char.isDigit)

/-- The digits of a fraction, if there is a point. -/
def fraction? : List Char → Option (Option (List Char) × List Char)
  | '.' :: cs => (digits? cs).map fun (ds, after) => (some ds, after)
  | cs => some (none, cs)

/-- The digits of an exponent and whether it is negative, if there is an exponent. -/
def exponent? : List Char → Option (Option (Bool × List Char) × List Char)
  | c :: cs =>
    if c = 'e' ∨ c = 'E' then
      match cs with
      | '-' :: cs => (digits? cs).map fun (ds, after) => (some (true, ds), after)
      | '+' :: cs => (digits? cs).map fun (ds, after) => (some (false, ds), after)
      | cs => (digits? cs).map fun (ds, after) => (some (false, ds), after)
    else some (none, c :: cs)
  | [] => some (none, [])

/-- The number after its sign; a zero at its start stands alone. -/
def unsigned? (negative : Bool) (cs : List Char) : Option (Literal × List Char) := do
  let (digits, cs) ← digits? cs
  if digits.head? = some '0' ∧ digits.length ≠ 1 then none
  else
    let (fraction, cs) ← fraction? cs
    let (power, cs) ← exponent? cs
    return (⟨⟨digits, fraction, power⟩, negative⟩, cs)

/-- The number at the start of a text, and what follows it. -/
def literal? : List Char → Option (Literal × List Char)
  | '-' :: cs => unsigned? true cs
  | cs => unsigned? false cs

theorem digits?_length {cs ds after : List Char} (h : digits? cs = some (ds, after)) :
    after.length < cs.length := by
  unfold digits? at h
  split at h
  · simp at h
  · rename_i hne
    simp only [Option.some.injEq, Prod.mk.injEq] at h
    have := congrArg List.length (List.takeWhile_append_dropWhile (p := Char.isDigit) (l := cs))
    rw [List.length_append] at this
    have : 0 < (cs.takeWhile Char.isDigit).length :=
      List.length_pos_iff.2 (fun h0 => hne h0)
    rw [← h.2]
    omega

theorem fraction?_length {cs after : List Char} {ds : Option (List Char)}
    (h : fraction? cs = some (ds, after)) : after.length ≤ cs.length := by
  unfold fraction? at h
  split at h
  · simp only [Option.map_eq_some_iff, Prod.exists, Prod.mk.injEq] at h
    obtain ⟨ds, af, h, _, rfl⟩ := h
    have := digits?_length h
    simp only [List.length_cons]
    omega
  · simp only [Option.some.injEq, Prod.mk.injEq] at h
    simp [h.2]

theorem exponent?_length {cs after : List Char} {p : Option (Bool × List Char)}
    (h : exponent? cs = some (p, after)) : after.length ≤ cs.length := by
  unfold exponent? at h
  split at h
  · split at h
    · split at h <;>
      · simp only [Option.map_eq_some_iff, Prod.exists, Prod.mk.injEq] at h
        obtain ⟨ds, af, h, _, rfl⟩ := h
        have := digits?_length h
        simp only [List.length_cons]
        omega
    · simp only [Option.some.injEq, Prod.mk.injEq] at h
      simp [← h.2]
  · simp only [Option.some.injEq, Prod.mk.injEq] at h
    simp [← h.2]

theorem unsigned?_length {negative : Bool} {cs after : List Char} {l : Literal}
    (h : unsigned? negative cs = some (l, after)) : after.length < cs.length := by
  simp only [unsigned?, Option.bind_eq_bind, Option.bind_eq_some_iff, Prod.exists] at h
  obtain ⟨whole, cs₁, h₁, h⟩ := h
  split at h
  · simp at h
  · simp only [Option.bind_eq_some_iff, Prod.exists] at h
    obtain ⟨f, cs₂, h₂, p, cs₃, h₃, h⟩ := h
    simp only [Option.pure_def, Option.some.injEq, Prod.mk.injEq] at h
    have := digits?_length h₁
    have := fraction?_length h₂
    have := exponent?_length h₃
    rw [← h.2]
    omega

theorem literal?_length {cs after : List Char} {l : Literal} (h : literal? cs = some (l, after)) :
    after.length < cs.length := by
  unfold literal? at h
  split at h
  · have := unsigned?_length h
    simp only [List.length_cons]
    omega
  · exact unsigned?_length h

/-! ## Texts -/

namespace Lexeme

/-- The white space of JSON. -/
def isBlank (c : Char) : Bool := c = ' ' || c = '\t' || c = '\n' || c = '\r'

/-- The lexeme of a single character. -/
def punctuation? : Char → Option Lexeme
  | '[' => some openArr
  | ']' => some closeArr
  | '\x7b' => some openObj
  | '\x7d' => some closeObj
  | ',' => some comma
  | ':' => some colon
  | _ => none

/-- The lexemes of a text. -/
def scan : List Char → List Lexeme
  | [] => []
  | 't' :: 'r' :: 'u' :: 'e' :: cs => bool true :: scan cs
  | 'f' :: 'a' :: 'l' :: 's' :: 'e' :: cs => bool false :: scan cs
  | 'n' :: 'u' :: 'l' :: 'l' :: cs => null :: scan cs
  | c :: cs =>
    if isBlank c then scan cs
    else if let some l := punctuation? c then l :: scan cs
    else if c = '\x22' then
      match _h : stringUnits? cs with
      | some (units, after) => str (textOfUnits? units) :: scan after
      | none => [bad]
    else
      match _h : literal? (c :: cs) with
      | some (l, after) => num l :: scan after
      | none => [bad]
termination_by cs => cs.length
decreasing_by
  all_goals simp only [List.length_cons]
  any_goals omega
  · have := stringUnits?_length _h
    omega
  · have := literal?_length _h
    simp only [List.length_cons] at this
    omega

end Lexeme

end RowQuery

/-
  RowQuery — texts of numbers, read back.

  The digits of a number are read as that number, wherever the point is set among them and
  whatever zeros fill the places before it or after it. So a decimal is read as a decimal of the
  same value, and the text of a double as that double.

  * `DecimalLayout.value_spelling`: a decimal is written in a spelling of its value;
  * `nearest_shortest`: the shortest decimal of a double is read as that double;
  * `Number.literal?_chars`: the text of a number is read as its literal.
-/
import RowQuery.Proofs.Decimal.Nearest
import RowQuery.Proofs.Decimal.Spelling

namespace RowQuery

/-! ## Layouts -/

theorem digitsValue_zeros (n k : Nat) : digitsValue n (List.replicate k '0') = 10 ^ k * n := by
  rw [digitsValue_eq, Nat.ofDigitChars_replicate_zero]

namespace Decimal

theorem value_zeros (n k : Nat) (e : ℤ) :
    (⟨10 ^ k * n, e⟩ : Decimal).value = (⟨n, e + k⟩ : Decimal).value := by
  rw [value, value, zpow_add₀ (by norm_num), zpow_natCast]
  push_cast
  ring

/-- Trailing zeros are dropped without changing the value. -/
theorem value_normalize (d : Decimal) : d.normalize.value = d.value := by
  fun_induction normalize d with
  | case1 d hd => rw [value_eq_zero_iff.2 hd, value_eq_zero_iff.2 rfl]
  | case2 d hd hten ih =>
    have hdigits : 10 ^ 1 * (d.digits / 10) = d.digits := by omega
    rw [ih]
    change (⟨d.digits / 10, d.exponent + (1 : Nat)⟩ : Decimal).value = _
    rw [← value_zeros, hdigits]
  | case3 d => rfl

theorem normalize_of_digits_eq_zero {d : Decimal} (h : d.normalize.digits = 0) :
    d.normalize = ⟨0, 0⟩ := by
  fun_induction normalize d with
  | case1 d hd => rfl
  | case2 d hd hten ih => exact ih h
  | case3 d hd => exact absurd h hd

end Decimal

namespace Spelling

/-- The spelling of digits with the point after the digit of exponent 0. -/
def positional (ds : List Char) (e : Int) : Spelling :=
  if e < 0 then ⟨['0'], some (List.replicate (-e - 1).toNat '0' ++ ds), none⟩
  else
    ⟨ds.take (e.toNat + 1) ++ List.replicate (e.toNat + 1 - ds.length) '0',
      some (if (ds.drop (e.toNat + 1)).isEmpty then ['0'] else ds.drop (e.toNat + 1)), none⟩

/-- The spelling of digits as a mantissa below ten and an exponent. -/
def scientific (l : DecimalLayout) (ds : List Char) (e : Int) : Spelling :=
  ⟨ds.take 1,
    if (ds.drop 1).isEmpty then (if l.pointInMantissa then some ['0'] else none)
      else some (ds.drop 1),
    some (decide (e < 0),
      List.replicate (l.exponentWidth - (Decimal.digitChars e.natAbs).length) '0' ++
        Decimal.digitChars e.natAbs)⟩

theorem chars_positional (ds : List Char) (e : Int) :
    (positional ds e).chars = DecimalLayout.positional ds e := by
  rw [positional, DecimalLayout.positional]
  split <;> simp [chars, fractionChars, powerChars]

theorem chars_scientific (l : DecimalLayout) (ds : List Char) (e : Int) :
    (scientific l ds e).chars = l.scientific ds e := by
  rw [scientific, DecimalLayout.scientific]
  cases hdrop : ds.drop 1 <;> cases hpoint : l.pointInMantissa <;>
    simp [chars, fractionChars, powerChars]

variable {ds : List Char} {e : Int}

theorem isDigit_zeros {n : Nat} {c : Char} (h : c ∈ List.replicate n '0') : c.isDigit = true := by
  rw [List.eq_of_mem_replicate h]
  decide

theorem valid_positional (hds : ∀ c ∈ ds, c.isDigit = true) (hne : ds ≠ [])
    (hzero : ds.head? = some '0' → e = 0) : (positional ds e).Valid := by
  rw [positional]
  by_cases he : e < 0
  · rw [if_pos he]
    refine ⟨fun c hc => ?_, List.cons_ne_nil _ _, fun _ => rfl, fun fs hfs => ?_, nofun⟩
    · rw [List.mem_singleton.1 hc]
      decide
    · obtain rfl := Option.some.inj hfs
      refine ⟨List.append_ne_nil_of_right_ne_nil _ hne, fun c hc => ?_⟩
      rcases List.mem_append.1 hc with hc | hc
      · exact isDigit_zeros hc
      · exact hds c hc
  · rw [if_neg he]
    have hhead : (ds.take (e.toNat + 1) ++
        List.replicate (e.toNat + 1 - ds.length) '0').head? = ds.head? := by
      cases ds with
      | nil => exact absurd rfl hne
      | cons d ds => rfl
    refine ⟨fun c hc => ?_, fun h => ?_, fun h => ?_, fun fs hfs => ?_, nofun⟩
    · rcases List.mem_append.1 hc with hc | hc
      · exact hds c (List.mem_of_mem_take hc)
      · exact isDigit_zeros hc
    · exact hne (List.head?_eq_none_iff.1 (hhead.symm.trans (congrArg List.head? h)))
    · have he0 := hzero (hhead.symm.trans h)
      simp only [List.length_append, List.length_take, List.length_replicate, he0]
      have := List.length_pos_iff.2 hne
      omega
    · obtain rfl := Option.some.inj hfs
      split
      · exact ⟨List.cons_ne_nil _ _, fun c hc => isDigit_zeros (n := 1) hc⟩
      · rename_i hdrop
        exact ⟨fun h => hdrop (List.isEmpty_iff.2 h), fun c hc => hds c (List.mem_of_mem_drop hc)⟩

theorem value_positional (ds : List Char) (e : Int) :
    (positional ds e).value.value =
      (⟨digitsValue 0 ds, e - ds.length + 1⟩ : Decimal).value := by
  rw [positional]
  by_cases he : e < 0
  · rw [if_pos he]
    have hzeros : digitsValue 0 (['0'] ++ List.replicate (-e - 1).toNat '0') = 0 := by
      rw [digitsValue_append, show digitsValue 0 ['0'] = 0 by decide, digitsValue_zeros,
        Nat.mul_zero]
    simp only [value, places, Option.getD_some, powerValue]
    rw [← List.append_assoc, digitsValue_append, hzeros, List.length_append, List.length_replicate]
    congr 2
    push_cast
    omega
  · rw [if_neg he]
    by_cases hlong : ds.length ≤ e.toNat + 1
    · have hdrop : ds.drop (e.toNat + 1) = [] := List.drop_eq_nil_of_le hlong
      simp only [value, places, Option.getD_some, powerValue, hdrop, List.take_of_length_le hlong]
      have hone : ['0'] = List.replicate 1 '0' := rfl
      rw [List.isEmpty_nil, if_pos rfl, digitsValue_append, digitsValue_append, digitsValue_zeros,
        hone, digitsValue_zeros, Decimal.value_zeros, Decimal.value_zeros]
      congr 2
      simp only [List.length_replicate]
      omega
    · have hdrop : (ds.drop (e.toNat + 1)).isEmpty = false := by
        rw [List.isEmpty_eq_false_iff, ne_eq, List.drop_eq_nil_iff]
        exact hlong
      simp only [value, places, Option.getD_some, powerValue, hdrop]
      rw [if_neg (by decide), show e.toNat + 1 - ds.length = 0 by omega, List.replicate_zero,
        List.append_nil, List.take_append_drop, List.length_drop]
      congr 2
      omega

theorem valid_scientific (l : DecimalLayout) (hds : ∀ c ∈ ds, c.isDigit = true) (hne : ds ≠ [])
    (e : Int) : (scientific l ds e).Valid := by
  refine ⟨fun c hc => hds c (List.mem_of_mem_take hc), ?_, fun _ => ?_, fun fs hfs => ?_, ?_⟩
  · simpa [scientific] using hne
  · have := List.length_pos_iff.2 hne
    simp only [scientific, List.length_take]
    omega
  · simp only [scientific] at hfs
    split at hfs
    · split at hfs
      · obtain rfl := Option.some.inj hfs
        exact ⟨List.cons_ne_nil _ _, fun c hc => isDigit_zeros (n := 1) hc⟩
      · cases hfs
    · rename_i hdrop
      obtain rfl := Option.some.inj hfs
      exact ⟨fun h => hdrop (List.isEmpty_iff.2 h), fun c hc => hds c (List.mem_of_mem_drop hc)⟩
  · rintro p hp
    obtain rfl := Option.some.inj hp
    refine ⟨List.append_ne_nil_of_right_ne_nil _ (Decimal.digitChars_ne_nil _), fun c hc => ?_⟩
    rcases List.mem_append.1 hc with hc | hc
    · exact isDigit_zeros hc
    · exact Decimal.isDigit_digitChars hc

theorem value_scientific (l : DecimalLayout) (hne : ds ≠ []) (e : Int) :
    (scientific l ds e).value.value =
      (⟨digitsValue 0 ds, e - ds.length + 1⟩ : Decimal).value := by
  have hpower : (scientific l ds e).powerValue = e := by
    simp only [scientific, powerValue]
    rw [digitsValue_append, digitsValue_zeros, Nat.mul_zero, Decimal.digitsValue_digitChars]
    by_cases he : e < 0
    · rw [if_pos (decide_eq_true he)]
      omega
    · rw [if_neg (by simpa using he)]
      omega
  rw [value, hpower]
  obtain ⟨d, ds, rfl⟩ := List.exists_cons_of_ne_nil hne
  cases ds with
  | nil =>
    simp only [scientific]
    cases l.pointInMantissa with
    | false =>
      congr 2
      simp [places]
    | true =>
      have hone : ['0'] = List.replicate 1 '0' := rfl
      change (⟨digitsValue 0 ([d] ++ ['0']), e - (1 : Nat)⟩ : Decimal).value = _
      rw [digitsValue_append, hone, digitsValue_zeros, Decimal.value_zeros]
      rfl
  | cons d' ds =>
    congr 2
    simp only [scientific, List.drop_succ_cons, List.drop_zero, List.isEmpty_cons,
      Bool.false_eq_true, if_false, places, Option.getD_some, List.length_cons]
    omega

end Spelling

namespace DecimalLayout

/-- The spelling of a decimal in a layout. -/
def spelling (l : DecimalLayout) (d : Decimal) : Spelling :=
  let ds := Decimal.digitChars d.normalize.digits
  let e := d.normalize.exponent + ds.length - 1
  if l.positionalFrom ≤ e ∧ e < l.positionalBelow then .positional ds e else .scientific l ds e

variable (l : DecimalLayout) (d : Decimal)

theorem chars_spelling : (l.spelling d).chars = l.write d := by
  rw [spelling, write]
  split
  · exact Spelling.chars_positional _ _
  · exact Spelling.chars_scientific _ _ _

theorem whole_spelling : (l.spelling d).whole = false := by
  rw [spelling]
  split
  · rw [Spelling.positional]
    split <;> rfl
  · exact Bool.and_false _

theorem valid_spelling : (l.spelling d).Valid := by
  have hdigits : ∀ c ∈ Decimal.digitChars d.normalize.digits, c.isDigit = true :=
    fun c hc => Decimal.isDigit_digitChars hc
  have hne := Decimal.digitChars_ne_nil d.normalize.digits
  rw [spelling]
  split
  · refine Spelling.valid_positional hdigits hne fun h => ?_
    -- a zero at the start is the whole number
    by_cases hzero : d.normalize.digits = 0
    · rw [Decimal.normalize_of_digits_eq_zero hzero]
      decide
    · exact absurd h (Decimal.head?_digitChars hzero)
  · exact Spelling.valid_scientific l hdigits hne _

/-- **A decimal is written in a spelling of its value.** -/
theorem value_spelling : (l.spelling d).value.value = d.value := by
  have hvalue : ∀ e : Int, (⟨digitsValue 0 (Decimal.digitChars d.normalize.digits),
      d.normalize.exponent + e - 1 - e + 1⟩ : Decimal).value = d.value := by
    intro e
    rw [← Decimal.value_normalize d, Decimal.digitsValue_digitChars]
    congr 2
    omega
  rw [spelling]
  split
  · rw [Spelling.value_positional, hvalue]
  · rw [Spelling.value_scientific l (Decimal.digitChars_ne_nil _), hvalue]

end DecimalLayout

/-! ## Doubles -/

/-- The value of a magnitude is that of all its decimal digits. -/
theorem Dyadic64.value_exact (d : Dyadic64) : d.exact.value = d.value := by
  rw [← num_div_den, den, exact, Decimal.value, zpow_neg, zpow_natCast, Nat.pow_eq, Nat.pow_eq]
  have hten : (10 : ℚ) ^ (-d.exponent).toNat =
      5 ^ (-d.exponent).toNat * 2 ^ (-d.exponent).toNat := by
    rw [← mul_pow]
    norm_num
  push_cast
  rw [hten]
  field_simp

theorem nearest_of_readingBack? {x : Float} {n : Nat} {d : Decimal}
    (h : readingBack? x n = some d) : d.nearest = x := by
  have hreads : ∀ {d : Decimal}, decide (d.nearest.toBits = x.toBits) = true → d.nearest = x :=
    fun hd => Float.toBits_inj.1 (of_decide_eq_true hd)
  simp only [readingBack?] at h
  split at h
  · rename_i hbelow
    split at h
    · rename_i habove
      obtain rfl := Option.some.inj h
      rw [GridPlace.nearer]
      split
      · exact hreads hbelow
      · exact hreads habove
    · obtain rfl := Option.some.inj h
      exact hreads hbelow
  · split at h
    · rename_i habove
      obtain rfl := Option.some.inj h
      exact hreads habove
    · cases h

theorem eq_zero_of_mantissa {x : Float} (hx : x.isFinite = true) (hsign : isSigned x = false)
    (hm : (Dyadic64.ofFloat x).mantissa = 0) : x = Float.ofBits 0 := by
  have hbits := toBits_lt hx hsign
  apply float_ext
  change x.toBits.toNat = 0
  simp only [Dyadic64.ofFloat] at hm
  split at hm
  · dsimp only at hm
    omega
  · dsimp only at hm
    omega

/-- **The shortest decimal of a double is read as that double.** -/
theorem nearest_shortest {x : Float} (hx : x.isFinite = true) (hsign : isSigned x = false) :
    (shortest x).nearest = x := by
  rw [shortest]
  by_cases hm : (Dyadic64.ofFloat x).mantissa = 0
  · rw [if_pos hm, eq_zero_of_mantissa hx hsign hm]
    exact Decimal.nearest_of_digits_eq_zero rfl
  · rw [if_neg hm, Decimal.nearest_of_value_eq (Decimal.value_normalize _)]
    cases hfound : (List.range 17).findSome? fun i => readingBack? x (i + 1) with
    | some d =>
      obtain ⟨i, -, hi⟩ := List.exists_of_findSome?_eq_some hfound
      exact nearest_of_readingBack? hi
    | none => exact Decimal.nearest_of_float hx hsign hm (Dyadic64.value_exact _)

/-! ## Numbers -/

namespace Number

/-- Whether a number is written with a sign. -/
def isNegative : Number → Bool
  | .int n _ => n < 0
  | .float x _ => isSigned x

/-- The spelling of a number behind its sign. -/
def spelling : Number → Spelling
  | .int n _ => ⟨Decimal.digitChars n.natAbs, none, none⟩
  | .float x _ => layout.spelling (shortest (magnitude x))

/-- What is read of the text of a number. -/
def literal (n : Number) : Literal := ⟨n.spelling, n.isNegative⟩

theorem chars_eq (n : Number) :
    n.chars = if n.isNegative then '-' :: n.spelling.chars else n.spelling.chars := by
  cases n with
  | int n inRange =>
    simp [chars, intChars, isNegative, spelling, Spelling.chars, Spelling.fractionChars,
      Spelling.powerChars]
  | float x hx =>
    rw [isNegative, spelling, DecimalLayout.chars_spelling]
    rfl

theorem valid_spelling (n : Number) : n.spelling.Valid := by
  cases n with
  | int n inRange =>
    refine ⟨fun c hc => Decimal.isDigit_digitChars hc, Decimal.digitChars_ne_nil _, fun h => ?_,
      nofun, nofun⟩
    by_cases hn : n.natAbs = 0
    · simp only [spelling, hn]
      decide
    · exact absurd h (Decimal.head?_digitChars hn)
  | float x hx => exact layout.valid_spelling _

theorem nearest_shortest_magnitude {x : Float} (hx : x.isFinite = true) :
    (shortest (magnitude x)).nearest = magnitude x := by
  by_cases hsign : isSigned x = true
  · rw [magnitude, if_pos hsign]
    refine nearest_shortest (isFinite_neg hx) ?_
    rw [(toBits_neg hx).1, hsign]
    rfl
  · rw [magnitude, if_neg hsign]
    exact nearest_shortest hx (by simpa using hsign)

/-- The text of a number begins with a digit or a sign. -/
theorem exists_chars_eq (n : Number) :
    ∃ c cs, n.chars = c :: cs ∧ (c.isDigit = true ∨ c = '-') := by
  obtain ⟨c, cs, hc, hdigit⟩ := n.valid_spelling.exists_chars_eq
  rw [chars_eq]
  split
  · exact ⟨'-', _, rfl, Or.inr rfl⟩
  · exact ⟨c, cs, hc, Or.inl hdigit⟩

/-- **The text of a number is read as its literal**, if what follows it is no part of it. -/
theorem literal?_chars (n : Number) {rest : List Char} (hrest : EndsNumber rest) :
    literal? (n.chars ++ rest) = some (n.literal, rest) := by
  have hread := unsigned?_chars n.valid_spelling hrest n.isNegative
  rw [literal, ← hread, chars_eq]
  cases n.isNegative with
  | true => rfl
  | false =>
    obtain ⟨c, cs, hc, hdigit⟩ := n.valid_spelling.exists_chars_eq
    change literal? (n.spelling.chars ++ rest) = _
    rw [hc, List.cons_append, RowQuery.literal?]
    rintro cs' h
    obtain rfl := (List.cons.inj h).1
    exact absurd hdigit (by decide)

end Number

end RowQuery

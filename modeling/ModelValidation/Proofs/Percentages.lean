import ModelValidation.Argument
import ModelValidation.Proofs.Numerals

/-!
# Percentages

A percentage should be a signed decimal number: a minus sign just if the number is negative and some digit shows that
it is not zero, then digits and separators.  A finite double is written as a hundred times itself, and this may overflow:

* `isSignedDecimal_shown`: as long as the hundredfold is finite, it is a signed decimal number with the sign of the double;
* `not_isSignedDecimal_shown`: an infinity is a word, which no separator and no pattern makes a decimal number;
* `stops_percentage_iff`: the program stops in a pattern that asks for too many places, and in no other percentage;
* `percentage_isSignedDecimal_iff`: so the percentages that are signed decimal numbers are those of the doubles of
  magnitude less than a hundredth of the bound from which rounding overflows, in as many places as can be written.
-/

namespace ModelValidation.Number

open Numeral

/-! ### Signed decimal numbers -/

/-- Digits and separators of a culture, with one decimal separator at most. -/
def IsUnsignedDecimal (culture : Culture) (cs : List Char) : Prop :=
  (∀ c ∈ cs, c.isDigit = true ∨ c = culture.groupSeparator ∨ c = culture.decimalSeparator) ∧
    cs.count culture.decimalSeparator ≤ 1

/-- Some digit other than zero shows. -/
def ShowsNonzero (cs : List Char) : Prop :=
  ∃ c ∈ cs, c.isDigit = true ∧ c ≠ '0'

/-- A decimal number whose sign shows just if it is negative and not written as zero. -/
inductive IsSignedDecimal (culture : Culture) (negative : Prop) : List Char → Prop
  | unsigned {cs} (hcs : IsUnsignedDecimal culture cs) (hsign : ¬(negative ∧ ShowsNonzero cs)) :
      IsSignedDecimal culture negative cs
  | signed {cs} (hcs : IsUnsignedDecimal culture cs) (hsign : negative ∧ ShowsNonzero cs) :
      IsSignedDecimal culture negative ('-' :: cs)

variable {culture : Culture} {x : Magnitude}

theorem isUnsignedDecimal_unsigned (culture : Culture) (hx : x.AllDigits) (grouped : Bool) :
    IsUnsignedDecimal culture (unsigned culture grouped x) := by
  obtain ⟨hwhole, hfraction⟩ := hx
  have hgroups := isDigit_or_groupSeparator culture grouped hwhole
  have hplaces : x.fraction.count culture.decimalSeparator = 0 :=
    List.count_eq_zero.2 (decimalSeparator_notMem fun c hc => Or.inl (hfraction c hc))
  constructor
  · intro c hc
    rw [unsigned, List.mem_append] at hc
    rcases hc with hc | hc
    · rcases hgroups c hc with hdigit | hsep
      · exact Or.inl hdigit
      · exact Or.inr (Or.inl hsep)
    · split at hc
      · cases hc
      · rcases List.mem_cons.1 hc with hsep | hmem
        · exact Or.inr (Or.inr hsep)
        · exact Or.inl (hfraction c hmem)
  · rw [unsigned, List.count_append, List.count_eq_zero.2 (decimalSeparator_notMem hgroups)]
    split
    · simp
    · rw [List.count_cons_self, hplaces]

theorem showsNonzero_unsigned (culture : Culture) (hx : x.AllDigits) (grouped : Bool) :
    ShowsNonzero (unsigned culture grouped x) ↔ x.isNonzero = true := by
  have hdigits : ∀ c, c ∈ unsigned culture grouped x ∧ c.isDigit = true ↔ c ∈ x.whole ++ x.fraction := by
    intro c
    rw [← filter_unsigned hx culture grouped, List.mem_filter]
  rw [Magnitude.isNonzero, ← List.any_append, List.any_eq_true]
  constructor
  · rintro ⟨c, hc, hdigit, hne⟩
    exact ⟨c, (hdigits c).1 ⟨hc, hdigit⟩, by simpa using hne⟩
  · rintro ⟨c, hc, hne⟩
    obtain ⟨hmem, hdigit⟩ := (hdigits c).2 hc
    exact ⟨c, hmem, hdigit, by simpa using hne⟩

/-- A magnitude with its sign, when it shows one just if it is not zero. -/
theorem isSignedDecimal_compose (culture : Culture) (hx : x.AllDigits) (grouped negative : Bool) :
    IsSignedDecimal culture (negative = true) (compose culture grouped (negative && x.isNonzero) x) := by
  have hbody := isUnsignedDecimal_unsigned culture hx grouped
  have hshows := showsNonzero_unsigned culture hx grouped
  rw [compose_eq]
  by_cases h : (negative && x.isNonzero) = true
  · rw [if_pos h]
    rw [Bool.and_eq_true] at h
    exact .signed hbody ⟨h.1, hshows.2 h.2⟩
  · rw [if_neg h, List.nil_append]
    rw [Bool.and_eq_true] at h
    exact .unsigned hbody fun hsign => h ⟨hsign.1, hshows.1 hsign.2⟩

theorem not_isUnsignedDecimal {cs : List Char} (h : 'i' ∈ cs) : ¬IsUnsignedDecimal culture cs := by
  rintro ⟨hchars, -⟩
  rcases hchars _ h with hdigit | hgroup | hdecimal
  · cases hdigit
  · cases culture <;> exact absurd hgroup (by decide)
  · cases culture <;> exact absurd hdecimal (by decide)

theorem not_isSignedDecimal {cs : List Char} (h : 'i' ∈ cs) (negative : Prop) :
    ¬IsSignedDecimal culture negative cs := by
  intro hcs
  cases hcs with
  | unsigned hcs hsign => exact not_isUnsignedDecimal h hcs
  | signed hcs hsign =>
    have hmem : 'i' ∈ _ := List.mem_of_ne_of_mem (by decide) h
    exact not_isUnsignedDecimal hmem hcs

/-! ### The hundredfold of a double -/

/-- **A finite hundredfold is a signed decimal number.** -/
theorem isSignedDecimal_shown (p : Pattern) {negative s : Bool} {m n : Nat} {e f : ℤ}
    (h : hundredfold (.finite negative m e) = .finite s n f) :
    IsSignedDecimal culture ((Binary64.finite negative m e).isNegative = true)
      (p.shown culture (.finite s n f)) := by
  have hdigits := allDigits_shape p (Binary64.allDigits_fixedMagnitude p.maxFraction n f)
  have hsign : s = negative := by
    rcases hundredfold_cases negative m e with hinf | ⟨n', f', hfin⟩
    · rw [hinf] at h
      cases h
    · rw [hfin] at h
      cases h
      rfl
  subst hsign
  rw [Pattern.shown]
  by_cases hm : m = 0
  · -- a zero of either sign shows none
    have hzero : (m : ℚ) * 2 ^ e = (0 : Nat) := by rw [hm, Nat.cast_zero, zero_mul]
    rw [Binary64.hundredfold_natural s hzero] at h
    cases h
    have hnegative : (Binary64.finite s m e).isNegative = false := by simp [Binary64.isNegative, hm]
    have h := isSignedDecimal_compose culture hdigits p.grouped false
    simpa [isNonzero_shape_zero, hnegative] using h
  · have hnegative : (Binary64.finite s m e).isNegative = s := by simp [Binary64.isNegative, hm]
    rw [hnegative]
    exact isSignedDecimal_compose culture hdigits p.grouped s

/-- **An infinity is not a decimal number.** -/
theorem not_isSignedDecimal_shown (p : Pattern) (s : Bool) (negative : Prop) :
    ¬IsSignedDecimal culture negative (p.shown culture (.infinite s)) := by
  have hwhole : 'i' ∈ (p.shape ⟨"inf".toList, []⟩).whole := by
    simp [Pattern.shape, padded_eq]
  exact not_isSignedDecimal (mem_compose hwhole) negative

theorem isSignedDecimal_shown_iff (culture : Culture) (p : Pattern) (negative : Bool) (m : Nat) (e : ℤ) :
    IsSignedDecimal culture ((Binary64.finite negative m e).isNegative = true)
      (p.shown culture (hundredfold (.finite negative m e))) ↔ 100 * ((m : ℚ) * 2 ^ e) < 2 ^ 1024 - 2 ^ 970 := by
  rw [← Binary64.isFinite_hundredfold_iff negative]
  rcases hundredfold_cases negative m e with hinf | ⟨n, f, hfin⟩
  · rw [hinf]
    constructor
    · intro h
      exact absurd h (not_isSignedDecimal_shown p negative _)
    · intro h
      cases h
  · constructor
    · intro _
      rw [hfin]
      rfl
    · intro _
      rw [hfin]
      exact isSignedDecimal_shown p hfin

/-! ### Formats of percentages -/

/-- The formats of percentages, with what they put behind the number and the places that they ask for: the letter P in
either case with at most two digits, and the patterns that hold a percent sign. -/
inductive PercentFormat (culture : Culture) (fmt : String) : String → Nat → Prop
  | standard {c : Char} {ds : List Char} (htext : Text.trim fmt.toList = c :: ds) (hletter : c = 'P' ∨ c = 'p')
      (hlength : ds.length ≤ 2) (hdigits : ∀ d ∈ ds, d.isDigit = true) :
      PercentFormat culture fmt culture.percentSuffix (if ds = [] then 2 else Nat.ofDigitChars 10 ds 0)
  | pattern (hchars : ∀ c ∈ Text.trim fmt.toList, c ∈ ['0', '#', ',', '.', '%'])
      (hplace : '0' ∈ Text.trim fmt.toList ∨ '#' ∈ Text.trim fmt.toList) (hpercent : '%' ∈ Text.trim fmt.toList) :
      PercentFormat culture fmt "%"
        (let behind := ((Text.trim fmt.toList).dropWhile (· != '.')).drop 1
        behind.count '0' + behind.count '#')

theorem Standard.parse?_percent {c : Char} {ds : List Char} (hletter : c = 'P' ∨ c = 'p') (hlength : ds.length ≤ 2)
    (hdigits : ∀ d ∈ ds, d.isDigit = true) : ∃ fmt, Standard.parse? (c :: ds) = some fmt ∧ fmt.kind = .percent := by
  have hkind : Kind.ofLetter? c = some .percent := by
    rcases hletter with rfl | rfl <;> rfl
  exact ⟨_, Standard.parse?_letter hkind hlength hdigits, rfl⟩

theorem Standard.parse?_pattern {cs : List Char} (hchars : ∀ c ∈ cs, c ∈ ['0', '#', ',', '.', '%']) :
    Standard.parse? cs = none := by
  cases cs with
  | nil => rfl
  | cons c cs =>
    have hletter : Kind.ofLetter? c = none := by
      have hc := hchars c List.mem_cons_self
      simp only [List.mem_cons, List.not_mem_nil, or_false] at hc
      rcases hc with rfl | rfl | rfl | rfl | rfl <;> rfl
    rw [Standard.parse?, hletter]
    rfl

/-- Zeros, hashes, commas, points and percent signs with a zero or a hash among them are a pattern. -/
theorem Pattern.parse?_eq {cs : List Char} (hchars : ∀ c ∈ cs, c ∈ ['0', '#', ',', '.', '%'])
    (hplace : '0' ∈ cs ∨ '#' ∈ cs) :
    Pattern.parse? cs = some {
      grouped := (Pattern.halves cs).1.contains ','
      minWhole := (Pattern.halves cs).1.count '0'
      minFraction := (Pattern.halves cs).2.count '0'
      maxFraction := (Pattern.halves cs).2.count '0' + (Pattern.halves cs).2.count '#'
      percent := cs.contains '%' } := by
  have hall : (cs.all fun c => c = '0' || c = '#' || c = ',' || c = '.' || c = '%') = true := by
    rw [List.all_eq_true]
    intro c hc
    simpa [or_assoc] using hchars c hc
  have hany : (cs.any fun c => c = '0' || c = '#') = true := by
    rw [List.any_eq_true]
    rcases hplace with h | h
    · exact ⟨_, h, rfl⟩
    · exact ⟨_, h, rfl⟩
  refine if_pos ?_
  rw [hall, hany]
  rfl

theorem Pattern.parse?_percent {cs : List Char} (hchars : ∀ c ∈ cs, c ∈ ['0', '#', ',', '.', '%'])
    (hplace : '0' ∈ cs ∨ '#' ∈ cs) (hpercent : '%' ∈ cs) : ∃ p, Pattern.parse? cs = some p ∧ p.percent = true :=
  ⟨_, Pattern.parse?_eq hchars hplace, List.contains_iff_mem.2 hpercent⟩

/-- Every format of percentages writes the hundredfold of a double after a pattern. -/
theorem format_percentage {fmt suffix : String} {places : Nat} (hfmt : PercentFormat culture fmt suffix places)
    (negative : Bool) (m : Nat) (e : ℤ) :
    ∃ p : Pattern, ((Number.float (.finite negative m e)).format fmt culture).toList =
      p.shown culture (hundredfold (.finite negative m e)) ++ suffix.toList := by
  cases hfmt with
  | standard htext hletter hlength hdigits =>
    obtain ⟨standard, hparse, hkind⟩ := Standard.parse?_percent hletter hlength hdigits
    refine ⟨Pattern.ofPlaces (standard.precision.getD 2), ?_⟩
    have happly := Standard.apply_percent hkind culture (x := .float (.finite negative m e)) rfl
    rw [← htext] at hparse
    rw [format_standard hparse, happly, toFloat]
  | pattern hchars hplace hpercent =>
    obtain ⟨p, hparse, hp⟩ := Pattern.parse?_percent hchars hplace hpercent
    refine ⟨p, ?_⟩
    have happly := Pattern.apply_eq p culture (x := .float (.finite negative m e)) rfl
    have hsuffix : "%".toList = ['%'] := rfl
    rw [hp, if_pos rfl, if_pos rfl] at happly
    rw [format_pattern (Standard.parse?_pattern hchars) hparse, happly, toFloat, hsuffix]

/-- **The program stops in a percentage just if it asks for too many places.** -/
theorem stops_percentage_iff {fmt suffix : String} {places : Nat} (hfmt : PercentFormat culture fmt suffix places)
    (negative : Bool) (m : Nat) (e : ℤ) :
    (Number.float (.finite negative m e)).stops fmt = true ↔ formatLimit < places := by
  have hfinite : (Number.float (.finite negative m e)).toFloat.isFinite = true := rfl
  rw [stops, hfinite, Bool.true_and, decide_eq_true_iff, patternPlaces]
  cases hfmt with
  | @standard c ds htext hletter hlength hdigits =>
    obtain ⟨standard, hparse, -⟩ := Standard.parse?_percent hletter hlength hdigits
    have hplaces : Nat.ofDigitChars 10 ds 0 < 100 :=
      (ofDigitChars_lt hdigits).trans_le (Nat.pow_le_pow_right (by decide) hlength)
    rw [htext, hparse, Option.isSome_some, if_pos rfl]
    refine iff_of_false (Nat.not_lt_zero _) ?_
    rw [formatLimit]
    split <;> omega
  | pattern hchars hplace hpercent =>
    rw [Standard.parse?_pattern hchars, Pattern.parse?_eq hchars hplace]
    rfl

/-- **The percentages that are signed decimal numbers.**  In every format of percentages and every culture, a finite double
is written as a signed decimal number before the mark of percentages just if its hundredfold is below the bound from which
rounding overflows, and the format asks for no more places than can be written. -/
theorem percentage_isSignedDecimal_iff {params : Parameters} {fmt suffix : String} {places : Nat}
    (hparams : Keyed.get? "format" params = some fmt) (hculture : ArgumentValue.cultureOf params = culture)
    (hfmt : PercentFormat culture fmt suffix places) (negative : Bool) (m : Nat) (e : ℤ) :
    (∃ cs, (ArgumentValue.number (.float (.finite negative m e))).render? params = some (String.ofList cs ++ suffix) ∧
        IsSignedDecimal culture ((Binary64.finite negative m e).isNegative = true) cs) ↔
      100 * ((m : ℚ) * 2 ^ e) < 2 ^ 1024 - 2 ^ 970 ∧ places ≤ 65535 := by
  have hstops := stops_percentage_iff hfmt negative m e
  rw [ArgumentValue.render?_number _ hparams, hculture]
  by_cases hplaces : places ≤ 65535
  · obtain ⟨p, hformat⟩ := format_percentage hfmt negative m e
    rw [if_neg (mt hstops.1 (Nat.not_lt.2 hplaces)), and_iff_left hplaces, ← isSignedDecimal_shown_iff culture p negative]
    constructor
    · rintro ⟨cs, htext, hcs⟩
      rw [Option.some.inj htext, String.toList_append, String.toList_ofList] at hformat
      rw [← List.append_cancel_right hformat]
      exact hcs
    · intro h
      refine ⟨_, congrArg some ?_, h⟩
      rw [← String.toList_inj, hformat, String.toList_append, String.toList_ofList]
  · rw [if_pos (hstops.2 (Nat.lt_of_not_le hplaces))]
    refine iff_of_false ?_ (fun h => hplaces h.2)
    rintro ⟨cs, htext, -⟩
    cases htext

/-- The theorem for a negative double whose hundredfold is the greatest but few. -/
theorem percentage_isSignedDecimal_german :
    ArgumentValue.cultureOf [("culture", "de-DE"), ("format", "#,##0.0%")] = .german ∧
      PercentFormat .german "#,##0.0%" "%" 1 ∧
      ∃ cs, (ArgumentValue.number (.float (.finite true 9007199254740991 964))).render?
          [("culture", "de-DE"), ("format", "#,##0.0%")] = some (String.ofList cs ++ "%") ∧
        IsSignedDecimal .german ((Binary64.finite true 9007199254740991 964).isNegative = true) cs := by
  have hculture : ArgumentValue.cultureOf [("culture", "de-DE"), ("format", "#,##0.0%")] = .german := by decide +kernel
  have htext : Text.trim "#,##0.0%".toList = ['#', ',', '#', '#', '0', '.', '0', '%'] := by decide +kernel
  have hfmt : PercentFormat .german "#,##0.0%" "%" 1 := by
    have hpattern := @PercentFormat.pattern .german "#,##0.0%"
    rw [htext] at hpattern
    exact hpattern (by simp) (by simp) (by simp)
  have hfinite : (hundredfold (.finite true 9007199254740991 964)).isFinite = true := by decide +kernel
  have hbound := (Binary64.isFinite_hundredfold_iff true 9007199254740991 964).1 hfinite
  exact ⟨hculture, hfmt, (percentage_isSignedDecimal_iff (by rfl) hculture hfmt true 9007199254740991 964).2
    ⟨hbound, by decide⟩⟩

/-- The double nearest to `-10^308` is finite, and its percentage is a word without a sign. -/
theorem percentage_of_huge :
    PercentFormat .invariant "P" " %" 2 ∧
      (ArgumentValue.number (.float (.finite true 5010420900022432 971))).render? [("format", "P")] = some "inf %" ∧
      ¬∃ cs, (ArgumentValue.number (.float (.finite true 5010420900022432 971))).render? [("format", "P")] =
          some (String.ofList cs ++ " %") ∧
        IsSignedDecimal .invariant ((Binary64.finite true 5010420900022432 971).isNegative = true) cs := by
  have hletter : Text.trim "P".toList = ['P'] := by decide +kernel
  have hfmt : PercentFormat .invariant "P" " %" 2 := .standard hletter (Or.inl rfl) (by simp) (by simp)
  have htext : (ArgumentValue.number (.float (.finite true 5010420900022432 971))).render? [("format", "P")] =
      some "inf %" := by decide +kernel
  refine ⟨hfmt, htext, ?_⟩
  rintro ⟨cs, hcs, hsigned⟩
  rw [htext, Option.some.injEq, ← String.toList_inj, String.toList_append, String.toList_ofList (l := cs)] at hcs
  have hword : 'i' ∈ cs ++ " %".toList := by
    rw [← hcs]
    decide
  have hmem : 'i' ∈ cs := (List.mem_append.1 hword).resolve_right (by decide)
  exact not_isSignedDecimal hmem _ hsigned

end ModelValidation.Number

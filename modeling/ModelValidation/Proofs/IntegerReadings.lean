import ModelValidation.Proofs.IntegerFormats
import ModelValidation.Text.Split

/-!
# Integers read back

A decimal number is read back from its sign, the digits before its point and the digits behind it.  What the standard
formats N, F and D write of an integer is read as this integer, however large it is:

* `head?_decimal`: the digits of a natural begin with a zero just for zero;
* `read?_compose`: a magnitude that is written with a sign is read as it is;
* `filter_compose_ne`: without the separators of groups, grouped digits are the digits;
* `value_integer`: the digits of an integer and zeros as places have its value;
* `integers_read_back`: all of this for the standard formats.
-/

namespace ModelValidation

namespace Numeral

/-! ### Leading zeros -/

theorem digitChar_ne_zero {n : Nat} (hn : n ≠ 0) (hlt : n < 10) : n.digitChar ≠ '0' := by
  have hdigits : ∀ n < 10, n ≠ 0 → n.digitChar ≠ '0' := by decide
  exact hdigits n hlt hn

/-- The digits of a natural other than zero have no zero in front, in every base and in whatever form digits are
written. -/
theorem head?_map_toDigits {base : Nat} (hbase : 1 < base) {f : Char → Char}
    (hf : ∀ d < base, d ≠ 0 → f d.digitChar ≠ '0') {n : Nat} (hn : n ≠ 0) :
    ((Nat.toDigits base n).map f).head? ≠ some '0' := by
  induction n using Nat.strong_induction_on with
  | h n ih =>
    by_cases hlt : n < base
    · rw [Nat.toDigits_of_lt_base hlt]
      simpa using hf n hlt hn
    · have hquotient : n / base ≠ 0 := Nat.div_ne_zero_iff.2 ⟨by omega, by omega⟩
      have hnil : (Nat.toDigits base (n / base)).map f ≠ [] := by simp [Nat.toDigits_ne_nil]
      rw [Nat.toDigits_of_base_le hbase (by omega), List.map_append, List.head?_append_of_ne_nil _ hnil]
      exact ih (n / base) (Nat.div_lt_self (by omega) hbase) hquotient

/-- The digits of a natural other than zero have no zero in front. -/
theorem head?_decimal {n : Nat} (hn : n ≠ 0) : (decimal n).head? ≠ some '0' := by
  have hhead := head?_map_toDigits (by decide) (f := id) (fun d hd hne => digitChar_ne_zero hne hd) hn
  rwa [List.map_id] at hhead

theorem ofDigitChars_padded (width : Nat) (ds : List Char) :
    Nat.ofDigitChars 10 (padded width ds) 0 = Nat.ofDigitChars 10 ds 0 := by
  rw [padded_eq, Nat.ofDigitChars_append, Nat.ofDigitChars_replicate_zero, Nat.mul_zero]

/-- Zeros stand in front only as far as the width asks for them, if the digits begin with none of their own. -/
theorem length_padded_of_head? {width : Nat} {ds : List Char} (hds : ds.head? = some '0' → ds = ['0'])
    (h : (padded width ds).head? = some '0') : (padded width ds).length = width ∨ padded width ds = ['0'] := by
  by_cases hlength : ds.length ≤ width
  · exact Or.inl (length_padded hlength)
  · right
    rw [padded_of_length_le (by omega)] at h ⊢
    exact hds h

theorem length_of_head?_padded {width n : Nat} (h : (padded width (decimal n)).head? = some '0') :
    (padded width (decimal n)).length = width ∨ padded width (decimal n) = ['0'] := by
  refine length_padded_of_head? (fun hhead => ?_) h
  have hzero : n = 0 := by
    by_contra hn
    exact head?_decimal hn hhead
  subst hzero
  rfl

theorem le_length_padded (width : Nat) (ds : List Char) : width ≤ (padded width ds).length := by
  rw [padded_eq, List.length_append, List.length_replicate]
  omega

end Numeral

open Numeral

/-! ### Decimal numbers -/

/-- At least one character, and nothing but digits. -/
def IsNumeral (ds : List Char) : Prop := ds ≠ [] ∧ ∀ d ∈ ds, d.isDigit = true

instance (ds : List Char) : Decidable (IsNumeral ds) :=
  decidable_of_iff (ds ≠ [] ∧ ds.all Char.isDigit = true) (and_congr_right fun _ => List.all_eq_true)

/-- A decimal number taken apart: its sign, the digits before its point, and those behind it if it has one. -/
structure DecimalReading where
  negative : Bool
  whole : List Char
  fraction : Option (List Char)
  deriving DecidableEq, Repr

namespace DecimalReading

/-- Reads digits, which a point may part in two. -/
def ofBody? (point : Char) (negative : Bool) (body : List Char) : Option DecimalReading :=
  match Text.splitOnce point body with
  | none => if IsNumeral body then some ⟨negative, body, none⟩ else none
  | some (whole, fraction) =>
    if IsNumeral whole ∧ IsNumeral fraction then some ⟨negative, whole, some fraction⟩ else none

/-- Reads a decimal number with a minus sign or without a sign. -/
def read? (point : Char) : List Char → Option DecimalReading
  | '-' :: body => ofBody? point true body
  | body => ofBody? point false body

/-- The digits behind the point. -/
def places (x : DecimalReading) : List Char := x.fraction.getD []

/-- The number that has been read. -/
def value (x : DecimalReading) : ℚ :=
  (if x.negative then -1 else 1) *
    (Nat.ofDigitChars 10 x.whole 0 + Nat.ofDigitChars 10 x.places 0 / 10 ^ x.places.length)

theorem ofBody?_whole {point : Char} (hpoint : point.isDigit = false) (negative : Bool) {ds : List Char}
    (hds : IsNumeral ds) : ofBody? point negative ds = some ⟨negative, ds, none⟩ := by
  have hnone : Text.splitOnce point ds = none := by
    rw [Text.splitOnce_eq_none_iff]
    intro hmem
    rw [hds.2 point hmem] at hpoint
    cases hpoint
  rw [ofBody?, hnone]
  exact if_pos hds

theorem ofBody?_point {point : Char} (hpoint : point.isDigit = false) (negative : Bool) {ds es : List Char}
    (hds : IsNumeral ds) (hes : IsNumeral es) :
    ofBody? point negative (ds ++ point :: es) = some ⟨negative, ds, some es⟩ := by
  have hsplit : Text.splitOnce point (ds ++ point :: es) = some (ds, es) := by
    rw [Text.splitOnce_eq_some_iff]
    refine ⟨fun hmem => ?_, rfl⟩
    rw [hds.2 point hmem] at hpoint
    cases hpoint
  rw [ofBody?, hsplit]
  exact if_pos ⟨hds, hes⟩

theorem read?_minus (point : Char) (body : List Char) : read? point ('-' :: body) = ofBody? point true body := rfl

theorem read?_of_ne {point c : Char} (hc : c ≠ '-') (body : List Char) :
    read? point (c :: body) = ofBody? point false (c :: body) := by
  rw [read?]
  rintro rest hrest
  cases hrest
  exact hc rfl

end DecimalReading

namespace Number

variable {culture : Culture} {x : Magnitude}

/-! ### Magnitudes read back -/

theorem filter_ne_groupSeparator (culture : Culture) {ds : List Char} (hds : ∀ c ∈ ds, c.isDigit = true) :
    ds.filter (· ≠ culture.groupSeparator) = ds := by
  refine List.filter_eq_self.2 fun c hc => ?_
  simpa using ne_groupSeparator (hds c hc) culture

/-- **Without the separators of groups a number is written as without groups.** -/
theorem filter_compose_ne (hx : x.AllDigits) (grouped negative : Bool) :
    (compose culture grouped negative x).filter (· ≠ culture.groupSeparator) = compose culture false negative x := by
  have hsign : (if negative then ['-'] else []).filter (· ≠ culture.groupSeparator) = if negative then ['-'] else [] := by
    cases negative
    · rfl
    · cases culture <;> rfl
  have hwhole : (if grouped then groupThrees culture.groupSeparator x.whole else x.whole).filter
      (· ≠ culture.groupSeparator) = x.whole := by
    split
    · rw [filter_groupThrees (by simp), filter_ne_groupSeparator culture hx.1]
    · exact filter_ne_groupSeparator culture hx.1
  have hfraction : (if x.fraction = [] then [] else culture.decimalSeparator :: x.fraction).filter
      (· ≠ culture.groupSeparator) = if x.fraction = [] then [] else culture.decimalSeparator :: x.fraction := by
    split
    · rfl
    · rw [List.filter_cons_of_pos (by simpa using culture.decimalSeparator_ne_groupSeparator),
        filter_ne_groupSeparator culture hx.2]
  rw [compose, List.filter_append, List.filter_append, hsign, hwhole, hfraction]
  rfl

theorem ofBody?_unsigned (culture : Culture) (hx : x.AllDigits) (hne : x.whole ≠ []) (negative : Bool) :
    DecimalReading.ofBody? culture.decimalSeparator negative (unsigned culture false x) =
      some ⟨negative, x.whole, if x.fraction = [] then none else some x.fraction⟩ := by
  have hpoint := isDigit_decimalSeparator culture
  unfold unsigned
  by_cases hfraction : x.fraction = []
  · rw [if_pos hfraction, if_pos hfraction, List.append_nil]
    exact DecimalReading.ofBody?_whole hpoint negative ⟨hne, hx.1⟩
  · rw [if_neg hfraction, if_neg hfraction]
    exact DecimalReading.ofBody?_point hpoint negative ⟨hne, hx.1⟩ ⟨hfraction, hx.2⟩

theorem exists_digit_unsigned (culture : Culture) (hx : x.AllDigits) (hne : x.whole ≠ []) :
    ∃ d rest, unsigned culture false x = d :: rest ∧ d.isDigit = true := by
  obtain ⟨d, ds, hwhole⟩ := List.exists_cons_of_ne_nil hne
  unfold unsigned
  rw [if_neg Bool.false_ne_true, hwhole]
  exact ⟨d, _, rfl, hx.1 d (hwhole ▸ List.mem_cons_self)⟩

/-- **A magnitude with a sign is read as it is.** -/
theorem read?_compose (culture : Culture) (hx : x.AllDigits) (hne : x.whole ≠ []) (negative : Bool) :
    DecimalReading.read? culture.decimalSeparator (compose culture false negative x) =
      some ⟨negative, x.whole, if x.fraction = [] then none else some x.fraction⟩ := by
  rw [compose_eq, ← ofBody?_unsigned culture hx hne negative]
  cases negative with
  | true => rw [if_pos rfl, List.singleton_append, DecimalReading.read?_minus]
  | false =>
    obtain ⟨d, rest, hbody, hdigit⟩ := exists_digit_unsigned culture hx hne
    have hd : d ≠ '-' := by
      rintro rfl
      cases hdigit
    rw [if_neg Bool.false_ne_true, List.nil_append, hbody, DecimalReading.read?_of_ne hd]

/-- **The digits of an integer and zeros as places have its value.** -/
theorem value_integer (i : ℤ) (places : Nat) (fraction : Option (List Char))
    (hfraction : fraction.getD [] = List.replicate places '0') :
    (DecimalReading.mk (i < 0) (decimal i.natAbs) fraction).value = i := by
  rw [DecimalReading.value, DecimalReading.places, hfraction, ofDigitChars_decimal, Nat.ofDigitChars_replicate_zero,
    Nat.cast_natAbs]
  rcases lt_or_ge i 0 with hi | hi
  · simp [hi, abs_of_neg hi]
  · simp [hi, abs_of_nonneg hi]

/-! ### Standard formats -/

/-- A standard format is its letter in either case with at most two digits, which give the precision; without digits the
precision is the usual one. -/
def AsksFor (letter : Char) (usual : Nat) (fmt : String) (n : Nat) : Prop :=
  ∃ c ds, Text.trim fmt.toList = c :: ds ∧ c.toUpper = letter ∧ ds.length ≤ 2 ∧ (∀ d ∈ ds, d.isDigit = true) ∧
    n = if ds = [] then usual else Nat.ofDigitChars 10 ds 0

section Formats

variable {letter : Char} {usual n : Nat} {fmt : String} {kind : Kind}

theorem format_asked (h : AsksFor letter usual fmt n) (hupper : letter.toUpper = letter)
    (hkind : Kind.ofLetter? letter = some kind) (culture : Culture) (x : Number) :
    ∃ s : Standard, s.kind = kind ∧ s.precision.getD usual = n ∧ (x.format fmt culture).toList = s.apply culture x := by
  obtain ⟨c, ds, htext, hletter, hlength, hdigits, hn⟩ := h
  have hkind_c : Kind.ofLetter? c = some kind := by
    rw [← hkind, Kind.ofLetter?, Kind.ofLetter?, hletter, hupper]
  have hparse := Standard.parse?_letter hkind_c hlength hdigits
  rw [← htext] at hparse
  refine ⟨_, rfl, ?_, format_standard hparse culture x⟩
  rw [hn]
  split <;> rfl

theorem format_fixed (h : AsksFor 'N' 2 fmt n ∨ AsksFor 'F' 2 fmt n) (culture : Culture) (i : ℤ) :
    ∃ grouped, ((integer i).format fmt culture).toList = fixed culture grouped n (.integer i) := by
  rcases h with h | h
  all_goals obtain ⟨⟨_, lowercase, precision⟩, rfl, rfl, hformat⟩ := format_asked h (by decide) rfl culture (integer i)
  · exact ⟨true, hformat⟩
  · exact ⟨false, hformat⟩

theorem format_digits (h : AsksFor 'D' 0 fmt n) (culture : Culture) (i : ℤ) :
    ((integer i).format fmt culture).toList = digits n i := by
  obtain ⟨⟨_, lowercase, precision⟩, rfl, rfl, hformat⟩ :=
    format_asked h (by decide) rfl culture (integer i)
  exact hformat

end Formats

/-! ### Integers in standard formats -/

/-- What the formats F and N write of an integer is read back. -/
theorem fixed_reads_back (culture : Culture) (grouped : Bool) (places : Nat) (i : ℤ) :
    ∃ x, DecimalReading.read? culture.decimalSeparator
          ((fixed culture grouped places (.integer i)).filter (· ≠ culture.groupSeparator)) = some x ∧
        x.value = i ∧ x.fraction = (if places = 0 then none else some (List.replicate places '0')) := by
  have hdigits := allDigits_natural i.natAbs places
  have hread := read?_compose culture hdigits (decimal_ne_nil i.natAbs) (i < 0)
  rw [fixed, filter_compose_ne hdigits]
  refine ⟨_, hread, value_integer i places _ ?_, ?_⟩
  · split
    · next h => exact h.symm
    · rfl
  · simp

/-- The decimal separator stands in an integer just if places follow it. -/
theorem decimalSeparator_mem_fixed_iff (culture : Culture) (grouped : Bool) (places : Nat) (i : ℤ) :
    culture.decimalSeparator ∈ fixed culture grouped places (.integer i) ↔ places ≠ 0 := by
  have hsign : culture.decimalSeparator ∉ if decide (i < 0) = true then ['-'] else [] := by
    split
    · cases culture <;> decide
    · exact List.not_mem_nil
  have hwhole : culture.decimalSeparator ∉
      if grouped then groupThrees culture.groupSeparator (decimal i.natAbs) else decimal i.natAbs :=
    decimalSeparator_notMem (isDigit_or_groupSeparator culture grouped fun c => isDigit_of_mem_decimal)
  rw [fixed, compose, List.mem_append, List.mem_append, or_iff_right (not_or.2 ⟨hsign, hwhole⟩)]
  simp

/-- **Integers in standard formats are read back.**  Without the separators of groups, what the formats N and F write of an
integer is read as the integer, with as many zeros behind the point as the format asks for, and without a point if it
asks for none.  The format D writes a minus sign just if the integer is negative, and then digits of its magnitude, at
least as many as asked for, with zeros in front only to reach that many. -/
theorem integers_read_back (culture : Culture) (i : ℤ) :
    (∀ fmt n, AsksFor 'N' 2 fmt n ∨ AsksFor 'F' 2 fmt n →
      (∃ x, DecimalReading.read? culture.decimalSeparator
            (((integer i).format fmt culture).toList.filter (· ≠ culture.groupSeparator)) = some x ∧
          x.value = i ∧ x.fraction = if n = 0 then none else some (List.replicate n '0')) ∧
        (culture.decimalSeparator ∈ ((integer i).format fmt culture).toList ↔ n ≠ 0)) ∧
      ∀ fmt n, AsksFor 'D' 0 fmt n →
        ∃ ds, ((integer i).format fmt culture).toList = (if i < 0 then ['-'] else []) ++ ds ∧
          (∀ d ∈ ds, d.isDigit = true) ∧ n ≤ ds.length ∧ Nat.ofDigitChars 10 ds 0 = i.natAbs ∧
          (ds.head? = some '0' → ds.length = n ∨ ds = ['0']) := by
  constructor
  · intro fmt n hfmt
    obtain ⟨grouped, hformat⟩ := format_fixed hfmt culture i
    rw [hformat]
    exact ⟨fixed_reads_back culture grouped n i, decimalSeparator_mem_fixed_iff culture grouped n i⟩
  · intro fmt n hfmt
    refine ⟨padded n (decimal i.natAbs), format_digits hfmt culture i, ?_, le_length_padded n _, ?_, length_of_head?_padded⟩
    · intro d hd
      exact isDigit_of_mem_padded (fun c => isDigit_of_mem_decimal) hd
    · rw [ofDigitChars_padded, ofDigitChars_decimal]

/-- The least integer of 128 bits, in the culture whose separators are those of English the other way round. -/
theorem integers_read_back_least :
    (AsksFor 'N' 2 "n3" 3 ∧ ∃ x, DecimalReading.read? Culture.german.decimalSeparator
        (((integer (-(pow2 127 : ℤ))).format "n3" .german).toList.filter (· ≠ Culture.german.groupSeparator)) = some x ∧
      x.value = -(pow2 127 : ℤ) ∧ x.fraction = some ['0', '0', '0']) ∧
    AsksFor 'D' 0 "D45" 45 ∧ ∃ ds, ((integer (-(pow2 127 : ℤ))).format "D45" .german).toList = '-' :: ds ∧
      Nat.ofDigitChars 10 ds 0 = pow2 127 := by
  obtain ⟨hfixed, hdigits⟩ := integers_read_back .german (-(pow2 127 : ℤ))
  have hgrouped : AsksFor 'N' 2 "n3" 3 := ⟨'n', ['3'], by decide +kernel, rfl, by decide, by simp, rfl⟩
  have hwide : AsksFor 'D' 0 "D45" 45 := ⟨'D', ['4', '5'], by decide +kernel, rfl, by decide, by simp, rfl⟩
  obtain ⟨hread, -⟩ := hfixed "n3" 3 (Or.inl hgrouped)
  obtain ⟨ds, hformat, -, -, hvalue, -⟩ := hdigits "D45" 45 hwide
  exact ⟨⟨hgrouped, hread⟩, hwide, ds, hformat, hvalue⟩

end Number

end ModelValidation

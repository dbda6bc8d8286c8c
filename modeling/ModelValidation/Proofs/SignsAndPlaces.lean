import Mathlib.Data.List.DropRight
import ModelValidation.Proofs.DigitGroups
import ModelValidation.Proofs.Percentages

/-!
# Signs and counts of digits

What the formats with places and the patterns decide about a finite number is its sign and how many digits show:

* `head?_compose`, `showsNonzero_compose`: a written magnitude begins with its sign, and shows the digits that it has;
* `exists_dropped_zeros`, `getLast?_dropZeros`: a fraction loses zeros at its end, down to the least count of places;
* `followsPattern_shape`: what a pattern shows of a printed magnitude;
* `signs_and_places_follow_format`: both for every finite number in every such format.
-/

namespace ModelValidation.Number

open Numeral

/-! ### Signs -/

section Sign

variable {x : Magnitude}

theorem minus_notMem_unsigned (culture : Culture) (hx : x.AllDigits) (grouped : Bool) :
    '-' ∉ unsigned culture grouped x := by
  intro hmem
  rcases (isUnsignedDecimal_unsigned culture hx grouped).1 _ hmem with hdigit | hgroup | hdecimal
  · cases hdigit
  · cases culture <;> exact absurd hgroup (by decide)
  · cases culture <;> exact absurd hdecimal (by decide)

/-- A magnitude is written with a minus sign in front just if it has the sign. -/
theorem head?_compose (culture : Culture) (hx : x.AllDigits) (grouped negative : Bool) :
    (compose culture grouped negative x).head? = some '-' ↔ negative = true := by
  rw [compose_eq]
  cases negative with
  | true => simp
  | false =>
    rw [if_neg Bool.false_ne_true, List.nil_append]
    constructor
    · intro h
      exact absurd (List.mem_of_head? h) (minus_notMem_unsigned culture hx grouped)
    · intro h
      cases h

theorem showsNonzero_compose (culture : Culture) (hx : x.AllDigits) (grouped negative : Bool) :
    ShowsNonzero (compose culture grouped negative x) ↔ x.isNonzero = true := by
  rw [← showsNonzero_unsigned culture hx grouped, compose_eq]
  constructor
  · rintro ⟨c, hc, hdigit, hne⟩
    refine ⟨c, (List.mem_append.1 hc).resolve_left fun hsign => ?_, hdigit, hne⟩
    split at hsign
    · rw [List.mem_singleton.1 hsign] at hdigit
      cases hdigit
    · cases hsign
  · rintro ⟨c, hc, hdigit, hne⟩
    exact ⟨c, List.mem_append_right _ hc, hdigit, hne⟩

end Sign

/-- The text begins with a minus sign just if the number is negative and a digit other than zero shows. -/
def SignShows (x : Number) (text : List Char) : Prop :=
  text.head? = some '-' ↔ x.isNegative = true ∧ ShowsNonzero text

theorem signShows_compose (culture : Culture) (x : Number) {shown : Magnitude} (hshown : shown.AllDigits)
    (grouped : Bool) : SignShows x (compose culture grouped (x.isNegative && shown.isNonzero) shown) := by
  rw [SignShows, head?_compose culture hshown, showsNonzero_compose culture hshown, Bool.and_eq_true]

/-! ### Places of a fraction -/

theorem dropZeros_eq_rdropWhile (least : Nat) (cs : List Char) :
    dropZeros least cs = cs.take least ++ (cs.drop least).rdropWhile (· = '0') := rfl

/-- Only zeros are dropped, and only from the end. -/
theorem exists_dropped_zeros (least : Nat) (cs : List Char) :
    ∃ k, cs = dropZeros least cs ++ List.replicate k '0' := by
  have hzeros : (cs.drop least).rtakeWhile (· = '0') =
      List.replicate ((cs.drop least).rtakeWhile (· = '0')).length '0' := by
    refine List.eq_replicate_iff.2 ⟨rfl, fun c hc => ?_⟩
    simpa using List.mem_rtakeWhile_imp hc
  refine ⟨((cs.drop least).rtakeWhile (· = '0')).length, ?_⟩
  rw [← hzeros, dropZeros_eq_rdropWhile, List.append_assoc, List.rdropWhile_append_rtakeWhile, List.take_append_drop]

theorem length_dropZeros_le (least : Nat) (cs : List Char) : (dropZeros least cs).length ≤ cs.length := by
  obtain ⟨k, hk⟩ := exists_dropped_zeros least cs
  have hlength := congrArg List.length hk
  rw [List.length_append] at hlength
  omega

theorem le_length_dropZeros {least : Nat} {cs : List Char} (h : least ≤ cs.length) :
    least ≤ (dropZeros least cs).length := by
  rw [dropZeros_eq_rdropWhile, List.length_append, List.length_take]
  omega

/-- Beyond the least count no zero is last. -/
theorem getLast?_dropZeros {least : Nat} {cs : List Char} (h : least < (dropZeros least cs).length) :
    (dropZeros least cs).getLast? ≠ some '0' := by
  rw [dropZeros_eq_rdropWhile] at h ⊢
  have hkept : (cs.drop least).rdropWhile (· = '0') ≠ [] := by
    intro hnil
    rw [hnil, List.append_nil, List.length_take] at h
    omega
  have hlast := List.rdropWhile_last_not _ _ hkept
  rw [List.getLast?_append_of_ne_nil _ hkept, List.getLast?_eq_some_getLast hkept]
  simpa using hlast

/-! ### Patterns -/

/-- The format is a pattern without a percent sign, made of zeros, hashes, commas and points with a zero or a hash among
them; one part stands before its first point and one behind it, which is empty if there is no point. -/
structure IsPattern (fmt : String) (whole fraction : List Char) : Prop where
  chars : ∀ c ∈ Text.trim fmt.toList, c ∈ ['0', '#', ',', '.']
  place : '0' ∈ Text.trim fmt.toList ∨ '#' ∈ Text.trim fmt.toList
  point : '.' ∉ whole
  text : Text.trim fmt.toList = whole ++ '.' :: fraction ∨ Text.trim fmt.toList = whole ∧ fraction = []

/-- What the two parts of a pattern without a percent sign ask for. -/
def Pattern.ofParts (whole fraction : List Char) : Pattern :=
  ⟨whole.contains ',', whole.count '0', fraction.count '0', fraction.count '0' + fraction.count '#', false⟩

theorem IsPattern.halves_eq {fmt : String} {whole fraction : List Char} (h : IsPattern fmt whole fraction) :
    Pattern.halves (Text.trim fmt.toList) = (whole, fraction) := by
  have hwhole : ∀ c ∈ whole, (c != '.') = true := by
    intro c hc
    rw [bne_iff_ne]
    rintro rfl
    exact h.point hc
  rcases h.text with htext | ⟨htext, rfl⟩
  · rw [htext, Pattern.halves, List.takeWhile_append_of_pos hwhole, List.dropWhile_append_of_pos hwhole]
    simp
  · rw [htext, Pattern.halves, List.takeWhile_eq_self_iff.2 hwhole, List.dropWhile_eq_nil_iff.2 hwhole]
    rfl

theorem IsPattern.parse?_eq {fmt : String} {whole fraction : List Char} (h : IsPattern fmt whole fraction) :
    Standard.parse? (Text.trim fmt.toList) = none ∧
      Pattern.parse? (Text.trim fmt.toList) = some (Pattern.ofParts whole fraction) := by
  have hchars : ∀ c ∈ Text.trim fmt.toList, c ∈ ['0', '#', ',', '.', '%'] := fun c hc =>
    List.mem_append_left ['%'] (h.chars c hc)
  have hpercent : (Text.trim fmt.toList).contains '%' = false := by
    rw [← Bool.not_eq_true, List.contains_iff_mem]
    intro hmem
    exact absurd (h.chars _ hmem) (by decide)
  refine ⟨Standard.parse?_pattern hchars, ?_⟩
  rw [Pattern.parse?_eq hchars h.place, h.halves_eq, hpercent, Pattern.ofParts]

/-- What a pattern shows of a printed magnitude, by the zeros and hashes of its two parts.  The fraction is the printed
one less zeros from its end; the whole digits have the printed value, and none are left just if the printed one is a
single zero that no zero of the pattern asks for. -/
structure FollowsPattern (whole fraction : List Char) (printed shown : Magnitude) : Prop where
  least_places : fraction.count '0' ≤ shown.fraction.length
  most_places : shown.fraction.length ≤ fraction.count '0' + fraction.count '#'
  last_place : fraction.count '0' < shown.fraction.length → shown.fraction.getLast? ≠ some '0'
  printed_fraction : ∃ k, printed.fraction = shown.fraction ++ List.replicate k '0'
  least_digits : whole.count '0' ≤ shown.whole.length
  first_digit : shown.whole.head? = some '0' → shown.whole.length = whole.count '0'
  printed_whole : Nat.ofDigitChars 10 shown.whole 0 = Nat.ofDigitChars 10 printed.whole 0
  empty_iff : shown.whole = [] ↔ whole.count '0' = 0 ∧ printed.whole = ['0']

theorem decimal_eq_zero_iff {n : Nat} : decimal n = ['0'] ↔ n = 0 :=
  ⟨fun h => decimal_injective (n := 0) h, fun h => by rw [h]; rfl⟩

/-- Whole digits have their least count, with zeros in front only to reach it, and the value of the natural; a zero that
is not asked for is left out. -/
theorem whole_shape (p : Pattern) {printed : Magnitude} {n : Nat} (hn : printed.whole = decimal n) :
    p.minWhole ≤ (p.shape printed).whole.length ∧
      ((p.shape printed).whole.head? = some '0' → (p.shape printed).whole.length = p.minWhole) ∧
      Nat.ofDigitChars 10 (p.shape printed).whole 0 = n ∧ ((p.shape printed).whole = [] ↔ p.minWhole = 0 ∧ n = 0) := by
  simp only [Pattern.shape, hn, decimal_eq_zero_iff]
  split
  · next h => simp [h]
  · next h =>
    have hleast := le_length_padded p.minWhole (decimal n)
    have hne : padded p.minWhole (decimal n) ≠ [] := List.append_ne_nil_of_right_ne_nil _ (decimal_ne_nil n)
    refine ⟨hleast, fun hfirst => ?_, by rw [ofDigitChars_padded, ofDigitChars_decimal], ?_⟩
    · rcases length_of_head?_padded hfirst with hwidth | hzero
      · exact hwidth
      · -- a single zero, which the pattern asks for, since it is not left out
        have hvalue := ofDigitChars_padded p.minWhole (decimal n)
        rw [hzero, ofDigitChars_decimal] at hvalue
        have hn_zero : n = 0 := hvalue.symm
        rw [hzero] at hleast ⊢
        rw [List.length_singleton] at hleast ⊢
        omega
    · exact iff_of_false hne fun hzero => h ⟨hzero.2, hzero.1⟩

/-- **What a pattern shows of a natural and places in full.** -/
theorem followsPattern_shape (whole fraction : List Char) {printed : Magnitude} {n : Nat}
    (hn : printed.whole = decimal n) (hplaces : printed.fraction.length = fraction.count '0' + fraction.count '#') :
    FollowsPattern whole fraction printed ((Pattern.ofParts whole fraction).shape printed) := by
  have hleast_places : fraction.count '0' ≤ printed.fraction.length := by omega
  obtain ⟨hleast, hfirst, hvalue, hempty⟩ := whole_shape (Pattern.ofParts whole fraction) hn
  exact {
    least_places := le_length_dropZeros hleast_places
    most_places := (length_dropZeros_le _ _).trans hplaces.le
    last_place := getLast?_dropZeros
    printed_fraction := exists_dropped_zeros _ _
    least_digits := hleast
    first_digit := hfirst
    printed_whole := by rw [hvalue, hn, ofDigitChars_decimal]
    empty_iff := by rw [hempty, hn, decimal_eq_zero_iff]; rfl }

/-! ### Finite numbers after a pattern -/

/-- An integer has 128 bits. -/
def FitsWord : Number → Prop
  | .integer i => -(pow2 127 : ℤ) ≤ i ∧ i < pow2 127
  | .float _ => True

theorem natAbs_lt_of_fitsWord {i : ℤ} (h : (integer i).FitsWord) : i.natAbs < pow2 1023 := by
  obtain ⟨hlow, hhigh⟩ := h
  have hbits : pow2 (127 + 1) ≤ pow2 1023 := pow2_le_pow2 (by omega)
  have htwo : pow2 1 = 2 := rfl
  have hpos := pow2_pos 127
  rw [pow2_add, htwo] at hbits
  omega

section Numbers

variable {x : Number}

/-- A finite number is a finite double, whose sign is that of the number where it shows. -/
theorem exists_toFloat (hx : x.IsFinite) (hfits : x.FitsWord) :
    ∃ negative m e, x.toFloat = .finite negative m e ∧ ∀ places,
      (negative && (Binary64.fixedMagnitude places m e).isNonzero) =
        (x.isNegative && (Binary64.fixedMagnitude places m e).isNonzero) := by
  obtain ⟨i, rfl⟩ | ⟨negative, m, e, rfl⟩ := hx.cases
  · obtain ⟨m, e, hfinite, -⟩ := Binary64.ofRatio_natural (decide (i < 0)) (natAbs_lt_of_fitsWord hfits)
    exact ⟨decide (i < 0), m, e, hfinite, fun _ => rfl⟩
  · exact ⟨negative, m, e, rfl, fun places => sign_fixedMagnitude negative places m e⟩

/-- **A finite number after a pattern.** -/
theorem format_isPattern {fmt : String} {whole fraction : List Char} (hfmt : IsPattern fmt whole fraction)
    (hx : x.IsFinite) (hfits : x.FitsWord) (culture : Culture) :
    ∃ negative m e shown, x.toFloat = .finite negative m e ∧
      FollowsPattern whole fraction (Binary64.fixedMagnitude (fraction.count '0' + fraction.count '#') m e) shown ∧
      shown.AllDigits ∧
      (x.format fmt culture).toList = compose culture (whole.contains ',') (x.isNegative && shown.isNonzero) shown := by
  obtain ⟨negative, m, e, hfinite, hsign⟩ := exists_toFloat hx hfits
  obtain ⟨hstandard, hparse⟩ := hfmt.parse?_eq
  have hlength := Binary64.length_fraction_fixedMagnitude (fraction.count '0' + fraction.count '#') m e
  have hdigits := Binary64.allDigits_fixedMagnitude (fraction.count '0' + fraction.count '#') m e
  have hshown : (Pattern.ofParts whole fraction).shown culture (.finite negative m e) =
      compose culture (whole.contains ',') (x.isNegative &&
        ((Pattern.ofParts whole fraction).shape
          (Binary64.fixedMagnitude (fraction.count '0' + fraction.count '#') m e)).isNonzero)
        ((Pattern.ofParts whole fraction).shape
          (Binary64.fixedMagnitude (fraction.count '0' + fraction.count '#') m e)) := by
    rw [isNonzero_shape, ← hsign, ← isNonzero_shape (Pattern.ofParts whole fraction)]
    rfl
  refine ⟨negative, m, e, _, hfinite, followsPattern_shape whole fraction rfl hlength, allDigits_shape _ hdigits, ?_⟩
  rw [← hshown, format_pattern hstandard hparse, Pattern.apply_eq _ culture hfinite, hfinite]
  exact List.append_nil _

end Numbers

/-- **Signs and places follow the format.**  For every finite number in every culture, what the formats F and N and the
patterns without a percent sign write begins with a minus sign just if the number is negative and a digit other than
zero shows.  The formats F and N show as many places as they ask for; a pattern shows of the double, printed with as many
places as it has zeros and hashes behind its point, the digits that they ask for. -/
theorem signs_and_places_follow_format (culture : Culture) {x : Number} (hx : x.IsFinite) (hfits : x.FitsWord) :
    (∀ (grouped : Bool) fmt n, AsksFor (if grouped then 'N' else 'F') 2 fmt n →
      SignShows x (x.format fmt culture).toList ∧
        ∃ shown, IsWritten culture (grouped = true) shown (x.format fmt culture).toList ∧ shown.AllDigits ∧
          shown.fraction.length = n) ∧
    ∀ fmt whole fraction, IsPattern fmt whole fraction →
      SignShows x (x.format fmt culture).toList ∧
        ∃ negative m e shown, x.toFloat = .finite negative m e ∧
          IsWritten culture (',' ∈ whole) shown (x.format fmt culture).toList ∧ shown.AllDigits ∧
          FollowsPattern whole fraction (Binary64.fixedMagnitude (fraction.count '0' + fraction.count '#') m e) shown := by
  constructor
  · intro grouped fmt n hfmt
    have hdigits := allDigits_magnitude hx n
    rw [format_places grouped hfmt hx, fixed_eq_compose hx]
    exact ⟨signShows_compose culture x hdigits grouped, x.magnitude n, isWritten_compose culture grouped _ _, hdigits,
      length_fraction_magnitude hx n⟩
  · intro fmt whole fraction hfmt
    obtain ⟨negative, m, e, shown, hfinite, hfollows, hdigits, hformat⟩ := format_isPattern hfmt hx hfits culture
    rw [hformat]
    refine ⟨signShows_compose culture x hdigits _, negative, m, e, shown, hfinite, ?_, hdigits, hfollows⟩
    simpa using isWritten_compose culture (whole.contains ',') _ shown

/-- A negative double that rounds to zero, after a pattern that asks for no whole digit, and the least integer of 128
bits. -/
theorem signs_and_places_follow_format_extremes :
    ((float (.finite true 1 (-9))).IsFinite ∧ (float (.finite true 1 (-9))).FitsWord ∧ IsPattern "#.0#" ['#'] ['0', '#'] ∧
      SignShows (float (.finite true 1 (-9))) ((float (.finite true 1 (-9))).format "#.0#" .french).toList ∧
      ∃ shown, IsWritten .french (',' ∈ ['#']) shown ((float (.finite true 1 (-9))).format "#.0#" .french).toList ∧
        FollowsPattern ['#'] ['0', '#'] (Binary64.fixedMagnitude 2 1 (-9)) shown) ∧
    (integer (-(pow2 127 : ℤ))).IsFinite ∧ (integer (-(pow2 127 : ℤ))).FitsWord ∧ AsksFor 'N' 2 "n3" 3 ∧
      SignShows (integer (-(pow2 127 : ℤ))) ((integer (-(pow2 127 : ℤ))).format "n3" .german).toList ∧
      ∃ shown, IsWritten .german (true = true) shown ((integer (-(pow2 127 : ℤ))).format "n3" .german).toList ∧
        shown.fraction.length = 3 := by
  have htext : Text.trim "#.0#".toList = ['#', '.', '0', '#'] := by decide +kernel
  have hpattern : IsPattern "#.0#" ['#'] ['0', '#'] := by
    constructor
    · rw [htext]
      simp
    · rw [htext]
      simp
    · simp
    · exact Or.inl htext
  have hformat : AsksFor 'N' 2 "n3" 3 := ⟨'n', ['3'], by decide +kernel, rfl, by decide, by simp, rfl⟩
  have hleast : (integer (-(pow2 127 : ℤ))).FitsWord := ⟨le_rfl, by decide⟩
  obtain ⟨-, hpatterns⟩ := signs_and_places_follow_format .french (x := float (.finite true 1 (-9))) rfl trivial
  obtain ⟨hsign, negative, m, e, shown, hfinite, hwritten, -, hfollows⟩ := hpatterns _ _ _ hpattern
  obtain ⟨hplaces, -⟩ := signs_and_places_follow_format .german (x := integer (-(pow2 127 : ℤ))) trivial hleast
  obtain ⟨hsign', shown', hwritten', -, hlength⟩ := hplaces true "n3" 3 hformat
  cases hfinite
  exact ⟨⟨rfl, trivial, hpattern, hsign, shown, hwritten, hfollows⟩, trivial, hleast, hformat, hsign', shown', hwritten',
    hlength⟩

/-- A negative double that rounds to zero has no sign, and no whole digit if none is asked for. -/
example : (float (.finite true 1 (-9))).format "#.0#" .french = ",0" := by decide +kernel

end ModelValidation.Number

import ModelValidation.Proofs.Numerals

/-!
# Integers in decimal formats

The standard formats F and N write an integer by all its digits.  Patterns, and percentages in every format, write the
double nearest to it, so what they show is the integer only if rounding leaves it as it is:

* `shown_ofRatio`: a natural that becomes a double shows as the nearest natural with 53 bits up to a power of two;
* `apply_eq_fixed_iff`: a pattern and a standard format give one text just if 53 bits suffice for the integer;
* `percent_eq_fixed_iff`: percentages agree with the hundredfold just if 53 bits suffice for the hundredfold;
* `integer_formats_agree_iff`: both for the formats in use, over the whole range of integers.
-/

namespace ModelValidation.Number

open Numeral Binary64

/-! ### Integers with zeros as places -/

/-- A natural with a sign and zeros as places; zero has no sign. -/
def written (culture : Culture) (grouped : Bool) (places : Nat) (negative : Bool) (v : Nat) : List Char :=
  compose culture grouped (negative && decide (v ≠ 0)) ⟨decimal v, List.replicate places '0'⟩

variable {culture : Culture}

theorem allDigits_natural (v places : Nat) : (Magnitude.mk (decimal v) (List.replicate places '0')).AllDigits := by
  constructor
  · intro c hc
    exact isDigit_of_mem_decimal hc
  · intro c hc
    rw [List.eq_of_mem_replicate hc]
    rfl

/-- Different naturals are written differently: without sign and separators their digits remain. -/
theorem written_inj {grouped negative : Bool} {places a b : Nat} :
    written culture grouped places negative a = written culture grouped places negative b ↔ a = b := by
  constructor
  · intro h
    have hdigits := congrArg (List.filter Char.isDigit) h
    rw [written, written, filter_compose (allDigits_natural a places), filter_compose (allDigits_natural b places)]
      at hdigits
    exact decimal_injective (List.append_cancel_right hdigits)
  · rintro rfl
    rfl

theorem sign_integer (i : ℤ) : (decide (i < 0) && decide (i.natAbs ≠ 0)) = decide (i < 0) := by
  rw [← Bool.decide_and, decide_eq_decide]
  omega

theorem fixed_integer (grouped : Bool) (places : Nat) (i : ℤ) :
    fixed culture grouped places (.integer i) = written culture grouped places (i < 0) i.natAbs := by
  rw [fixed, written, sign_integer]

theorem plain_integer (i : ℤ) : plain culture (.integer i) = written culture false 0 (i < 0) i.natAbs := by
  rw [← fixed_integer, fixed, plain, compose, signed]
  by_cases hi : i < 0
  · simp [hi]
  · simp [hi]

/-! ### Integers as doubles -/

/-- **A natural shows as the nearest double** after a pattern that keeps all digits and all places. -/
theorem shown_ofRatio {p : Pattern} (hwhole : p.minWhole = 1) (hplaces : p.minFraction = p.maxFraction)
    (negative : Bool) {n : Nat} (hn : n < pow2 1023) :
    p.shown culture (ofRatio negative n 1) = written culture p.grouped p.maxFraction negative (nearest n) := by
  obtain ⟨m, e, hfinite, hvalue⟩ := ofRatio_natural negative hn
  rw [hfinite, Pattern.shown, shape_fixedMagnitude hwhole hplaces, fixedMagnitude_natural _ hvalue, isNonzero_natural,
    written]

/-- The hundredfold of a natural is rounded twice. -/
theorem hundredfold_ofRatio (negative : Bool) {n : Nat} (hn : n < pow2 1023) :
    hundredfold (ofRatio negative n 1) = ofRatio negative (100 * nearest n) 1 := by
  obtain ⟨m, e, hfinite, hvalue⟩ := ofRatio_natural negative hn
  rw [hfinite, hundredfold_natural negative hvalue]

/-- Rounding twice gives the hundredfold just if 53 bits suffice for it. -/
theorem nearest_hundredfold_iff (n : Nat) : nearest (100 * nearest n) = 100 * n ↔ IsDouble (100 * n) := by
  constructor
  · intro h
    have hdouble := (isDouble_nearest (100 * nearest n)).1
    rwa [h] at hdouble
  · intro h
    have hn : nearest n = n := (nearest_eq_self_iff n).2 (isDouble_of_hundredfold h)
    rw [hn, nearest_eq_self_iff]
    exact h

/-! ### Formats that agree -/

/-- **A pattern agrees with the digits of an integer** just if 53 bits suffice for it up to a power of two. -/
theorem apply_eq_fixed_iff {p : Pattern} (hwhole : p.minWhole = 1) (hplaces : p.minFraction = p.maxFraction)
    (hpercent : p.percent = false) {i : ℤ} (hi : i.natAbs < pow2 1023) :
    p.apply culture (.integer i) = fixed culture p.grouped p.maxFraction (.integer i) ↔ IsDouble i.natAbs := by
  obtain ⟨m, e, hfinite, -⟩ := ofRatio_natural (decide (i < 0)) hi
  have happly : p.apply culture (.integer i) = p.shown culture (ofRatio (i < 0) i.natAbs 1) := by
    rw [Pattern.apply_eq p culture (x := .integer i) hfinite, hpercent]
    exact List.append_nil _
  rw [happly, shown_ofRatio hwhole hplaces _ hi, fixed_integer, written_inj, nearest_eq_self_iff]

/-- **Percentages agree with the digits of the hundredfold** just if 53 bits suffice for it up to a power of two. -/
theorem percent_eq_fixed_iff {fmt : Standard} (hkind : fmt.kind = .percent) {i : ℤ} (hi : i.natAbs < pow2 1015) :
    fmt.apply culture (.integer i) =
        fixed culture true (fmt.precision.getD 2) (.integer (100 * i)) ++ culture.percentSuffix.toList ↔
      IsDouble (100 * i.natAbs) := by
  have hwide : pow2 1015 ≤ pow2 1023 := pow2_le_pow2 (by omega)
  have hdouble := (isDouble_nearest i.natAbs).2
  have hhundred : 100 * nearest i.natAbs < pow2 1023 := by
    have hbyte : pow2 8 = 256 := rfl
    have hsplit := pow2_add 1015 8
    rw [hbyte, show 1015 + 8 = 1023 from rfl] at hsplit
    omega
  have hsign : decide (100 * i < 0) = decide (i < 0) := by
    rw [decide_eq_decide]
    omega
  have habs : (100 * i).natAbs = 100 * i.natAbs := Int.natAbs_mul 100 i
  obtain ⟨m, e, hfinite, -⟩ := ofRatio_natural (decide (i < 0)) (hi.trans_le hwide)
  have hfloat : (Number.integer i).toFloat = ofRatio (i < 0) i.natAbs 1 := rfl
  rw [Standard.apply_percent hkind culture (x := .integer i) hfinite, List.append_left_inj, hfloat,
    hundredfold_ofRatio _ (hi.trans_le hwide), shown_ofRatio rfl rfl _ hhundred, fixed_integer, hsign, habs]
  exact written_inj.trans (nearest_hundredfold_iff _)

/-! ### The formats in use -/

theorem format_empty (x : Number) : (x.format "" culture).toList = plain culture x := by
  rw [format, String.toList_ofList]
  exact if_pos rfl

/-- A pattern and another format agree on an integer, when the other one writes all digits. -/
theorem format_eq_iff {fmt other : String} {p : Pattern} (hstandard : Standard.parse? (Text.trim fmt.toList) = none)
    (hparse : Pattern.parse? (Text.trim fmt.toList) = some p) (hwhole : p.minWhole = 1)
    (hplaces : p.minFraction = p.maxFraction) (hpercent : p.percent = false) {i : ℤ} (hi : i.natAbs < pow2 1023)
    (hother : ((integer i).format other culture).toList = fixed culture p.grouped p.maxFraction (.integer i)) :
    (integer i).format fmt culture = (integer i).format other culture ↔ IsDouble i.natAbs := by
  rw [← String.toList_inj, format_pattern hstandard hparse, hother]
  exact apply_eq_fixed_iff hwhole hplaces hpercent hi

/-- **Integers in decimal formats.**  For every integer of 128 bits, the patterns `0`, `#,##0` and `0.00` give the texts of
the integer as it is, of `N0` and of `F2` just if 53 bits suffice for it up to a power of two, and `P0` gives that of the
hundredfold in `N0` just if they suffice for the hundredfold. -/
theorem integer_formats_agree_iff (culture : Culture) {i : ℤ} (hlow : -(pow2 127 : ℤ) ≤ i) (hhigh : i < pow2 127) :
    ((integer i).format "0" culture = (integer i).format "" culture ↔ IsDouble i.natAbs) ∧
    ((integer i).format "#,##0" culture = (integer i).format "N0" culture ↔ IsDouble i.natAbs) ∧
    ((integer i).format "0.00" culture = (integer i).format "F2" culture ↔ IsDouble i.natAbs) ∧
    ((integer i).format "P0" culture = (integer (100 * i)).format "N0" culture ++ culture.percentSuffix ↔
      IsDouble (100 * i.natAbs)) := by
  have hless : i.natAbs < pow2 1015 := by
    have hbits : pow2 (127 + 1) ≤ pow2 1015 := pow2_le_pow2 (by omega)
    have hpos := pow2_pos 127
    have htwo : pow2 1 = 2 := rfl
    rw [pow2_add, htwo] at hbits
    omega
  have hrange : i.natAbs < pow2 1023 := hless.trans_le (pow2_le_pow2 (by omega))
  have hgrouped (j : ℤ) : ((integer j).format "N0" culture).toList = fixed culture true 0 (.integer j) :=
    format_standard (s := ⟨.grouped, false, some 0⟩) rfl culture _
  refine ⟨?_, ?_, ?_, ?_⟩
  · have hplain : ((integer i).format "" culture).toList = fixed culture false 0 (.integer i) := by
      rw [format_empty, plain_integer, fixed_integer]
    exact format_eq_iff (p := ⟨false, 1, 0, 0, false⟩) rfl rfl rfl rfl rfl hrange hplain
  · exact format_eq_iff (p := ⟨true, 1, 0, 0, false⟩) rfl rfl rfl rfl rfl hrange (hgrouped i)
  · have hfixed : ((integer i).format "F2" culture).toList = fixed culture false 2 (.integer i) :=
      format_standard (s := ⟨.fixed, false, some 2⟩) rfl culture _
    exact format_eq_iff (p := ⟨false, 1, 2, 2, false⟩) rfl rfl rfl rfl rfl hrange hfixed
  · have hpercent : ((integer i).format "P0" culture).toList =
        Standard.apply ⟨.percent, false, some 0⟩ culture (.integer i) := format_standard rfl culture _
    rw [← String.toList_inj, String.toList_append, hpercent, hgrouped]
    exact percent_eq_fixed_iff rfl hless

/-- The theorem for a power of two. -/
theorem integer_formats_agree_power :
    -(pow2 127 : ℤ) ≤ -(pow2 126 : ℤ) ∧
      (integer (-(pow2 126 : ℤ))).format "0" .polish = (integer (-(pow2 126 : ℤ))).format "" .polish ∧
      (integer (-(pow2 126 : ℤ))).format "#,##0" .polish = (integer (-(pow2 126 : ℤ))).format "N0" .polish ∧
      (integer (-(pow2 126 : ℤ))).format "0.00" .polish = (integer (-(pow2 126 : ℤ))).format "F2" .polish ∧
      (integer (-(pow2 126 : ℤ))).format "P0" .polish = (integer (100 * -(pow2 126 : ℤ))).format "N0" .polish ++ " %" := by
  have hlow : -(pow2 127 : ℤ) ≤ -(pow2 126 : ℤ) := by decide
  obtain ⟨hplain, hgrouped, hfixed, hpercent⟩ := integer_formats_agree_iff .polish hlow (by decide)
  have hdouble : IsDouble (-(pow2 126 : ℤ)).natAbs := ⟨1, 126, by decide, by decide⟩
  have hhundred : IsDouble (100 * (-(pow2 126 : ℤ)).natAbs) := ⟨25, 128, by decide, by decide⟩
  exact ⟨hlow, hplain.2 hdouble, hgrouped.2 hdouble, hfixed.2 hdouble, hpercent.2 hhundred⟩

/-- The least natural for which 53 bits do not suffice. -/
theorem pattern_of_odd :
    (integer 9007199254740993).format "0" .invariant = "9007199254740992" ∧
      (integer 9007199254740993).format "" .invariant = "9007199254740993" := by
  decide +kernel

end ModelValidation.Number

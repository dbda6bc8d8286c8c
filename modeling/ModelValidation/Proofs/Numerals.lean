import Mathlib.Data.List.TakeWhile
import ModelValidation.Proofs.Rounding

/-!
# The digits of numbers

Which characters the pieces of a written number are made of, and how the number is found in them again:

* `filter_compose`: without its sign and its separators a number is the digits of its magnitude;
* `isNonzero_shape`: a pattern does not decide whether a magnitude shows a digit other than zero;
* `fixedMagnitude_natural`: a double that is a natural shows the digits of the natural, and zeros as places;
* `Pattern.apply_eq`, `Standard.apply_percent`: percentages in the standard format and numbers after a pattern are written
  in one way, `Pattern.shown`.
-/

namespace ModelValidation

namespace Numeral

/-! ### Digits of naturals -/

theorem isDigit_of_mem_decimal {n : Nat} {c : Char} (h : c ∈ decimal n) : c.isDigit = true :=
  Nat.isDigit_of_mem_toDigits (by decide) (by decide) h

theorem ofDigitChars_eq_zero {ds : List Char} (h : ∀ c ∈ ds, c = '0') : Nat.ofDigitChars 10 ds 0 = 0 := by
  induction ds with
  | nil => rfl
  | cons c ds ih =>
    rw [List.forall_mem_cons] at h
    rw [h.1, Nat.ofDigitChars_cons, Nat.mul_zero, Nat.sub_self, ih h.2]

theorem ofDigitChars_lt {ds : List Char} (h : ∀ d ∈ ds, d.isDigit = true) :
    Nat.ofDigitChars 10 ds 0 < 10 ^ ds.length := by
  induction ds using List.reverseRecOn with
  | nil => simp
  | append_singleton ds d ih =>
    rw [List.forall_mem_append, List.forall_mem_singleton] at h
    have hd : d.toNat - '0'.toNat ≤ 9 := by
      have hrange := Char.isDigit_iff_toNat.1 h.2
      simp only [Char.reduceToNat] at hrange ⊢
      omega
    have hds := ih h.1
    rw [Nat.ofDigitChars_append, Nat.ofDigitChars_cons, Nat.ofDigitChars_nil, List.length_append, List.length_singleton,
      pow_succ]
    omega

/-- Only zero has no digit other than zero. -/
theorem any_decimal (n : Nat) : (decimal n).any (· != '0') = decide (n ≠ 0) := by
  by_cases hn : n = 0
  · subst hn
    rfl
  · rw [decide_eq_true hn, List.any_eq_true]
    by_contra hnone
    have hzeros : ∀ c ∈ decimal n, c = '0' := by
      intro c hc
      by_contra hne
      exact hnone ⟨c, hc, bne_iff_ne.2 hne⟩
    have hvalue := ofDigitChars_eq_zero hzeros
    rw [ofDigitChars_decimal] at hvalue
    exact hn hvalue

theorem padded_eq (width : Nat) (ds : List Char) : padded width ds = List.replicate (width - ds.length) '0' ++ ds := rfl

theorem isDigit_of_mem_padded {width : Nat} {ds : List Char} (h : ∀ c ∈ ds, c.isDigit = true) {c : Char}
    (hc : c ∈ padded width ds) : c.isDigit = true := by
  rw [padded_eq, List.mem_append] at hc
  rcases hc with hc | hc
  · rw [List.eq_of_mem_replicate hc]
    rfl
  · exact h c hc

theorem any_replicate_zero (n : Nat) : (List.replicate n '0').any (· != '0') = false := by
  rw [List.any_eq_false]
  intro c hc
  rw [List.eq_of_mem_replicate hc]
  decide

theorem any_padded (width : Nat) (ds : List Char) : (padded width ds).any (· != '0') = ds.any (· != '0') := by
  rw [padded_eq, List.any_append, any_replicate_zero, Bool.false_or]

theorem padded_of_length_le {width : Nat} {ds : List Char} (h : width ≤ ds.length) : padded width ds = ds := by
  rw [padded_eq, Nat.sub_eq_zero_of_le h, List.replicate_zero, List.nil_append]

theorem length_padded {width : Nat} {ds : List Char} (h : ds.length ≤ width) : (padded width ds).length = width := by
  rw [padded_eq, List.length_append, List.length_replicate, Nat.sub_add_cancel h]

theorem length_decimal_le {n places : Nat} (hplaces : places ≠ 0) (h : n < pow10 places) : (decimal n).length ≤ places :=
  (Nat.length_toDigits_le_iff (by decide) (Nat.pos_of_ne_zero hplaces)).2 h

/-! ### Digits of magnitudes -/

/-- The magnitude has nothing but digits. -/
def Magnitude.AllDigits (x : Magnitude) : Prop :=
  (∀ c ∈ x.whole, c.isDigit = true) ∧ ∀ c ∈ x.fraction, c.isDigit = true

end Numeral

open Numeral

namespace Binary64

theorem allDigits_fixedMagnitude (places m : Nat) (e : ℤ) : (fixedMagnitude places m e).AllDigits := by
  refine ⟨fun c => isDigit_of_mem_decimal, fun c hc => ?_⟩
  simp only [fixedMagnitude, fixedRatio] at hc
  split at hc
  · cases hc
  · exact isDigit_of_mem_padded (fun c => isDigit_of_mem_decimal) hc

theorem length_fraction_fixedMagnitude (places m : Nat) (e : ℤ) : (fixedMagnitude places m e).fraction.length = places := by
  have hten : 0 < pow10 places := Nat.pow_pos (by decide)
  simp only [fixedMagnitude, fixedRatio]
  split
  · next hplaces => rw [hplaces, List.length_nil]
  · next hplaces => exact length_padded (length_decimal_le hplaces (Nat.mod_lt _ hten))

theorem padded_decimal_zero {places : Nat} (h : places ≠ 0) : padded places (decimal 0) = List.replicate places '0' := by
  obtain ⟨n, rfl⟩ := Nat.exists_eq_succ_of_ne_zero h
  have hzero : decimal 0 = ['0'] := rfl
  rw [padded_eq, hzero, List.replicate_succ']
  rfl

/-- **A double that is a natural shows its digits.** -/
theorem fixedMagnitude_natural (places : Nat) {m v : Nat} {e : ℤ} (h : (m : ℚ) * 2 ^ e = v) :
    fixedMagnitude places m e = ⟨decimal v, List.replicate places '0'⟩ := by
  have hten : 0 < pow10 places := Nat.pow_pos (by decide)
  have hscaled : roundHalfEven (numerator m e * pow10 places) (denominator e) = v * pow10 places := by
    rw [value_eq_natural_iff.1 h, Nat.mul_right_comm, roundHalfEven_natural (denominator_pos e)]
  simp only [fixedMagnitude, fixedRatio, hscaled, Nat.mul_div_cancel v hten, Nat.mul_mod_left]
  split
  · next hplaces => rw [hplaces, List.replicate_zero]
  · next hplaces => rw [padded_decimal_zero hplaces]

end Binary64

namespace Number

/-! ### Separators -/

theorem isDigit_groupSeparator (culture : Culture) : culture.groupSeparator.isDigit = false := by
  cases culture <;> rfl

theorem isDigit_decimalSeparator (culture : Culture) : culture.decimalSeparator.isDigit = false := by
  cases culture <;> rfl

theorem ne_groupSeparator {c : Char} (hc : c.isDigit = true) (culture : Culture) : c ≠ culture.groupSeparator := by
  rintro rfl
  rw [isDigit_groupSeparator] at hc
  cases hc

theorem ne_decimalSeparator {c : Char} (hc : c.isDigit = true) (culture : Culture) : c ≠ culture.decimalSeparator := by
  rintro rfl
  rw [isDigit_decimalSeparator] at hc
  cases hc

theorem filter_groupThrees {keep : Char → Bool} {sep : Char} (hsep : keep sep = false) (cs : List Char) :
    (groupThrees sep cs).filter keep = cs.filter keep := by
  induction cs with
  | nil => rfl
  | cons c cs ih =>
    have hskip : (sep :: groupThrees sep cs).filter keep = cs.filter keep := by
      rw [List.filter_cons_of_neg (by simp [hsep]), ih]
    rw [groupThrees]
    split
    · by_cases hc : keep c = true
      · rw [List.filter_cons_of_pos hc, List.filter_cons_of_pos hc, hskip]
      · rw [List.filter_cons_of_neg hc, List.filter_cons_of_neg hc, hskip]
    · by_cases hc : keep c = true
      · rw [List.filter_cons_of_pos hc, List.filter_cons_of_pos hc, ih]
      · rw [List.filter_cons_of_neg hc, List.filter_cons_of_neg hc, ih]

theorem mem_groupThrees {sep c : Char} {cs : List Char} (h : c ∈ groupThrees sep cs) : c = sep ∨ c ∈ cs := by
  induction cs with
  | nil => cases h
  | cons d cs ih =>
    rw [groupThrees] at h
    split at h
    all_goals grind

theorem mem_groupThrees_of_mem {sep c : Char} {cs : List Char} (h : c ∈ cs) : c ∈ groupThrees sep cs := by
  induction cs with
  | nil => cases h
  | cons d cs ih =>
    rw [groupThrees]
    split
    · rcases List.mem_cons.1 h with rfl | hmem
      · simp
      · simp [ih hmem]
    · rcases List.mem_cons.1 h with rfl | hmem
      · simp
      · simp [ih hmem]

section Whole

variable {culture : Culture} {whole cs : List Char}

/-- Before the decimal separator stand digits and the separators of groups. -/
theorem isDigit_or_groupSeparator (culture : Culture) (grouped : Bool) (hwhole : ∀ c ∈ whole, c.isDigit = true) :
    ∀ c ∈ (if grouped then groupThrees culture.groupSeparator whole else whole),
      c.isDigit = true ∨ c = culture.groupSeparator := by
  intro c hc
  split at hc
  · rcases mem_groupThrees hc with hsep | hmem
    · exact Or.inr hsep
    · exact Or.inl (hwhole c hmem)
  · exact Or.inl (hwhole c hc)

theorem decimalSeparator_notMem (h : ∀ c ∈ cs, c.isDigit = true ∨ c = culture.groupSeparator) :
    culture.decimalSeparator ∉ cs := by
  intro hmem
  rcases h _ hmem with hdigit | hgroup
  · exact ne_decimalSeparator hdigit culture rfl
  · exact culture.decimalSeparator_ne_groupSeparator hgroup

end Whole

/-- A magnitude with separators, without a sign. -/
def unsigned (culture : Culture) (grouped : Bool) (x : Magnitude) : List Char :=
  (if grouped then groupThrees culture.groupSeparator x.whole else x.whole) ++
    if x.fraction = [] then [] else culture.decimalSeparator :: x.fraction

theorem compose_eq (culture : Culture) (grouped negative : Bool) (x : Magnitude) :
    compose culture grouped negative x = (if negative then ['-'] else []) ++ unsigned culture grouped x := by
  rw [compose, unsigned, List.append_assoc]

theorem mem_compose {culture : Culture} {x : Magnitude} {grouped negative : Bool} {c : Char} (h : c ∈ x.whole) :
    c ∈ compose culture grouped negative x := by
  rw [compose_eq, unsigned, List.mem_append, List.mem_append]
  right
  left
  split
  · exact mem_groupThrees_of_mem h
  · exact h

theorem filter_unsigned {x : Magnitude} (hx : x.AllDigits) (culture : Culture) (grouped : Bool) :
    (unsigned culture grouped x).filter Char.isDigit = x.whole ++ x.fraction := by
  have hwhole : x.whole.filter Char.isDigit = x.whole := List.filter_eq_self.2 hx.1
  have hfraction : x.fraction.filter Char.isDigit = x.fraction := List.filter_eq_self.2 hx.2
  have hdecimal : ¬culture.decimalSeparator.isDigit = true := by simp [isDigit_decimalSeparator]
  rw [unsigned, List.filter_append]
  congr 1
  · split
    · rw [filter_groupThrees (isDigit_groupSeparator culture), hwhole]
    · exact hwhole
  · split
    · next h => rw [h, List.filter_nil]
    · rw [List.filter_cons_of_neg hdecimal, hfraction]

/-- **Without sign and separators a number is its digits.** -/
theorem filter_compose {x : Magnitude} (hx : x.AllDigits) (culture : Culture) (grouped negative : Bool) :
    (compose culture grouped negative x).filter Char.isDigit = x.whole ++ x.fraction := by
  rw [compose_eq, List.filter_append, filter_unsigned hx]
  cases negative <;> rfl

/-! ### Patterns -/

theorem mem_dropZeros {least : Nat} {c : Char} {cs : List Char} (h : c ∈ dropZeros least cs) : c ∈ cs := by
  rw [dropZeros, List.mem_append, List.mem_reverse] at h
  rcases h with h | h
  · exact List.mem_of_mem_take h
  · exact List.mem_of_mem_drop (List.mem_reverse.1 ((List.dropWhile_sublist _).mem h))

theorem any_dropWhile_zero (cs : List Char) : (cs.dropWhile (· = '0')).any (· != '0') = cs.any (· != '0') := by
  induction cs with
  | nil => rfl
  | cons c cs ih =>
    by_cases hc : c = '0'
    · subst hc
      rw [List.dropWhile_cons_of_pos (by decide), ih, List.any_cons]
      rfl
    · rw [List.dropWhile_cons_of_neg (by simpa using hc)]

theorem any_dropZeros (least : Nat) (cs : List Char) : (dropZeros least cs).any (· != '0') = cs.any (· != '0') := by
  rw [dropZeros, List.any_append, List.any_reverse, any_dropWhile_zero, List.any_reverse, ← List.any_append,
    List.take_append_drop]

theorem dropZeros_of_length_le {least : Nat} {cs : List Char} (h : cs.length ≤ least) : dropZeros least cs = cs := by
  rw [dropZeros, List.take_of_length_le h, List.drop_of_length_le h]
  exact List.append_nil cs

theorem allDigits_shape (p : Pattern) {x : Magnitude} (hx : x.AllDigits) : (p.shape x).AllDigits := by
  refine ⟨fun c hc => ?_, fun c hc => hx.2 c (mem_dropZeros hc)⟩
  simp only [Pattern.shape] at hc
  split at hc
  · cases hc
  · exact isDigit_of_mem_padded hx.1 hc

/-- **A pattern shows a digit other than zero just if there is one.** -/
theorem isNonzero_shape (p : Pattern) (x : Magnitude) : (p.shape x).isNonzero = x.isNonzero := by
  simp only [Pattern.shape, Magnitude.isNonzero, any_dropZeros]
  split
  · next h =>
    rw [h.1]
    rfl
  · rw [any_padded]

/-- A fixed count of places shows in full after a pattern that asks for as many. -/
theorem shape_fixedMagnitude {p : Pattern} (hwhole : p.minWhole = 1) (hplaces : p.minFraction = p.maxFraction)
    (m : Nat) (e : ℤ) :
    p.shape (Binary64.fixedMagnitude p.maxFraction m e) = Binary64.fixedMagnitude p.maxFraction m e := by
  have hfraction := Binary64.length_fraction_fixedMagnitude p.maxFraction m e
  have hone : 1 ≤ (Binary64.fixedMagnitude p.maxFraction m e).whole.length := Nat.length_toDigits_pos
  simp only [Pattern.shape, hwhole, hplaces]
  rw [if_neg (by omega), padded_of_length_le hone, dropZeros_of_length_le (Nat.le_of_eq hfraction)]

/-- A word of three letters fills up to three digits. -/
theorem shape_inf {p : Pattern} (hwhole : p.minWhole ≤ 3) : p.shape ⟨"inf".toList, []⟩ = ⟨"inf".toList, []⟩ := by
  simp only [Pattern.shape]
  rw [if_neg (by simp), padded_of_length_le hwhole, dropZeros_of_length_le (Nat.zero_le _)]

theorem isNonzero_natural (v places : Nat) :
    (Magnitude.mk (decimal v) (List.replicate places '0')).isNonzero = decide (v ≠ 0) := by
  rw [Magnitude.isNonzero, any_decimal, any_replicate_zero, Bool.or_false]

theorem isNonzero_shape_zero (p : Pattern) (places : Nat) :
    (p.shape (Binary64.fixedMagnitude places 0 0)).isNonzero = false := by
  have hmagnitude := Binary64.fixedMagnitude_natural places (m := 0) (v := 0) (e := 0) (by simp)
  rw [isNonzero_shape, hmagnitude, isNonzero_natural]
  rfl

/-! ### Numbers after a pattern -/

/-- The pattern of grouped digits with a fixed count of places. -/
def Pattern.ofPlaces (places : Nat) : Pattern := ⟨true, 1, places, places, true⟩

/-- A double after a pattern, without the mark of percentages. -/
def Pattern.shown (p : Pattern) (culture : Culture) : Binary64 → List Char
  | .finite negative m e =>
    let x := p.shape (Binary64.fixedMagnitude p.maxFraction m e)
    compose culture p.grouped (negative && x.isNonzero) x
  | .infinite _ => compose culture p.grouped false (p.shape ⟨"inf".toList, []⟩)
  | .nan => []

theorem hundredfold_cases (negative : Bool) (m : Nat) (e : ℤ) :
    hundredfold (.finite negative m e) = .infinite negative ∨
      ∃ n f, hundredfold (.finite negative m e) = .finite negative n f := by
  rw [Binary64.hundredfold_finite]
  exact Binary64.ofRatio_cases _ _ _

/-- A finite number after a pattern. -/
theorem Pattern.apply_eq (p : Pattern) (culture : Culture) {x : Number} {negative : Bool} {m : Nat} {e : ℤ}
    (hx : x.toFloat = .finite negative m e) :
    p.apply culture x = p.shown culture (if p.percent then hundredfold x.toFloat else x.toFloat) ++
      if p.percent then ['%'] else [] := by
  rw [Pattern.apply, hx]
  by_cases hpercent : p.percent
  · simp only [if_pos hpercent]
    rcases hundredfold_cases negative m e with h | ⟨n, f, h⟩
    · rw [h]
      rfl
    · rw [h]
      rfl
  · simp only [if_neg hpercent]
    rfl

/-- Percentages in the standard format are those after the pattern of its places. -/
theorem Standard.apply_percent {fmt : Standard} (hkind : fmt.kind = .percent) (culture : Culture) {x : Number}
    {negative : Bool} {m : Nat} {e : ℤ} (hx : x.toFloat = .finite negative m e) :
    fmt.apply culture x =
      (Pattern.ofPlaces (fmt.precision.getD 2)).shown culture (hundredfold x.toFloat) ++ culture.percentSuffix.toList := by
  have hfixed : fmt.apply culture x =
      fixed culture true (fmt.precision.getD 2) (.float (hundredfold x.toFloat)) ++ culture.percentSuffix.toList := by
    obtain ⟨kind, lowercase, precision⟩ := fmt
    cases hkind
    cases x with
    | integer i => rfl
    | float y =>
      cases hx
      rfl
  rw [hfixed, hx]
  congr 1
  rcases hundredfold_cases negative m e with h | ⟨n, f, h⟩
  · have hwhole : (Pattern.ofPlaces (fmt.precision.getD 2)).minWhole ≤ 3 := Nat.le_of_ble_eq_true rfl
    rw [h, Pattern.shown, shape_inf hwhole]
    rfl
  · rw [h, Pattern.shown, shape_fixedMagnitude rfl rfl]
    rfl

/-! ### Numbers in a format -/

/-- A letter of a kind with at most two digits is a standard format. -/
theorem Standard.parse?_letter {c : Char} {ds : List Char} {kind : Kind} (hkind : Kind.ofLetter? c = some kind)
    (hlength : ds.length ≤ 2) (hdigits : ∀ d ∈ ds, d.isDigit = true) :
    Standard.parse? (c :: ds) =
      some ⟨kind, c.isLower, if ds = [] then none else some (Nat.ofDigitChars 10 ds 0)⟩ := by
  have hall : ds.all Char.isDigit = true := List.all_eq_true.2 hdigits
  rw [Standard.parse?, hkind]
  by_cases hds : ds = []
  · simp [hds]
  · simp [hds, hlength, hall]

theorem format_standard {fmt : String} {s : Standard} (h : Standard.parse? (Text.trim fmt.toList) = some s)
    (culture : Culture) (x : Number) : (x.format fmt culture).toList = s.apply culture x := by
  have hne : Text.trim fmt.toList ≠ [] := by
    intro hnil
    rw [hnil] at h
    cases h
  rw [format, String.toList_ofList, if_neg hne, h]

theorem format_pattern {fmt : String} {p : Pattern} (hs : Standard.parse? (Text.trim fmt.toList) = none)
    (h : Pattern.parse? (Text.trim fmt.toList) = some p) (culture : Culture) (x : Number) :
    (x.format fmt culture).toList = p.apply culture x := by
  have hne : Text.trim fmt.toList ≠ [] := by
    intro hnil
    rw [hnil] at h
    cases h
  rw [format, String.toList_ofList, if_neg hne, hs, h]

end Number

end ModelValidation

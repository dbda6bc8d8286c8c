import ModelValidation.Proofs.IntegerReadings

/-!
# Digits in groups

The format N writes the digits of the format F, in groups of three:

* `cutInThrees_threes`: digits are cut into groups of three counted from the right, the first of one to three digits;
* `groupThrees_eq`: grouped digits are these groups with a separator between each two;
* `isWritten_compose`: a magnitude is written as its sign, its digits in groups or all together, and its fraction;
* `fixed_eq_compose`: with a fixed count of places, what is written of a finite number is a magnitude, with a sign just if
  the number is negative and some digit is not zero;
* `grouping_only_separates`: so the separators of groups are all that the format N adds.
-/

namespace ModelValidation.Number

open Numeral

/-! ### Groups of three -/

/-- The digits cut into groups of three counted from the right; the first group may be shorter. -/
structure CutInThrees (ds : List Char) (groups : List (List Char)) : Prop where
  flatten_eq : groups.flatten = ds
  first : ∀ g ∈ groups.head?, 1 ≤ g.length ∧ g.length ≤ 3
  others : ∀ g ∈ groups.tail, g.length = 3

/-- The groups of digits, from the right: a digit before full groups begins a new one. -/
def threes : List Char → List (List Char)
  | [] => []
  | c :: cs => if cs.length % 3 = 0 then [c] :: threes cs else (threes cs).modifyHead (c :: ·)

theorem threes_ne_nil {cs : List Char} (h : cs ≠ []) : threes cs ≠ [] := by
  induction cs with
  | nil => exact absurd rfl h
  | cons c cs ih =>
    rw [threes]
    split
    · exact List.cons_ne_nil _ _
    · next hlength =>
      have hcs : cs ≠ [] := by
        rintro rfl
        exact hlength rfl
      obtain ⟨g, gs, hgroups⟩ := List.exists_cons_of_ne_nil (ih hcs)
      rw [hgroups]
      exact List.cons_ne_nil _ _

theorem length_flatten_of_threes {gs : List (List Char)} (h : ∀ g ∈ gs, g.length = 3) :
    gs.flatten.length = 3 * gs.length := by
  induction gs with
  | nil => rfl
  | cons g gs ih =>
    rw [List.forall_mem_cons] at h
    rw [List.flatten_cons, List.length_append, h.1, ih h.2, List.length_cons]
    omega

/-- The first group has what the full groups leave. -/
theorem CutInThrees.length_eq {ds g : List Char} {gs : List (List Char)} (h : CutInThrees ds (g :: gs)) :
    ds.length = g.length + 3 * gs.length := by
  have hothers : ∀ k ∈ gs, k.length = 3 := h.others
  rw [← h.flatten_eq, List.flatten_cons, List.length_append, length_flatten_of_threes hothers]

/-- **Digits are cut into groups of three from the right.** -/
theorem cutInThrees_threes (ds : List Char) : CutInThrees ds (threes ds) := by
  induction ds with
  | nil => exact ⟨rfl, by simp [threes], by simp [threes]⟩
  | cons c cs ih =>
    by_cases hcs : cs = []
    · subst hcs
      exact ⟨rfl, by simp [threes], by simp [threes]⟩
    · obtain ⟨g, gs, hgroups⟩ := List.exists_cons_of_ne_nil (threes_ne_nil hcs)
      rw [hgroups] at ih
      have hlength := ih.length_eq
      have hfirst := ih.first g rfl
      rw [threes, hgroups]
      split
      · next hfull =>
        -- the digits behind are full groups, so the first of them is one too
        have hthree : g.length = 3 := by omega
        refine ⟨?_, by simp, List.forall_mem_cons.2 ⟨hthree, ih.others⟩⟩
        rw [List.flatten_cons, ih.flatten_eq, List.singleton_append]
      · refine ⟨?_, ?_, ih.others⟩
        · rw [List.modifyHead_cons, List.flatten_cons, List.cons_append, ← List.flatten_cons, ih.flatten_eq]
        · simp only [List.modifyHead_cons, List.head?_cons, Option.mem_def, Option.some.injEq, forall_eq',
            List.length_cons]
          omega

/-- **Grouped digits are their groups with separators between them.** -/
theorem groupThrees_eq (sep : Char) (ds : List Char) : groupThrees sep ds = [sep].intercalate (threes ds) := by
  induction ds with
  | nil => rfl
  | cons c cs ih =>
    by_cases hcs : cs = []
    · subst hcs
      rfl
    · obtain ⟨g, gs, hgroups⟩ := List.exists_cons_of_ne_nil (threes_ne_nil hcs)
      rw [groupThrees, threes, ih, hgroups]
      by_cases hlength : cs.length % 3 = 0
      · rw [if_pos ⟨hlength, hcs⟩, if_pos hlength]
        simp [List.intercalate]
      · rw [if_neg (fun h => hlength h.1), if_neg hlength, List.modifyHead_cons]
        cases gs <;> simp [List.intercalate]

/-! ### Magnitudes as they are written -/

/-- The digits before the decimal separator: in groups with a separator between each two, or all together. -/
def WholeWritten (culture : Culture) (grouped : Prop) (ds cs : List Char) : Prop :=
  (grouped → ∃ groups, CutInThrees ds groups ∧ cs = [culture.groupSeparator].intercalate groups) ∧ (¬grouped → cs = ds)

/-- A minus sign or none, the digits before the decimal separator, and the fraction behind it, if there is one. -/
def IsWritten (culture : Culture) (grouped : Prop) (x : Magnitude) (cs : List Char) : Prop :=
  ∃ sign whole, (sign = [] ∨ sign = ['-']) ∧ WholeWritten culture grouped x.whole whole ∧
    cs = sign ++ whole ++ if x.fraction = [] then [] else culture.decimalSeparator :: x.fraction

theorem wholeWritten_grouped (culture : Culture) (grouped : Bool) (ds : List Char) :
    WholeWritten culture (grouped = true) ds (if grouped then groupThrees culture.groupSeparator ds else ds) := by
  constructor
  · intro h
    rw [if_pos h]
    exact ⟨threes ds, cutInThrees_threes ds, groupThrees_eq _ ds⟩
  · intro h
    rw [if_neg h]

/-- **A magnitude is written as its sign, its digits and its fraction.** -/
theorem isWritten_compose (culture : Culture) (grouped negative : Bool) (x : Magnitude) :
    IsWritten culture (grouped = true) x (compose culture grouped negative x) := by
  refine ⟨if negative then ['-'] else [], _, ?_, wholeWritten_grouped culture grouped x.whole, rfl⟩
  cases negative
  · exact Or.inl rfl
  · exact Or.inr rfl

/-! ### Finite numbers -/

/-- An integer, or a double that is finite. -/
def IsFinite : Number → Prop
  | .integer _ => True
  | .float x => x.isFinite = true

/-- Below zero; the negative zero is not. -/
def isNegative : Number → Bool
  | .integer i => i < 0
  | .float x => x.isNegative

/-- The digits of a finite number with a fixed count of places: all digits of an integer, those of a rounded double. -/
def magnitude (places : Nat) : Number → Magnitude
  | .integer i => ⟨decimal i.natAbs, List.replicate places '0'⟩
  | .float (.finite _ m e) => Binary64.fixedMagnitude places m e
  | .float _ => ⟨[], []⟩

section Magnitude

variable {x : Number}

theorem IsFinite.cases (hx : x.IsFinite) :
    (∃ i, x = .integer i) ∨ ∃ negative m e, x = .float (.finite negative m e) := by
  match x, hx with
  | .integer i, _ => exact Or.inl ⟨i, rfl⟩
  | .float (.finite negative m e), _ => exact Or.inr ⟨negative, m, e, rfl⟩

theorem word_cases (hx : ¬x.IsFinite) : x = .float .nan ∨ ∃ negative, x = .float (.infinite negative) := by
  match x, hx with
  | .integer i, hx => exact absurd trivial hx
  | .float .nan, _ => exact Or.inl rfl
  | .float (.infinite negative), _ => exact Or.inr ⟨negative, rfl⟩
  | .float (.finite _ m e), hx => exact absurd rfl hx

theorem allDigits_magnitude (hx : x.IsFinite) (places : Nat) : (x.magnitude places).AllDigits := by
  obtain ⟨i, rfl⟩ | ⟨negative, m, e, rfl⟩ := hx.cases
  · exact allDigits_natural i.natAbs places
  · exact Binary64.allDigits_fixedMagnitude places m e

theorem isNumeral_whole_magnitude (hx : x.IsFinite) (places : Nat) : IsNumeral (x.magnitude places).whole := by
  refine ⟨?_, (allDigits_magnitude hx places).1⟩
  obtain ⟨i, rfl⟩ | ⟨negative, m, e, rfl⟩ := hx.cases
  · exact decimal_ne_nil _
  · exact decimal_ne_nil _

theorem length_fraction_magnitude (hx : x.IsFinite) (places : Nat) : (x.magnitude places).fraction.length = places := by
  obtain ⟨i, rfl⟩ | ⟨negative, m, e, rfl⟩ := hx.cases
  · exact List.length_replicate
  · exact Binary64.length_fraction_fixedMagnitude places m e

/-- A sign that shows only with digits other than zero is that of the number, the negative zero having none. -/
theorem sign_fixedMagnitude (negative : Bool) (places m : Nat) (e : ℤ) :
    (negative && (Binary64.fixedMagnitude places m e).isNonzero) =
      ((Binary64.finite negative m e).isNegative && (Binary64.fixedMagnitude places m e).isNonzero) := by
  by_cases hm : m = 0
  · subst hm
    have hzero : ((0 : Nat) : ℚ) * 2 ^ e = (0 : Nat) := by rw [Nat.cast_zero, zero_mul]
    rw [Binary64.fixedMagnitude_natural places hzero, isNonzero_natural]
    simp
  · have hne : (m != 0) = true := bne_iff_ne.2 hm
    rw [Binary64.isNegative, hne, Bool.and_true]

/-- **With a fixed count of places a finite number is its magnitude**, with a sign if it is negative and does not show as
zero. -/
theorem fixed_eq_compose (hx : x.IsFinite) (culture : Culture) (grouped : Bool) (places : Nat) :
    fixed culture grouped places x =
      compose culture grouped (x.isNegative && (x.magnitude places).isNonzero) (x.magnitude places) := by
  obtain ⟨i, rfl⟩ | ⟨negative, m, e, rfl⟩ := hx.cases
  · rw [fixed_integer, written, magnitude, isNonzero_natural, isNegative]
  · rw [fixed, sign_fixedMagnitude, magnitude, isNegative]

end Magnitude

/-! ### The formats F and N -/

section Formats

variable {fmt : String} {n : Nat} {x : Number}

/-- The formats F and N write a finite number with a fixed count of places. -/
theorem Standard.apply_places {s : Standard} {grouped : Bool} (hkind : s.kind = if grouped then .grouped else .fixed)
    (hx : x.IsFinite) (culture : Culture) : s.apply culture x = fixed culture grouped (s.precision.getD 2) x := by
  obtain ⟨kind, lowercase, precision⟩ := s
  obtain rfl : kind = if grouped then .grouped else .fixed := hkind
  obtain ⟨i, rfl⟩ | ⟨negative, m, e, rfl⟩ := hx.cases
  · cases grouped <;> rfl
  · cases grouped <;> rfl

theorem format_places (grouped : Bool) (h : AsksFor (if grouped then 'N' else 'F') 2 fmt n) (hx : x.IsFinite)
    (culture : Culture) : (x.format fmt culture).toList = fixed culture grouped n x := by
  have hletter : Kind.ofLetter? (if grouped then 'N' else 'F') = some (if grouped then .grouped else .fixed) := by
    cases grouped <;> rfl
  obtain ⟨s, hkind, hprecision, hformat⟩ := format_asked h (by cases grouped <;> decide) hletter culture x
  rw [hformat, Standard.apply_places hkind hx, hprecision]

/-- What has no digits is a word in every standard format. -/
theorem format_word {letter : Char} {usual : Nat} {kind : Kind} (h : AsksFor letter usual fmt n)
    (hupper : letter.toUpper = letter) (hkind : Kind.ofLetter? letter = some kind) (hx : ¬x.IsFinite)
    (culture : Culture) : (x.format fmt culture).toList = plain culture x := by
  obtain ⟨⟨kind, lowercase, precision⟩, -, -, hformat⟩ := format_asked h hupper hkind culture x
  rw [hformat]
  obtain rfl | ⟨negative, rfl⟩ := word_cases hx
  · cases kind <;> rfl
  · cases kind <;> rfl

/-- A word has no separators. -/
theorem filter_word (hx : ¬x.IsFinite) (culture : Culture) :
    (plain culture x).filter (· ≠ culture.groupSeparator) = plain culture x := by
  obtain rfl | ⟨negative, rfl⟩ := word_cases hx
  · cases culture <;> rfl
  · cases negative <;> cases culture <;> rfl

end Formats

/-- **Grouping only separates.**  Without the separators of groups, what the format N writes of a number is what the
format F writes of it with the same count of places.  Both write the digits of a finite number behind a minus sign or
none, all together or in groups of three counted from the right with a separator between each two, the first group of one
to three digits, and behind the decimal separator as many digits as asked for. -/
theorem grouping_only_separates (culture : Culture) {grouped together : String} {n : Nat}
    (hgrouped : AsksFor 'N' 2 grouped n) (htogether : AsksFor 'F' 2 together n) (x : Number) :
    (x.format grouped culture).toList.filter (· ≠ culture.groupSeparator) = (x.format together culture).toList ∧
      (x.IsFinite → ∃ shown : Magnitude, IsNumeral shown.whole ∧ (∀ c ∈ shown.fraction, c.isDigit = true) ∧
        shown.fraction.length = n ∧ IsWritten culture True shown (x.format grouped culture).toList ∧
        IsWritten culture False shown (x.format together culture).toList) := by
  by_cases hx : x.IsFinite
  · have hdigits := allDigits_magnitude hx n
    have hmany : (x.format grouped culture).toList = _ := format_places true hgrouped hx culture
    have hone : (x.format together culture).toList = _ := format_places false htogether hx culture
    rw [hmany, hone, fixed_eq_compose hx, fixed_eq_compose hx]
    refine ⟨filter_compose_ne hdigits _ _, fun _ => ⟨x.magnitude n, isNumeral_whole_magnitude hx n, hdigits.2,
      length_fraction_magnitude hx n, ?_, ?_⟩⟩
    · simpa using isWritten_compose culture true _ (x.magnitude n)
    · simpa using isWritten_compose culture false _ (x.magnitude n)
  · rw [format_word hgrouped (by decide) rfl hx, format_word htogether (by decide) rfl hx]
    exact ⟨filter_word hx culture, fun h => absurd h hx⟩

/-- The theorem for a double that gains a digit when it is rounded. -/
theorem grouping_only_separates_carry :
    AsksFor 'N' 2 "n3" 3 ∧ AsksFor 'F' 2 " F3" 3 ∧ (float (.finite true 8191999 (-13))).IsFinite ∧
      ((float (.finite true 8191999 (-13))).format "n3" .german).toList.filter (· ≠ Culture.german.groupSeparator) =
        ((float (.finite true 8191999 (-13))).format " F3" .german).toList ∧
      ∃ shown : Magnitude, IsNumeral shown.whole ∧ shown.fraction.length = 3 ∧
        IsWritten .german True shown ((float (.finite true 8191999 (-13))).format "n3" .german).toList := by
  have hgrouped : AsksFor 'N' 2 "n3" 3 := ⟨'n', ['3'], by decide +kernel, rfl, by decide, by simp, rfl⟩
  have htogether : AsksFor 'F' 2 " F3" 3 := ⟨'F', ['3'], by decide +kernel, rfl, by decide, by simp, rfl⟩
  obtain ⟨hfilter, hfinite⟩ :=
    grouping_only_separates .german hgrouped htogether (float (.finite true 8191999 (-13)))
  obtain ⟨shown, hwhole, -, hlength, hwritten, -⟩ := hfinite rfl
  exact ⟨hgrouped, htogether, rfl, hfilter, shown, hwhole, hlength, hwritten⟩

example : (float (.finite true 8191999 (-13))).format "n3" .german = "-1.000,000" := by decide +kernel

end ModelValidation.Number

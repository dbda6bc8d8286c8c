import ModelValidation.Argument
import ModelValidation.Proofs.IntegerReadings

/-!
# Hexadecimal numerals

Numbers and members of enumerations may be shown in hexadecimal digits, negative ones in two's complement.  The digits
are read back by their places in the alphabet, and what they stand for is settled by their width:

* `Numeral.readHex?_padded`: hexadecimal digits are read as the natural that they were written for, whatever zeros stand
  in front;
* `Numeral.toInt_twosComplement`: in two's complement an integer of the width is found again;
* `Number.hexadecimal_modulo_width`: numbers are shown modulo the least of two widths that holds them;
* `EnumMember.discriminants_read_back`: the count of digits tells the width, so a discriminant is found again.
-/

namespace ModelValidation

namespace Numeral

/-! ### Hexadecimal digits -/

/-- The hexadecimal digits of one case, in the order of their values. -/
def hexAlphabet (lowercase : Bool) : List Char :=
  if lowercase then "0123456789abcdef".toList else "0123456789ABCDEF".toList

/-- A natural with one more hexadecimal digit behind its own. -/
def addHexDigit (lowercase : Bool) (v : Nat) (c : Char) : Option Nat :=
  ((hexAlphabet lowercase).idxOf? c).map (16 * v + ·)

/-- Reads the hexadecimal digits of a natural; there is at least one, and all are of one case. -/
def readHex? (lowercase : Bool) (ds : List Char) : Option Nat :=
  if ds = [] then none else ds.foldlM (addHexDigit lowercase) 0

/-- The hexadecimal digits of a natural in one case. -/
def hexDigits (lowercase : Bool) (n : Nat) : List Char :=
  if lowercase then (hex n).map Char.toLower else hex n

/-- A digit in one case. -/
def inCase (lowercase : Bool) (c : Char) : Char :=
  if lowercase then c.toUpper.toLower else c.toUpper

variable {lowercase : Bool} {n v w : Nat} {ds : List Char}

theorem hexDigits_eq_map : hexDigits lowercase n = (Nat.toDigits 16 n).map (inCase lowercase) := by
  cases lowercase with
  | false => rfl
  | true => exact List.map_map

theorem hexDigits_ne_nil : hexDigits lowercase n ≠ [] := by
  rw [hexDigits_eq_map, Ne, List.map_eq_nil_iff]
  exact Nat.toDigits_ne_nil

theorem length_hexDigits_le {k : Nat} (hk : 0 < k) (hn : n < 16 ^ k) : (hexDigits lowercase n).length ≤ k := by
  rw [hexDigits_eq_map, List.length_map]
  exact (Nat.length_toDigits_le_iff (by decide) hk).2 hn

/-- Each of the sixteen digits has its value. -/
theorem addHexDigit_inCase (lowercase : Bool) (v : Nat) {d : Nat} (hd : d < 16) :
    addHexDigit lowercase v (inCase lowercase d.digitChar) = some (16 * v + d) := by
  have hplace : ∀ lowercase, ∀ d < 16, (hexAlphabet lowercase).idxOf? (inCase lowercase d.digitChar) = some d := by
    decide
  rw [addHexDigit, hplace lowercase d hd, Option.map_some]

/-- Only zero is written with a zero in front. -/
theorem hexDigits_of_head? (h : (hexDigits lowercase n).head? = some '0') : hexDigits lowercase n = ['0'] := by
  have hzero : n = 0 := by
    by_contra hn
    have hdigits : ∀ lowercase, ∀ d < 16, d ≠ 0 → inCase lowercase d.digitChar ≠ '0' := by decide
    rw [hexDigits_eq_map] at h
    exact head?_map_toDigits (by decide) (hdigits lowercase) hn h
  subst hzero
  cases lowercase <;> rfl

/-! ### Reading -/

theorem foldlM_zeros (k : Nat) : (List.replicate k '0').foldlM (addHexDigit lowercase) 0 = some 0 := by
  induction k with
  | zero => rfl
  | succ k ih =>
    have hzero : addHexDigit lowercase 0 '0' = some 0 := by cases lowercase <;> rfl
    rw [List.replicate_succ, List.foldlM_cons, hzero]
    exact ih

theorem foldlM_hexDigits (lowercase : Bool) (n : Nat) :
    (hexDigits lowercase n).foldlM (addHexDigit lowercase) 0 = some n := by
  rw [hexDigits_eq_map]
  induction n using Nat.strong_induction_on with
  | h n ih =>
    by_cases hlt : n < 16
    · rw [Nat.toDigits_of_lt_base hlt, List.map_singleton, List.foldlM_cons, addHexDigit_inCase _ _ hlt, Nat.mul_zero,
        Nat.zero_add]
      rfl
    · have hsplit := Nat.div_add_mod n 16
      rw [Nat.toDigits_of_base_le (by decide) (by omega), List.map_append, List.foldlM_append, ih (n / 16) (by omega),
        List.map_singleton, Option.bind_eq_bind, Option.bind_some, List.foldlM_cons,
        addHexDigit_inCase _ _ (Nat.mod_lt n (by decide)), hsplit]
      rfl

/-- **Hexadecimal digits are read back**, whatever zeros stand in front. -/
theorem readHex?_padded (lowercase : Bool) (width n : Nat) :
    readHex? lowercase (padded width (hexDigits lowercase n)) = some n := by
  have hne : padded width (hexDigits lowercase n) ≠ [] := by
    rw [padded_eq]
    exact List.append_ne_nil_of_right_ne_nil _ hexDigits_ne_nil
  rw [readHex?, if_neg hne, padded_eq, List.foldlM_append, foldlM_zeros]
  exact foldlM_hexDigits lowercase n

theorem mem_hexAlphabet_of_foldlM (h : ds.foldlM (addHexDigit lowercase) v = some w) :
    ∀ d ∈ ds, d ∈ hexAlphabet lowercase := by
  induction ds generalizing v with
  | nil => exact List.forall_mem_nil _
  | cons c ds ih =>
    rw [List.foldlM_cons] at h
    obtain ⟨u, hdigit, hrest⟩ := Option.bind_eq_some_iff.1 h
    obtain ⟨place, hplace, -⟩ := Option.map_eq_some_iff.1 hdigit
    refine List.forall_mem_cons.2 ⟨?_, ih hrest⟩
    exact List.isSome_idxOf?.1 (hplace ▸ rfl)

/-- What is read has nothing but digits of one case. -/
theorem mem_hexAlphabet_of_readHex? (h : readHex? lowercase ds = some v) : ∀ d ∈ ds, d ∈ hexAlphabet lowercase := by
  rw [readHex?] at h
  split at h
  · cases h
  · exact mem_hexAlphabet_of_foldlM h

/-! ### Two's complement -/

section TwosComplement

variable {bits : Nat} {i : ℤ}

theorem twosComplement_eq (bits : Nat) (i : ℤ) : twosComplement bits i = (BitVec.ofInt bits i).toNat :=
  (BitVec.toNat_ofInt i).symm

theorem twosComplement_lt (bits : Nat) (i : ℤ) : twosComplement bits i < pow2 bits := by
  rw [twosComplement_eq]
  exact BitVec.isLt _

/-- A natural of the width stands for itself. -/
theorem twosComplement_of_nonneg (hi : 0 ≤ i) (hlt : i < pow2 bits) : (twosComplement bits i : ℤ) = i := by
  rw [twosComplement, Int.emod_eq_of_lt hi hlt, Int.toNat_of_nonneg hi]

/-- A negative integer stands for what the power of the width makes of it. -/
theorem twosComplement_of_neg (hi : i < 0) (hge : -(pow2 bits : ℤ) ≤ i) :
    (twosComplement bits i : ℤ) = i + pow2 bits := by
  have hsum : 0 ≤ i + (pow2 bits : ℤ) := by omega
  rw [twosComplement, ← Int.add_emod_right, Int.emod_eq_of_lt hsum (by omega), Int.toNat_of_nonneg hsum]

/-- **In two's complement an integer of the width is found again.** -/
theorem toInt_twosComplement (hlow : -(pow2 bits : ℤ) ≤ i) (hhigh : i < pow2 bits) :
    (BitVec.ofNat (bits + 1) (twosComplement (bits + 1) i)).toInt = i := by
  rw [twosComplement_eq, BitVec.ofNat_toNat, BitVec.setWidth_eq]
  refine BitVec.toInt_ofInt_eq_self (Nat.succ_pos bits) ?_ ?_
  · simpa [pow2_eq] using hlow
  · simpa [pow2_eq] using hhigh

end TwosComplement

end Numeral

open Numeral

/-! ### Numbers -/

namespace Number

/-- The format is the letter of hexadecimal digits in one case, with at most two digits, which say how many digits there
are at least. -/
def AsksForHex (lowercase : Bool) (fmt : String) (n : Nat) : Prop :=
  ∃ ds, Text.trim fmt.toList = (if lowercase then 'x' else 'X') :: ds ∧ ds.length ≤ 2 ∧
    (∀ d ∈ ds, d.isDigit = true) ∧ n = Nat.ofDigitChars 10 ds 0

theorem format_hexadecimal {lowercase : Bool} {fmt : String} {n : Nat} (h : AsksForHex lowercase fmt n)
    (culture : Culture) (i : ℤ) :
    ((integer i).format fmt culture).toList = padded n (hexDigits lowercase (hexWord i)) := by
  obtain ⟨ds, htext, hlength, hdigits, rfl⟩ := h
  have hkind : Kind.ofLetter? (if lowercase then 'x' else 'X') = some .hexadecimal := by cases lowercase <;> rfl
  have hcase : (if lowercase then 'x' else 'X').isLower = lowercase := by cases lowercase <;> rfl
  have hparse := Standard.parse?_letter hkind hlength hdigits
  rw [← htext, hcase] at hparse
  have happly (precision : Option Nat) : Standard.apply ⟨.hexadecimal, lowercase, precision⟩ culture (integer i) =
      padded (precision.getD 0) (hexDigits lowercase (hexWord i)) := rfl
  rw [format_standard hparse, happly]
  split
  · next hds =>
    rw [hds]
    rfl
  · rfl

/-- The natural whose digits are shown: the integer modulo the least of the widths that holds it. -/
theorem cast_hexWord {i : ℤ} (hlow : -(pow2 127 : ℤ) ≤ i) (hhigh : i < pow2 127) :
    (hexWord i : ℤ) = if 0 ≤ i then i else if -(pow2 63 : ℤ) ≤ i then i + pow2 64 else i + pow2 128 := by
  have h63 : pow2 63 ≤ pow2 64 := pow2_le_pow2 (by omega)
  have h127 : pow2 127 ≤ pow2 128 := pow2_le_pow2 (by omega)
  rw [hexWord]
  by_cases hi : 0 ≤ i
  · rw [if_pos hi]
    split
    · exact twosComplement_of_nonneg hi (by omega)
    · exact twosComplement_of_nonneg hi (by omega)
  · rw [if_neg hi]
    have hnarrow : -(pow2 63 : ℤ) ≤ i ∧ i < pow2 63 ↔ -(pow2 63 : ℤ) ≤ i := by omega
    rw [if_congr hnarrow rfl rfl]
    split
    · exact twosComplement_of_neg (by omega) (by omega)
    · exact twosComplement_of_neg (by omega) (by omega)

/-- **Hexadecimal numbers are the integer modulo a width.**  The digits are of the case of the format's letter, at least
as many as the format asks for, with zeros in front only to reach that many.  They are read as the integer itself if it
is not negative, as the integer with `2 ^ 64` added if it is negative and has 64 bits, and else with `2 ^ 128` added. -/
theorem hexadecimal_modulo_width {i : ℤ} (hlow : -(pow2 127 : ℤ) ≤ i) (hhigh : i < pow2 127) (culture : Culture)
    {lowercase : Bool} {fmt : String} {n : Nat} (h : AsksForHex lowercase fmt n) :
    ∃ ds v, ((integer i).format fmt culture).toList = ds ∧ (∀ d ∈ ds, d ∈ hexAlphabet lowercase) ∧ n ≤ ds.length ∧
      (ds.head? = some '0' → ds.length = n ∨ ds = ['0']) ∧ readHex? lowercase ds = some v ∧
      (0 ≤ i → (v : ℤ) = i) ∧ (-(pow2 63 : ℤ) ≤ i → i < 0 → (v : ℤ) = i + pow2 64) ∧
      (i < -(pow2 63 : ℤ) → (v : ℤ) = i + pow2 128) := by
  have hread := readHex?_padded lowercase n (hexWord i)
  refine ⟨_, hexWord i, format_hexadecimal h culture i, mem_hexAlphabet_of_readHex? hread, le_length_padded n _,
    length_padded_of_head? hexDigits_of_head?, hread, ?_⟩
  have hword := cast_hexWord hlow hhigh
  have hpos : 0 < pow2 63 := pow2_pos 63
  refine ⟨fun hi => ?_, fun hnarrow hi => ?_, fun hwide => ?_⟩
  · rw [hword, if_pos hi]
  · rw [hword, if_neg (by omega), if_pos hnarrow]
  · rw [hword, if_neg (by omega), if_neg (by omega)]

/-- The greatest negative integer that 64 bits do not hold. -/
theorem hexadecimal_modulo_width_below :
    -(pow2 127 : ℤ) ≤ -(pow2 63 : ℤ) - 1 ∧ -(pow2 63 : ℤ) - 1 < pow2 127 ∧ AsksForHex true "x40" 40 ∧
      ∃ ds v, ((integer (-(pow2 63 : ℤ) - 1)).format "x40" .polish).toList = ds ∧ 40 ≤ ds.length ∧
        readHex? true ds = some v ∧ (v : ℤ) = -(pow2 63 : ℤ) - 1 + pow2 128 := by
  have hlow : -(pow2 127 : ℤ) ≤ -(pow2 63 : ℤ) - 1 := by decide
  have hhigh : -(pow2 63 : ℤ) - 1 < pow2 127 := by decide
  have hasks : AsksForHex true "x40" 40 := ⟨['4', '0'], by decide +kernel, by decide, by simp, rfl⟩
  obtain ⟨ds, v, hformat, -, hlength, -, hread, -, -, hwide⟩ := hexadecimal_modulo_width hlow hhigh .polish hasks
  exact ⟨hlow, hhigh, hasks, ds, v, hformat, hlength, hread, hwide (by omega)⟩

end Number

/-! ### Discriminants -/

namespace EnumMember

/-- The parameters ask for the hexadecimal digits of a discriminant. -/
def AsksForHex (params : Parameters) : Prop :=
  ∃ fmt, Keyed.get? "format" params = some fmt ∧ (Text.trimmed fmt = "X" ∨ Text.trimmed fmt = "x")

/-- The integer that hexadecimal digits are in two's complement, four bits a digit. -/
def readDiscriminant? (ds : List Char) : Option ℤ :=
  (readHex? false ds).map fun v => (BitVec.ofNat (4 * ds.length) v).toInt

theorem render_hex {params : Parameters} (h : AsksForHex params) (e : EnumMember) :
    ((ArgumentValue.enumeration e).render params).toList = e.hex := by
  obtain ⟨fmt, hfmt, hletter⟩ := h
  have hformat : (ArgumentValue.enumeration e).render params = e.format (some fmt) := by
    rw [← hfmt]
    rfl
  rw [hformat, format, Option.map_some]
  rcases hletter with hletter | hletter
  · rw [hletter]
    exact String.toList_ofList
  · rw [hletter]
    exact String.toList_ofList

/-- Digits that fill a width have the integer that they were written for. -/
theorem readDiscriminant?_word (bits : Nat) {width : Nat} (hwidth : bits + 1 = 4 * width) {i : ℤ}
    (hlow : -(pow2 bits : ℤ) ≤ i) (hhigh : i < pow2 bits) {ds : List Char}
    (hds : ds = padded width (hexDigits false (twosComplement (bits + 1) i))) :
    ds.length = width ∧ readDiscriminant? ds = some i := by
  have hbase : pow2 (bits + 1) = 16 ^ width := by
    rw [pow2_eq, hwidth, Nat.pow_mul]
  have hlength : ds.length = width := by
    have hlt := twosComplement_lt (bits + 1) i
    rw [hbase] at hlt
    rw [hds]
    exact length_padded (length_hexDigits_le (by omega) hlt)
  have hread : readHex? false ds = some (twosComplement (bits + 1) i) := by
    rw [hds]
    exact readHex?_padded false width _
  refine ⟨hlength, ?_⟩
  rw [readDiscriminant?, hlength, ← hwidth, hread, Option.map_some, toInt_twosComplement hlow hhigh]

/-- The digits of a discriminant are those of one of two widths, and have the discriminant in this width. -/
theorem readDiscriminant?_hex {e : EnumMember} (hlow : -(pow2 63 : ℤ) ≤ e.discriminant) (hhigh : e.discriminant < pow2 63) :
    (e.hex.length = 8 ∨ e.hex.length = 16) ∧ readDiscriminant? e.hex = some e.discriminant := by
  by_cases hnarrow : -(pow2 31 : ℤ) ≤ e.discriminant ∧ e.discriminant < pow2 31
  · have hhex : e.hex = padded 8 (hexDigits false (twosComplement 32 e.discriminant)) := by
      rw [hex, if_pos hnarrow]
      rfl
    obtain ⟨hlength, hread⟩ := readDiscriminant?_word 31 rfl hnarrow.1 hnarrow.2 hhex
    exact ⟨Or.inl hlength, hread⟩
  · have hhex : e.hex = padded 16 (hexDigits false (twosComplement 64 e.discriminant)) := by
      rw [hex, if_neg hnarrow]
      rfl
    obtain ⟨hlength, hread⟩ := readDiscriminant?_word 63 rfl hlow hhigh hhex
    exact ⟨Or.inr hlength, hread⟩

theorem mem_hexAlphabet_hex (e : EnumMember) : ∀ d ∈ e.hex, d ∈ hexAlphabet false := by
  rw [hex]
  exact mem_hexAlphabet_of_readHex? (readHex?_padded false _ _)

/-- **The discriminant is found again in its hexadecimal digits.**  They are eight or sixteen upper-case digits, which in
two's complement of their width are the discriminant; so different discriminants are never shown alike. -/
theorem discriminants_read_back {params : Parameters} (h : AsksForHex params) {e : EnumMember}
    (hlow : -(pow2 63 : ℤ) ≤ e.discriminant) (hhigh : e.discriminant < pow2 63) :
    (∃ ds, ((ArgumentValue.enumeration e).render params).toList = ds ∧ (ds.length = 8 ∨ ds.length = 16) ∧
      (∀ d ∈ ds, d ∈ hexAlphabet false) ∧ readDiscriminant? ds = some e.discriminant) ∧
    ∀ others, AsksForHex others → ∀ f : EnumMember, -(pow2 63 : ℤ) ≤ f.discriminant → f.discriminant < pow2 63 →
      e.discriminant ≠ f.discriminant →
      (ArgumentValue.enumeration e).render params ≠ (ArgumentValue.enumeration f).render others := by
  obtain ⟨hwidth, hread⟩ := readDiscriminant?_hex hlow hhigh
  refine ⟨⟨e.hex, render_hex h e, hwidth, e.mem_hexAlphabet_hex, hread⟩, ?_⟩
  intro others hothers f hflow hfhigh hne halike
  obtain ⟨-, hfread⟩ := readDiscriminant?_hex hflow hfhigh
  have hdigits : e.hex = f.hex := by rw [← render_hex h e, halike, render_hex hothers f]
  rw [hdigits, hfread] at hread
  exact hne (Option.some.inj hread).symm

/-- All bits of the narrow width, and the same bits in the wide one. -/
theorem discriminants_read_back_flags :
    AsksForHex [("format", " x ")] ∧
      (∃ ds, ((ArgumentValue.enumeration ⟨"Flags", "All", -1⟩).render [("format", " x ")]).toList = ds ∧
        readDiscriminant? ds = some (-1)) ∧
      (ArgumentValue.enumeration ⟨"Flags", "All", -1⟩).render [("format", " x ")] ≠
        (ArgumentValue.enumeration ⟨"Flags", "Low", 4294967295⟩).render [("format", "X")] := by
  have hlower : AsksForHex [("format", " x ")] := ⟨" x ", rfl, Or.inr (by cbv)⟩
  have hupper : AsksForHex [("format", "X")] := ⟨"X", rfl, Or.inl (by cbv)⟩
  obtain ⟨⟨ds, hds, -, -, hread⟩, hdistinct⟩ :=
    discriminants_read_back hlower (e := ⟨"Flags", "All", -1⟩) (by decide) (by decide)
  exact ⟨hlower, ⟨ds, hds, hread⟩,
    hdistinct _ hupper ⟨"Flags", "Low", 4294967295⟩ (by decide) (by decide) (by decide)⟩

end EnumMember

end ModelValidation

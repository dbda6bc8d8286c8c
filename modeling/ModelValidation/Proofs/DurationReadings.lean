import ModelValidation.Argument.Duration
import ModelValidation.Proofs.IntegerReadings

/-!
# Durations read back

The default form `[-][d.]hh:mm:ss[.fffffff]` of a duration is read back as the duration, as far as hundreds of nanoseconds
tell it:

* `Reading.read?_eq_some_iff`: what is read is just what has this form, and it is read in one way;
* `standard_eq_text`, `wellFormed_reading`: the default form of a duration is that of its parts;
* `value_reading`: the parts have the value of the duration, cut towards zero;
* `durations_read_back`: so what is read has the sign, the parts and the value of the duration.
-/

namespace ModelValidation.Duration

open Numeral

/-- As many digits as the field is wide. -/
def IsField (width : Nat) (ds : List Char) : Prop := ds.length = width ∧ ∀ d ∈ ds, d.isDigit = true

instance (width : Nat) (ds : List Char) : Decidable (IsField width ds) :=
  decidable_of_iff (ds.length = width ∧ ds.all Char.isDigit = true) (and_congr_right fun _ => List.all_eq_true)

theorem isField_padded {width n : Nat} (hwidth : width ≠ 0) (h : n < pow10 width) :
    IsField width (padded width (decimal n)) :=
  ⟨length_padded (length_decimal_le hwidth h), fun _ => isDigit_of_mem_padded fun _ => isDigit_of_mem_decimal⟩

theorem notMem_of_digits {sep : Char} (hsep : sep.isDigit = false) {ds : List Char} (hds : ∀ d ∈ ds, d.isDigit = true) :
    sep ∉ ds := by
  intro hmem
  rw [hds sep hmem] at hsep
  cases hsep

theorem colon_notMem {ds : List Char} (hds : ∀ d ∈ ds, d.isDigit = true) : ':' ∉ ds :=
  notMem_of_digits rfl hds

/-! ### The default form -/

/-- A duration taken apart as it is written: its sign, its days and its fraction if it has them, and three fields of two
digits. -/
structure Reading where
  negative : Bool
  days : Option (List Char)
  hours : List Char
  minutes : List Char
  seconds : List Char
  fraction : Option (List Char)
  deriving DecidableEq, Repr

namespace Reading

/-- Days are digits, the fields of the clock have two digits and the fraction has seven. -/
def WellFormed (r : Reading) : Prop :=
  (∀ ds ∈ r.days, IsNumeral ds) ∧ IsField 2 r.hours ∧ IsField 2 r.minutes ∧ IsField 2 r.seconds ∧
    ∀ ds ∈ r.fraction, IsField 7 ds

instance (r : Reading) : Decidable r.WellFormed := by
  unfold WellFormed
  infer_instance

/-- What stands before the first colon: days with a point behind them, and hours. -/
def front (r : Reading) : List Char := r.days.elim [] (· ++ ['.']) ++ r.hours

/-- What stands behind the last colon: seconds, and a fraction behind the separator. -/
def back (sep : Char) (r : Reading) : List Char := r.seconds ++ r.fraction.elim [] (sep :: ·)

def body (sep : Char) (r : Reading) : List Char := r.front ++ ':' :: (r.minutes ++ ':' :: r.back sep)

/-- The form `[-][d.]hh:mm:ss[.fffffff]`. -/
def text (sep : Char) (r : Reading) : List Char := (if r.negative then ['-'] else []) ++ r.body sep

/-- Takes apart what stands before, between and behind two colons. -/
def ofParts (sep : Char) (negative : Bool) (front minutes back : List Char) : Reading where
  negative := negative
  days := (Text.splitOnce '.' front).map Prod.fst
  hours := ((Text.splitOnce '.' front).map Prod.snd).getD front
  minutes := minutes
  seconds := ((Text.splitOnce sep back).map Prod.fst).getD back
  fraction := (Text.splitOnce sep back).map Prod.snd

/-- Reads a duration without its sign. -/
def ofBody? (sep : Char) (negative : Bool) (body : List Char) : Option Reading :=
  match Text.split ':' body with
  | [front, minutes, back] =>
    let r := ofParts sep negative front minutes back
    if r.WellFormed then some r else none
  | _ => none

/-- Reads a duration with a minus sign or without a sign. -/
def read? (sep : Char) : List Char → Option Reading
  | '-' :: body => ofBody? sep true body
  | body => ofBody? sep false body

/-! ### What is read -/

section Parts

variable {sep : Char} {negative : Bool} {f m b : List Char}

theorem front_ofParts : (ofParts sep negative f m b).front = f := by
  cases hf : Text.splitOnce '.' f with
  | none => simp [front, ofParts, hf]
  | some halves =>
    have hjoined := (Text.splitOnce_eq_some_iff.1 hf).2
    simp [front, ofParts, hf, ← hjoined]

theorem back_ofParts : (ofParts sep negative f m b).back sep = b := by
  cases hb : Text.splitOnce sep b with
  | none => simp [back, ofParts, hb]
  | some halves =>
    have hjoined := (Text.splitOnce_eq_some_iff.1 hb).2
    simp [back, ofParts, hb, ← hjoined]

theorem body_ofParts : (ofParts sep negative f m b).body sep = f ++ ':' :: (m ++ ':' :: b) := by
  rw [body, front_ofParts, back_ofParts, ofParts]

end Parts

section Reader

variable {sep : Char} {r : Reading}

theorem splitOnce_front (h : r.WellFormed) : Text.splitOnce '.' r.front = r.days.map (·, r.hours) := by
  obtain ⟨hdays, hhours, -⟩ := h
  unfold front
  cases hd : r.days with
  | none =>
    rw [Option.elim_none, List.nil_append]
    exact Text.splitOnce_eq_none_iff.2 (notMem_of_digits rfl hhours.2)
  | some ds =>
    rw [Option.elim_some, List.append_assoc]
    exact Text.splitOnce_eq_some_iff.2 ⟨notMem_of_digits rfl (hdays ds hd).2, rfl⟩

theorem splitOnce_back (hsep : sep.isDigit = false) (h : r.WellFormed) :
    Text.splitOnce sep (r.back sep) = r.fraction.map (r.seconds, ·) := by
  obtain ⟨-, -, -, hseconds, -⟩ := h
  unfold back
  cases r.fraction with
  | none =>
    rw [Option.elim_none, List.append_nil]
    exact Text.splitOnce_eq_none_iff.2 (notMem_of_digits hsep hseconds.2)
  | some ds => exact Text.splitOnce_eq_some_iff.2 ⟨notMem_of_digits hsep hseconds.2, rfl⟩

/-- The parts of a text are found where they were put. -/
theorem ofParts_eq (hsep : sep.isDigit = false) (h : r.WellFormed) :
    ofParts sep r.negative r.front r.minutes (r.back sep) = r := by
  rw [ofParts, splitOnce_front h, splitOnce_back hsep h]
  obtain ⟨negative, days, hours, minutes, seconds, fraction⟩ := r
  cases days <;> cases fraction <;> simp [front, back]

theorem colon_notMem_front (h : r.WellFormed) : ':' ∉ r.front := by
  obtain ⟨hdays, hhours, -⟩ := h
  have hhours := colon_notMem hhours.2
  unfold front
  cases hd : r.days with
  | none => simpa using hhours
  | some ds =>
    have hds := colon_notMem (hdays ds hd).2
    simpa using ⟨hds, hhours⟩

theorem colon_notMem_back (hcolon : sep ≠ ':') (h : r.WellFormed) : ':' ∉ r.back sep := by
  obtain ⟨-, -, -, hseconds, hfraction⟩ := h
  have hseconds := colon_notMem hseconds.2
  unfold back
  cases hf : r.fraction with
  | none => simpa using hseconds
  | some ds =>
    have hds := colon_notMem (hfraction ds hf).2
    simpa using ⟨hseconds, hcolon.symm, hds⟩

theorem split_body (hcolon : sep ≠ ':') (h : r.WellFormed) :
    Text.split ':' (r.body sep) = [r.front, r.minutes, r.back sep] := by
  have hminutes := colon_notMem h.2.2.1.2
  rw [body, Text.split_append_sep, Text.split_append_sep, Text.split_of_notMem (colon_notMem_front h),
    Text.split_of_notMem hminutes, Text.split_of_notMem (colon_notMem_back hcolon h)]
  rfl

theorem ofBody?_eq_some_iff (hsep : sep.isDigit = false) (hcolon : sep ≠ ':') {negative : Bool} {cs : List Char} :
    ofBody? sep negative cs = some r ↔ r.WellFormed ∧ r.negative = negative ∧ r.body sep = cs := by
  constructor
  · intro h
    unfold ofBody? at h
    split at h
    · next f m b hsplit =>
      have hcs := Text.intercalate_split ':' cs
      rw [hsplit] at hcs
      obtain ⟨hr, rfl⟩ := Option.ite_some_none_eq_some.1 h
      refine ⟨hr, rfl, ?_⟩
      rw [body_ofParts, ← hcs]
      simp [List.intercalate]
    · cases h
  · rintro ⟨hr, rfl, rfl⟩
    rw [ofBody?, split_body hcolon hr]
    simp only [ofParts_eq hsep hr, if_pos hr]

/-- A duration without its sign begins with a digit. -/
theorem exists_digit_body (sep : Char) (h : r.WellFormed) : ∃ d rest, r.body sep = d :: rest ∧ d.isDigit = true := by
  obtain ⟨hdays, hhours, -⟩ := h
  unfold body front
  cases hd : r.days with
  | none =>
    obtain ⟨d, ds, hds⟩ := List.exists_cons_of_length_pos (by rw [hhours.1]; omega)
    exact ⟨d, _, by rw [hds]; rfl, hhours.2 d (hds ▸ List.mem_cons_self)⟩
  | some days =>
    obtain ⟨d, ds, rfl⟩ := List.exists_cons_of_ne_nil (hdays days hd).1
    exact ⟨d, _, rfl, (hdays _ hd).2 d List.mem_cons_self⟩

theorem read?_of_ne {c : Char} (hc : c ≠ '-') (cs : List Char) : read? sep (c :: cs) = ofBody? sep false (c :: cs) := by
  rw [read?]
  rintro body hbody
  cases hbody
  exact hc rfl

/-- **What is read is just what has the form of a duration**, and it is read in one way. -/
theorem read?_eq_some_iff (hsep : sep.isDigit = false) (hcolon : sep ≠ ':') {cs : List Char} :
    read? sep cs = some r ↔ r.WellFormed ∧ r.text sep = cs := by
  constructor
  · intro h
    unfold read? at h
    split at h
    all_goals
      obtain ⟨hr, hnegative, rfl⟩ := (ofBody?_eq_some_iff hsep hcolon).1 h
      refine ⟨hr, ?_⟩
      rw [text, hnegative]
      rfl
  · rintro ⟨hr, rfl⟩
    rw [text]
    cases hnegative : r.negative with
    | true => exact (ofBody?_eq_some_iff hsep hcolon).2 ⟨hr, hnegative, rfl⟩
    | false =>
      obtain ⟨d, rest, hbody, hdigit⟩ := exists_digit_body sep hr
      have hd : d ≠ '-' := by
        rintro rfl
        cases hdigit
      rw [if_neg Bool.false_ne_true, List.nil_append, hbody, read?_of_ne hd, ← hbody]
      exact (ofBody?_eq_some_iff hsep hcolon).2 ⟨hr, hnegative, rfl⟩

end Reader

/-! ### What it is worth -/

/-- The natural that digits stand for. -/
def number (ds : List Char) : Nat := Nat.ofDigitChars 10 ds 0

/-- Days, hours, minutes and seconds in seconds, with the fraction, behind the sign. -/
def value (r : Reading) : ℚ :=
  (if r.negative then -1 else 1) *
    (number (r.days.getD []) * 86400 + number r.hours * 3600 + number r.minutes * 60 + number r.seconds +
      number (r.fraction.getD []) / 10 ^ (r.fraction.getD []).length)

end Reading

/-! ### The default form of a duration -/

/-- The parts of a duration that its default form shows. -/
def reading (d : Duration) : Reading where
  negative := d.isNegative
  days := if 0 < d.days then some (decimal d.days) else none
  hours := padded 2 (decimal d.hours)
  minutes := padded 2 (decimal d.minutes)
  seconds := padded 2 (decimal d.seconds)
  fraction := if 0 < d.ticks then some (padded 7 (decimal d.ticks)) else none

section Default

variable (d : Duration)

theorem hours_lt : d.hours < 24 := Nat.mod_lt _ (by decide)

theorem minutes_lt : d.minutes < 60 := Nat.mod_lt _ (by decide)

theorem seconds_lt : d.seconds < 60 := Nat.mod_lt _ (by decide)

theorem ticks_lt : d.ticks < 10000000 := by
  unfold ticks
  omega

/-- **The default form of a duration is that of its parts.** -/
theorem standard_eq_text (culture : Culture) : d.standard culture = d.reading.text culture.decimalSeparator := by
  by_cases hdays : 0 < d.days
  · by_cases hticks : 0 < d.ticks <;>
      simp [standard, Reading.text, Reading.body, Reading.front, Reading.back, reading, hdays, hticks]
  · by_cases hticks : 0 < d.ticks <;>
      simp [standard, Reading.text, Reading.body, Reading.front, Reading.back, reading, hdays, hticks]

theorem wellFormed_reading : d.reading.WellFormed := by
  have hhours := d.hours_lt
  have hminutes := d.minutes_lt
  have hseconds := d.seconds_lt
  refine ⟨fun ds hds => ?_, isField_padded (by decide) ?_, isField_padded (by decide) ?_, isField_padded (by decide) ?_,
    fun ds hds => ?_⟩
  · obtain ⟨-, rfl⟩ := Option.ite_some_none_eq_some.1 hds
    exact ⟨decimal_ne_nil _, fun c => isDigit_of_mem_decimal⟩
  · exact hhours.trans (by decide)
  · exact hminutes.trans (by decide)
  · exact hseconds.trans (by decide)
  · obtain ⟨-, rfl⟩ := Option.ite_some_none_eq_some.1 hds
    exact isField_padded (by decide) d.ticks_lt

theorem isSome_days : d.reading.days.isSome = true ↔ 0 < d.days := by
  by_cases hdays : 0 < d.days <;> simp [reading, hdays]

theorem isSome_fraction : d.reading.fraction.isSome = true ↔ 0 < d.ticks := by
  by_cases hticks : 0 < d.ticks <;> simp [reading, hticks]

/-- The parts of the magnitude, put together again. -/
theorem sum_parts :
    (d.days * 86400 + d.hours * 3600 + d.minutes * 60 + d.seconds) * 10000000 + d.ticks = d.nanoseconds.natAbs / 100 := by
  unfold days hours minutes seconds ticks totalSeconds
  omega

theorem number_decimal (n : Nat) : Reading.number (decimal n) = n := ofDigitChars_decimal n

theorem number_padded (width n : Nat) : Reading.number (padded width (decimal n)) = n := by
  rw [Reading.number, ofDigitChars_padded, ofDigitChars_decimal]

theorem number_days : Reading.number (d.reading.days.getD []) = d.days := by
  by_cases hdays : 0 < d.days
  · simp [reading, hdays, number_decimal]
  · simp [reading, hdays, Reading.number]
    omega

/-- The fraction counts hundreds of nanoseconds. -/
theorem fraction_eq : (Reading.number (d.reading.fraction.getD []) : ℚ) / 10 ^ (d.reading.fraction.getD []).length =
    d.ticks / 10 ^ 7 := by
  by_cases hticks : 0 < d.ticks
  · have hlength : (padded 7 (decimal d.ticks)).length = 7 := (isField_padded (by decide) d.ticks_lt).1
    simp only [reading, if_pos hticks, Option.getD_some, hlength, number_padded]
  · have hzero : d.ticks = 0 := by omega
    simp [reading, hzero, Reading.number]

/-- Cutting towards zero keeps the sign and cuts the magnitude. -/
theorem tdiv_eq (n k : ℤ) : n.tdiv k = (if n < 0 then -1 else 1) * (n.natAbs.cast : ℤ).tdiv k := by
  by_cases hn : n < 0
  · rw [if_pos hn, Int.ofNat_natAbs_of_nonpos hn.le, Int.neg_tdiv]
    omega
  · rw [if_neg hn, Int.natAbs_of_nonneg (by omega), one_mul]

/-- **The parts have the value of the duration**, cut towards zero to hundreds of nanoseconds. -/
theorem value_reading : d.reading.value = (d.nanoseconds.tdiv 100 : ℤ) / 10 ^ 7 := by
  have hsum : ((d.days * 86400 + d.hours * 3600 + d.minutes * 60 + d.seconds) * 10 ^ 7 + d.ticks : ℚ) =
      (d.nanoseconds.natAbs / 100 : Nat) := by
    exact_mod_cast d.sum_parts
  have hmagnitude : (d.nanoseconds.natAbs.cast : ℤ).tdiv 100 = (d.nanoseconds.natAbs / 100 : Nat) := rfl
  have hsign : d.reading.negative = true ↔ d.nanoseconds < 0 := decide_eq_true_iff
  have hfields : Reading.number d.reading.hours = d.hours ∧ Reading.number d.reading.minutes = d.minutes ∧
      Reading.number d.reading.seconds = d.seconds :=
    ⟨number_padded 2 _, number_padded 2 _, number_padded 2 _⟩
  rw [Reading.value, number_days, fraction_eq, hfields.1, hfields.2.1, hfields.2.2, tdiv_eq, hmagnitude]
  simp only [hsign]
  rw [Int.cast_mul, Int.cast_natCast, ← hsum]
  by_cases hnegative : d.nanoseconds < 0
  · rw [if_pos hnegative, if_pos hnegative]
    push_cast
    ring
  · rw [if_neg hnegative, if_neg hnegative]
    push_cast
    ring

end Default

/-- **Durations read back.**  The default form of a duration is read as `[-][d.]hh:mm:ss[.fffffff]` with the separator of
the culture: a minus sign just if the duration is negative, hours of a day, minutes of an hour and seconds of a minute,
days without zeros in front just if there is a whole one, and seven digits of a fraction just if there are hundreds of
nanoseconds to show.  What is read has the value of the duration, cut towards zero to hundreds of nanoseconds. -/
theorem durations_read_back (d : Duration) (culture : Culture) :
    ∃ r, Reading.read? culture.decimalSeparator (d.format none culture).toList = some r ∧
      (r.negative = true ↔ d.nanoseconds < 0) ∧ Reading.number r.hours < 24 ∧ Reading.number r.minutes < 60 ∧
      Reading.number r.seconds < 60 ∧ (r.days.isSome = true ↔ 86400 * 1000000000 ≤ d.nanoseconds.natAbs) ∧
      (∀ ds ∈ r.days, ds.head? ≠ some '0') ∧
      (r.fraction.isSome = true ↔ 100 ≤ d.nanoseconds.natAbs % 1000000000) ∧
      r.value = (d.nanoseconds.tdiv 100 : ℤ) / 10 ^ 7 := by
  have hcolon : culture.decimalSeparator ≠ ':' := by cases culture <;> decide
  have hread := (Reading.read?_eq_some_iff (Number.isDigit_decimalSeparator culture) hcolon).2
    ⟨d.wellFormed_reading, (d.standard_eq_text culture).symm⟩
  have hformat : (d.format none culture).toList = d.standard culture := String.toList_ofList
  refine ⟨d.reading, hformat ▸ hread, decide_eq_true_iff, ?_, ?_, ?_, ?_, ?_, ?_, d.value_reading⟩
  · exact (number_padded 2 _).trans_lt d.hours_lt
  · exact (number_padded 2 _).trans_lt d.minutes_lt
  · exact (number_padded 2 _).trans_lt d.seconds_lt
  · rw [isSome_days, days, totalSeconds]
    omega
  · intro ds hds
    obtain ⟨hdays, rfl⟩ := Option.ite_some_none_eq_some.1 hds
    exact head?_decimal hdays.ne'
  · rw [isSome_fraction, ticks]
    omega

/-- What is less than a hundred nanoseconds does not show. -/
example : (Duration.mk (-1500000099)).format none .german = "-00:00:01,5000000" := by decide +kernel

end ModelValidation.Duration

import Mathlib.Algebra.Order.Field.Power
import Mathlib.Data.Int.Log
import Mathlib.Data.Rat.Floor
import Mathlib.Tactic.FieldSimp
import Mathlib.Tactic.Linarith
import Mathlib.Tactic.Positivity
import Mathlib.Tactic.Ring
import ModelValidation.Argument.Number

/-!
# Rounding to doubles

What rounding does to a ratio, by the value of the ratio:

* `Format.round_congr`: ratios of one value are rounded alike;
* `isFinite_ofRatio_iff`: rounding overflows from halfway between the greatest double and `2^1024` on;
* `ofRatio_natural`, `nearest_eq_self_iff`: a natural is rounded to a natural, and stays as it is just if 53 bits suffice
  for it up to a power of two;
* `hundredfold_finite`: a hundred times a double is rounded once.
-/

namespace ModelValidation

/-! ### Powers of two -/

theorem pow2_eq (n : Nat) : pow2 n = 2 ^ n := rfl

theorem pow2_pos (n : Nat) : 0 < pow2 n :=
  Nat.two_pow_pos n

theorem pow2_add (m n : Nat) : pow2 (m + n) = pow2 m * pow2 n :=
  Nat.pow_add 2 m n

theorem pow2_le_pow2 {m n : Nat} (h : m ≤ n) : pow2 m ≤ pow2 n :=
  Nat.pow_le_pow_right (by decide) h

theorem cast_pow2 (n : Nat) : ((pow2 n : Nat) : ℚ) = 2 ^ n := by
  rw [pow2_eq, Nat.cast_pow, Nat.cast_ofNat]

/-- A power of two as a ratio of naturals. -/
theorem zpow_eq_div (k : ℤ) : (2 : ℚ) ^ k = (pow2 k.toNat : ℚ) / (pow2 (-k).toNat : ℚ) := by
  rw [cast_pow2, cast_pow2]
  rcases Int.le_total 0 k with hk | hk
  · have hneg : (-k).toNat = 0 := by omega
    rw [hneg, pow_zero, div_one, ← zpow_natCast, Int.toNat_of_nonneg hk]
  · have hpos : k.toNat = 0 := by omega
    rw [hpos, pow_zero, one_div, ← zpow_natCast, Int.toNat_of_nonneg (by omega), zpow_neg, inv_inv]

/-! ### Rounding to naturals -/

section HalfEven

variable {num den c : Nat}

theorem roundHalfEven_mul {k : Nat} (hk : 0 < k) (num den : Nat) :
    roundHalfEven (num * k) (den * k) = roundHalfEven num den := by
  have hdouble : 2 * (num % den * k) = 2 * (num % den) * k := (Nat.mul_assoc 2 _ k).symm
  have hlt : den * k < 2 * (num % den) * k ↔ den < 2 * (num % den) := Nat.mul_lt_mul_right hk
  have heq : 2 * (num % den) * k = den * k ↔ 2 * (num % den) = den := Nat.mul_left_inj (by omega)
  simp only [roundHalfEven, Nat.mul_div_mul_right _ _ hk, Nat.mul_mod_mul_right, hdouble, hlt, heq]

/-- Ratios of one value are rounded alike. -/
theorem roundHalfEven_congr {a b c d : Nat} (hb : 0 < b) (hd : 0 < d) (h : a * d = c * b) :
    roundHalfEven a b = roundHalfEven c d := by
  rw [← roundHalfEven_mul hd a b, ← roundHalfEven_mul hb c d, h, Nat.mul_comm b d]

theorem roundHalfEven_natural (hd : 0 < den) (c : Nat) : roundHalfEven (c * den) den = c := by
  have hmod : c * den % den = 0 := Nat.mul_mod_left c den
  simp only [roundHalfEven, Nat.mul_div_cancel c hd, hmod]
  rw [if_neg (by omega)]

theorem le_roundHalfEven (hd : 0 < den) (h : c * den ≤ num) : c ≤ roundHalfEven num den := by
  have hq : c ≤ num / den := (Nat.le_div_iff_mul_le hd).2 h
  simp only [roundHalfEven]
  split <;> omega

theorem roundHalfEven_le (hd : 0 < den) (h : num < c * den) : roundHalfEven num den ≤ c := by
  have hq : num / den < c := (Nat.div_lt_iff_lt_mul hd).2 h
  simp only [roundHalfEven]
  split <;> omega

/-- An even natural is reached from halfway below it on. -/
theorem even_le_roundHalfEven_iff (hd : 0 < den) (hc : 0 < c) (heven : c % 2 = 0) :
    c ≤ roundHalfEven num den ↔ (2 * c - 1) * den ≤ 2 * num := by
  have hdiv : den * (num / den) + num % den = num := Nat.div_add_mod num den
  have hmod : num % den < den := Nat.mod_lt num hd
  have hsub : (2 * c - 1) * den + den = 2 * (c * den) := by
    rw [← Nat.succ_mul, Nat.succ_eq_add_one, Nat.sub_add_cancel (by omega), Nat.mul_assoc]
  simp only [roundHalfEven]
  generalize num / den = q at hdiv
  generalize num % den = r at hdiv hmod
  rw [Nat.mul_comm den q] at hdiv
  -- below, at and above the last natural that a half can lift to `c`
  rcases Nat.lt_trichotomy (q + 1) c with hlt | heq | hgt
  · have hbelow : (q + 1 + 1) * den ≤ c * den := Nat.mul_le_mul_right den hlt
    rw [Nat.succ_mul, Nat.succ_mul] at hbelow
    constructor
    · split <;> omega
    · omega
  · subst heq
    have hat : (q + 1) * den = q * den + den := Nat.succ_mul q den
    have hodd : q % 2 = 1 := by omega
    split <;> omega
  · have habove : c * den ≤ q * den := Nat.mul_le_mul_right den (by omega)
    constructor
    · omega
    · split <;> omega

end HalfEven

namespace Binary64

/-! ### The exponent of a ratio -/

section Exponent

variable {num den : Nat}

theorem log_eq_iff {r : ℚ} (hr : 0 < r) (k : ℤ) : Int.log 2 r = k ↔ (2 : ℚ) ^ k ≤ r ∧ r < 2 ^ (k + 1) := by
  have hle : (2 : ℚ) ^ k ≤ r ↔ k ≤ Int.log 2 r := Int.zpow_le_iff_le_log (by decide) hr
  have hlt : r < (2 : ℚ) ^ (k + 1) ↔ Int.log 2 r < k + 1 := Int.lt_zpow_iff_log_lt (by decide) hr
  rw [hle, hlt]
  omega

/-- A ratio against a multiple of a power of two, over naturals. -/
theorem scaled_lt_iff (num : Nat) (hd : 0 < den) (c : Nat) (e : ℤ) :
    num * pow2 (-e).toNat < c * (den * pow2 e.toNat) ↔ (num : ℚ) / den < c * 2 ^ e := by
  have hden : (0 : ℚ) < den := by exact_mod_cast hd
  have hpow : (0 : ℚ) < pow2 (-e).toNat := by exact_mod_cast pow2_pos _
  rw [zpow_eq_div, ← mul_div_assoc, div_lt_div_iff₀ hden hpow, ← Nat.cast_lt (α := ℚ)]
  push_cast
  rw [mul_comm (den : ℚ), mul_assoc (c : ℚ)]

theorem binaryExponent_eq_log (hn : 0 < num) (hd : 0 < den) : binaryExponent num den = Int.log 2 ((num : ℚ) / den) := by
  have hden : (0 : ℚ) < den := by exact_mod_cast hd
  have hnum : (0 : ℚ) < num := by exact_mod_cast hn
  have hnum₁ : (2 : ℚ) ^ (num.log2 : ℤ) ≤ num := by
    rw [zpow_natCast]
    exact_mod_cast Nat.log2_self_le (by omega)
  have hnum₂ : (num : ℚ) < 2 ^ ((num.log2 : ℤ) + 1) := by
    rw [← Nat.cast_add_one, zpow_natCast]
    exact_mod_cast Nat.lt_log2_self
  have hden₁ : (2 : ℚ) ^ (den.log2 : ℤ) ≤ den := by
    rw [zpow_natCast]
    exact_mod_cast Nat.log2_self_le (by omega)
  have hden₂ : (den : ℚ) < 2 ^ ((den.log2 : ℤ) + 1) := by
    rw [← Nat.cast_add_one, zpow_natCast]
    exact_mod_cast Nat.lt_log2_self
  have htwo : (2 : ℚ) ≠ 0 := two_ne_zero
  have hdecide := scaled_lt_iff num hd 1 (num.log2 - den.log2)
  rw [Nat.one_mul, Nat.cast_one, one_mul] at hdecide
  symm
  rw [log_eq_iff (div_pos hnum hden)]
  simp only [binaryExponent]
  split
  · next h =>
    refine ⟨?_, ?_⟩
    · rw [le_div_iff₀ hden]
      calc (2 : ℚ) ^ ((num.log2 : ℤ) - den.log2 - 1) * den
          ≤ 2 ^ ((num.log2 : ℤ) - den.log2 - 1) * 2 ^ ((den.log2 : ℤ) + 1) :=
            mul_le_mul_of_nonneg_left hden₂.le (by positivity)
        _ = 2 ^ (num.log2 : ℤ) := by rw [← zpow_add₀ htwo]; ring_nf
        _ ≤ num := hnum₁
    · rw [sub_add_cancel]
      exact hdecide.1 h
  · next h =>
    refine ⟨not_lt.1 fun hlt => h (hdecide.2 hlt), ?_⟩
    rw [div_lt_iff₀ hden]
    calc (num : ℚ) < 2 ^ ((num.log2 : ℤ) + 1) := hnum₂
      _ = 2 ^ ((num.log2 : ℤ) - den.log2 + 1) * 2 ^ (den.log2 : ℤ) := by rw [← zpow_add₀ htwo]; ring_nf
      _ ≤ 2 ^ ((num.log2 : ℤ) - den.log2 + 1) * den := mul_le_mul_of_nonneg_left hden₁ (by positivity)

end Exponent

/-- **Ratios of one value are rounded alike.** -/
theorem Format.round_congr (fmt : Format) (negative : Bool) {a b c d : Nat} (hb : 0 < b) (hd : 0 < d)
    (h : a * d = c * b) : fmt.round negative a b = fmt.round negative c d := by
  by_cases ha : a = 0
  · have hc : c = 0 := by
      rw [ha, Nat.zero_mul, eq_comm, Nat.mul_eq_zero] at h
      omega
    rw [ha, hc, round, round, if_pos rfl, if_pos rfl]
  · have hc : c ≠ 0 := by
      rintro rfl
      rw [Nat.zero_mul, Nat.mul_eq_zero] at h
      omega
    have hratio : (a : ℚ) / b = (c : ℚ) / d := by
      have hb' : (b : ℚ) ≠ 0 := by exact_mod_cast hb.ne'
      have hd' : (d : ℚ) ≠ 0 := by exact_mod_cast hd.ne'
      rw [div_eq_div_iff hb' hd']
      exact_mod_cast h
    have hexponent : binaryExponent a b = binaryExponent c d := by
      rw [binaryExponent_eq_log (by omega) hb, binaryExponent_eq_log (by omega) hd, hratio]
    have hmantissa (e : ℤ) : roundHalfEven (a * pow2 (-e).toNat) (b * pow2 e.toNat) =
        roundHalfEven (c * pow2 (-e).toNat) (d * pow2 e.toNat) := by
      have hp := pow2_pos e.toNat
      refine roundHalfEven_congr (Nat.mul_pos hb hp) (Nat.mul_pos hd hp) ?_
      rw [Nat.mul_mul_mul_comm, Nat.mul_mul_mul_comm c, h]
    simp only [round, if_neg ha, if_neg hc, hexponent, hmantissa]

/-! ### Overflow -/

/-- The double of a rounded mantissa: the mantissa may carry, and the exponent may be too great. -/
def ofMantissa (negative : Bool) (m : Nat) (e : ℤ) : Binary64 :=
  if m = pow2 53 then if 971 < e + 1 then .infinite negative else .finite negative (pow2 52) (e + 1)
  else if m = 0 then zero negative
  else if 971 < e then .infinite negative
  else .finite negative m e

theorem ofRatio_eq_ofMantissa (negative : Bool) {num den : Nat} {e : ℤ} (hn : 0 < num)
    (he : e = max (-1074) (binaryExponent num den - 52)) :
    ofRatio negative num den = ofMantissa negative (roundHalfEven (num * pow2 (-e).toNat) (den * pow2 e.toNat)) e := by
  have hexponent : max Format.double.minExponent (binaryExponent num den - (Format.double.precision - 1)) = e := by
    rw [he]
    rfl
  have hpos : pow2 (53 - 1) ≠ 0 := Nat.ne_of_gt (pow2_pos _)
  simp only [ofRatio, Format.round, if_neg (Nat.ne_of_gt hn), hexponent, ofMantissa]
  generalize roundHalfEven _ _ = m
  have hprecision : Format.double.precision = 53 := rfl
  have hgreatest : Format.double.maxExponent = 971 := rfl
  rw [hprecision, hgreatest]
  by_cases hcarry : m = pow2 53
  · rw [if_pos hcarry, if_pos hcarry]
    exact if_neg hpos
  · rw [if_neg hcarry, if_neg hcarry]

theorem ofMantissa_cases (negative : Bool) (m : Nat) (e : ℤ) :
    ofMantissa negative m e = .infinite negative ∨ ∃ m' e', ofMantissa negative m e = .finite negative m' e' := by
  unfold ofMantissa zero
  split_ifs
  · exact Or.inl rfl
  · exact Or.inr ⟨_, _, rfl⟩
  · exact Or.inr ⟨_, _, rfl⟩
  · exact Or.inl rfl
  · exact Or.inr ⟨_, _, rfl⟩

/-- A ratio keeps its sign. -/
theorem ofRatio_cases (negative : Bool) (num den : Nat) :
    ofRatio negative num den = .infinite negative ∨ ∃ m e, ofRatio negative num den = .finite negative m e := by
  rcases Nat.eq_zero_or_pos num with rfl | hn
  · exact Or.inr ⟨0, 0, rfl⟩
  · rw [ofRatio_eq_ofMantissa negative hn rfl]
    exact ofMantissa_cases negative _ _

theorem isFinite_ofMantissa (negative : Bool) (m : Nat) (e : ℤ) :
    (ofMantissa negative m e).isFinite = true ↔ m = 0 ∨ e < 971 ∨ e = 971 ∧ m ≠ pow2 53 := by
  have hpos := pow2_pos 53
  unfold ofMantissa zero
  split_ifs <;> simp only [isFinite, Bool.false_eq_true, false_iff, true_iff] <;> omega

/-- Below the greatest exponent the value stays. -/
theorem ofMantissa_eq_finite (negative : Bool) (m : Nat) {e : ℤ} (he : e < 971) :
    ∃ m' e', ofMantissa negative m e = .finite negative m' e' ∧ (m' : ℚ) * 2 ^ e' = m * 2 ^ e := by
  unfold ofMantissa zero
  split_ifs with hcarry hhigh hzero hhigh
  · omega
  · refine ⟨_, _, rfl, ?_⟩
    rw [hcarry, pow2_add 52 1, zpow_add₀ two_ne_zero, Nat.cast_mul, mul_assoc]
    congr 1
    rw [mul_comm]
    rfl
  · exact ⟨_, _, rfl, by rw [hzero, Nat.cast_zero, zero_mul, zero_mul]⟩
  · omega
  · exact ⟨_, _, rfl, rfl⟩

section Mantissa

variable {num den : Nat} {k e : ℤ}

theorem mul_zpow_eq (m : Nat) (k e : ℤ) (h : m + e = k) : (pow2 m : ℚ) * 2 ^ e = 2 ^ k := by
  rw [cast_pow2, ← zpow_natCast, ← zpow_add₀ two_ne_zero, h]

/-- Rounded in the last of 53 places, a ratio has a mantissa of 53 bits. -/
theorem le_mantissa (hd : 0 < den) (hlow : (2 : ℚ) ^ k ≤ num / den) (he : e = k - 52) :
    pow2 52 ≤ roundHalfEven (num * pow2 (-e).toNat) (den * pow2 e.toNat) := by
  refine le_roundHalfEven (Nat.mul_pos hd (pow2_pos _)) (Nat.not_lt.1 fun h => ?_)
  rw [scaled_lt_iff _ hd, mul_zpow_eq 52 k e (by omega)] at h
  exact absurd hlow (not_le.2 h)

theorem mantissa_le (hd : 0 < den) (hhigh : (num : ℚ) / den < 2 ^ (k + 1)) (he : k - 52 ≤ e) :
    roundHalfEven (num * pow2 (-e).toNat) (den * pow2 e.toNat) ≤ pow2 53 := by
  refine roundHalfEven_le (Nat.mul_pos hd (pow2_pos _)) ((scaled_lt_iff _ hd _ e).2 ?_)
  rw [mul_zpow_eq 53 (53 + e) e rfl]
  exact hhigh.trans_le (zpow_le_zpow_right₀ one_le_two (by omega))

end Mantissa

theorem overflow_eq : (2 : ℚ) ^ 1024 - 2 ^ 970 = (2 ^ 54 - 1) * 2 ^ 970 := by
  rw [sub_mul, one_mul, ← pow_add]

/-- In the last binade the mantissa carries from halfway below its bound on. -/
theorem carries_iff {num den : Nat} (hd : 0 < den) :
    pow2 53 ≤ roundHalfEven (num * pow2 (-971 : ℤ).toNat) (den * pow2 (971 : ℤ).toNat) ↔
      (2 ^ 54 - 1) * 2 ^ 970 ≤ (num : ℚ) / den := by
  have hscale : (2 : ℚ) ^ (971 : ℤ) = 2 * 2 ^ 970 := by rw [← pow_succ']; rfl
  have hcast : ((2 * pow2 53 - 1 : Nat) : ℚ) = 2 ^ 54 - 1 := by
    rw [pow2_eq]
    norm_num
  have hhalf := scaled_lt_iff (2 * num) hd (2 * pow2 53 - 1) 971
  rw [hcast, hscale] at hhalf
  rw [even_le_roundHalfEven_iff (Nat.mul_pos hd (pow2_pos _)) (pow2_pos 53) (by decide), ← Nat.mul_assoc 2,
    ← Nat.not_lt, hhalf, not_lt, Nat.cast_mul, Nat.cast_ofNat, mul_div_assoc, mul_left_comm]
  exact mul_le_mul_iff_of_pos_left two_pos

/-- **Rounding overflows** from halfway between the greatest double and `2^1024` on. -/
theorem isFinite_ofRatio_iff (negative : Bool) {num den : Nat} (hd : 0 < den) :
    (ofRatio negative num den).isFinite = true ↔ (num : ℚ) / den < 2 ^ 1024 - 2 ^ 970 := by
  have hunit : (0 : ℚ) < 2 ^ 970 := by positivity
  rw [overflow_eq]
  rcases Nat.eq_zero_or_pos num with rfl | hn
  · have hzero : ofRatio negative 0 den = zero negative := by rw [ofRatio, Format.round, if_pos rfl]
    simp only [hzero, zero, isFinite, Nat.cast_zero, zero_div, true_iff]
    have hfactor : (0 : ℚ) < 2 ^ 54 - 1 := by norm_num
    exact mul_pos hfactor hunit
  have hnum : (0 : ℚ) < num := by exact_mod_cast hn
  have hden : (0 : ℚ) < den := by exact_mod_cast hd
  have hbounds := (log_eq_iff (div_pos hnum hden) _).1 (binaryExponent_eq_log hn hd).symm
  rw [ofRatio_eq_ofMantissa negative hn rfl, isFinite_ofMantissa]
  generalize binaryExponent num den = k at hbounds
  obtain ⟨hlow, hhigh⟩ := hbounds
  -- the exponent of the ratio is below, at or above that of the greatest doubles
  rcases lt_trichotomy k 1023 with hk | rfl | hk
  · have hless : (num : ℚ) / den < (2 ^ 54 - 1) * 2 ^ 970 := by
      calc (num : ℚ) / den < 2 ^ (k + 1) := hhigh
        _ ≤ 2 ^ (1023 : ℤ) := zpow_le_zpow_right₀ one_le_two (by omega)
        _ = 2 ^ 53 * 2 ^ 970 := by rw [← pow_add]; rfl
        _ ≤ (2 ^ 54 - 1) * 2 ^ 970 := mul_le_mul_of_nonneg_right (by norm_num) hunit.le
    simp only [hless, iff_true]
    omega
  · have hmax : max (-1074 : ℤ) (1023 - 52) = 971 := rfl
    have hone := le_mantissa hd hlow (e := 971) rfl
    have hcarry := mantissa_le hd hhigh (e := 971) le_rfl
    have hpos := pow2_pos 52
    rw [hmax, ← not_iff_not, not_lt (b := (2 ^ 54 - 1) * 2 ^ 970), ← carries_iff hd]
    omega
  · have hmax : max (-1074 : ℤ) (k - 52) = k - 52 := by omega
    have hmore : (2 ^ 54 - 1) * 2 ^ 970 ≤ (num : ℚ) / den := by
      calc ((2 : ℚ) ^ 54 - 1) * 2 ^ 970 ≤ 2 ^ 54 * 2 ^ 970 := mul_le_mul_of_nonneg_right (by norm_num) hunit.le
        _ = 2 ^ (1024 : ℤ) := by rw [← pow_add]; rfl
        _ ≤ 2 ^ k := zpow_le_zpow_right₀ one_le_two (by omega)
        _ ≤ num / den := hlow
    have hone := le_mantissa hd hlow rfl
    have hpos := pow2_pos 52
    rw [hmax, iff_false_right (not_lt.2 hmore)]
    omega

/-! ### Naturals -/

/-- The nearest natural with 53 bits up to a power of two. -/
def nearest (n : Nat) : Nat :=
  if n.log2 ≤ 52 then n else roundHalfEven n (pow2 (n.log2 - 52)) * pow2 (n.log2 - 52)

/-- The natural has 53 bits up to a power of two. -/
def IsDouble (n : Nat) : Prop :=
  ∃ m k, m < pow2 53 ∧ n = m * pow2 k

theorem log2_lt {n k : Nat} (hn : n ≠ 0) (h : n < pow2 k) : n.log2 < k :=
  (Nat.log2_lt hn).2 h

theorem log2_bounds {n : Nat} (hn : n ≠ 0) : pow2 n.log2 ≤ n ∧ n < pow2 (n.log2 + 1) :=
  ⟨Nat.log2_self_le hn, Nat.lt_log2_self⟩

/-- What is rounded to has 53 bits, and rounding at most doubles. -/
theorem isDouble_nearest (n : Nat) : IsDouble (nearest n) ∧ nearest n ≤ 2 * n := by
  rcases Nat.eq_zero_or_pos n with rfl | hn
  · exact ⟨⟨0, 0, pow2_pos 53, rfl⟩, Nat.le_refl 0⟩
  obtain ⟨hlow, hhigh⟩ := log2_bounds (Nat.ne_of_gt hn)
  rw [nearest]
  split
  · next hlog =>
    have hbits : pow2 (n.log2 + 1) ≤ pow2 53 := pow2_le_pow2 (by omega)
    exact ⟨⟨n, 0, by omega, (Nat.mul_one n).symm⟩, by omega⟩
  · next hlog =>
    generalize hj : n.log2 - 52 = j
    have hlog2 : n.log2 = 52 + j := by omega
    rw [hlog2, pow2_add] at hlow
    rw [hlog2, Nat.add_right_comm, pow2_add] at hhigh
    have hle : roundHalfEven n (pow2 j) ≤ pow2 53 := roundHalfEven_le (pow2_pos j) hhigh
    have hcarry : pow2 53 * pow2 j = pow2 52 * pow2 (j + 1) := by
      rw [← pow2_add, ← pow2_add, show 53 + j = 52 + (j + 1) by omega]
    constructor
    · rcases Nat.lt_or_eq_of_le hle with hlt | heq
      · exact ⟨_, j, hlt, rfl⟩
      · exact ⟨pow2 52, j + 1, by decide, by rw [heq, hcarry]⟩
    · calc roundHalfEven n (pow2 j) * pow2 j ≤ pow2 53 * pow2 j := Nat.mul_le_mul_right _ hle
        _ = 2 * (pow2 52 * pow2 j) := by rw [← Nat.mul_assoc]; rfl
        _ ≤ 2 * n := Nat.mul_le_mul_left 2 hlow

/-- **The naturals that stay as they are.** -/
theorem nearest_eq_self_iff (n : Nat) : nearest n = n ↔ IsDouble n := by
  constructor
  · intro h
    have hdouble := (isDouble_nearest n).1
    rwa [h] at hdouble
  rintro ⟨m, k, hm, hn⟩
  rw [nearest]
  split
  · rfl
  · next hlog =>
    obtain ⟨hlow, -⟩ := log2_bounds (n := n) (by rintro rfl; simp at hlog)
    generalize hj : n.log2 - 52 = j
    have hlog2 : n.log2 = 52 + j := by omega
    rw [hlog2] at hlow
    subst hn
    -- with a smaller power of two there would be too few bits
    have hk : j ≤ k := by
      by_contra hlt
      have hsmall : m * pow2 k < pow2 53 * pow2 k := Nat.mul_lt_mul_of_pos_right hm (pow2_pos k)
      have hbits : pow2 (53 + k) ≤ pow2 (52 + j) := pow2_le_pow2 (by omega)
      rw [pow2_add] at hbits
      omega
    obtain ⟨d, rfl⟩ := Nat.exists_eq_add_of_le hk
    rw [pow2_add, Nat.mul_comm (pow2 j), ← Nat.mul_assoc, roundHalfEven_natural (pow2_pos j)]

/-- A natural has no more bits than its hundredfold: twenty-five is odd, and four a power of two. -/
theorem isDouble_of_hundredfold {n : Nat} (h : IsDouble (100 * n)) : IsDouble n := by
  obtain ⟨m, k, hm, heq⟩ := h
  have hodd : Nat.Coprime 25 (pow2 k) := Nat.Coprime.pow_right k (by decide)
  have hdvd : 25 ∣ m := hodd.dvd_of_dvd_mul_right ⟨4 * n, by omega⟩
  obtain ⟨a, rfl⟩ := hdvd
  have hfour : 4 * n = a * pow2 k := by
    rw [Nat.mul_assoc] at heq
    omega
  rcases Nat.lt_or_ge k 2 with hk | hk
  · have hunit : pow2 k ≤ 2 := pow2_le_pow2 (show k ≤ 1 by omega)
    have hbound : a * pow2 k ≤ a * 2 := Nat.mul_le_mul_left a hunit
    exact ⟨n, 0, by omega, (Nat.mul_one n).symm⟩
  · obtain ⟨j, rfl⟩ := Nat.exists_eq_add_of_le hk
    have hsplit : a * pow2 (2 + j) = 4 * (a * pow2 j) := by
      rw [pow2_add, Nat.mul_left_comm]
      rfl
    exact ⟨a, j, by omega, by omega⟩

theorem binaryExponent_natural {n : Nat} (hn : 0 < n) : binaryExponent n 1 = n.log2 := by
  rw [binaryExponent_eq_log hn Nat.one_pos, Nat.cast_one, div_one, Int.log_natCast, Nat.log2_eq_log_two]

/-- The mantissa of a natural in the last of 53 places. -/
theorem mantissa_natural {n : Nat} {e : ℤ} (he : e = n.log2 - 52) :
    (roundHalfEven (n * pow2 (-e).toNat) (1 * pow2 e.toNat) : ℚ) * 2 ^ e = nearest n := by
  rw [nearest]
  split
  · have hexact : roundHalfEven (n * pow2 (-e).toNat) (1 * pow2 e.toNat) = n * pow2 (-e).toNat := by
      have hone : 1 * pow2 e.toNat = 1 := by
        rw [show e.toNat = 0 by omega]
        rfl
      have h := roundHalfEven_natural Nat.one_pos (n * pow2 (-e).toNat)
      rwa [Nat.mul_one, ← hone] at h
    rw [hexact, Nat.cast_mul, mul_assoc, mul_zpow_eq _ 0 e (by omega), zpow_zero, mul_one]
  · have hzero : (-e).toNat = 0 := by omega
    have hplaces : e.toNat = n.log2 - 52 := by omega
    have hpow : (2 : ℚ) ^ e = pow2 (n.log2 - 52) := by
      rw [zpow_eq_div, hzero, hplaces]
      exact div_one _
    have hone : pow2 0 = 1 := rfl
    rw [hzero, hplaces, hpow, hone, Nat.one_mul, Nat.mul_one, Nat.cast_mul]

/-- **A natural is rounded to a natural.** -/
theorem ofRatio_natural (negative : Bool) {n : Nat} (hn : n < pow2 1023) :
    ∃ m e, ofRatio negative n 1 = .finite negative m e ∧ (m : ℚ) * 2 ^ e = nearest n := by
  rcases Nat.eq_zero_or_pos n with rfl | hpos
  · exact ⟨0, 0, rfl, by rw [Nat.cast_zero, zero_mul]; rfl⟩
  have hlog : n.log2 < 1023 := log2_lt (Nat.ne_of_gt hpos) hn
  have hexponent : (n.log2 : ℤ) - 52 = max (-1074) (binaryExponent n 1 - 52) := by
    rw [binaryExponent_natural hpos]
    omega
  rw [ofRatio_eq_ofMantissa negative hpos hexponent, ← mantissa_natural rfl]
  exact ofMantissa_eq_finite negative _ (by omega)

/-! ### A hundred times a double -/

theorem value_eq_div (m : Nat) (e : ℤ) : (m : ℚ) * 2 ^ e = (numerator m e : ℚ) / denominator e := by
  rw [zpow_eq_div, numerator, denominator, Nat.cast_mul, mul_div_assoc]

theorem denominator_pos (e : ℤ) : 0 < denominator e :=
  pow2_pos _

theorem value_eq_natural_iff {m : Nat} {e : ℤ} {v : Nat} : (m : ℚ) * 2 ^ e = v ↔ numerator m e = v * denominator e := by
  have hd : (denominator e : ℚ) ≠ 0 := by exact_mod_cast (denominator_pos e).ne'
  rw [value_eq_div, div_eq_iff hd, ← Nat.cast_mul, Nat.cast_inj]

theorem ofInt_hundred : ofInt 100 = .finite false (100 * pow2 46) (-46) := by
  decide +kernel

/-- A hundred times a double is rounded once. -/
theorem hundredfold_finite (negative : Bool) (m : Nat) (e : ℤ) :
    Number.hundredfold (.finite negative m e) = ofRatio negative (100 * numerator m e) (denominator e) := by
  rw [Number.hundredfold, ofInt_hundred, mul, Bool.bne_false]
  refine Format.round_congr _ _ (denominator_pos _) (denominator_pos _) ?_
  -- the powers of two on the two sides are the same
  have hplaces : 46 + (e + -46).toNat + (-e).toNat = e.toNat + (-(e + -46)).toNat := by omega
  have hpow := congrArg pow2 hplaces
  simp only [pow2_add] at hpow
  simp only [numerator, denominator]
  calc m * (100 * pow2 46) * pow2 (e + -46).toNat * pow2 (-e).toNat
      = 100 * m * (pow2 46 * pow2 (e + -46).toNat * pow2 (-e).toNat) := by ring
    _ = 100 * (m * pow2 e.toNat) * pow2 (-(e + -46)).toNat := by rw [hpow]; ring

/-- When a hundred times a double is one. -/
theorem isFinite_hundredfold_iff (negative : Bool) (m : Nat) (e : ℤ) :
    (Number.hundredfold (.finite negative m e)).isFinite = true ↔ 100 * ((m : ℚ) * 2 ^ e) < 2 ^ 1024 - 2 ^ 970 := by
  rw [hundredfold_finite, isFinite_ofRatio_iff negative (denominator_pos e), value_eq_div, Nat.cast_mul,
    Nat.cast_ofNat, mul_div_assoc]

/-- A hundred times a double that is a natural is one. -/
theorem hundredfold_natural (negative : Bool) {m v : Nat} {e : ℤ} (h : (m : ℚ) * 2 ^ e = v) :
    Number.hundredfold (.finite negative m e) = ofRatio negative (100 * v) 1 := by
  rw [hundredfold_finite]
  refine Format.round_congr _ _ (denominator_pos e) Nat.one_pos ?_
  rw [value_eq_natural_iff.1 h, Nat.mul_one, Nat.mul_assoc]

end Binary64

end ModelValidation

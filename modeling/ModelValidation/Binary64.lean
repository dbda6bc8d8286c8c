import ModelValidation.Power

/-!
# Binary floating-point numbers

Numbers of double width as exact values: a finite one is `±m · 2^e` for naturals `m` and integers `e`.  An
arithmetic result is the exact one rounded to the nearest number of the format, ties to the even mantissa.
-/

namespace ModelValidation

/-- The quotient rounded to the nearest natural, a tie to the even one. -/
def roundHalfEven (num den : Nat) : Nat :=
  let q := num / den
  let twice := 2 * (num % den)
  if den < twice ∨ (twice = den ∧ q % 2 = 1) then q + 1 else q

/-- Not a number, an infinity, or `±mantissa · 2^exponent`. -/
inductive Binary64 where
  | nan
  | infinite (negative : Bool)
  | finite (negative : Bool) (mantissa : Nat) (exponent : Int)
  deriving DecidableEq, Repr

namespace Binary64

/-- A binary format: the bits of its mantissas and the range of the exponents of their last bit. -/
structure Format where
  precision : Nat
  minExponent : Int
  maxExponent : Int

/-- The format of this type. -/
def Format.double : Format := ⟨53, -1074, 971⟩

/-- The format of half the width. -/
def Format.single : Format := ⟨24, -149, 104⟩

/-- Zero with a sign. -/
def zero (negative : Bool) : Binary64 := .finite negative 0 0

/-- Numerator of `m · 2^e`. -/
def numerator (m : Nat) (e : Int) : Nat := m * pow2 e.toNat

/-- Denominator of `m · 2^e`. -/
def denominator (e : Int) : Nat := pow2 (-e).toNat

/-- The greatest `k` with `2^k ≤ num / den`, for positive `num` and `den`. -/
def binaryExponent (num den : Nat) : Int :=
  let k : Int := num.log2 - den.log2
  if num * pow2 (-k).toNat < den * pow2 k.toNat then k - 1 else k

/-- The number of the format nearest to `±num / den`. -/
def Format.round (fmt : Format) (negative : Bool) (num den : Nat) : Binary64 :=
  if num = 0 then zero negative
  else
    let e := max fmt.minExponent (binaryExponent num den - (fmt.precision - 1))
    let m := roundHalfEven (num * pow2 (-e).toNat) (den * pow2 e.toNat)
    let (m, e) := if m = pow2 fmt.precision then (pow2 (fmt.precision - 1), e + 1) else (m, e)
    if m = 0 then zero negative else if fmt.maxExponent < e then .infinite negative else .finite negative m e

/-- The double nearest to `±num / den`. -/
def ofRatio (negative : Bool) (num den : Nat) : Binary64 :=
  Format.double.round negative num den

/-- The double nearest to an integer. -/
def ofInt (i : Int) : Binary64 :=
  ofRatio (i < 0) i.natAbs 1

/-- The same value with the mantissa a double gives it. -/
def widened : Binary64 → Binary64
  | .finite negative m e => ofRatio negative (numerator m e) (denominator e)
  | x => x

/-- The sign bit; that of the number that is none is of no account. -/
def signBit : Binary64 → Bool
  | .nan => false
  | .infinite negative => negative
  | .finite negative _ _ => negative

/-- Below zero; the negative zero is not. -/
def isNegative : Binary64 → Bool
  | .nan => false
  | .infinite negative => negative
  | .finite negative m _ => negative && m != 0

/-- One of the two zeros. -/
def isZero : Binary64 → Bool
  | .finite _ m _ => m == 0
  | _ => false

/-- Neither infinite nor without a value. -/
def isFinite : Binary64 → Bool
  | .finite _ _ _ => true
  | _ => false

/-- The number with its sign changed. -/
def neg : Binary64 → Binary64
  | .nan => .nan
  | .infinite negative => .infinite !negative
  | .finite negative m e => .finite (!negative) m e

/-- The rounded product. -/
def mul : Binary64 → Binary64 → Binary64
  | .nan, _ | _, .nan => .nan
  | .finite s m e, .finite t n f => ofRatio (s != t) (numerator (m * n) (e + f)) (denominator (e + f))
  | x, y => if x.isZero || y.isZero then .nan else .infinite (x.signBit != y.signBit)

/-- The rounded quotient by a positive finite number. -/
def divPositive : Binary64 → (mantissa : Nat) → (exponent : Int) → Binary64
  | .finite s m e, n, f => ofRatio s (numerator m e * denominator f) (denominator e * numerator n f)
  | x, _, _ => x

/-- The value as an integer over the common denominator `2^1074`; infinities lie beyond all finite values. -/
def rank? : Binary64 → Option Int
  | .nan => none
  | .infinite negative => some (if negative then -(pow2 2100 : Int) else pow2 2100)
  | .finite negative m e =>
    let r : Int := m * pow2 (e + 1074).toNat
    some (if negative then -r else r)

/-- At most; no comparison with what is not a number holds. -/
def le (x y : Binary64) : Bool :=
  match x.rank?, y.rank? with
  | some a, some b => a ≤ b
  | _, _ => false

end Binary64

end ModelValidation

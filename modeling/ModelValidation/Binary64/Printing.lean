import ModelValidation.Binary64.Shortest
import ModelValidation.Numeral

/-!
# Writing floating-point numbers

* `plainMagnitude`: the shortest digits that read back, always in positional notation.
* `fixedMagnitude`: a fixed number of places, the exact value rounded half to even.
* `scientific`: one digit before the point, a fixed number behind it, and a power of ten.
-/

namespace ModelValidation.Binary64

open Numeral

/-- Positional notation of `d · 10^k`, without zeros behind the last digit of the fraction. -/
def positional (d : Nat) (k : Int) : Magnitude :=
  if 0 ≤ k then ⟨decimal (d * pow10 k.toNat), []⟩
  else
    let places := (-k).toNat
    ⟨decimal (d / pow10 places), padded places (decimal (d % pow10 places))⟩

/-- The shortest digits of `m · 2^e` in positional notation. -/
def plainMagnitude (m : Nat) (e : Int) : Magnitude :=
  if m = 0 then ⟨['0'], []⟩
  else
    let (d, k) := shortest .greater m e
    positional d k

/-- The ratio with the given number of places behind the point. -/
def fixedRatio (places num den : Nat) : Magnitude :=
  let scaled := roundHalfEven (num * pow10 places) den
  ⟨decimal (scaled / pow10 places), if places = 0 then [] else padded places (decimal (scaled % pow10 places))⟩

/-- The value `m · 2^e` with the given number of places behind the point. -/
def fixedMagnitude (places m : Nat) (e : Int) : Magnitude :=
  fixedRatio places (numerator m e) (denominator e)

/-- The value `m · 2^e` as a mantissa with one digit before the point and `places` behind, and a power of ten. -/
def scientific (places m : Nat) (e : Int) : Magnitude × Int :=
  if m = 0 then (⟨['0'], List.replicate places '0'⟩, 0)
  else
    let num := numerator m e
    let den := denominator e
    let x := decimalPlaces num den - 1
    let shift := places - x
    let scaled := roundHalfEven (num * pow10 shift.toNat) (den * pow10 (-shift).toNat)
    let (scaled, x) := if scaled = pow10 (places + 1) then (pow10 places, x + 1) else (scaled, x)
    let ds := decimal scaled
    (⟨ds.take 1, ds.drop 1⟩, x)

end ModelValidation.Binary64

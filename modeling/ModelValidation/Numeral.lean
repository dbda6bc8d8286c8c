import ModelValidation.Power

/-!
# Numerals

Naturals and integers as digits, the padding of digits with zeros, and magnitudes cut at a decimal point.

* `ofDigitChars_decimal`: the digits of a natural read back as it.
-/

namespace ModelValidation.Numeral

/-- The decimal digits of a natural, without leading zeros. -/
def decimal (n : Nat) : List Char :=
  Nat.toDigits 10 n

/-- The decimal digits of an integer behind its sign; only negative integers have one. -/
def signed (i : Int) : List Char :=
  if i < 0 then '-' :: decimal i.natAbs else decimal i.natAbs

/-- The upper-case hexadecimal digits of a natural, without leading zeros. -/
def hex (n : Nat) : List Char :=
  (Nat.toDigits 16 n).map Char.toUpper

/-- The digits with zeros in front, up to the given width. -/
def padded (width : Nat) (ds : List Char) : List Char :=
  ds.leftpad width '0'

/-- The most digits that a number can be padded to by its format, and the most places that it can be cut at. -/
def formatLimit : Nat := 65535

/-- The natural that an integer stands for in `bits` bits of two's complement. -/
def twosComplement (bits : Nat) (i : Int) : Nat :=
  (i % pow2 bits).toNat

/-- A magnitude as the digits before and the digits after its decimal point. -/
structure Magnitude where
  whole : List Char
  fraction : List Char

/-- Some digit other than zero stands in the magnitude. -/
def Magnitude.isNonzero (x : Magnitude) : Bool :=
  x.whole.any (· != '0') || x.fraction.any (· != '0')

theorem ofDigitChars_decimal (n : Nat) : Nat.ofDigitChars 10 (decimal n) 0 = n :=
  Nat.ofDigitChars_toDigits (by decide) (by decide)

theorem decimal_injective {m n : Nat} (h : decimal m = decimal n) : m = n := by
  rw [← ofDigitChars_decimal m, h, ofDigitChars_decimal]

theorem decimal_ne_nil (n : Nat) : decimal n ≠ [] :=
  Nat.toDigits_ne_nil

end ModelValidation.Numeral

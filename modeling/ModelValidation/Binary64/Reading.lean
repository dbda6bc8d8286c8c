import ModelValidation.Binary64

/-!
# Reading floating-point numbers

A numeral has an optional sign, digits with an optional point among them, and an optional exponent; the words for
infinity and for what is no number are read without regard to case.  The value read is the nearest number of
the format.
-/

namespace ModelValidation.Binary64

/-- The digits in front of a text as a natural, how many they are, and the rest. -/
def takeDigits (cs : List Char) : Nat × Nat × List Char :=
  let ds := cs.takeWhile Char.isDigit
  (Nat.ofDigitChars 10 ds 0, ds.length, cs.dropWhile Char.isDigit)

/-- A sign in front of a text, and the rest. -/
def takeSign : List Char → Bool × List Char
  | '-' :: cs => (true, cs)
  | '+' :: cs => (false, cs)
  | cs => (false, cs)

/-- The number of the format nearest to `±n · 10^k`. -/
def Format.ofDecimal (fmt : Format) (negative : Bool) (n : Nat) (k : Int) : Binary64 :=
  let magnitude : Int := (Nat.toDigits 10 n).length + k
  if n = 0 ∨ magnitude < -400 then zero negative
  else if 400 < magnitude then .infinite negative
  else fmt.round negative (n * pow10 k.toNat) (pow10 (-k).toNat)

/-- The exponent that ends a numeral, zero when there is none. -/
def exponent? : List Char → Option Int
  | [] => some 0
  | c :: cs =>
    if c = 'e' ∨ c = 'E' then
      let (negative, cs) := takeSign cs
      match takeDigits cs with
      | (n, length, []) => if length = 0 then none else some (if negative then -(n : Int) else n)
      | _ => none
    else none

/-- The digits of a numeral as one natural, and the power of ten that scales it. -/
def unsigned? (cs : List Char) : Option (Nat × Int) :=
  let (_, wholeLength, rest) := takeDigits cs
  let (fractionLength, tail) :=
    match rest with
    | '.' :: rest => (takeDigits rest).2
    | rest => (0, rest)
  if wholeLength + fractionLength = 0 then none
  else
    let digits := cs.takeWhile Char.isDigit ++ (rest.drop 1).take fractionLength
    (exponent? tail).map fun k => (Nat.ofDigitChars 10 digits 0, k - fractionLength)

/-- Reads a number of the format. -/
def Format.parse? (fmt : Format) (s : String) : Option Binary64 :=
  let (negative, cs) := takeSign s.toList
  let word := String.ofList (cs.map Char.toLower)
  if word = "inf" ∨ word = "infinity" then some (.infinite negative)
  else if word = "nan" then some .nan
  else (unsigned? cs).map fun (n, k) => (fmt.ofDecimal negative n k).widened

end ModelValidation.Binary64

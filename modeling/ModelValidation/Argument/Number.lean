import ModelValidation.Binary64.Printing
import ModelValidation.Culture

/-!
# Numbers in messages

An integer or a floating-point number, and the ways to write it: as it is, in one of the standard formats, or after a
pattern of zeros, hashes, commas, a point and a percent sign.  A format that does not suit the number
leaves it as it is.

| format     | meaning                                                        |
|------------|----------------------------------------------------------------|
| `F<n>`     | fixed point with `n` places                                    |
| `N<n>`     | the same with digits in groups of three                        |
| `D<n>`     | at least `n` digits, integers only                             |
| `P<n>`     | a hundred times the number, grouped, with `n` places           |
| `X<n>`     | at least `n` hexadecimal digits, integers only                 |
| `E<n>`     | one digit, `n` places and a power of ten                       |
| `#,##0.0#` | a pattern                                                      |
-/

namespace ModelValidation

open Numeral

/-- A number that a message shows. -/
inductive Number where
  | integer (i : Int)
  | float (x : Binary64)
  deriving DecidableEq, Repr

namespace Number

/-- The number as a floating-point one. -/
def toFloat : Number → Binary64
  | .integer i => .ofInt i
  | .float x => x

/-! ### Composing digits -/

/-- Digits with a separator before each group of three counted from the right. -/
def groupThrees (sep : Char) : List Char → List Char
  | [] => []
  | c :: cs => if cs.length % 3 = 0 ∧ cs ≠ [] then c :: sep :: groupThrees sep cs else c :: groupThrees sep cs

/-- Sign, whole digits and fraction of a number with the separators of a culture. -/
def compose (culture : Culture) (grouped negative : Bool) (x : Magnitude) : List Char :=
  (if negative then ['-'] else []) ++
    (if grouped then groupThrees culture.groupSeparator x.whole else x.whole) ++
    (if x.fraction = [] then [] else culture.decimalSeparator :: x.fraction)

/-! ### Without a format -/

/-- The number as it is: all digits of an integer, the shortest digits of a float, a word for what has no digits. -/
def plain (culture : Culture) : Number → List Char
  | .integer i => signed i
  | .float .nan => "NaN".toList
  | .float (.infinite negative) => (if negative then "-Infinity" else "Infinity").toList
  | .float (.finite negative m e) => compose culture false negative (Binary64.plainMagnitude m e)

/-! ### Standard formats -/

/-- The standard formats. -/
inductive Kind where
  | fixed
  | grouped
  | digits
  | percent
  | hexadecimal
  | scientific
  deriving DecidableEq, Repr

/-- A standard format: its kind, whether its letter is a small one, and the number behind the letter. -/
structure Standard where
  kind : Kind
  lowercase : Bool
  precision : Option Nat

/-- The kind that a letter stands for, in either case. -/
def Kind.ofLetter? (c : Char) : Option Kind :=
  match c.toUpper with
  | 'F' => some .fixed
  | 'N' => some .grouped
  | 'D' => some .digits
  | 'P' => some .percent
  | 'X' => some .hexadecimal
  | 'E' => some .scientific
  | _ => none

/-- A letter and at most two digits. -/
def Standard.parse? : List Char → Option Standard
  | [] => none
  | c :: rest => do
    let kind ← Kind.ofLetter? c
    if rest = [] then some ⟨kind, c.isLower, none⟩
    else if rest.length ≤ 2 ∧ rest.all Char.isDigit then some ⟨kind, c.isLower, some (Nat.ofDigitChars 10 rest 0)⟩
    else none

/-- A number with a fixed count of places.  An integer keeps all its digits; a float is rounded, and what shows only
zeros or no digits has no sign. -/
def fixed (culture : Culture) (grouped : Bool) (places : Nat) : Number → List Char
  | .integer i => compose culture grouped (i < 0) ⟨decimal i.natAbs, List.replicate places '0'⟩
  | .float (.finite negative m e) =>
    let x := Binary64.fixedMagnitude places m e
    compose culture grouped (negative && x.isNonzero) x
  | .float .nan => "NaN".toList
  | .float (.infinite _) => "inf".toList

/-- At least `width` digits of an integer behind its sign. -/
def digits (width : Nat) (i : Int) : List Char :=
  (if i < 0 then ['-'] else []) ++ padded width (decimal i.natAbs)

/-- The natural whose hexadecimal digits stand for an integer: 64 bits where they suffice, else 128. -/
def hexWord (i : Int) : Nat :=
  if -(pow2 63 : Int) ≤ i ∧ i < pow2 63 then twosComplement 64 i else twosComplement 128 i

/-- At least `width` hexadecimal digits of an integer. -/
def hexadecimal (lowercase : Bool) (width : Nat) (i : Int) : List Char :=
  let ds := hex (hexWord i)
  padded width (if lowercase then ds.map Char.toLower else ds)

/-- One digit, the given number of places, a mark, and the sign and at least three digits of the exponent. -/
def scientific (culture : Culture) (mark : Char) (places : Nat) : Binary64 → List Char
  | .finite negative m e =>
    let (x, exponent) := Binary64.scientific places m e
    compose culture false negative x ++
      mark :: (if exponent < 0 then '-' else '+') :: padded 3 (decimal exponent.natAbs)
  | x => plain culture (.float x)

/-- A hundred times the number. -/
def hundredfold (x : Binary64) : Binary64 :=
  x.mul (.ofInt 100)

/-- The number in a standard format, if the number has digits at all. -/
def Standard.apply (fmt : Standard) (culture : Culture) (x : Number) : List Char :=
  match fmt.kind, x with
  | _, .float .nan | _, .float (.infinite _) => plain culture x
  | .fixed, x => fixed culture false (fmt.precision.getD 2) x
  | .grouped, x => fixed culture true (fmt.precision.getD 2) x
  | .digits, .integer i => digits (fmt.precision.getD 0) i
  | .percent, x =>
    fixed culture true (fmt.precision.getD 2) (.float (hundredfold x.toFloat)) ++ culture.percentSuffix.toList
  | .hexadecimal, .integer i => hexadecimal fmt.lowercase (fmt.precision.getD 0) i
  | .scientific, x => scientific culture (if fmt.lowercase then 'e' else 'E') (fmt.precision.getD 6) x.toFloat
  | .digits, x | .hexadecimal, x => plain culture x

/-! ### Patterns -/

/-- What a pattern asks for. -/
structure Pattern where
  grouped : Bool
  minWhole : Nat
  minFraction : Nat
  maxFraction : Nat
  percent : Bool

/-- The pattern at its first point: what stands before it and after it. -/
def Pattern.halves (cs : List Char) : List Char × List Char :=
  (cs.takeWhile (· != '.'), (cs.dropWhile (· != '.')).drop 1)

/-- Reads a pattern; it holds a zero or a hash, and nothing that has no meaning. -/
def Pattern.parse? (cs : List Char) : Option Pattern :=
  if cs.all (fun c => c = '0' || c = '#' || c = ',' || c = '.' || c = '%') && cs.any (fun c => c = '0' || c = '#') then
    let (whole, fraction) := Pattern.halves cs
    some {
      grouped := whole.contains ','
      minWhole := whole.count '0'
      minFraction := fraction.count '0'
      maxFraction := fraction.count '0' + fraction.count '#'
      percent := cs.contains '%' }
  else none

/-- Drops zeros from the end while more than `least` characters remain. -/
def dropZeros (least : Nat) (cs : List Char) : List Char :=
  cs.take least ++ ((cs.drop least).reverse.dropWhile (· = '0')).reverse

/-- The digits that a pattern shows of a magnitude. -/
def Pattern.shape (p : Pattern) (x : Magnitude) : Magnitude :=
  ⟨if x.whole = ['0'] ∧ p.minWhole = 0 then [] else padded p.minWhole x.whole, dropZeros p.minFraction x.fraction⟩

/-- The number after a pattern. -/
def Pattern.apply (p : Pattern) (culture : Culture) (x : Number) : List Char :=
  let percent := if p.percent then ['%'] else []
  let value := x.toFloat
  match value, if p.percent then hundredfold value else value with
  | .finite _ _ _, .finite negative m e =>
    let shown := p.shape (Binary64.fixedMagnitude p.maxFraction m e)
    compose culture p.grouped (negative && shown.isNonzero) shown ++ percent
  | .finite _ _ _, .infinite _ => compose culture p.grouped false (p.shape ⟨"inf".toList, []⟩) ++ percent
  | _, _ => plain culture x

/-! ### Any format -/

/-- The number in the format: standard, else a pattern, else as it is. -/
def format (x : Number) (fmt : String) (culture : Culture) : String :=
  let cs := Text.trim fmt.toList
  String.ofList <|
    if cs = [] then plain culture x
    else
      match Standard.parse? cs with
      | some standard => standard.apply culture x
      | none =>
        match Pattern.parse? cs with
        | some pattern => pattern.apply culture x
        | none => plain culture x

/-- The places that a format asks for as a pattern. -/
def patternPlaces (fmt : String) : Nat :=
  let cs := Text.trim fmt.toList
  if (Standard.parse? cs).isSome then 0 else (Pattern.parse? cs).elim 0 (·.maxFraction)

/-- The program stops at a pattern that asks for more places of a finite number than can be written; the two digits of a
standard format never ask for so many. -/
def stops (x : Number) (fmt : String) : Bool :=
  x.toFloat.isFinite && formatLimit < patternPlaces fmt

end Number

end ModelValidation

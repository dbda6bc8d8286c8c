import ModelValidation.Binary64.Reading
import ModelValidation.Json
import ModelValidation.Json.Document

/-!
# The value of a JSON document

A document has a value if its strings have text, its numbers are in range and it is nested less than 128 deep.  An
object keeps the place of the first and the value of the last entry of a key.

Whole numbers of 64 bits are exact.  For other numbers the leading digits that fit 64 bits are taken as an integer,
which is made a floating-point number and then scaled by a power of ten; both steps round.
-/

namespace ModelValidation

namespace JsonNumeral

/-- The greatest number of 64 bits. -/
def maxWord : Nat := pow2 64 - 1

/-- Digits taken into a natural as long as it fits 64 bits, and how many were taken. -/
def takeWord (n : Nat) : List Char → Nat × Nat
  | [] => (n, 0)
  | c :: cs =>
    let next := n * 10 + (c.toNat - '0'.toNat)
    if next ≤ maxWord then
      let (word, taken) := takeWord next cs
      (word, taken + 1)
    else (n, 0)

/-- The nearest number to a power of ten. -/
def powerOfTen (k : Nat) : Binary64 :=
  Binary64.Format.double.ofDecimal false 1 k

/-- The quotient by the nearest number to a power of ten. -/
def dividedByPower (x : Binary64) (k : Nat) : Binary64 :=
  match powerOfTen k with
  | .finite _ m e => x.divPositive m e
  | _ => x

/-- The number scaled by a power of ten in steps of at most 308 places; none if it is out of range. -/
def scaled? (x : Binary64) (k : Int) : (steps : Nat) → Option Binary64
  | 0 => some x
  | steps + 1 =>
    if k.natAbs ≤ 308 then
      if 0 ≤ k then
        let y := x.mul (powerOfTen k.toNat)
        if y.isFinite then some y else none
      else some (dividedByPower x (-k).toNat)
    else if x.isZero then some x
    else if 0 ≤ k then none
    else scaled? (dividedByPower x 308) (k + 308) steps

/-- The floating-point value of `n · 10^k` with the exponent of the numeral added to `k`. -/
def real? (numeral : JsonNumeral) (n : Nat) (k : Int) : Option Binary64 :=
  let shift : Int :=
    match numeral.exponent with
    | none => 0
    | some (below, ds) =>
      let e : Int := Nat.ofDigitChars 10 ds 0
      if below then -e else e
  -- beyond this exponent only zero has a value, and a small number is zero
  let value? :=
    if pow2 31 ≤ shift then if n = 0 then some (Binary64.zero false) else none
    else if shift ≤ -(pow2 31 : Int) then some (Binary64.zero false)
    else scaled? (Binary64.ofInt n) (k + shift) ((k + shift).natAbs / 308 + 1)
  value?.map fun x => if numeral.negative then x.neg else x

/-- The value of a numeral. -/
def value? (numeral : JsonNumeral) : Option JsonValue :=
  let (n, taken) := takeWord 0 numeral.whole
  let left := numeral.whole.length - taken
  match numeral.fraction, numeral.exponent with
  | none, none =>
    if left = 0 ∧ numeral.negative = false then some (.integer n)
    else if left = 0 ∧ 0 < n ∧ n ≤ pow2 63 then some (.integer (-n))
    else (numeral.real? n left).map .real
  | fraction, _ =>
    let (n, taken) := takeWord n (fraction.getD [])
    (numeral.real? n (left - taken)).map .real

end JsonNumeral

namespace JsonDocument

mutual

/-- The value of a document that may be nested `depth` deep. -/
def valueWithin? (depth : Nat) : JsonDocument → Option JsonValue
  | .null => some .null
  | .bool b => some (.bool b)
  | .number n => n.value?
  | .string s => s.map .string
  | .array items => if depth = 0 then none else (itemsWithin? (depth - 1) items).map .array
  | .object entries => if depth = 0 then none else (entriesWithin? (depth - 1) [] entries).map .object

/-- The values of items. -/
def itemsWithin? (depth : Nat) : List JsonDocument → Option (List JsonValue)
  | [] => some []
  | d :: ds => do
    let v ← valueWithin? depth d
    let vs ← itemsWithin? depth ds
    return v :: vs

/-- Entries written after those of a map so far. -/
def entriesWithin? (depth : Nat) (before : List (String × JsonValue)) :
    List (Option String × JsonDocument) → Option (List (String × JsonValue))
  | [] => some before
  | (key, d) :: es => do
    let k ← key
    let v ← valueWithin? depth d
    entriesWithin? depth (Keyed.put k v before) es

end

/-- The value of a document. -/
def value? (d : JsonDocument) : Option JsonValue :=
  valueWithin? 127 d

end JsonDocument

/-- The value of a text. -/
def JsonValue.parse? (s : String) : Option JsonValue :=
  JsonDocument.parse? s >>= JsonDocument.value?

end ModelValidation

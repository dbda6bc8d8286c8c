import ModelValidation.Binary64

/-!
# The fewest digits that read back

Every positive double is the nearest double to all reals of an interval around it.  Its shortest digits are the
fewest significant digits of a decimal in that interval, and of those with so many digits the nearest.
-/

namespace ModelValidation.Binary64

/-- The reals that round to a value, all four numbers over one denominator. -/
structure Interval where
  value : Nat
  low : Nat
  high : Nat
  den : Nat
  /-- The two ends round to the value as well. -/
  closed : Bool

/-- The interval of the positive double `m · 2^e`; the gap below a power of two is half as wide. -/
def interval (m : Nat) (e : Int) : Interval :=
  let below := if m = pow2 52 ∧ -1074 < e then 1 else 2
  let num (k : Nat) := numerator k (e - 2)
  ⟨num (4 * m), num (4 * m - below), num (4 * m + 2), denominator (e - 2), m % 2 = 0⟩

/-- The decimal `d · 10^k` lies in the interval. -/
def Interval.holds (i : Interval) (d : Nat) (k : Int) : Bool :=
  let scaled := d * pow10 k.toNat * i.den
  let unit := pow10 (-k).toNat
  if i.closed then i.low * unit ≤ scaled && scaled ≤ i.high * unit
  else i.low * unit < scaled && scaled < i.high * unit

/-- The number of places before the point of `num / den`, negative or zero for zeros behind the point. -/
def decimalPlaces (num den : Nat) : Int :=
  if den ≤ num then (Nat.toDigits 10 (num / den)).length
  else 1 - (Nat.toDigits 10 ((den - 1) / num)).length

/-- Which of two equally near decimals is taken: the greater, or the one with the even last digit. -/
inductive Tie where
  | greater
  | even

/-- The decimal on the grid of `10^k` that reads back, the nearer of two. -/
def Interval.onGrid? (tie : Tie) (i : Interval) (k : Int) : Option Nat :=
  let num := i.value * pow10 (-k).toNat
  let den := i.den * pow10 k.toNat
  let floor := num / den
  match i.holds floor k, i.holds (floor + 1) k with
  | true, true =>
    match tie with
    | .greater => some (if 2 * (num % den) < den then floor else floor + 1)
    | .even => some (roundHalfEven num den)
  | true, false => some floor
  | false, true => some (floor + 1)
  | false, false => none

/-- The first grid from the coarsest on that holds a decimal of the interval, with that decimal. -/
def Interval.search (tie : Tie) (i : Interval) (places : Int) : (digits : Nat) → (left : Nat) → Nat × Int
  | _, 0 => (0, 0)
  | digits, left + 1 =>
    let k := places - digits
    match i.onGrid? tie k with
    | some d => (d, k)
    | none => i.search tie places (digits + 1) left

/-- The shortest decimal `d · 10^k` that reads back as the positive double `m · 2^e`.  The first grid tried holds the
power of ten above the value; seventeen digits suffice. -/
def shortest (tie : Tie) (m : Nat) (e : Int) : Nat × Int :=
  let i := interval m e
  i.search tie (decimalPlaces i.value i.den) 0 18

end ModelValidation.Binary64

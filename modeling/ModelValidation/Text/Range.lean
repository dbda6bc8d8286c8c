/-!
# Sets of characters given by ranges

A table lists the first and the last code point of each range.
-/

namespace ModelValidation.Text

/-- The character lies in one of the ranges. -/
def within (ranges : List (Nat × Nat)) (c : Char) : Bool :=
  ranges.any fun (first, last) => first ≤ c.toNat && c.toNat ≤ last

end ModelValidation.Text

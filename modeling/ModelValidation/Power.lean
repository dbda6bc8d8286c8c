/-!
# Powers of two and of ten
-/

namespace ModelValidation

/-- The natural `2` to the `n`. -/
def pow2 (n : Nat) : Nat := Nat.pow 2 n

/-- The natural `10` to the `n`. -/
def pow10 (n : Nat) : Nat := Nat.pow 10 n

end ModelValidation

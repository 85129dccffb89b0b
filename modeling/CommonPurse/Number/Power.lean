/-!
# Powers of two and ten

## Main definitions

* `CommonPurse.twoTo`, `CommonPurse.tenTo` — the powers with natural exponents.
-/

namespace CommonPurse

/-- The power `2 ^ n`. -/
def twoTo (n : Nat) : Nat := Nat.pow 2 n

/-- The power `10 ^ n`. -/
def tenTo (n : Nat) : Nat := Nat.pow 10 n

end CommonPurse

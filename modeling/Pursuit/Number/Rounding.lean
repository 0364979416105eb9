/-! # Rounding to the nearest

Quotients of natural numbers rounded to the nearest number, a half going to the even neighbour.
-/

namespace Pursuit.Number

/-- The natural number nearest to `num / den`; a half goes to the even neighbour. -/
def roundHalfEven (num den : Nat) : Nat :=
  let low := num / den
  let twice := 2 * (num % den)
  if twice < den then low
  else if den < twice then low + 1
  else if low % 2 = 0 then low else low + 1

end Pursuit.Number

import Pursuit.Number.Rounding

/-! # Doubles as exact numbers

A finite double is a whole number times a power of two. Here it is taken apart, and an integer is
brought to the nearest double.
-/

namespace Pursuit.Number

/-- What the bits of a double say. A finite one is `mantissa * 2 ^ exponent`, with a sign of its own
so that the two zeros differ. -/
inductive Binary where
  | nan
  | infinite (negative : Bool)
  | finite (negative : Bool) (mantissa : Nat) (exponent : Int)
deriving DecidableEq

namespace Binary

def ofFloat (x : Float) : Binary :=
  let bits := x.toBits.toNat
  let fraction : Nat := bits % Nat.pow 2 52
  let biased : Nat := bits / Nat.pow 2 52 % Nat.pow 2 11
  let negative := bits / Nat.pow 2 63 = 1
  if biased = 2047 then (if fraction = 0 then .infinite negative else .nan)
  else if biased = 0 then .finite negative fraction (-1074)
  else .finite negative (Nat.pow 2 52 + fraction) ((biased : Int) - 1075)

/-- The integer that a double is, if it is one. -/
def whole? : Binary → Option Int
  | .finite negative mantissa exponent =>
    let scaled := mantissa * Nat.pow 2 exponent.toNat
    let unit := Nat.pow 2 (-exponent).toNat
    let sign : Int := if negative then -1 else 1
    if scaled % unit = 0 then some (sign * (scaled / unit : Nat)) else none
  | _ => none

end Binary

/-- The double nearest to an integer, a half going to the even neighbour; none when it lies beyond
the largest double. -/
def nearestFloat? (n : Int) : Option Float :=
  let size := n.natAbs
  if size = 0 then some (Float.ofBits 0)
  else
    let width := size.log2 + 1
    let rounded :=
      if width ≤ 53 then size * Nat.pow 2 (53 - width)
      else roundHalfEven size (Nat.pow 2 (width - 53))
    let carried := rounded = Nat.pow 2 53
    let biased := width + 1022 + (if carried then 1 else 0)
    let fraction := if carried then 0 else rounded - Nat.pow 2 52
    if 2047 ≤ biased then none
    else
      let sign := if n < 0 then Nat.pow 2 63 else 0
      some (Float.ofBits (UInt64.ofNat (sign + biased * Nat.pow 2 52 + fraction)))

end Pursuit.Number

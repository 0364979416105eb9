import Pursuit.Number.Binary

/-! # Decimal text of doubles

Two forms: the shortest decimal that reads back as the same double, and a fixed number of places.
-/

namespace Pursuit.Number

/-- A decimal `digits * 10 ^ exponent`. -/
structure Decimal where
  digits : Nat
  exponent : Int
deriving DecidableEq

/-- The reals that round to one double, as fractions over `unit`: the double itself is `value /
unit`, and the others lie between `low / unit` and `high / unit`. The ends belong to it when
`closed`. -/
structure RoundingInterval where
  low : Nat
  value : Nat
  high : Nat
  unit : Nat
  closed : Bool

namespace RoundingInterval

/-- The interval around `mantissa * 2 ^ exponent`. Below a power of two the doubles lie twice as
close. -/
def around (mantissa : Nat) (exponent : Int) : RoundingInterval :=
  let below := if mantissa = Nat.pow 2 52 && exponent != -1074 then 1 else 2
  let scale := Nat.pow 2 (exponent - 2).toNat
  { low := (4 * mantissa - below) * scale
    value := 4 * mantissa * scale
    high := (4 * mantissa + 2) * scale
    unit := Nat.pow 2 (2 - exponent).toNat
    closed := mantissa % 2 = 0 }

/-- A fraction lies in the interval. -/
def holds (r : RoundingInterval) (num den : Nat) : Bool :=
  let least := r.low * den
  let most := r.high * den
  let here := num * r.unit
  if r.closed then least ≤ here && here ≤ most else least < here && here < most

/-- The number of decimal digits in front of the point; zero or less when the value starts behind
it. -/
def magnitude (r : RoundingInterval) : Int :=
  if r.unit ≤ r.value then (Nat.toDigits 10 (r.value / r.unit)).length
  else 1 - ((Nat.toDigits 10 (r.unit / r.value)).length : Int)

/-- A decimal of `count` digits in the interval: the nearer of the two neighbours of the value, the
even one of two that are equally near. -/
def pick? (r : RoundingInterval) (count : Nat) : Option Decimal :=
  let exponent := r.magnitude - count
  let up := Nat.pow 10 exponent.toNat
  let down := Nat.pow 10 (-exponent).toNat
  let num := r.value * down
  let den := r.unit * up
  let floor := num / den
  let nearest := roundHalfEven num den
  let other := if nearest = floor then floor + 1 else floor
  if r.holds (nearest * up) down then some ⟨nearest, exponent⟩
  else if r.holds (other * up) down then some ⟨other, exponent⟩
  else none

end RoundingInterval

/-- The shortest decimal that reads back as `mantissa * 2 ^ exponent`; seventeen digits are always
enough. -/
def shortestDecimal (mantissa : Nat) (exponent : Int) : Decimal :=
  let around := RoundingInterval.around mantissa exponent
  ((List.range 17).findSome? fun n => around.pick? (n + 1)).getD ⟨0, 0⟩

/-- Digits of a number without the zeros at the end. -/
def significantDigits (n : Nat) : List Char :=
  ((Nat.toDigits 10 n).reverse.dropWhile (· == '0')).reverse

/-- The text of a decimal: positional when the first digit has a weight from `10 ^ -4` up to `10 ^
15`, with at least one digit behind the point, and else with an exponent of at least two digits. -/
def Decimal.text (d : Decimal) : String :=
  let digits := significantDigits d.digits
  let point := ((Nat.toDigits 10 d.digits).length : Int) + d.exponent
  let zeros (n : Int) := List.replicate n.toNat '0'
  if point ≤ -4 || 16 < point then
    let weight := point - 1
    let places := Nat.toDigits 10 weight.natAbs
    let sign := if weight < 0 then '-' else '+'
    let head := match digits with
      | [] => ['0']
      | [first] => [first]
      | first :: rest => first :: '.' :: rest
    String.ofList (head ++ ['e', sign] ++ zeros (2 - places.length) ++ places)
  else if point ≤ 0 then String.ofList (['0', '.'] ++ zeros (-point) ++ digits)
  else
    let whole := digits.take point.toNat ++ zeros (point - digits.length)
    let part := digits.drop point.toNat
    String.ofList (whole ++ ['.'] ++ if part.isEmpty then ['0'] else part)

/-- A double in the fewest digits that read back as it. -/
def shortestText (x : Float) : String :=
  match Binary.ofFloat x with
  | .nan => "nan"
  | .infinite negative => if negative then "-inf" else "inf"
  | .finite negative mantissa exponent =>
    let size := if mantissa = 0 then "0.0" else (shortestDecimal mantissa exponent).text
    if negative then "-" ++ size else size

/-- A double with a fixed number of places, rounded from its exact value; a half goes to the even
neighbour. -/
def fixedText (places : Nat) (x : Float) : String :=
  match Binary.ofFloat x with
  | .nan => "nan"
  | .infinite negative => if negative then "-inf" else "inf"
  | .finite negative mantissa exponent =>
    let num := mantissa * Nat.pow 10 places * Nat.pow 2 exponent.toNat
    let scaled := roundHalfEven num (Nat.pow 2 (-exponent).toNat)
    let part := Nat.toDigits 10 (scaled % Nat.pow 10 places)
    let text := toString (scaled / Nat.pow 10 places) ++ "." ++
      String.ofList (List.replicate (places - part.length) '0' ++ part)
    if negative then "-" ++ text else text

end Pursuit.Number

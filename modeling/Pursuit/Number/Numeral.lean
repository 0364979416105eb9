import Pursuit.Text.Digit

/-! # Integer numerals

The written form of an integer: an optional sign, then decimal digits of any script, where a single
underscore may stand between two digits. A numeral has at most 4300 digits, leading zeros included.
-/

namespace Pursuit.Number

def maxDigits : Nat := 4300

/-- Digits after the first one, each with an optional underscore in front of it. -/
def laterDigits? : List Char → Option (List Nat)
  | [] => some []
  | '_' :: c :: rest => (Text.digitValue? c).bind fun d => (laterDigits? rest).map (d :: ·)
  | c :: rest => (Text.digitValue? c).bind fun d => (laterDigits? rest).map (d :: ·)

def digits? : List Char → Option (List Nat)
  | [] => none
  | c :: rest => (Text.digitValue? c).bind fun d => (laterDigits? rest).map (d :: ·)

def ofDigits (ds : List Nat) : Nat :=
  ds.foldl (fun n d => 10 * n + d) 0

/-- The value of an unsigned numeral. -/
def natural? (cs : List Char) : Option Nat :=
  (digits? cs).bind fun ds => if ds.length ≤ maxDigits then some (ofDigits ds) else none

def integer? : List Char → Option Int
  | '+' :: rest => (natural? rest).map Int.ofNat
  | '-' :: rest => (natural? rest).map fun n => -(n : Int)
  | cs => (natural? cs).map Int.ofNat

end Pursuit.Number

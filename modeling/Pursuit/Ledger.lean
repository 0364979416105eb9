/-! # Ledgers

Pairs of keys and values in the order in which the keys came. Writing to a key that is there keeps
its place and the key that came first.
-/

namespace Pursuit

/-- Keys with values, in order of arrival. -/
abbrev Ledger (κ ν : Type) := List (κ × ν)

namespace Ledger

variable {κ ν : Type} [BEq κ]

def find? : Ledger κ ν → κ → Option ν
  | [], _ => none
  | (k, v) :: rest, key => if k == key then some v else find? rest key

/-- Give a key a value, at its old place or else at the end. -/
def put : Ledger κ ν → κ → ν → Ledger κ ν
  | [], key, value => [(key, value)]
  | (k, v) :: rest, key, value =>
    if k == key then (k, value) :: rest else (k, v) :: put rest key value

/-- Take a key out; a key that is not there changes nothing. -/
def erase : Ledger κ ν → κ → Ledger κ ν
  | [], _ => []
  | (k, v) :: rest, key => if k == key then rest else (k, v) :: erase rest key

def contains (ledger : Ledger κ ν) (key : κ) : Bool :=
  (find? ledger key).isSome

def keys (ledger : Ledger κ ν) : List κ :=
  ledger.map (·.1)

end Ledger

end Pursuit

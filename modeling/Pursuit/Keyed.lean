import Pursuit.Failure

/-! # Keys

A ledger or a set is looked up by equality, which makes sense only for keys that stay what they are.
-/

namespace Pursuit

/-- Objects that are compared with `==`, some of which can be looked up. -/
class Keyed (κ : Type) extends BEq κ where
  /-- The object can be looked up. -/
  isKey : κ → Bool

/-- The object itself, as a key to look up; one that can change is refused. -/
def Keyed.asKey {κ : Type} [Keyed κ] (k : κ) : Except Fault κ :=
  if isKey k then .ok k else .error .badType

end Pursuit

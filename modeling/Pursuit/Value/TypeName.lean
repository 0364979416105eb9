import Pursuit.Text.Sorted
import Pursuit.Value.Basic

/-! # Names of types

The name of a type for a reader. It respects the equality of types.
-/

namespace Pursuit.Value

mutual

/-- The name of a type; other answers have none. An ambiguous type names each distinct possibility,
in the order of the names. -/
def typeName? : Value → Option String
  | .baseType => some "EvaluatedType"
  | .unknownType => some "unknown"
  | .simpleType name => some name
  | .classType name none => some name
  | .classType name (some module) =>
    some (if module.isEmpty then name else module ++ "." ++ name)
  | .ambiguousType xs =>
    (namesFrom? [] xs).map fun names => " | ".intercalate (Text.sorted names)
  | _ => none

/-- The names of the possibilities that `distinctFrom seen` keeps, if all of them have names. -/
def namesFrom? (seen : List Value) : List Value → Option (List String)
  | [] => some []
  | x :: xs =>
    if seen.any (·.same x) then namesFrom? seen xs
    else do
      let name ← typeName? x
      let rest ← namesFrom? (x :: seen) xs
      return name :: rest

end

end Pursuit.Value

import Pursuit.Value.Basic

/-! # Shown answers

How answers appear in messages.
-/

namespace Pursuit.Value

def className : Value → String
  | .data d => d.className
  | .reference _ => "ItemReference"
  | .tuple _ => "tuple"
  | .baseType => "EvaluatedType"
  | .unknownType => "UnknownType"
  | .simpleType _ => "SimpleType"
  | .classType .. => "ClassType"
  | .ambiguousType _ => "AmbiguousType"

mutual

def shown : Value → String
  | .data d => d.shown
  | .reference r => r.shown
  | .tuple items => Text.parenthesized (shownItems items)
  | .baseType => "EvaluatedType()"
  | .unknownType => "UnknownType()"
  | .simpleType name => "SimpleType(name=" ++ Text.quoted name ++ ")"
  | .classType name module =>
    let fields := ["name=" ++ Text.quoted name, "module=" ++ shownOptionalText module]
    "ClassType" ++ Text.enclosed "(" ")" fields
  | .ambiguousType [] => "AmbiguousType(possibilities=frozenset())"
  | .ambiguousType xs =>
    let items := Text.enclosed "\x7b" "\x7d" (shownFrom [] xs)
    "AmbiguousType(possibilities=frozenset(" ++ items ++ "))"

def shownItems : List (Option Value) → List String
  | [] => []
  | none :: rest => "None" :: shownItems rest
  | some v :: rest => shown v :: shownItems rest

/-- The shown forms of the answers that `distinctFrom seen` keeps. -/
def shownFrom (seen : List Value) : List Value → List String
  | [] => []
  | x :: xs =>
    if seen.any (·.same x) then shownFrom seen xs else shown x :: shownFrom (x :: seen) xs

end

def shownOptional : Option Value → String
  | none => "None"
  | some v => v.shown

/-- The name of the class of an answer that may be absent. -/
def optionalClassName : Option Value → String
  | none => "NoneType"
  | some v => v.className

end Pursuit.Value

import Pursuit.Registry.EvaluatorClass

/-! # Parameter lists

How a script writes the parameters of a function. A parameter is passed by its position unless a
star stands before it; then it is passed by its name.
-/

namespace Pursuit.Scenario

inductive ParameterWord where
  /-- A parameter without a default. -/
  | required
  /-- A parameter with a default. -/
  | optional
  /-- A star with a name: any number of further positional ones. -/
  | variadic
  /-- A star of its own. -/
  | star
  /-- Any number of further named ones. -/
  | namedVariadic
deriving DecidableEq

inductive ParameterError where
  /-- A positional parameter without a default comes after one with a default. -/
  | defaultOrder
  /-- No parameter comes after a star of its own. -/
  | bareStar
  /-- There are two stars. -/
  | secondStar
  /-- There are two stars, the second one of its own and at the end. -/
  | lastStar
  /-- Something comes after the further named ones. -/
  | afterLast
deriving DecidableEq

def ParameterError.message : ParameterError → String
  | .defaultOrder => "non-default argument follows default argument"
  | .bareStar => "named arguments must follow bare *"
  | .secondStar => "* argument may appear only once"
  | .lastStar => "invalid syntax"
  | .afterLast => "arguments cannot follow var-keyword argument"

/-- The parameters that a list describes, after a star or not, and after a default or not. -/
def parametersAfter (starred defaulted : Bool) :
    List ParameterWord → Except ParameterError (List ParameterKind)
  | [] => .ok []
  | .required :: rest => do
    if starred then return .named :: (← parametersAfter starred defaulted rest)
    else if defaulted then throw .defaultOrder
    else return .positional :: (← parametersAfter starred defaulted rest)
  | .optional :: rest => do
    if starred then return .namedOptional :: (← parametersAfter starred defaulted rest)
    else return .optional :: (← parametersAfter starred true rest)
  | .variadic :: rest => do
    if starred then throw .secondStar
    else return .variadic :: (← parametersAfter true defaulted rest)
  | .star :: rest =>
    if starred then .error (if rest.isEmpty then .lastStar else .secondStar)
    else if rest.head?.all (· == .namedVariadic) then .error .bareStar
    else parametersAfter true defaulted rest
  | .namedVariadic :: rest =>
    if rest.isEmpty then .ok [.namedVariadic] else .error .afterLast

def parameters (words : List ParameterWord) : Except ParameterError (List ParameterKind) :=
  parametersAfter false false words

end Pursuit.Scenario

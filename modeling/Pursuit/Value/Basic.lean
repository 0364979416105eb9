import Pursuit.Source.Reference

/-! # Answers

What evaluators answer: plain data, references to the source, and types. An ambiguous type holds its
possibilities as a list, but is meant as a set: order and repetition do not count, at any depth.
`same` is that equality. An absent answer is `none`, also inside a tuple.
-/

namespace Pursuit

inductive Value where
  | data (d : Data)
  | reference (r : Reference)
  /-- Several answers in order. -/
  | tuple (items : List (Option Value))
  /-- A type about which nothing more is said. -/
  | baseType
  /-- The evaluator ran but could not tell the type. -/
  | unknownType
  /-- A built-in type of the source language. -/
  | simpleType (name : String)
  /-- A declared class, optionally qualified by its module. -/
  | classType (name : String) (module : Option String)
  /-- One of several possible types. Nothing keeps other answers from being among them. -/
  | ambiguousType (possibilities : List Value)
deriving Inhabited

namespace Value

/-- An object as an answer; the null object is an absent one. -/
def ofData? : Data → Option Value
  | .null => none
  | d => some (.data d)

mutual

/-- Equality of answers, with possibilities compared as sets. Each possibility of one side is
compared with each of the other side once. -/
def same : Value → Value → Bool
  | .data a, .data b => a == b
  | .reference a, .reference b => a == b
  | .tuple xs, .tuple ys => sameItems xs ys
  | .baseType, .baseType => true
  | .unknownType, .unknownType => true
  | .simpleType a, .simpleType b => a == b
  | .classType a m, .classType b n => a == b && m == n
  | .ambiguousType xs, .ambiguousType ys => fullyMarked ys.length (marks xs ys)
  | _, _ => false

def sameItems : List (Option Value) → List (Option Value) → Bool
  | [], [] => true
  | none :: xs, none :: ys => sameItems xs ys
  | some x :: xs, some y :: ys => same x y && sameItems xs ys
  | _, _ => false

/-- The table of two lists, with a mark where an answer of the first equals one of the second. -/
def marks : List Value → List Value → List (List Bool)
  | [], _ => []
  | x :: xs, ys => ys.map (same x) :: marks xs ys

end

instance : BEq Value := ⟨same⟩

/-- The answers of a list without those that one of `seen` or an earlier answer of the list
equals. -/
def distinctFrom (seen : List Value) : List Value → List Value
  | [] => []
  | x :: xs =>
    if seen.any (·.same x) then distinctFrom seen xs else x :: distinctFrom (x :: seen) xs

/-- The distinct answers of a list, each at its first place. -/
def distinct (xs : List Value) : List Value :=
  distinctFrom [] xs

end Value

end Pursuit

import Pursuit.Goal.FieldValue
import Pursuit.Goal.KindName

/-! # Goal classes

A goal class has a name, a kind that no other class has, and fields, one of which is the context. It
may descend from another goal class, whose fields it inherits. Kinds that are no texts, and classes
that bring methods of their own, are left out.
-/

namespace Pursuit

/-- A field of a goal class, with the value it takes when a goal names none. -/
structure FieldSpec where
  name : String
  default : Option Data

namespace FieldSpec

def contextName : String := "context"

/-- The name of the field that stands in the place of the kind. -/
def kindField : String := "kind"

/-- The name of the field that stands in the place of the registry of all goal classes. -/
def registryField : String := "registry"

def bare : List FieldSpec :=
  [⟨contextName, none⟩]

/-- The place of a field among those with a name of their own: a goal class has a kind and a
registry before anything else, and fields of these names stand where those do. -/
def rank (name : String) : Nat :=
  if name == kindField then 0 else if name == registryField then 1 else 2

/-- Add a field to a list of fields. A field of that name keeps its place and takes the new default,
if there is one. -/
def declare (fields : List FieldSpec) (field : FieldSpec) : List FieldSpec :=
  let redeclare (old : FieldSpec) : FieldSpec :=
    { old with default := field.default <|> old.default }
  let before (other : FieldSpec) : Bool :=
    rank other.name < rank field.name || rank field.name == 2
  if fields.any (·.name == field.name) then
    fields.map fun old => if old.name == field.name then redeclare old else old
  else fields.takeWhile before ++ field :: fields.dropWhile before

/-- No field without a default comes after one with a default. -/
def ordered (fields : List FieldSpec) : Bool :=
  (fields.dropWhile (·.default.isNone)).all (·.default.isSome)

/-- The values of all fields when a goal gives the first ones; none if a value has no field or a
field no value. -/
def fill? : List FieldSpec → List FieldValue → Option (List FieldValue)
  | [], [] => some []
  | [], _ :: _ => none
  | field :: rest, [] => field.default.bind fun value => (fill? rest []).map (.data value :: ·)
  | _ :: rest, value :: values => (fill? rest values).map (value :: ·)

end FieldSpec

structure GoalClass where
  name : String
  /-- The name by which evaluators are registered for the class. -/
  kind : String
  /-- Where the class is declared. -/
  home : String
  /-- All fields in order, the context among them, inherited ones first. -/
  layout : List FieldSpec
  /-- The kinds of the classes from which it descends, nearest first. -/
  ancestors : List String

def shownClass (path : String) : String :=
  "<class '" ++ path ++ "'>"

namespace GoalClass

def shown (c : GoalClass) : String :=
  shownClass (c.home ++ "." ++ c.name)

/-- The class is the given one or descends from it. -/
def descendsFrom (c ancestor : GoalClass) : Bool :=
  c.kind == ancestor.kind || c.ancestors.contains ancestor.kind

end GoalClass

/-- A class that goals can belong to: one that is declared, or the base of them all, which has no
kind. -/
inductive GoalType where
  | base
  | declared (c : GoalClass)

namespace GoalType

def name : GoalType → String
  | .base => "Goal"
  | .declared c => c.name

def kind? : GoalType → Option String
  | .base => none
  | .declared c => some c.kind

def layout : GoalType → List FieldSpec
  | .base => FieldSpec.bare
  | .declared c => c.layout

/-- Goals of the second class are goals of the first. -/
def includes : GoalType → GoalType → Bool
  | .base, _ => true
  | .declared _, .base => false
  | .declared bound, .declared c => c.descendsFrom bound

/-- No two classes have one kind. -/
instance : BEq GoalType := ⟨fun a b => a.kind? == b.kind?⟩

end GoalType

end Pursuit

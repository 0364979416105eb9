import Pursuit.Goal.Class
import Pursuit.Ledger

/-! # Goals

A goal is a query: a class and the values of its fields, the context among them. Goals of one class
with equal field values are one goal, whatever index their contexts carry. Its kind is that of its
class, unless it has a field of that name.
-/

namespace Pursuit

/-- A query to be answered. -/
structure Goal where
  cls : GoalType
  /-- The values of the fields, in the order of the layout. -/
  values : List FieldValue

namespace Goal

instance : BEq Goal :=
  ⟨fun a b => a.values == b.values && a.cls == b.cls⟩

/-- A goal can be looked up when none of its fields can change. -/
instance : Keyed Goal where
  isKey := fun g => g.values.all Keyed.isKey

/-- The goal of a class with the given first fields; none if they do not fit the class. -/
def make? (cls : GoalType) (given : List FieldValue) : Option Goal :=
  (FieldSpec.fill? cls.layout given).map fun values => ⟨cls, values⟩

def fields (g : Goal) : Ledger String FieldValue :=
  (g.cls.layout.map (·.name)).zip g.values

def getField (g : Goal) (name : String) : Except Fault FieldValue :=
  match g.fields.find? name with
  | some value => .ok value
  | none => .error (.missingAttribute g.cls.name name)

/-- The kind of a goal. A field of that name hides the kind of the class, and the base class has
none. -/
def kind (g : Goal) : Except Fault FieldValue :=
  match g.cls.kind? with
  | some kind => .ok ((g.fields.find? FieldSpec.kindField).getD (.data (.text kind)))
  | none => g.getField FieldSpec.kindField

/-- The kind under which evaluators of a goal are looked up. -/
def lookupKind (g : Goal) : Except Fault FieldValue :=
  g.kind >>= Keyed.asKey

/-- The index to search for a goal. Without a context there is none to be found: a text and a list
have something else of that name, and other objects have nothing. -/
def index (g : Goal) : Except Fault SourceIndex := do
  match ← g.getField FieldSpec.contextName with
  | .context c => .ok c.index
  | .data (.text _) | .data (.list _) =>
    .error (.missingAttribute "builtin_function_or_method" "find_references")
  | .data d => .error (.missingAttribute d.className "index")

def shown (g : Goal) : String :=
  g.cls.name ++ Text.enclosed "(" ")" (g.fields.map fun (name, value) => name ++ "=" ++ value.shown)

/-- The goals of a list without repetition, each at its first place. All of them are looked up. -/
def distinct (goals : List Goal) : Except Fault (List Goal) :=
  if goals.all Keyed.isKey then
    .ok (goals.foldl (fun kept g => if kept.any (· == g) then kept else kept ++ [g]) [])
  else .error .badType

end Goal

end Pursuit

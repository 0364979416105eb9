import Pursuit.Goal.Class
import Pursuit.Goal.FieldName
import Pursuit.Text.Sorted

/-! # The catalogue of goal classes

Every declared goal class stands in the catalogue under its kind. A kind is never given twice, and a
declaration that is refused leaves the catalogue as it was.
-/

namespace Pursuit

/-- A field as its author writes it. Anything can be offered as its default. -/
structure FieldDeclaration where
  name : String
  default : Option Data

/-- A goal class as its author writes it. -/
structure GoalDeclaration where
  name : String
  home : String
  /-- The class to descend from; none descends from no other. -/
  base : Option GoalClass
  /-- The kind; none takes the one that the name gives. -/
  kind : Option String
  fields : List FieldDeclaration

inductive DeclarationError where
  /-- The name holds the null character. -/
  | badName
  /-- A default can change, so goals would share it. -/
  | mutableDefault (field className : String)
  /-- A field without a default comes after one with a default. -/
  | fieldOrder
  /-- The fields cannot be named so. -/
  | badField (e : FieldNameError)
  /-- Another class has the kind. -/
  | kindTaken (kind : String) (owner : GoalClass)

/-- The text of a refusal; one that concerns the form of the class has none. -/
def DeclarationError.message : DeclarationError → Option String
  | .badName => some "type name must not contain null characters"
  | .mutableDefault field className =>
    let shown := shownClass className
    some s!"mutable default {shown} for field {field} is not allowed: use default_factory"
  | .fieldOrder => none
  | .badField e => e.message
  | .kindTaken kind owner =>
    let shown := owner.shown
    some s!"Kind '{kind}' already registered to {shown}. Choose a different kind."

/-- The declared goal classes, in the order of their declaration. -/
structure Catalogue where
  classes : List GoalClass

namespace Catalogue

def find? (cat : Catalogue) (kind : String) : Option GoalClass :=
  cat.classes.find? (·.kind == kind)

def contains (cat : Catalogue) (kind : String) : Bool :=
  (cat.find? kind).isSome

def kinds (cat : Catalogue) : List String :=
  Text.sorted (cat.classes.map (·.kind))

def unknownKindText (cat : Catalogue) (kind : String) : String :=
  let known := Text.bracketed (cat.kinds.map Text.quoted)
  s!"Unknown goal kind '{kind}'. Registered kinds: {known}"

/-- No class can have the name. -/
def isBadName (name : String) : Bool :=
  name.toList.contains '\x00'

/-- Members of every class that can change, with the names of their classes. -/
def mutableMembers : List (String × String) :=
  [(FieldSpec.registryField, "dict"), ("__annotations__", "dict"), ("__dataclass_fields__", "dict"),
    ("__dict__", "mappingproxy")]

/-- Members of every class that cannot be taken for anything else. -/
def otherMembers : List String := [
  "__base__", "__bases__", "__basicsize__", "__call__", "__class__", "__class_getitem__",
  "__dataclass_params__", "__delattr__", "__dictoffset__", "__dir__", "__eq__", "__flags__",
  "__format__", "__ge__", "__getattribute__", "__getstate__", "__gt__", "__hash__", "__init__",
  "__init_subclass__", "__instancecheck__", "__itemsize__", "__le__", "__lt__", "__match_args__",
  "__mro__", "__ne__", "__new__", "__or__", "__orig_bases__", "__parameters__", "__prepare__",
  "__reduce__", "__reduce_ex__", "__repr__", "__ror__", "__setattr__", "__sizeof__", "__slots__",
  "__str__", "__subclasscheck__", "__subclasses__", "__subclasshook__", "__weakref__",
  "__weakrefoffset__", "mro"]

/-- The member of a class that a field of its name takes for its default; one that is no data is
known by its name only. -/
def member? (d : GoalDeclaration) (name : String) : Option Data :=
  match name with
  | "__doc__" | "__text_signature__" => some .null
  | "__module__" => some (.text d.home)
  | "__name__" | "__qualname__" => some (.text d.name)
  | "_is_protocol" => some (.flag false)
  | _ => if otherMembers.contains name then some (.text name) else none

/-- What a field takes for its default when its author gives none: that of the base, and for the
kind the kind of the base; else the member of the class that has its name. -/
def inheritedDefault (d : GoalDeclaration) (name : String) :
    Except DeclarationError (Option Data) :=
  let inherited := (d.base.map (·.layout)).getD FieldSpec.bare
  match inherited.find? (·.name == name) with
  | some spec => .ok (spec.default <|> if name == FieldSpec.kindField then baseKind else none)
  | none =>
    if name == FieldSpec.kindField then .ok baseKind
    else match mutableMembers.lookup name with
      | some className => .error (.mutableDefault name className)
      | none => .ok (member? d name)
where
  /-- The kind of the base. -/
  baseKind : Option Data := d.base.map fun c => .text c.kind

def field (d : GoalDeclaration) (f : FieldDeclaration) : Except DeclarationError FieldSpec :=
  match f.default with
  | none => return ⟨f.name, ← inheritedDefault d f.name⟩
  | some value =>
    if value.isConstant then .ok ⟨f.name, some value⟩
    else .error (.mutableDefault f.name value.className)

/-- Fields without repetition, each at its first place and with its last default. -/
def ownFields (fields : List FieldDeclaration) : List FieldDeclaration :=
  fields.foldl (fun kept d =>
    if kept.any (·.name == d.name) then
      kept.map fun old => if old.name == d.name then ⟨old.name, d.default <|> old.default⟩ else old
    else kept ++ [d]) []

/-- The class that a declaration describes, if it is in order. -/
def shape (d : GoalDeclaration) : Except DeclarationError GoalClass := do
  if isBadName d.name then throw .badName
  let own ← (ownFields d.fields).mapM (field d)
  let inherited := (d.base.map (·.layout)).getD FieldSpec.bare
  let layout := own.foldl FieldSpec.declare inherited
  unless FieldSpec.ordered layout do throw .fieldOrder
  match FieldName.check (layout.map fun spec => (spec.name, spec.default.isSome)) with
  | .error e => throw (.badField e)
  | .ok () =>
    return {
      name := d.name
      kind := d.kind.getD (kindName d.name)
      home := d.home
      layout
      ancestors := match d.base with
        | none => []
        | some base => base.kind :: base.ancestors }

/-- Declare a class. The form of the class is looked at before its kind. -/
def declare (cat : Catalogue) (d : GoalDeclaration) :
    Except DeclarationError (GoalClass × Catalogue) := do
  let c ← shape d
  match cat.find? c.kind with
  | some owner => .error (.kindTaken c.kind owner)
  | none => .ok (c, ⟨cat.classes ++ [c]⟩)

end Catalogue

/-! ## Classes that every catalogue has -/

/-- Where the classes of every catalogue are declared, as messages show it. -/
def standardHome : String :=
  "goalti.goals"

def abstractTypeGoal : GoalClass :=
  { name := "AbstractTypeGoal", kind := "abstract_type", home := standardHome
    layout := FieldSpec.bare, ancestors := [] }

/-- Goals that ask for the references to a field, within a type if one is given. -/
def fieldReferencesGoal : GoalClass :=
  { name := "FieldReferencesGoal", kind := "field_references", home := standardHome
    layout := FieldSpec.bare ++ [⟨"name", none⟩, ⟨"parent", some .null⟩], ancestors := [] }

/-- Goals that ask for the calls of a method, within a type if one is given. -/
def methodCallsGoal : GoalClass :=
  { name := "MethodCallsGoal", kind := "method_calls", home := standardHome
    layout := FieldSpec.bare ++ [⟨"name", none⟩, ⟨"parent", some .null⟩], ancestors := [] }

/-- The catalogue before anything is declared. -/
def Catalogue.standard : Catalogue :=
  ⟨[abstractTypeGoal, fieldReferencesGoal, methodCallsGoal]⟩

end Pursuit

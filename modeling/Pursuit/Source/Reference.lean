import Pursuit.Data

/-! # References found in source

A named element of the analysed source: where it stands and what it is.
-/

namespace Pursuit

inductive ReferenceKind where
  | field
  | method
  | methodCall
  | type
deriving DecidableEq

namespace ReferenceKind

def all : List ReferenceKind :=
  [.field, .method, .methodCall, .type]

def name : ReferenceKind → String
  | .field => "field"
  | .method => "method"
  | .methodCall => "method_call"
  | .type => "type"

def ofName? (name : String) : Option ReferenceKind :=
  all.find? (·.name == name)

def ofData? : Data → Option ReferenceKind
  | .text name => ofName? name
  | _ => none

/-- The text that says that an object names no kind. -/
def unknownText (d : Data) : String :=
  d.shown ++ " is not a valid ReferenceKind"

def shown (kind : ReferenceKind) : String :=
  let label := match kind with
    | .field => "FIELD"
    | .method => "METHOD"
    | .methodCall => "METHOD_CALL"
    | .type => "TYPE"
  "<ReferenceKind." ++ label ++ ": " ++ Text.quoted kind.name ++ ">"

end ReferenceKind

/-- A named element found in source. -/
structure Reference where
  /-- Simple name of the element. -/
  name : String
  /-- What the element is. -/
  kind : ReferenceKind
  /-- Module in which it was found. -/
  module : String
  /-- Start of the element in the module. -/
  offset : Int
  /-- Length of its name in the module. -/
  length : Int
  /-- Name of the enclosing type, absent at module level. -/
  parent : Option String
deriving DecidableEq

namespace Reference

/-- The name with the enclosing type in front, if there is one. -/
def qualifiedName (r : Reference) : String :=
  match r.parent with
  | none => r.name
  | some parent => if parent.isEmpty then r.name else parent ++ "." ++ r.name

def shown (r : Reference) : String :=
  "ItemReference" ++ Text.enclosed "(" ")" [
    "name=" ++ Text.quoted r.name,
    "kind=" ++ r.kind.shown,
    "module=" ++ Text.quoted r.module,
    "offset=" ++ toString r.offset,
    "length=" ++ toString r.length,
    "parent=" ++ shownOptionalText r.parent]

end Reference

end Pursuit

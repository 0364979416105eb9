import Pursuit.Goal.FieldValue

/-! # Queries

A search by name and kind, within a type if one is given. The two are whatever a goal has in its
fields.
-/

namespace Pursuit

/-- What is searched for; no parent means any parent. -/
structure Query where
  name : FieldValue
  kind : ReferenceKind
  parent : FieldValue

/-- A reference answers a query: its name and kind are those asked for, and so is its parent when
one is given. -/
def Query.matches (q : Query) (r : Reference) : Bool :=
  .data (.text r.name) == q.name && r.kind == q.kind &&
    (q.parent.isNull || .data (.ofText? r.parent) == q.parent)

namespace SourceIndex

/-- The elements of a list that answer a query, in order. An object that is no reference has no name
to compare. -/
def searchListed (q : Query) : List IndexElement → Except Fault (List IndexElement)
  | [] => .ok []
  | .other d :: _ => .error (.missingAttribute d.className "name")
  | .reference r :: rest => do
    let found ← searchListed q rest
    return if q.matches r then .reference r :: found else found

def search (index : SourceIndex) (q : Query) : Except Failure (List IndexElement) :=
  match index with
  | .listed elements => (searchListed q elements).mapError .fault
  | .foreign answer => answer

end SourceIndex

end Pursuit

import Pursuit.Failure
import Pursuit.Source.Reference

/-! # Source indexes

Where references are searched. The library's own index is a list; a host may bring an index of its
own, of which only the answers are known.
-/

namespace Pursuit

/-- An element of an index. Nothing keeps objects that are no references out of it. -/
inductive IndexElement where
  | reference (r : Reference)
  | other (d : Data)

namespace IndexElement

def reference? : IndexElement → Option Reference
  | .reference r => some r
  | .other _ => none

/-- Two elements have the same value. -/
def same (a b : IndexElement) : Bool :=
  match a, b with
  | .reference r, .reference q => r == q
  | .other c, .other d => c == d
  | _, _ => false

/-- The element has one value for good. -/
def isConstant : IndexElement → Bool
  | .reference _ => true
  | .other d => d.isConstant

/-- The elements of a list without repetition, each at its first place. Only constant elements can
be told apart. -/
def distinct (elements : List IndexElement) : Except Fault (List IndexElement) :=
  if elements.all isConstant then
    .ok (elements.foldl (fun kept e => if kept.any (same e) then kept else kept ++ [e]) [])
  else .error .badType

def shown : IndexElement → String
  | .reference r => r.shown
  | .other d => d.shown

/-- The qualified name of an element; an object that is no reference has none. -/
def qualifiedName : IndexElement → Except Fault String
  | .reference r => .ok r.qualifiedName
  | .other d => .error (.missingAttribute d.className "qualified_name")

end IndexElement

/-- Search access to references. -/
inductive SourceIndex where
  /-- Elements in the order in which they were added. -/
  | listed (elements : List IndexElement)
  /-- An index of the host, which answers every search in one way. -/
  | foreign (answer : Except Failure (List IndexElement))

namespace SourceIndex

def empty : SourceIndex :=
  .listed []

def isForeign : SourceIndex → Bool
  | .listed _ => false
  | .foreign _ => true

end SourceIndex

end Pursuit

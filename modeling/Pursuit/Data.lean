import Pursuit.Number.Decimal
import Pursuit.Text.Quoted

/-! # Plain data

Values that the library passes along without looking into them: fields of goals, plain answers, and
objects that stand where something else was expected. They are compared, and their shown form
appears in messages.
-/

namespace Pursuit

/-- Any object made of plain data. -/
inductive Data where
  | null
  | flag (b : Bool)
  | number (n : Int)
  | real (x : Float)
  | text (s : String)
  | list (items : List Data)
  | record (entries : List (String × Data))
deriving Inhabited

/-- What objects without parts are told apart by. -/
inductive Scalar where
  | null
  | whole (n : Int)
  /-- A double that is no integer. -/
  | fraction (b : Number.Binary)
  | text (s : String)
deriving DecidableEq

/-- Every row of a table of the given width has a mark, and every column has one. -/
def fullyMarked (width : Nat) (rows : List (List Bool)) : Bool :=
  rows.all (·.any id) &&
    (rows.foldl (List.zipWith (· || ·)) (List.replicate width false)).all id

namespace Data

def className : Data → String
  | .null => "NoneType"
  | .flag _ => "bool"
  | .number _ => "int"
  | .real _ => "float"
  | .text _ => "str"
  | .list _ => "list"
  | .record _ => "dict"

mutual

def shown : Data → String
  | .null => "None"
  | .flag b => if b then "True" else "False"
  | .number n => toString n
  | .real x => Number.shortestText x
  | .text s => Text.quoted s
  | .list items => Text.bracketed (shownItems items)
  | .record entries => Text.enclosed "\x7b" "\x7d" (shownEntries entries)

def shownItems : List Data → List String
  | [] => []
  | d :: rest => shown d :: shownItems rest

def shownEntries : List (String × Data) → List String
  | [] => []
  | (key, d) :: rest => (Text.quoted key ++ ": " ++ shown d) :: shownEntries rest

end

/-- The integer that an object counts as; the two truth values count as one and zero. -/
def integer? : Data → Option Int
  | .flag b => some b.toInt
  | .number n => some n
  | _ => none

/-- The value of an object without parts. Numbers have a value by their size, whatever they are made
of. -/
def scalar? : Data → Option Scalar
  | .null => some .null
  | .flag b => some (.whole b.toInt)
  | .number n => some (.whole n)
  | .real x =>
    let b := Number.Binary.ofFloat x
    match b.whole? with
    | some n => some (.whole n)
    | none => some (.fraction b)
  | .text s => some (.text s)
  | .list _ | .record _ => none

/-- The object keeps its value for good. Lists and records can change. -/
def isConstant (d : Data) : Bool :=
  d.scalar?.isSome

mutual

/-- Equality of objects: lists item by item, records by their entries in any order, all else by
value. -/
def same : Data → Data → Bool
  | .text a, .text b => a == b
  | .number m, .number n => m == n
  | .list xs, .list ys => sameItems xs ys
  | .record xs, .record ys => fullyMarked ys.length (entryMarks xs ys)
  | a, b => a.isConstant && a.scalar? == b.scalar?

def sameItems : List Data → List Data → Bool
  | [], [] => true
  | x :: xs, y :: ys => same x y && sameItems xs ys
  | _, _ => false

/-- The table of two records, with a mark where an entry of the first equals one of the second. -/
def entryMarks : List (String × Data) → List (String × Data) → List (List Bool)
  | [], _ => []
  | (key, d) :: rest, ys =>
    ys.map (fun y => key == y.1 && same d y.2) :: entryMarks rest ys

end

instance : BEq Data := ⟨same⟩

def isNull : Data → Bool
  | .null => true
  | _ => false

def ofText? : Option String → Data
  | none => .null
  | some s => .text s

/-- The plain text of an object: a text without quotes, anything else as it is shown. -/
def plain : Data → String
  | .text s => s
  | d => d.shown

end Data

def shownOptionalText : Option String → String
  | none => "None"
  | some s => Text.quoted s

end Pursuit

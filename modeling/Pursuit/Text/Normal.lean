import Pursuit.Text.CombiningClass
import Pursuit.Text.Compatibility
import Pursuit.Text.Composite

/-! # Normal form

Texts that a reader takes for the same name have one normal form: characters are replaced by those
of which they are forms and taken apart, marks are put in order, and what can be joined is joined.
The tables hold the characters of identifiers; others stay as they are.
-/

namespace Pursuit.Text

/-- Take a character apart, in at most so many steps. -/
def takeApart : Nat → Char → List Char
  | 0, c => [c]
  | steps + 1, c =>
    match parts? c with
    | some (a, b) => takeApart steps a ++ [b]
    | none => [c]

/-- No character takes more steps to be taken apart. -/
def deepestComposite : Nat := 3

def decomposed (cs : List Char) : List Char :=
  (cs.flatMap plainForm).flatMap (takeApart deepestComposite)

/-- Put marks in the order of their classes; those of one class stay in order. -/
def sortMarks (marks : List Char) : List Char :=
  marks.mergeSort fun a b => combiningClass a ≤ combiningClass b

/-- Order the marks of a text, where `marks` came last and are still to be ordered, latest first. -/
def orderedAfter (marks : List Char) : List Char → List Char
  | [] => sortMarks marks.reverse
  | c :: rest =>
    if combiningClass c = 0 then sortMarks marks.reverse ++ c :: orderedAfter [] rest
    else orderedAfter (c :: marks) rest

/-- Join the parts of a text after a letter `base` and `marks` that do not join with it, latest
first. A mark reaches the letter unless one of the same or a higher class stands between. -/
def joinedAfter (base : Char) (marks : List Char) : List Char → List Char
  | [] => base :: marks.reverse
  | c :: rest =>
    let reaches := match marks with
      | [] => true
      | mark :: _ => combiningClass mark < combiningClass c
    match if reaches then join? base c else none with
    | some joined => joinedAfter joined marks rest
    | none =>
      if combiningClass c = 0 then base :: marks.reverse ++ joinedAfter c [] rest
      else joinedAfter base (c :: marks) rest

def joined : List Char → List Char
  | [] => []
  | c :: rest => if combiningClass c = 0 then joinedAfter c [] rest else c :: joined rest

def normalized (cs : List Char) : List Char :=
  if cs.all (·.toNat < 0x80) then cs else joined (orderedAfter [] (decomposed cs))

end Pursuit.Text

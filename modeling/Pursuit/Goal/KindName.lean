import Pursuit.Text.LowerCase

/-! # Kind names

A goal class that names no kind gets one from its own name: the words of the name in lower case,
joined by underscores, without a last word `Goal`.
-/

namespace Pursuit

/-- A word starts at the letter `c` that follows `before`: at a capital after a small letter or a
digit, and at the last capital of a row of capitals when a small letter follows it. Only ASCII
letters and digits count. -/
def startsWord (before c : Char) (next : Option Char) : Bool :=
  c.isUpper && (before.isLower || before.isDigit || (before.isUpper && next.any Char.isLower))

/-- The characters of a class name with an underscore in front of each word but the first. -/
def separateWords : List Char → List Char
  | a :: b :: rest =>
    if startsWord a b rest.head? then a :: '_' :: separateWords (b :: rest)
    else a :: separateWords (b :: rest)
  | cs => cs

/-- The ending that a class name has in common with all others. -/
def goalEnding : List Char :=
  ['_', 'g', 'o', 'a', 'l']

/-- A list of characters without the common ending. -/
def dropGoalEnding (cs : List Char) : List Char :=
  if goalEnding.isSuffixOf cs then cs.take (cs.length - goalEnding.length) else cs

/-- The kind of a class that names none. -/
def kindName (className : String) : String :=
  String.ofList (dropGoalEnding (Text.lowerChars (separateWords className.toList)))

end Pursuit

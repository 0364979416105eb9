import Pursuit.Text.Layout

/-! # Names in expressions

A function may say what it returns in an expression. Only a name counts, perhaps in parentheses, and
with blanks and comments around it; what any other expression stands for is not looked at.
-/

namespace Pursuit.Scenario.NameExpression

open Text

/-- Names that always stand for a constant. -/
def constants : List String :=
  ["False", "None", "True", "__debug__"]

/-- Parentheses are not nested more deeply. -/
def deepestNesting : Nat := 200

/-- A blank, also one between two lines that are joined. -/
def isSpace (c : Char) : Bool :=
  isGap c || c == continuation

/-- What stands before the first word of a line. -/
structure Margin where
  /-- Blanks stand there, after the last form feed if there is one. -/
  indented : Bool := false
  /-- They did so when the line was continued. -/
  held : Bool := false

namespace Margin

/-- The margin after one more blank. -/
def widen (m : Margin) (c : Char) : Margin :=
  if c == continuation then { m with held := m.held || m.indented }
  else { m with indented := c != '\x0c' }

/-- The line begins at the margin. -/
def isEmpty (m : Margin) : Bool :=
  !(m.indented || m.held)

end Margin

/-- A text from its first line on that is not blank, after a margin. That line must not be
indented. -/
def firstLine? (margin : Margin) : List Char → Option (List Char)
  | [] => none
  | c :: rest =>
    if c == '\n' then firstLine? {} rest
    else if isSpace c then firstLine? (margin.widen c) rest
    else if margin.isEmpty then some (c :: rest)
    else none

/-- Count the parentheses that open at the start of a text, and give what follows them. -/
def openings (count : Nat) : List Char → Nat × List Char
  | [] => (count, [])
  | c :: rest =>
    if c == '(' then openings (count + 1) rest
    else if 0 < count && (isSpace c || c == '\n') then openings count rest
    else (count, c :: rest)

/-- A text is blank, and its last line is not indented. There is a margin when the line began after
the expression. -/
def isBlankEnd (margin : Option Margin) : List Char → Bool
  | [] => margin.all (·.isEmpty)
  | c :: rest =>
    if c == '\n' then isBlankEnd (some {}) rest
    else isSpace c && isBlankEnd (margin.map (·.widen c)) rest

/-- A text closes so many parentheses and is blank otherwise. -/
def closes : Nat → List Char → Bool
  | 0, rest => isBlankEnd none rest
  | _ + 1, [] => false
  | count + 1, c :: rest =>
    if c == ')' then closes count rest else (isSpace c || c == '\n') && closes (count + 1) rest

/-- The name that an expression is, in its normal form. Blanks at the very start do not count, and
the null character stands in no expression, not even in a comment. -/
def name? (text : String) : Option String := do
  let start := text.toList.dropWhile fun c => c == ' ' || c == '\t'
  let source ← laidOut? false (withLineFeeds start)
  let (count, body) := openings 0 (← firstLine? {} source)
  let word := body.takeWhile inWord
  let name := String.ofList (normalized word)
  if isIdentifier word && closes count (body.dropWhile inWord) && count ≤ deepestNesting &&
      !start.contains '\x00' && !reservedWords.contains (String.ofList word) &&
      !constants.contains name then
    some name
  else none

end Pursuit.Scenario.NameExpression

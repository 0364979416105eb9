import Pursuit.Text.Identifier

/-! # The layout of source text

How a text in the notation of programs is laid out: blanks and line ends between words, comments,
and lines that go on in the next one.
-/

namespace Pursuit.Text

def reservedWords : List String := [
  "False", "None", "True", "and", "as", "assert", "async", "await", "break", "class", "continue",
  "def", "del", "elif", "else", "except", "finally", "for", "from", "global", "if", "import", "in",
  "is", "lambda", "nonlocal", "not", "or", "pass", "raise", "return", "try", "while", "with",
  "yield"]

/-- At the end of a line: the line goes on in the next one. -/
def continuation : Char := '\x5c'

/-- A blank within a line. -/
def isGap (c : Char) : Bool :=
  c == ' ' || c == '\t' || c == '\x0c'

/-- A character that counts as part of a word, whether or not it can stand in one. -/
def inWord (c : Char) : Bool :=
  c.isAlphanum || c == '_' || 0x80 ≤ c.toNat

/-- A text whose lines all end in the same way. -/
def withLineFeeds : List Char → List Char
  | [] => []
  | '\r' :: '\n' :: rest => '\n' :: withLineFeeds rest
  | c :: rest => (if c == '\r' then '\n' else c) :: withLineFeeds rest

/-- A text without its comments and with its continued lines joined. A comment goes on to the end of
its line, and one at the very end ends its line too. Where lines are joined the mark of continuation
stays; it stands nowhere else, and something comes after it. -/
def laidOut? (within : Bool) : List Char → Option (List Char)
  | [] => some (if within then ['\n'] else [])
  | c :: rest =>
    if c == '\n' then (laidOut? false rest).map (c :: ·)
    else if within || c == '#' then laidOut? true rest
    else if c != continuation then (laidOut? false rest).map (c :: ·)
    else match rest with
      | '\n' :: next :: rest => (laidOut? false (next :: rest)).map (continuation :: ·)
      | _ => none

/-- A text holds blanks, whole comments and line ends only. -/
def isClearance (within : Bool) : List Char → Bool
  | [] => !within
  | c :: rest =>
    if within then isClearance (c != '\n') rest
    else if c == '#' then isClearance true rest
    else (isGap c || c == '\n' || c == continuation) && isClearance false rest

end Pursuit.Text

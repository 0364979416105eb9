import Pursuit.Text.Printable

/-! # Quoted text

How a text is shown inside a message: between quotes, on one line, with every character that cannot
be seen written by number.
-/

namespace Pursuit.Text

/-- Hexadecimal digits of a number, with zeros in front up to a width. -/
def hexPadded (width n : Nat) : List Char :=
  let digits := Nat.toDigits 16 n
  List.replicate (width - digits.length) '0' ++ digits

/-- The mark around a text: the double quote when the text holds a single quote and no double one,
else the single quote. -/
def quoteMark (cs : List Char) : Char :=
  if cs.contains '\x27' && !cs.contains '\x22' then '\x22' else '\x27'

/-- A character inside quotes. The number of an unprintable character has two, four or eight digits,
the least width that holds it. -/
def escapeChar (mark c : Char) : List Char :=
  if c = '\x5c' || c = mark then ['\x5c', c]
  else if c = '\n' then ['\x5c', 'n']
  else if c = '\r' then ['\x5c', 'r']
  else if c = '\t' then ['\x5c', 't']
  else if isPrintable c then [c]
  else if c.toNat < 0x100 then '\x5c' :: 'x' :: hexPadded 2 c.toNat
  else if c.toNat < 0x10000 then '\x5c' :: 'u' :: hexPadded 4 c.toNat
  else '\x5c' :: 'U' :: hexPadded 8 c.toNat

def quoted (s : String) : String :=
  let mark := quoteMark s.toList
  String.ofList (mark :: s.toList.flatMap (escapeChar mark) ++ [mark])

/-- Shown items between two marks, separated by a comma and a blank. -/
def enclosed (opening closing : String) (items : List String) : String :=
  opening ++ ", ".intercalate items ++ closing

def bracketed (items : List String) : String :=
  enclosed "[" "]" items

/-- Shown items as a tuple: a single item keeps a comma behind it. -/
def parenthesized : List String → String
  | [item] => "(" ++ item ++ ",)"
  | items => enclosed "(" ")" items

end Pursuit.Text

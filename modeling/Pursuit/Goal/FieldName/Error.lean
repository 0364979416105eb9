import Pursuit.Text.Quoted

/-! # Refused names of fields

Why texts cannot name the fields of a goal class, and how that is told.
-/

namespace Pursuit

inductive NumeralKind where
  | decimal
  | imaginary
  | binary
  | octal
  | hexadecimal
deriving DecidableEq

/-- Why texts cannot name the fields of a class. -/
inductive FieldNameError where
  /-- A text holds the null character. -/
  | nullCharacter
  /-- A character stands where it cannot. -/
  | strayCharacter (c : Char)
  /-- A quotation is not closed before the end of the given line. -/
  | openQuotation (line : Nat)
  /-- A line is continued, but does not end there. -/
  | strayContinuation
  /-- A numeral goes on with a letter. -/
  | badNumeral (kind : NumeralKind)
  /-- A numeral has a digit that its kind does not have. -/
  | badDigit (digit : Char) (kind : NumeralKind)
  /-- A numeral other than zero starts with a zero. -/
  | leadingZero
  /-- A bracket closes nothing. -/
  | unmatched (closing : Char)
  /-- A bracket closes one of another shape. -/
  | mismatched (closing opening : Char)
  /-- A text is no name. -/
  | notAName
  /-- A text gives a value to a name, but none is there. -/
  | missingValue
  /-- A text gives a value to a name, and other names come after it. -/
  | valueBeforeNames
  /-- A name comes twice. -/
  | repeated (name : String)
  /-- A name stands for a constant. -/
  | constant (name : String)
  /-- A text is not the normal form of the name that it is. -/
  | otherSpelling
deriving DecidableEq

namespace FieldNameError

def numeralText : NumeralKind → String
  | .decimal => "decimal"
  | .imaginary => "imaginary"
  | .binary => "binary"
  | .octal => "octal"
  | .hexadecimal => "hexadecimal"

/-- The number of a character in messages. -/
def codeText (c : Char) : String :=
  "U+" ++ String.ofList ((Text.hexPadded 4 c.toNat).map Char.toUpper)

/-- The text that goes with an error; a name that is spelled otherwise has none. -/
def message : FieldNameError → Option String
  | .nullCharacter => some "source code string cannot contain null bytes"
  | .strayCharacter c =>
    if Text.isPrintable c then
      some ("invalid character '" ++ String.singleton c ++ "' (" ++ codeText c ++ ")")
    else some ("invalid non-printable character " ++ codeText c)
  | .openQuotation line => some s!"unterminated string literal (detected at line {line})"
  | .strayContinuation => some "unexpected character after line continuation character"
  | .badNumeral kind => some ("invalid " ++ numeralText kind ++ " literal")
  | .badDigit digit kind =>
    some ("invalid digit '" ++ String.singleton digit ++ "' in " ++ numeralText kind ++ " literal")
  | .leadingZero => some ("leading zeros in decimal integer literals are not permitted; " ++
      "use an 0o prefix for octal integers")
  | .unmatched closing => some ("unmatched '" ++ String.singleton closing ++ "'")
  | .mismatched closing opening =>
    some ("closing parenthesis '" ++ String.singleton closing ++
      "' does not match opening parenthesis '" ++ String.singleton opening ++ "'")
  | .notAName => some "invalid syntax"
  | .missingValue => some "expected default value expression"
  | .valueBeforeNames => some "non-default argument follows default argument"
  | .repeated name => some s!"duplicate argument '{name}' in function definition"
  | .constant name => some s!"cannot assign to {name}"
  | .otherSpelling => none

end FieldNameError

end Pursuit

import Pursuit.Goal.FieldName.Error
import Pursuit.Text.Layout

/-! # Reading names of fields

What cannot be read in a text at all, whatever it is meant to say: characters that stand nowhere,
numerals that go on with letters, quotations that stay open, brackets that do not match.
-/

namespace Pursuit.FieldName

open Text

/-! ## Numerals -/

/-- What is wrong with the letters after the digits of a numeral. -/
def suffixError? : List Char → Option FieldNameError
  | [] => none
  | mark :: rest =>
    if mark == 'j' || mark == 'J' then
      if rest.isEmpty then none else some (.badNumeral .imaginary)
    else if (mark == 'e' || mark == 'E') && !rest.isEmpty && rest.all Char.isDigit then none
    else some (.badNumeral .decimal)

/-- The kind of numeral that a letter after a zero begins. -/
def radix? (mark : Char) : Option NumeralKind :=
  match mark.toLower with
  | 'b' => some .binary
  | 'o' => some .octal
  | 'x' => some .hexadecimal
  | _ => none

def isDigitOf : NumeralKind → Char → Bool
  | .binary, c => c == '0' || c == '1'
  | .octal, c => '0' ≤ c && c ≤ '7'
  | .hexadecimal, c => c.isDigit || 'a' ≤ c.toLower && c.toLower ≤ 'f'
  | _, c => c.isDigit

def radixError? (kind : NumeralKind) (digits : List Char) : Option FieldNameError :=
  match digits.dropWhile fun c => isDigitOf kind c || c == '_' with
  | c :: _ => some (if c.isDigit then .badDigit c kind else .badNumeral kind)
  | [] => if digits.getLast?.all (· == '_') then some (.badNumeral kind) else none

/-- What is wrong with the numeral at the start of a text. -/
def numeralError? (cs : List Char) : Option FieldNameError :=
  let inDigits (c : Char) : Bool := c.isDigit || c == '_'
  let letters (cs : List Char) : List Char := cs.takeWhile fun c => c.isAlphanum || c == '_'
  let digits := cs.takeWhile inDigits
  let rest := cs.dropWhile inDigits
  let suffix := letters rest
  let isPadded := digits.head? == some '0' && digits.any fun c => c.isDigit && c != '0'
  match if digits == ['0'] then suffix.head?.bind radix? else none with
  | some kind => radixError? kind suffix.tail
  | none =>
    if (digits.splitOn '_').any (·.isEmpty) then some (.badNumeral .decimal)
    else if rest.head? == some '.' then suffixError? (letters (rest.tail.dropWhile inDigits))
    else if isPadded && (suffix.isEmpty || (suffixError? suffix).isSome) then some .leadingZero
    else suffixError? suffix

/-! ## Texts -/

inductive Mode where
  | between
  | word
  | numeral
  | quotation (mark : Char)
  | comment

/-- The mode after a point, which a numeral may hold. -/
def Mode.afterPoint : Mode → Mode
  | .numeral => .numeral
  | _ => .between

/-- The bracket that a bracket closes. -/
def partner? (c : Char) : Option Char :=
  if c == ')' then some '(' else if c == ']' then some '[' else if c == '\x7d' then some '\x7b'
  else none

/-- The first thing in a text that cannot be read, where the `opened` brackets are still open, the
last one first, and `line` is the one in which a quotation would have to end. -/
def unreadable? (line : Nat) (opened : List Char) (mode : Mode) :
    List Char → Option FieldNameError
  | [] =>
    match mode, opened with
    | .quotation _, _ => some (.openQuotation line)
    | .comment, _ => none
    | _, [] => some (.unmatched ')')
    | _, opening :: _ => if opening == '(' then none else some (.mismatched ')' opening)
  | c :: rest =>
    let go (mode : Mode) : Option FieldNameError := unreadable? line opened mode rest
    match mode with
    | .comment => go (if c == '\n' then .between else .comment)
    | .quotation mark =>
      if c == mark then go .between
      else if c == '\n' then some (.openQuotation line)
      else go mode
    | _ =>
      if inWord c then
        match mode with
        | .word => if inIdentifier c then go .word else some (.strayCharacter c)
        | .numeral =>
          if c.toNat < 0x80 then go .numeral
          else if startsIdentifier c then go .word
          else some (.strayCharacter c)
        | _ =>
          if c.isDigit then numeralError? (c :: rest) <|> go .numeral
          else if startsIdentifier c then go .word
          else some (.strayCharacter c)
      else if c == '\x27' || c == '\x22' then go (.quotation c)
      else if c == '#' then go .comment
      else if c == continuation then
        if rest.head? == some '\n' then go .between else some .strayContinuation
      else if c == '(' || c == '[' || c == '\x7b' then
        unreadable? line (c :: opened) .between rest
      else if isGap c || c == '\n' then go .between
      else if c == '.' then go mode.afterPoint
      else if !isPrintable c then some (.strayCharacter c)
      else
        match partner? c, opened with
        | none, _ => go .between
        | some _, [] => some (.unmatched c)
        | some partner, opening :: others =>
          if opening == partner then unreadable? line others .between rest
          else some (.mismatched c opening)

end Pursuit.FieldName

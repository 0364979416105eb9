import Pursuit.Goal.FieldName.Reading

/-! # Names of fields

A field is named by an identifier in its normal form that is no reserved word. The names of all
fields of a class stand together in one declaration, so what is wrong with one of them is told the
way a reader of the whole declaration would find it: first what cannot be read at all, then what
cannot be understood, then names that come twice.
-/

namespace Pursuit.FieldName

open Text

/-! ## What cannot be read -/

structure Entry where
  text : List Char
  hasDefault : Bool

/-- What cannot be read in an entry of the list of all fields. One with a default stands twice in
the first line of the declaration, so a quotation that it opens is closed there and left open in the
second. A line that goes on matters only after a name. -/
def Entry.unreadable? (mode : Mode) (e : Entry) : Option FieldNameError :=
  (FieldName.unreadable? (if e.hasDefault then 2 else 1) ['('] mode e.text).map fun
    | .strayContinuation =>
      let before := (e.text.dropWhile inWord).takeWhile (· != continuation)
      if isClearance false before then .strayContinuation else .notAName
    | error => error

/-- The first thing that cannot be read in entries. Each is read twice: after a word, and on its
own. -/
def firstUnreadable? (entries : List Entry) : Option FieldNameError :=
  entries.findSome? (·.unreadable? .word) <|> entries.findSome? (·.unreadable? .between)

/-! ## What is no name -/

/-- A blank between words. -/
def isSpace (c : Char) : Bool :=
  isGap c || c == '\n'

/-- What is wrong with texts when each is read after a word. -/
def misheaded? : List (List Char) → Option FieldNameError
  | [] => none
  | text :: rest =>
    let tail := text.dropWhile inWord
    if isClearance false tail then misheaded? rest
    else
      match tail.dropWhile isSpace with
      | ',' :: _ | ':' :: _ => misheaded? rest
      | '=' :: value =>
        let value := value.dropWhile isSpace
        let isPlain (text : List Char) : Bool := isClearance false (text.dropWhile inWord)
        if value.isEmpty || value.head? == some ',' then some .missingValue
        else if value.head? != some '=' && rest.head?.all isPlain then some .valueBeforeNames
        else some .notAName
      | _ => some .notAName

def isName (word : List Char) : Bool :=
  isIdentifier word && !reservedWords.contains (String.ofList word)

/-- The names in a text that holds names only, with commas between them. -/
def names? (text : List Char) : Option (List (List Char)) :=
  (text.splitOn ',').mapM fun part =>
    let body := part.dropWhile isSpace
    let word := body.takeWhile inWord
    if isName word && isClearance false (body.dropWhile inWord) then some word else none

/-- What is wrong with an entry that is read on its own. -/
def Entry.misnamed? (e : Entry) : Option FieldNameError :=
  match names? e.text with
  | none => some .notAName
  | some names => if names.length != 1 && e.hasDefault then some .valueBeforeNames else none

/-! ## Names that clash -/

/-- The second of several names, which comes again after the last of them. -/
def doubled? (text : List Char) : Option FieldNameError :=
  (names? text).bind (·[1]?) |>.map fun word => .repeated (String.ofList (normalized word))

/-- The first name that comes again, after those `seen`. -/
def firstRepeated? (seen : List String) : List String → Option String
  | [] => none
  | name :: rest =>
    if seen.contains name then some name else firstRepeated? (name :: seen) rest

/-- What is wrong with names, in the normal form in which they are understood and as they are
spelled. The goal itself goes by a name that none of the fields has been given. -/
def clash? (names spelled : List String) : Option FieldNameError :=
  let own := if spelled.contains "self" then "__dataclass_self__" else "self"
  match firstRepeated? [] names with
  | some name => some (.repeated ("_type_" ++ name))
  | none =>
    if names.contains own then some (.repeated own)
    else if names.contains "__debug__" then some (.constant "__debug__")
    else if names != spelled then some .otherSpelling
    else none

/-- The fields of a class can have these names, each with or without a default. -/
def check (fields : List (String × Bool)) : Except FieldNameError Unit :=
  let entries := fields.map fun (name, hasDefault) => ⟨withLineFeeds name.toList, hasDefault⟩
  let texts := entries.map Entry.text
  let nameOf (text : List Char) : String := String.ofList (normalized (text.takeWhile inWord))
  let error :=
    if fields.any (·.1.toList.contains '\x00') then some .nullCharacter
    else
      firstUnreadable? entries <|> misheaded? texts <|> entries.findSome? Entry.misnamed? <|>
        texts.findSome? doubled? <|> clash? (texts.map nameOf) (fields.map (·.1))
  match error with
  | some e => .error e
  | none => .ok ()

end Pursuit.FieldName

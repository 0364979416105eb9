import Pursuit.Keyed
import Pursuit.Source.Context

/-! # Field values

What a goal has in its fields: plain data, or a context. A field may be of any name, so either may
stand where the other one is expected.
-/

namespace Pursuit

inductive FieldValue where
  | data (d : Data)
  | context (c : Context)

namespace FieldValue

/-- Two values are equal. -/
def same : FieldValue → FieldValue → Bool
  | .data a, .data b => a == b
  | .context a, .context b => a == b
  | _, _ => false

instance : Keyed FieldValue where
  beq := same
  isKey
    | .data d => d.isConstant
    | .context c => c.isConstant

def className : FieldValue → String
  | .data d => d.className
  | .context c => c.className

def shown : FieldValue → String
  | .data d => d.shown
  | .context c => c.shown

/-- The plain text of a value: a text without quotes, anything else as it is shown. -/
def plain : FieldValue → String
  | .data d => d.plain
  | .context c => c.shown

def data? : FieldValue → Option Data
  | .data d => some d
  | .context _ => none

def text? : FieldValue → Option String
  | .data (.text s) => some s
  | _ => none

def isNull : FieldValue → Bool
  | .data d => d.isNull
  | .context _ => false

end FieldValue

end Pursuit

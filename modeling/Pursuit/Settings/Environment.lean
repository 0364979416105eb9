import Pursuit.Failure
import Pursuit.Number.Numeral
import Pursuit.Settings.Basic
import Pursuit.Text.Blank
import Pursuit.Text.Quoted

/-! # Settings from the environment

Two variables may hold a number. A variable that is unset or blank leaves its setting at the
default.
-/

namespace Pursuit

/-- Variables with their values. -/
abbrev Environment := List (String × String)

namespace Environment

def timeLimitVariable : String := "GOALTI_TIME_LIMIT_MS"

def maxDepthVariable : String := "GOALTI_MAX_DEPTH"

/-- Why a variable cannot be given to a process. -/
def unfit? (name value : String) : Option Fault :=
  if name.toList.contains '\x00' || value.toList.contains '\x00' then
    some (.badValue "embedded null byte")
  else if name.toList.contains '=' then some (.badValue "illegal environment variable name")
  else none

def processFault? (env : Environment) : Option Fault :=
  env.findSome? fun (name, value) => unfit? name value

/-- The integer in a variable; absent when the variable is unset or blank. -/
def readInt (env : Environment) (name : String) : Except SettingsError (Option Int) :=
  let text := Text.strip ((env.lookup name).getD "")
  if text.isEmpty then .ok none
  else match Number.integer? text.toList with
    | some n => .ok (some n)
    | none => .error (.notAnInteger name (Text.quoted text))

/-- The settings that an environment asks for. Both variables are read before either number is
looked at. -/
def settings (env : Environment) : Except SettingsError Settings := do
  let timeLimit ← env.readInt timeLimitVariable
  let maxDepth ← env.readInt maxDepthVariable
  Settings.make timeLimit (maxDepth.getD Settings.defaultMaxDepth)

end Environment

end Pursuit

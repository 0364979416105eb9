/-! # Settings

The numbers that bound a session. Settings out of range cannot be made.
-/

namespace Pursuit

/-- What a caller can tune. -/
structure Settings where
  /-- The time that a type query may take when it names none, in milliseconds; none is no bound. -/
  timeLimitMs : Option Nat
  /-- The longest path of goals in progress. -/
  maxDepth : Nat
  maxDepth_pos : 1 ≤ maxDepth := by omega
deriving DecidableEq

inductive SettingsError where
  | negativeTimeLimit (given : Int)
  | depthBelowOne (given : Int)
  /-- A variable of the environment holds a text that is no integer, here in its shown form. -/
  | notAnInteger (name shown : String)
deriving DecidableEq

def SettingsError.message : SettingsError → String
  | .negativeTimeLimit given => s!"time_limit_ms must be >= 0, got {given}"
  | .depthBelowOne given => s!"max_depth must be >= 1, got {given}"
  | .notAnInteger name shown => s!"{name} must be an integer, got {shown}"

namespace Settings

/-- The depth that is used when none is given. -/
def defaultMaxDepth : Int := 200

/-- Settings from any integers; the time limit is looked at first. -/
def make (timeLimitMs : Option Int) (maxDepth : Int) : Except SettingsError Settings :=
  match timeLimitMs.filter (· < 0) with
  | some given => .error (.negativeTimeLimit given)
  | none =>
    if h : maxDepth < 1 then .error (.depthBelowOne maxDepth)
    else .ok { timeLimitMs := timeLimitMs.map Int.toNat, maxDepth := maxDepth.toNat }

/-- No time limit, and the usual depth. -/
def standard : Settings :=
  { timeLimitMs := none, maxDepth := defaultMaxDepth.toNat, maxDepth_pos := by decide }

def shown (s : Settings) : String :=
  let limit := match s.timeLimitMs with
    | none => "None"
    | some ms => toString ms
  let depth := toString s.maxDepth
  s!"InferenceConfig(time_limit_ms={limit}, max_depth={depth})"

end Settings

end Pursuit

import Pursuit.Pruner
import Pursuit.Settings.Basic

/-! # Time budgets

The time that a type query may take: given in milliseconds, as a pruner, or left to the settings.
-/

namespace Pursuit

/-- What a caller gives as the time limit of a query. -/
inductive TimeLimit (L : Type) where
  | unset
  | millis (ms : Int)
  /-- A truth value, which is refused although it counts as a number. -/
  | truth (b : Bool)
  | pruner (p : Pruner L)

/-- Why a time limit cannot be used. -/
inductive BudgetError where
  | truthValue (b : Bool)
  /-- No double is as large as the number of milliseconds. -/
  | tooLarge
deriving DecidableEq

def BudgetError.message : BudgetError → String
  | .truthValue b =>
    let shown := if b then "True" else "False"
    s!"time_limit must be milliseconds or a Pruner, got {shown}"
  | .tooLarge => "int too large to convert to float"

def millisBudget {L : Type} (ms : Int) : Except BudgetError (Pruner L) :=
  match Pruner.ofMillis? ms with
  | some p => .ok p
  | none => .error .tooLarge

/-- The pruner for a query, none when nothing bounds it. -/
def Settings.budget {L : Type} (s : Settings) : TimeLimit L → Except BudgetError (Option (Pruner L))
  | .truth b => .error (.truthValue b)
  | .millis ms => (millisBudget ms).map some
  | .pruner p => .ok (some p)
  | .unset => match s.timeLimitMs with
    | some ms => (millisBudget ms).map some
    | none => .ok none

end Pursuit

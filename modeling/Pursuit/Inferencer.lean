import Pursuit.Budget
import Pursuit.Services

/-! # The inferencer

The usual way in: a registry that knows the standard evaluators, under settings of its own.
-/

namespace Pursuit

/-- A registry with the settings of its sessions. -/
structure Inferencer (F β : Type) where
  settings : Settings
  registry : Registry F β

namespace Inferencer

variable {W F β K L : Type}

def standardEvaluators : List (GoalClass × EvaluatorClass) :=
  [(fieldReferencesGoal, .fieldReferences), (methodCallsGoal, .methodCalls)]

/-- An inferencer with the standard evaluators, behind an optional factory of the caller. -/
def make (cat : Catalogue) (userFactory : Option F) (settings : Settings) :
    Except RegistrationError (Inferencer F β) := do
  let register (r : Registry F β) (pair : GoalClass × EvaluatorClass) :=
    r.register cat (.cls pair.1) (.evaluators pair.2)
  let registry ← standardEvaluators.foldlM register (.empty userFactory)
  return { settings, registry }

def evaluateGoal (i : Inferencer F β) (p : Services W F β K L) [BEq L] (stackLimit : Int)
    (fuel : Nat) (pruner : Option (Pruner K)) (extras : List L) (goal : Goal) (w : W) :
    Option (Except Failure (Option Value)) × W :=
  p.resolve (p.supplyFrom i.registry) i.settings stackLimit fuel pruner extras goal w

/-- Resolve a type goal within a time limit. A limit that cannot be used is refused before anything
is done. -/
def evaluateType (i : Inferencer F β) (p : Services W F β K L) [BEq L] (stackLimit : Int)
    (fuel : Nat) (limit : TimeLimit K) (goal : Goal) (w : W) :
    Except BudgetError (Option (Except Failure (Option Value)) × W) := do
  let pruner ← i.settings.budget limit
  return i.evaluateGoal p stackLimit fuel pruner [] goal w

end Inferencer

end Pursuit

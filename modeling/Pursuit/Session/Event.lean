/-! # Session events

What a session tells its listeners. Goals, answers and evaluators are left open here: `G` is the
type of goals, `V` the type of answers and `E` the type of evaluators. An absent answer is `none`.
-/

namespace Pursuit

/-- How far a goal has come within a session. -/
inductive GoalState where
  /-- Requested, and nothing more. -/
  | pending
  /-- An evaluator is at work. -/
  | assigned
  /-- Its evaluator has asked for subgoals. -/
  | awaiting
  /-- Answered, for good. -/
  | done
deriving DecidableEq

namespace GoalState

/-- All states, in the order in which a goal goes through them. -/
def all : List GoalState :=
  [.pending, .assigned, .awaiting, .done]

def name : GoalState → String
  | .pending => "pending"
  | .assigned => "assigned"
  | .awaiting => "awaiting_subgoals"
  | .done => "done"

def ofName? (name : String) : Option GoalState :=
  all.find? (·.name == name)

end GoalState

/-- Who works on a goal: an evaluator of the host, or the null evaluator that answers a goal for
which there is none. -/
inductive GoalEvaluator (G E : Type) where
  | nullEvaluator (goal : G)
  | evaluator (e : E)

/-- What listeners are told. Times are in seconds. -/
inductive Event (G V E : Type) where
  /-- A session starts to resolve its root. -/
  | evaluationStarted (root : G)
  /-- An evaluator was found for a goal. -/
  | evaluatorAssigned (goal : G) (evaluator : GoalEvaluator G E)
  /-- An evaluator named its first subgoals. -/
  | initialized (evaluator : GoalEvaluator G E) (subgoals : List G) (elapsed : Float)
  /-- An evaluator took in the answer to a subgoal. The last event of a batch says what it asked for
  next. -/
  | received (evaluator : GoalEvaluator G E) (finished : Option G) (requested : Option (List G))
    (elapsed : Float)
  /-- An evaluator came to a result. -/
  | produced (evaluator : GoalEvaluator G E) (result : Option V) (elapsed : Float)
  /-- A goal moved from one state, none when it is new, to another. -/
  | stateChanged (goal : G) (state : GoalState) (old : Option GoalState)

namespace Event

variable {G V E : Type}

def name : Event G V E → String
  | .evaluationStarted .. => "evaluation_started"
  | .evaluatorAssigned .. => "goal_evaluator_assigned"
  | .initialized .. => "evaluator_initialized"
  | .received .. => "evaluator_received_result"
  | .produced .. => "evaluator_produced_result"
  | .stateChanged .. => "goal_state_changed"

end Event

end Pursuit

import Pursuit.Failure
import Pursuit.Log.Level
import Pursuit.Number.Decimal
import Pursuit.Session.Event

/-! # Session log records

What a session writes to the log. Whenever a goal is answered without a result of its evaluator, a
log record says why.
-/

namespace Pursuit

inductive SessionRecord (G E : Type) where
  /-- The depth that was asked for leaves too little room on the stack. -/
  | depthLowered (wanted bound : Nat)
  | prunerFailed (fault : Fault)
  /-- A goal was requested below itself. -/
  | cycleClosed (goal : G)
  /-- The pruner stopped a goal. -/
  | pruned (goal : G) (elapsed : Float)
  /-- A goal lies below the deepest path that is allowed. -/
  | tooDeep (bound : Nat) (goal : G)
  | factoryFailed (goal : G) (fault : Fault)
  | noEvaluator (goal : G)
  | initFailed (evaluator : GoalEvaluator G E) (fault : Fault)
  | resumeFailed (evaluator : GoalEvaluator G E) (fault : Fault)
  /-- An evaluator answered with something that is no outcome, here in its shown form. -/
  | strayOutcome (evaluator : GoalEvaluator G E) (shown : String)
  /-- The stack ran out under the session. -/
  | exhausted (root : G) (fault : Fault)
  /-- The session is over. -/
  | evaluated (root : G) (elapsed : Float) (goals : Nat)

namespace SessionRecord

variable {G E : Type}

def level : SessionRecord G E → Level
  | .prunerFailed _ | .factoryFailed .. | .initFailed .. | .resumeFailed .. => .error
  | .exhausted .. => .error
  | .strayOutcome .. => .warning
  | _ => .debug

def fault? : SessionRecord G E → Option Fault
  | .prunerFailed fault | .factoryFailed _ fault | .exhausted _ fault => some fault
  | .initFailed _ fault | .resumeFailed _ fault => some fault
  | _ => none

/-- A time as log records show it: in seconds, with three places. -/
def seconds (elapsed : Float) : String :=
  Number.fixedText 3 elapsed ++ "s"

/-- The text of a log record, given how goals, evaluators and the pruner of the session are
shown. -/
def text (showGoal : G → String) (showEvaluator : GoalEvaluator G E → String) (pruner : String) :
    SessionRecord G E → String
  | .depthLowered wanted bound =>
    s!"max_depth {wanted} lowered to {bound} to fit the recursion limit"
  | .prunerFailed _ => s!"Pruner {pruner} failed, stopping expansion"
  | .cycleClosed goal => "Cycle closed at " ++ showGoal goal
  | .pruned goal elapsed => "Pruned " ++ showGoal goal ++ " after " ++ seconds elapsed
  | .tooDeep bound goal => s!"Goal path deeper than {bound} at " ++ showGoal goal
  | .factoryFailed goal _ => "Evaluator factory failed for " ++ showGoal goal
  | .noEvaluator goal => "No evaluator for " ++ showGoal goal ++ ", using NullGoalEvaluator"
  | .initFailed evaluator _ => "Evaluator " ++ showEvaluator evaluator ++ " failed in init"
  | .resumeFailed evaluator _ => "Evaluator " ++ showEvaluator evaluator ++ " failed in resume"
  | .strayOutcome evaluator shown =>
    "Evaluator " ++ showEvaluator evaluator ++ " returned " ++ shown ++
      " instead of NeedMore or Done"
  | .exhausted root _ => "Goal graph of " ++ showGoal root ++ " exhausted the interpreter stack"
  | .evaluated root elapsed goals =>
    "Evaluated " ++ showGoal root ++ " in " ++ seconds elapsed ++ s!" ({goals} goals)"

end SessionRecord

end Pursuit

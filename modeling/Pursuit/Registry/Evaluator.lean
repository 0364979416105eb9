import Pursuit.Failure
import Pursuit.Goal.Basic
import Pursuit.Registry.EvaluatorClass
import Pursuit.Session.Event
import Pursuit.Source.Query
import Pursuit.Value.Shown

/-! # Evaluators

An evaluator belongs to a class and is bound to one goal. Those of the standard classes need nothing
else to do their work: a preset answer, or the index of the goal's context. A factory may also hand
out plain data; objects that behave like evaluators and are none are left out.
-/

namespace Pursuit

/-- An evaluator at work on a goal. -/
structure Evaluator where
  cls : EvaluatorClass
  goal : Goal
  /-- Which of the evaluators built so far it is. -/
  serial : Nat
  /-- The answer with which it was built, if there is one. -/
  preset : Option (Option Value)

namespace Evaluator

def shown (e : Evaluator) : String :=
  e.cls.name ++ "(" ++ e.goal.shown ++ ")"

def query (e : Evaluator) (kind : Option ReferenceKind) : Except Fault Query := do
  let name ← e.goal.getField "name"
  let kind ← match kind with
    | some kind => pure kind
    | none => throw (.missingAttribute e.cls.name "reference_kind")
  let parent ← e.goal.getField "parent"
  return { name, kind, parent }

def presetAnswer (e : Evaluator) : Except Fault (Option Value) :=
  match e.preset with
  | some answer => .ok answer
  | none => .error (.missingAttribute e.cls.name "answer")

/-- What a search found, as an answer: the references among it, in order. -/
def foundReferences (elements : List IndexElement) : Value :=
  .tuple (elements.filterMap fun element => element.reference?.map fun r => some (.reference r))

end Evaluator

/-- What a factory hands out: an evaluator, or an object that is none. -/
inductive Product where
  | evaluator (e : Evaluator)
  | other (d : Data)

namespace Product

def shown : Product → String
  | .evaluator e => e.shown
  | .other d => d.shown

end Product

namespace GoalEvaluator

def shown : GoalEvaluator Goal Product → String
  | .nullEvaluator goal => EvaluatorClass.nullEvaluator.name ++ "(" ++ goal.shown ++ ")"
  | .evaluator product => product.shown

/-- The goal of an evaluator; an object that is none has no goal. -/
def goal : GoalEvaluator Goal Product → Except Fault Goal
  | .nullEvaluator goal => .ok goal
  | .evaluator (.evaluator e) => .ok e.goal
  | .evaluator (.other d) => .error (.missingAttribute d.className "goal")

end GoalEvaluator

end Pursuit

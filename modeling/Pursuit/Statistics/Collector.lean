import Pursuit.Keyed
import Pursuit.Ledger
import Pursuit.Session.Event
import Pursuit.Text.Sorted

/-! # Collected totals

A collector counts what sessions do. A result is told right before its goal is done, on the thread
of the session, so the two are matched by thread and goal; a goal that is done without a match was
cut off. Of a result it needs the goal and the goal's kind, and either may be missing. Events come
one at a time; the lock that sees to this among threads is left out.
-/

namespace Pursuit

/-- Totals over all sessions, with `T` for threads, `G` for goals and `κ` for kinds of goals. -/
structure Collector (T G κ : Type) where
  /-- Sessions started. -/
  sessions : Nat := 0
  /-- Evaluators assigned. -/
  assignments : Nat := 0
  /-- Evaluators that came to a result. -/
  results : Nat := 0
  /-- Results that were absent. -/
  absentResults : Nat := 0
  /-- Goals that were done without a result of their evaluator. -/
  cutoffs : Nat := 0
  /-- Seconds from assignment to result, by the kind of goal. -/
  time : Ledger κ Float := []
  /-- Results whose goals are not done yet. -/
  unmatched : List (T × G) := []

namespace Collector

variable {T G κ V E : Type}

def countResult (c : Collector T G κ) (result : Option V) : Collector T G κ :=
  { c with
    results := c.results + 1
    absentResults := c.absentResults + (if result.isNone then 1 else 0) }

/-- Add a time to those of a kind, which start from zero. -/
def addTime [BEq κ] (c : Collector T G κ) (kind : κ) (elapsed : Float) : Collector T G κ :=
  { c with time := c.time.put kind ((c.time.find? kind).getD 0.0 + elapsed) }

/-- Remember a result until its goal is done. -/
def expect [BEq T] [BEq G] (c : Collector T G κ) (thread : T) (g : G) : Collector T G κ :=
  { c with unmatched := c.unmatched.insert (thread, g) }

/-- Match a goal that is done with its result; one without a result was cut off. -/
def conclude [BEq T] [BEq G] (c : Collector T G κ) (thread : T) (g : G) : Collector T G κ :=
  if c.unmatched.contains (thread, g) then
    { c with unmatched := c.unmatched.erase (thread, g) }
  else { c with cutoffs := c.cutoffs + 1 }

section Hear

variable [BEq T] [Keyed G] [Keyed κ] (kindOf : G → Except Fault κ)
  (goalOf : GoalEvaluator G E → Except Fault G) (thread : T)

/-- Take in a result. It is counted before its time is added and before it is remembered, and stays
counted where these fail. -/
def hearResult (g : G) (result : Option V) (elapsed : Float) : Attempt (Collector T G κ) Unit := do
  modify (·.countResult result)
  let kind ← .ofExcept (kindOf g >>= Keyed.asKey)
  modify (·.addTime kind elapsed)
  let g ← .ofExcept (Keyed.asKey g)
  modify (·.expect thread g)

/-- Take in an event, given the kinds of goals and the goals of evaluators. -/
def hear : Event G V E → Attempt (Collector T G κ) Unit
  | .evaluationStarted _ => modify fun c => { c with sessions := c.sessions + 1 }
  | .evaluatorAssigned .. => modify fun c => { c with assignments := c.assignments + 1 }
  | .produced evaluator result elapsed => do
    let g ← .ofExcept (goalOf evaluator)
    hearResult kindOf thread g result elapsed
  | .stateChanged g .done _ => do
    let g ← .ofExcept (Keyed.asKey g)
    modify (·.conclude thread g)
  | _ => pure ()

def after (c : Collector T G κ) (event : Event G V E) : Collector T G κ :=
  ((hear kindOf goalOf thread event).perform c).2

end Hear

/-- The times in ascending order of the kinds as they are written. -/
def timeByKind (written : κ → String) (c : Collector T G κ) : List (String × Float) :=
  let times : Ledger String Float := c.time.map fun (kind, seconds) => (written kind, seconds)
  (Text.sorted times.keys).map fun kind => (kind, (times.find? kind).getD 0.0)

end Collector

end Pursuit

import Pursuit.Ledger
import Pursuit.Session.Record

/-! # Sessions

A session resolves one root goal, depth first. Its state says what is known of each goal met so far,
which goals wait for a subgoal, and at which point the work stands. The goals in progress form the
path.
-/

namespace Pursuit

/-- What a session knows of one goal. -/
structure Entry (V : Type) where
  state : GoalState
  result : Option V

/-- A goal whose evaluator is under way. -/
structure Frame (G V E : Type) where
  goal : G
  evaluator : GoalEvaluator G E
  /-- When the evaluator was assigned. -/
  assignedAt : Float
  /-- The subgoals that the evaluator asked for last, in order and with repetition. -/
  batch : List G
  /-- Those of the batch that are not yet answered. -/
  waiting : List G
  /-- The answers so far, under each distinct subgoal. -/
  answers : Ledger G (Option V)
  /-- How long each answered subgoal took. -/
  timings : List Float
  /-- When the subgoal in work was requested. -/
  requestedAt : Float

/-- Where the work of a session stands. -/
inductive Point (G V E : Type) where
  /-- Tell that the session starts. -/
  | announce
  /-- A goal is requested by the innermost waiting goal, or it is the root. -/
  | request (goal : G)
  /-- A request is answered. -/
  | answer (value : Option V)
  /-- Tell that a goal is new. -/
  | enter (goal : G)
  /-- Ask whether a new goal may be worked on. -/
  | gate (goal : G)
  /-- Ask for an evaluator. -/
  | create (goal : G)
  /-- Put an evaluator to a goal. -/
  | assign (goal : G) (evaluator : GoalEvaluator G E)
  /-- Tell that a goal has an evaluator. -/
  | assigned (goal : G) (evaluator : GoalEvaluator G E)
  /-- Tell which evaluator it is. -/
  | present (goal : G) (evaluator : GoalEvaluator G E)
  /-- Ask an evaluator for its first subgoals. -/
  | init (goal : G) (evaluator : GoalEvaluator G E) (assignedAt : Float)
  /-- Tell what the first subgoals are. -/
  | initialized (frame : Frame G V E) (elapsed : Float)
  /-- Ask whether a round may begin. -/
  | round (frame : Frame G V E)
  /-- Let a goal wait for subgoals for the first time. -/
  | await (frame : Frame G V E)
  /-- Tell that a goal waits. -/
  | awaiting (frame : Frame G V E)
  /-- Request the next subgoal of a batch. -/
  | dispatch (frame : Frame G V E)
  /-- Ask whether the answers to a batch may be handed over. -/
  | recheck (frame : Frame G V E)
  /-- Hand the answers to the evaluator. -/
  | resume (frame : Frame G V E)
  /-- Tell what an evaluator took in, then go on. -/
  | report (events : List (Event G V E)) (next : Point G V E)
  /-- Tell the result of an evaluator. -/
  | produce (frame : Frame G V E) (value : Option V)
  /-- Answer a goal for good. It is `held` when it stands on the path. -/
  | finish (goal : G) (value : Option V) (held : Bool)
  /-- Tell that a goal is answered. -/
  | finished (goal : G) (value : Option V) (old : GoalState) (held : Bool)
  /-- Write a log record, then go on. -/
  | log (n : SessionRecord G E) (next : Point G V E)
  /-- Nothing is left to do. -/
  | halt (outcome : Except Failure (Option V))

/-- The goal on the path at which a point stands, besides those that wait. -/
def Point.held? {G V E : Type} : Point G V E → Option G
  | .create g | .assign g _ | .assigned g _ | .present g _ | .init g _ _ => some g
  | .initialized f _ | .round f | .await f | .awaiting f => some f.goal
  | .dispatch f | .recheck f | .resume f | .produce f _ => some f.goal
  | .finish g _ held | .finished g _ _ held => if held then some g else none
  | .report _ next | .log _ next => next.held?
  | .announce | .request _ | .answer _ | .enter _ | .gate _ | .halt _ => none

structure Session (G V E : Type) where
  root : G
  /-- The longest path that is allowed. -/
  bound : Nat
  /-- When the session started. -/
  started : Float
  /-- The time, as far as the session knows. -/
  now : Float
  /-- What is known of each goal met so far. -/
  cache : Ledger G (Entry V)
  /-- The goals that wait for a subgoal, innermost first. -/
  callers : List (Frame G V E)
  point : Point G V E

namespace Session

variable {G V E : Type}

/-- The session on a root, with the depth that was asked for and the bound that the stack leaves. -/
def start (root : G) (wanted bound : Nat) (now : Float) : Session G V E :=
  { root, bound, started := now, now, cache := [], callers := []
    point := if bound < wanted then .log (.depthLowered wanted bound) .announce else .announce }

/-- The goals in progress, innermost first. -/
def path (s : Session G V E) : List G :=
  s.point.held?.toList ++ s.callers.map (·.goal)

def elapsed (s : Session G V E) : Float :=
  s.now - s.started

def goTo (s : Session G V E) (p : Point G V E) : Session G V E :=
  { s with point := p }

/-- The state of a goal; a goal that was never requested is as good as new. -/
def stateOf [BEq G] (s : Session G V E) (g : G) : GoalState :=
  ((s.cache.find? g).map (·.state)).getD .pending

def setState [BEq G] (s : Session G V E) (g : G) (state : GoalState) : Session G V E :=
  { s with cache := s.cache.put g ⟨state, none⟩ }

end Session

end Pursuit

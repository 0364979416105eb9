import Pursuit.Session.Next
import Pursuit.Settings.Basic

/-! # Running a session

A host answers the demands of sessions, and in doing so changes a world of its own. Since a host may
keep a session busy for ever, a run is given the number of demands that it may take.

The stack of the machine that runs a session is left out. A session knows of it by the bound that
`stackBound` puts on its depth, and by the fault of a part that has run out of stack itself.
-/

namespace Pursuit

/-- Who answers the demands of a session. -/
structure Host (W G V E : Type) where
  /-- The time, in seconds. -/
  clock : W → Float
  /-- Ask the pruner, with the time since the session started. -/
  check : Float → Attempt W Bool
  /-- Build the evaluator of a goal, or none. -/
  create : G → Attempt W (Option E)
  /-- Ask an evaluator for its first subgoals. -/
  init : E → Attempt W (List G)
  /-- Hand an evaluator the answers to its batch. -/
  resume : E → Ledger G (Option V) → Attempt W (Outcome G V)
  /-- Tell the listeners. -/
  emit : Event G V E → W → Option Interrupt × W
  /-- Keep a log record. -/
  record : SessionRecord G E → W → W

namespace Host

variable {W G V E : Type}

/-- The first subgoals of an evaluator; a null evaluator has none. -/
def initEvaluator (h : Host W G V E) : GoalEvaluator G E → Attempt W (List G)
  | .nullEvaluator _ => pure []
  | .evaluator e => h.init e

/-- The outcome of an evaluator; a null evaluator is finished without a result. -/
def resumeEvaluator (h : Host W G V E) :
    GoalEvaluator G E → Ledger G (Option V) → Attempt W (Outcome G V)
  | .nullEvaluator _, _ => pure (.done none)
  | .evaluator e, answers => h.resume e answers

end Host

namespace Session

variable {W G V E : Type} [Keyed G]

/-- Answer the demands of a session until it ends, at most `fuel` of them: the outcome, if the
session ended, and the world after it. -/
def run (h : Host W G V E) :
    (fuel : Nat) → Session G V E → W → Option (Except Failure (Option V)) × W
  | 0, _, w => (none, w)
  | fuel + 1, s, w =>
    match s.next with
    | .proceed s' => run h fuel s' w
    | .record n s' => run h fuel s' (h.record n w)
    | .check elapsed k =>
      let (reply, w) := (h.check elapsed).perform w
      run h fuel (k (h.clock w) reply) w
    | .create g k =>
      let (reply, w) := (h.create g).perform w
      run h fuel (k (h.clock w) reply) w
    | .init evaluator k =>
      let (reply, w) := (h.initEvaluator evaluator).perform w
      run h fuel (k (h.clock w) reply) w
    | .resume evaluator answers k =>
      let (reply, w) := (h.resumeEvaluator evaluator answers).perform w
      run h fuel (k (h.clock w) reply) w
    | .emit event k =>
      let (reply, w) := h.emit event w
      run h fuel (k (h.clock w) reply) w
    | .halt outcome => (some outcome, w)

end Session

/-- The longest path for which a stack of the given depth has room: three calls for each goal, and
two hundred kept free. -/
def stackBound (stackLimit : Int) : Nat :=
  (max 1 ((stackLimit - 200).fdiv 3)).toNat

/-- The longest path of a session under the given settings. -/
def Settings.depthBound (s : Settings) (stackLimit : Int) : Nat :=
  min s.maxDepth (stackBound stackLimit)

/-- Resolve a root goal in a session of its own. -/
def evaluate {W G V E : Type} [Keyed G] (h : Host W G V E) (settings : Settings) (stackLimit : Int)
    (fuel : Nat) (root : G) (w : W) : Option (Except Failure (Option V)) × W :=
  let bound := settings.depthBound stackLimit
  (Session.start root settings.maxDepth bound (h.clock w)).run h fuel w

end Pursuit

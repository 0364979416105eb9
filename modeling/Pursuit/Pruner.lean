import Pursuit.Failure
import Pursuit.Number.Decimal
import Pursuit.Text.Quoted

/-! # Pruners

A pruner decides when a session stops expanding goals. Hosts bring pruners of their own, which may
keep state and fail; they are the leaves of type `L`, and only asking them tells their answer. The
answer is yes or no; objects that are merely taken for one of these are left out.
-/

namespace Pursuit

/-- A stop strategy with the host's pruners as leaves. -/
inductive Pruner (L : Type) where
  /-- Never stops. -/
  | never
  /-- Stops once that many seconds have passed. -/
  | limit (seconds : Float)
  /-- A pruner of the host. -/
  | custom (leaf : L)
  /-- Stops as soon as one of several pruners stops. -/
  | any (pruners : List (Pruner L))

namespace Pruner

variable {L W : Type}

mutual

/-- The answer of a pruner after the given time. A group asks its pruners from the left and asks no
further once one of them stops or fails. -/
def shouldStop (ask : L → Float → Attempt W Bool) (elapsed : Float) : Pruner L → Attempt W Bool
  | .never => pure false
  | .limit seconds => pure (decide (seconds ≤ elapsed))
  | .custom leaf => ask leaf elapsed
  | .any pruners => anyStops ask elapsed pruners

def anyStops (ask : L → Float → Attempt W Bool) (elapsed : Float) : List (Pruner L) → Attempt W Bool
  | [] => pure false
  | p :: rest => do
    if ← shouldStop ask elapsed p then pure true else anyStops ask elapsed rest

end

mutual

def shown (showLeaf : L → String) : Pruner L → String
  | .never => "NeverPrune()"
  | .limit seconds => "TimeLimitPruner(limit=" ++ Number.shortestText seconds ++ ")"
  | .custom leaf => showLeaf leaf
  | .any pruners => "AnyPruner" ++ Text.parenthesized (shownEach showLeaf pruners)

def shownEach (showLeaf : L → String) : List (Pruner L) → List String
  | [] => []
  | p :: rest => shown showLeaf p :: shownEach showLeaf rest

end

/-- The limit of a budget in milliseconds; none when the number is beyond every double. -/
def ofMillis? (ms : Int) : Option (Pruner L) :=
  (Number.nearestFloat? ms).map fun x => .limit (x / 1000.0)

def limit? : Pruner L → Option Float
  | .limit seconds => some seconds
  | _ => none

/-- Two pruners built apart are equal when both never stop, or when their limits are equal. Groups
and pruners of the host are equal to themselves only. -/
def equivalent : Pruner L → Pruner L → Bool
  | .never, .never => true
  | .limit a, .limit b => a == b
  | _, _ => false

end Pruner

end Pursuit

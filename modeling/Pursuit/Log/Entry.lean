import Pursuit.Pruner
import Pursuit.Registry.Basic
import Pursuit.Session.Record

/-! # The log

Everything that sessions, registries and the delivery of events put on record, and its wording.
-/

namespace Pursuit

/-- Which part of the library writes a record. -/
inductive Channel where
  | engine
  | registry
  | statistics
deriving DecidableEq

/-- A record of the log, with `K` for pruners and `L` for listeners of the host. -/
inductive LogEntry (K L : Type) where
  /-- A log record of a session that runs under a pruner. -/
  | session (n : SessionRecord Goal Product) (pruner : Pruner K)
  /-- A log record of a registry. -/
  | registry (n : RegistryRecord)
  /-- A listener failed on an event. -/
  | listener (l : L) (event : String) (fault : Fault)

namespace LogEntry

variable {K L : Type}

def channel : LogEntry K L → Channel
  | .session .. => .engine
  | .registry _ => .registry
  | .listener .. => .statistics

def level : LogEntry K L → Level
  | .session n _ => n.level
  | .registry n => n.level
  | .listener .. => .error

def fault? : LogEntry K L → Option Fault
  | .session n _ => n.fault?
  | .registry n => n.fault?
  | .listener _ _ fault => some fault

/-- The text of a record, given how pruners and listeners of the host are shown. -/
def text (showPruner : K → String) (showListener : L → String) : LogEntry K L → String
  | .session n pruner => n.text Goal.shown GoalEvaluator.shown (pruner.shown showPruner)
  | .registry n => n.text
  | .listener l event _ => "Statistics listener " ++ showListener l ++ " failed on " ++ event

end LogEntry

end Pursuit

import Pursuit.Scenario.Step
import Pursuit.Scenario.Trial
import Pursuit.Settings.Environment
import Pursuit.Value.TypeName
import Pursuit.Proofs.Equality
import Pursuit.Proofs.Ledger
import Pursuit.Proofs.Session.Course
import Pursuit.Proofs.Session.Coherence
import Pursuit.Proofs.Session.Once
import Pursuit.Proofs.Session.Progress
import Pursuit.Proofs.Session.Reachability
import Pursuit.Proofs.Behaviour
import Pursuit.Proofs.Session.Transparency
import Pursuit.Proofs.Session.Turns
import Pursuit.Proofs.Session.Path
import Pursuit.Proofs.Session.Answers
import Pursuit.Proofs.Session.Pruning
import Pursuit.Proofs.Session.Termination
import Pursuit.Proofs.Session.Containment
import Pursuit.Proofs.Session.EventTree
import Pursuit.Proofs.Session.EventLog
import Pursuit.Proofs.Session.Ending
import Pursuit.Proofs.Session.Lockstep
import Pursuit.Proofs.Session.Isolation
import Pursuit.Proofs.Session.Limits
import Pursuit.Proofs.Session.Escape
import Pursuit.Proofs.Statistics.Interleaving
import Pursuit.Proofs.Registry.History
import Pursuit.Proofs.Session.Fate
import Pursuit.Proofs.Session.Depth
import Pursuit.Proofs.Statistics.Accounting
import Pursuit.Proofs.Value.Normal
import Pursuit.Proofs.Registry.Soundness
import Pursuit.Proofs.Statistics.Registration
import Pursuit.Proofs.Session.Keeping
import Pursuit.Proofs.Scenario.Registration
import Pursuit.Proofs.Statistics.Delivery
import Pursuit.Proofs.Value.Equality
import Pursuit.Proofs.Value.Join
import Pursuit.Proofs.Search
import Pursuit.Proofs.Session.Formation
import Pursuit.Proofs.Session.ReceivedEvents
import Pursuit.Proofs.Session.Explanations
import Pursuit.Proofs.Budget
import Pursuit.Proofs.Registry.Removal
import Pursuit.Proofs.Goal.Naming
import Pursuit.Proofs.Number.Numeral
import Pursuit.Proofs.Settings.Environment
import Pursuit.Proofs.Session.Groups
import Pursuit.Proofs.Value.TypeName

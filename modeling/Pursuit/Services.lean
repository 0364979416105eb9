import Pursuit.Log.Entry
import Pursuit.Session.Run
import Pursuit.Statistics.Delivery

/-! # The services of sessions

The parts that a host brings, put together into one that answers the demands of sessions: evaluators
of the standard classes do their own work, the host does that of its own classes, and events are
delivered to its listeners.
-/

namespace Pursuit

/-- What a host brings: a world `W`, factories `F`, functions `β`, pruners `K` and listeners `L` of
its own. -/
structure Services (W F β K L : Type) where
  /-- The time, in seconds. -/
  clock : W → Float
  /-- Ask a factory. -/
  askFactory : F → Goal → Attempt W (Option Product)
  /-- Call a function that was registered as a constructor. -/
  callFunction : β → Goal → Attempt W (Option Product)
  /-- Build an evaluator of a class that can be built from a goal alone. -/
  setUp : EvaluatorClass → Goal → Attempt W Evaluator
  /-- Ask an evaluator of the host's own classes for its first subgoals. -/
  initCustom : Evaluator → Attempt W (List Goal)
  /-- Hand an evaluator of the host's own classes the answers to its batch. -/
  resumeCustom : Evaluator → Ledger Goal (Option Value) → Attempt W (Outcome Goal Value)
  /-- See that an index of the host is asked. -/
  noticeSearch : Query → W → W
  /-- Ask a pruner, with the time since the session started. -/
  askPruner : K → Float → Attempt W Bool
  /-- The registered listeners. -/
  listeners : W → Listeners L
  /-- Tell a listener. -/
  hear : L → Event Goal Value Product → Attempt W Unit
  /-- Write to the log. -/
  record : LogEntry K L → W → W

namespace Services

variable {W F β K L : Type}

/-- Where registries have their evaluators built. -/
def builder (p : Services W F β K L) : Builder W F β :=
  { askFactory := p.askFactory
    callFunction := p.callFunction
    setUp := p.setUp
    record := fun n => p.record (.registry n) }

/-! ## Evaluators -/

def init (p : Services W F β K L) (e : Evaluator) : Attempt W (List Goal) :=
  match e.cls.init with
  | some .nothing => pure []
  | some .custom | none => p.initCustom e

def search (p : Services W F β K L) (index : SourceIndex) (query : Query) :
    Attempt W (List IndexElement) :=
  .ofFunction fun w => (index.search query, if index.isForeign then p.noticeSearch query w else w)

/-- Let an evaluator search the index of its goal's context. -/
def searchFor (p : Services W F β K L) (e : Evaluator) (kind : Option ReferenceKind) :
    Attempt W (Outcome Goal Value) := do
  let index ← .ofExcept e.goal.index
  let query ← .ofExcept (e.query kind)
  let found ← p.search index query
  return .done (some (Evaluator.foundReferences found))

def resume (p : Services W F β K L) (e : Evaluator) (answers : Ledger Goal (Option Value)) :
    Attempt W (Outcome Goal Value) :=
  match e.cls.resume with
  | some .absent => pure (.done none)
  | some .preset => return .done (← .ofExcept e.presetAnswer)
  | some (.search kind) => p.searchFor e kind
  | some .custom | none => p.resumeCustom e answers

/-- The first subgoals of what a factory handed out. -/
def initProduct (p : Services W F β K L) : Product → Attempt W (List Goal)
  | .evaluator e => p.init e
  | .other d => .fault (.missingAttribute d.className "init")

/-- What a factory's product does with the answers to its batch. -/
def resumeProduct (p : Services W F β K L) (product : Product)
    (answers : Ledger Goal (Option Value)) : Attempt W (Outcome Goal Value) :=
  match product with
  | .evaluator e => p.resume e answers
  | .other d => .fault (.missingAttribute d.className "resume")

/-! ## Sessions -/

/-- Deliver an event to the registered listeners and to those of the session. -/
def emit (p : Services W F β K L) [BEq L] (extras : List L) (event : Event Goal Value Product)
    (w : W) : Option Interrupt × W :=
  deliver (fun l => p.hear l event) (fun l f => p.record (.listener l event.name f))
    ((p.listeners w).targets extras) w

/-- The host of a session that gets its evaluators from `create`. -/
def host (p : Services W F β K L) [BEq L] (create : Goal → Attempt W (Option Product))
    (pruner : Pruner K) (extras : List L) : Host W Goal Value Product :=
  { clock := p.clock
    check := fun elapsed => pruner.shouldStop p.askPruner elapsed
    create := create
    init := p.initProduct
    resume := p.resumeProduct
    emit := p.emit extras
    record := fun n => p.record (.session n pruner) }

/-- What a registry hands out. -/
def supplyFrom (p : Services W F β K L) (r : Registry F β) (goal : Goal) :
    Attempt W (Option Product) :=
  return (← r.create p.builder goal).map .evaluator

/-- Resolve a root goal in a session of its own; without a pruner nothing stops it. -/
def resolve (p : Services W F β K L) [BEq L] (create : Goal → Attempt W (Option Product))
    (settings : Settings) (stackLimit : Int) (fuel : Nat) (pruner : Option (Pruner K))
    (extras : List L) (root : Goal) (w : W) : Option (Except Failure (Option Value)) × W :=
  evaluate (p.host create (pruner.getD .never) extras) settings stackLimit fuel root w

end Services

end Pursuit

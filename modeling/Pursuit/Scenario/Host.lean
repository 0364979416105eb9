import Pursuit.Scenario.World
import Pursuit.Value.Combine

/-! # The scripted host

How the scripted parts do their work. An action may run a session of its own, so all of it is given
the means to resolve a goal; `resolve` ties the two together, to a given depth of sessions within
sessions.
-/

namespace Pursuit.Scenario

/-- The means to resolve a goal in a session of its own. -/
abbrev Resolver := Goal → Play (Option Value)

/-- On whose behalf actions are played: the goal that a goal name refers to, and the evaluator that
keeps the results of sessions. -/
structure Actor where
  goal : Option Goal
  serial : Option Nat

/-! ## Actions -/

def listenerPlace (id : String) : Play Nat := do
  match (← get).listenerPlaces.find? id with
  | some place => pure place
  | none => .fault (.missingKey id)

def addListener (id : String) : Play Unit := do
  let place ← listenerPlace id
  modify fun w => { w with registered := w.registered.add place }

def removeListener (id : String) : Play Unit := do
  let place ← listenerPlace id
  modify fun w => { w with registered := w.registered.remove place }

def advance (seconds : Amount) : Play Unit := do
  let seconds ← .ofExcept seconds.double
  modify fun w => { w with now := w.now + seconds }

def act (resolver : Resolver) (actor : Actor) : Action → Play Unit
  | .advance seconds => advance seconds
  | .addListener id => addListener id
  | .removeListener id => removeListener id
  | .raise failure => throw failure
  | .eval name => do
    let goal ← goalNamed actor.goal name
    let value ← resolver goal
    match actor.serial with
    | some serial => remember serial fun m => { m with nested := m.nested ++ [value] }
    | none => pure ()

def actAll (resolver : Resolver) (actor : Actor) (actions : List Action) : Play Unit :=
  actions.forM (act resolver actor)

/-! ## Evaluators -/

/-- Keep room for what a new evaluator will remember. -/
def newSerial : Play Nat := do
  let w ← get
  set { w with memories := w.memories.push {} }
  return w.memories.size

def setUp (resolver : Resolver) (cls : EvaluatorClass) (goal : Goal) : Play Evaluator := do
  let serial ← newSerial
  if cls.customSetUp then
    trace (.make goal)
    actAll resolver ⟨some goal, some serial⟩ ((← get).scriptFor goal).onMake
  return { cls, goal, serial, preset := none }

def initScripted (resolver : Resolver) (e : Evaluator) : Play (List Goal) := do
  trace (.init e.goal)
  let script := (← get).scriptFor e.goal
  actAll resolver ⟨some e.goal, some e.serial⟩ script.onInit
  match script.init with
  | .ok names => names.mapM (goalNamed (some e.goal))
  | .error failure => throw failure

def doubleOf : Data → Except Fault Float
  | .real x => .ok x
  | d =>
    match d.integer? with
    | some n => (Amount.whole n).double
    | none => .error .badType

/-- The sum of two numbers, which is an integer when both are. -/
def plus (a b : Data) : Except Fault Data :=
  match a.integer?, b.integer? with
  | some m, some n => .ok (.number (m + n))
  | _, _ => return .real ((← doubleOf a) + (← doubleOf b))

/-- Add an answer to a sum. An absent one changes nothing, and only numbers can be added. -/
def plusAnswer (sum : Data) : Option Value → Except Fault Data
  | none => .ok sum
  | some (.data d) => plus sum d
  | some _ => .error .badType

/-- The result that an expression stands for, from what the evaluator of a goal remembers and the
answers of the batch. -/
def Expression.value (goal : Goal) (memory : Memory) (batch : List (Option Value)) :
    Expression → Except Fault (Option Value)
  | .collect =>
    let field := (secondField? goal).bind FieldValue.data?
    .ok (some (.tuple [field.bind Value.ofData?, some (.tuple memory.received)]))
  | .last => .ok (some (.tuple batch))
  | .combine literals => return Value.combine ((← literals) ++ memory.received)
  | .size => do
    let sum ← memory.received.foldlM plusAnswer (.number 0)
    return some (.data (← plus (.number 1) sum))
  | .calls => .ok (some (.data (.number memory.calls)))
  | .nested => .ok (some (.tuple memory.nested))
  | .const value => value

/-- The reply of a scripted evaluator. It may write to the answers only if they are not sealed, and
its goal is what it writes there. -/
def reply (answersSealed : Bool) (e : Evaluator) (batch : List (Option Value)) :
    Reply → Play (Outcome Goal Value)
  | .raise failure => throw failure
  | .stray object => do
    let object ← .ofExcept object
    return .stray (Value.optionalClassName object) (Value.shownOptional object)
  | .tamper rest =>
    if answersSealed || !Keyed.isKey e.goal then .fault .badType
    else reply answersSealed e batch rest
  | .moreThenRaise names failure =>
    tryCatch
      (do
        let _ ← names.mapM (goalNamed (some e.goal))
        return .more (.error failure))
      fun earlier => return .more (.error earlier)
  | .more names => return .more (.ok (← names.mapM (goalNamed (some e.goal))))
  | .done expression => do
    let memory := (← get).memoryOf e
    return .done (← .ofExcept (expression.value e.goal memory batch))

def resumeScripted (resolver : Resolver) (answersSealed : Bool) (e : Evaluator)
    (answers : Ledger Goal (Option Value)) : Play (Outcome Goal Value) := do
  trace (.resume e.goal answers)
  let batch := answers.map (·.2)
  let played := ((← get).memoryOf e).calls
  remember e.serial fun m => { m with received := m.received ++ batch, calls := m.calls + 1 }
  let turn := ((← get).scriptFor e.goal).turn played
  actAll resolver ⟨some e.goal, some e.serial⟩ turn.actions
  reply answersSealed e batch turn.reply

/-! ## Factories -/

/-- What a scripted function hands out for a goal. -/
def callBody (resolver : Resolver) (body : Body) (goal : Goal) : Play (Option Product) := do
  actAll resolver ⟨some goal, none⟩ body.actions
  match body.handout with
  | .evaluator className =>
    match (← get).evaluatorClasses.find? className with
    | some cls =>
      if cls.buildable then return some (.evaluator (← setUp resolver cls goal))
      else .fault .badType
    | none => .fault (.missingKey className)
  | .fixed answer =>
    let answer ← .ofExcept answer
    let serial ← newSerial
    return some (.evaluator { cls := .fixedAnswer, goal, serial, preset := some answer })
  | .junk .null => return none
  | .junk d => return some (.other d)
  | .nothing => return none

def Rule.fits (rule : Rule) (goal : Goal) : Bool :=
  rule.kind == writtenKind goal && match rule.field with
    | none => true
    | some field => .data field == (secondField? goal).getD (.data .null)

/-- What a scripted factory hands out for a goal. -/
def askFactory (resolver : Resolver) (f : Factory) (goal : Goal) : Play (Option Product) := do
  trace (.factory goal)
  match ((f.rules.find? (·.fits goal)).map (·.body)) <|> f.default with
  | some body => callBody resolver body goal
  | none => return none

/-! ## Pruners and listeners -/

/-- The answer of a pruner of the host. -/
def askLeaf (leaf : Leaf) (elapsed : Float) : Play Bool :=
  .ofFunction fun w =>
    let (answer, probes) := leaf.ask elapsed w.probes
    (answer, { w with probes })

def hear (resolver : Resolver) (place : Nat) (event : Happening) : Play Unit := do
  let w ← get
  match w.listeners[place]? with
  | none => pure ()
  | some l =>
    match l.role with
    | .silent => pure ()
    | .recording r => setRole place (.recording (r.hear event))
    | .collecting totals =>
      let (reply, totals) :=
        (Collector.hear Goal.kind GoalEvaluator.goal w.thread event).perform totals
      setRole place (.collecting totals)
      MonadExcept.ofExcept reply
    | .scripted on =>
      match on.find? event.name with
      | none => pure ()
      | some actions =>
        trace (.listener l.id event.name)
        actAll resolver ⟨none, none⟩ actions

/-! ## Sessions -/

/-- The scripted host. Sessions hand out sealed answers. -/
def services (resolver : Resolver) (answersSealed : Bool) :
    Services World Factory Body Leaf Nat :=
  { clock := (·.now)
    askFactory := askFactory resolver
    callFunction := callBody resolver
    setUp := setUp resolver
    initCustom := initScripted resolver
    resumeCustom := resumeScripted resolver answersSealed
    noticeSearch := fun query w => w.traced (.find query)
    askPruner := askLeaf
    listeners := (·.registered)
    hear := hear resolver
    record := fun entry w => w.logged entry }

/-- The most demands that a session is given. -/
def sessionFuel : Nat := Nat.pow 2 60

/-- The most sessions within sessions. -/
def nestingDepth : Nat := 1000

/-- Resolve a goal on an engine in one session. One with a registry is an inferencer. -/
def Engine.evaluateGoal (engine : Engine) (nested : Resolver) (pruner : Option (Pruner Leaf))
    (extras : List Nat) (goal : Goal) (w : World) :
    Option (Except Failure (Option Value)) × World :=
  let p := services nested true
  match engine.supply with
  | .factory f =>
    p.resolve (p.askFactory f) engine.settings w.stackLimit sessionFuel pruner extras goal w
  | .registry place =>
    let i : Inferencer Factory Body := ⟨engine.settings, w.registryAt place⟩
    i.evaluateGoal p w.stackLimit sessionFuel pruner extras goal w

/-- What comes of asking for an engine when there is none. -/
def noEngine (wanted : String) : Fault :=
  .missingAttribute "NoneType" wanted

/-- Resolve a goal on an engine, with at most `depth` sessions within one another. A session started
by a script runs on the engine in use, without a pruner and for the registered listeners only. -/
def resolveWithin : (depth : Nat) → Engine → Option (Pruner Leaf) → List Nat → Resolver
  | 0, _, _, _ => fun _ => .fault (.stackExhausted "sessions are nested too deeply")
  | depth + 1, engine, pruner, extras => fun goal => .ofFunction fun w =>
    let nested : Resolver := fun g => do
      match (← get).engine with
      | some current => resolveWithin depth current none [] g
      | none => .fault (noEngine "engine")
    match engine.evaluateGoal nested pruner extras goal w with
    | (some outcome, w) => (outcome, w)
    | (none, w) => (.error (.fault (.broken "the session does not end")), w)

def resolve (engine : Engine) (pruner : Option (Pruner Leaf)) (extras : List Nat) : Resolver :=
  resolveWithin nestingDepth engine pruner extras

def resolveInUse : Resolver := fun goal => do
  match (← get).engine with
  | some engine => resolve engine none [] goal
  | none => .fault (noEngine "engine")

/-- The scripted host outside of sessions. -/
def standingServices : Services World Factory Body Leaf Nat :=
  services resolveInUse false

end Pursuit.Scenario

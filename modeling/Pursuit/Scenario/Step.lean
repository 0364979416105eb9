import Pursuit.Scenario.Host
import Pursuit.Scenario.NameExpression
import Pursuit.Scenario.ParameterList

/-! # Steps of a scenario

A scenario is played step by step. A step answers or is refused; what it did before it was refused
stays done.
-/

namespace Pursuit.Scenario

/-- An object offered as the kind of goal. -/
inductive KeyName where
  | kind (name : String)
  /-- The goal class of a kind. -/
  | goalClass (kind : String)
  /-- A class that is none of declared goals, in its shown form. -/
  | otherClass (path : String)
  | object (d : Data)

/-- An object offered as the constructor of evaluators. -/
inductive ConstructorName where
  | evaluators (className : String)
  /-- A class that is none of evaluators. -/
  | otherClass (className : String)
  | object (d : Data)
  | sealed (body : Body)
  /-- A scripted function, with the text of what it says that it returns. -/
  | function (params : List ParameterWord) (returns : Option String) (body : Body)

/-- A type argument as a script names it. -/
inductive ArgumentName where
  /-- The goal class of a kind; none is the class of all goals. -/
  | goals (kind : Option String)
  | free (name : String)
  | other

/-- A new evaluator class as a script names it. -/
structure ClassName where
  name : String
  base : String
  typeVariables : List String
  arguments : Option (List ArgumentName)
  definesInit : Bool
  definesResume : Bool
  constructor : List ParameterKind

/-- A new goal class as a script names it. -/
structure GoalClassName where
  name : String
  base : Option String
  kind : Option String
  fields : List FieldDeclaration

/-- Settings as a script gives them. -/
structure SettingsName where
  timeLimitMs : Option Int
  maxDepth : Int

/-- The role of a new listener. -/
inductive RoleName where
  | recording
  | collecting
  | silent
  | scripted (on : Ledger String (List Action))

/-- An event that is sent by hand, with the null evaluator of its goal as the evaluator. -/
structure Signal where
  event : String
  goal : GoalName
  extras : List String
  thread : Option String
  elapsed : Amount
  subgoals : Option (List GoalName)
  finished : Option GoalName
  result : Except Fault (Option Value)
  state : Option Data
  old : Option Data

/-- A time limit as a script gives it. -/
inductive LimitName where
  | unset
  | millis (ms : Int)
  | truth (b : Bool)
  | pruner (p : PrunerScript)

inductive Step where
  | define (declaration : GoalClassName)
  | goalClass (kind : String)
  | goalKinds
  | goalsEqual (a b : GoalName)
  | distinctGoals (goals : List GoalName)
  | showGoal (goal : GoalName)
  | newRegistry (factory : Option Factory)
  | register (key : KeyName) (constructor : ConstructorName)
  | unregister (key : KeyName)
  | isRegistered (key : KeyName)
  | kinds
  | defineEvaluators (declaration : ClassName)
  | goalParameter (className : String)
  | create (goal : GoalName)
  | drive (goal : GoalName)
  | newEngine (factory : Option Factory) (settings : SettingsName)
  | newInferencer (factory : Option Factory) (settings : SettingsName)
  | evaluate (goal : GoalName) (pruner : Option PrunerScript) (listeners : List String)
  | evaluateType (goal : GoalName) (limit : LimitName)
  | setStackLimit (limit : Int)
  | advance (seconds : Amount)
  | newListener (id : String) (role : RoleName)
  | addListener (id : String)
  | removeListener (id : String)
  | events (id : String) (clear : Bool)
  | eventNames (id : String)
  | eventsNamed (id event : String)
  | snapshot (id : String)
  | reset (id : String)
  | emit (signal : Signal)

inductive StepError where
  | failure (f : Failure)
  | settings (e : SettingsError)
  | registration (e : RegistrationError)
  | declaration (e : DeclarationError)
  | budget (e : BudgetError)
  | parameters (e : ParameterError)

/-- How an evaluator that is driven by hand answers. -/
inductive Driven where
  | done (value : Option Value)
  | more (goals : List Goal)

inductive Answer where
  | nothing
  | flag (b : Bool)
  | number (n : Nat)
  | text (s : String)
  | optionalText (s : Option String)
  | texts (items : List String)
  | value (v : Option Value)
  | goals (items : List Goal)
  | settings (s : Settings)
  | evaluator (made : Option Evaluator)
  | driven (result : Option (List Goal × Driven))
  | events (items : List Happening)
  | totals (c : Collector (Option String) Goal FieldValue)

abbrev Doing := ExceptT StepError (StateM World)

/-- Do what scripted parts do. -/
def playing {α : Type} (p : Play α) : Doing α :=
  ExceptT.mk fun w =>
    match p.perform w with
    | (.ok a, w) => (.ok a, w)
    | (.error f, w) => (.error (.failure f), w)

def orRefuse {ε α : Type} (refuse : ε → StepError) (result : Except ε α) : Doing α :=
  match result with
  | .ok a => pure a
  | .error e => throw (refuse e)

def goalIn (name : GoalName) : Doing Goal :=
  playing (goalNamed none name)

def refuse {α : Type} (f : Fault) : Doing α :=
  throw (.failure (.fault f))

def evaluatorClassNamed (name : String) : Doing EvaluatorClass := do
  match (← get).evaluatorClasses.find? name with
  | some c => pure c
  | none => refuse (.missingKey name)

/-! ## Registrations -/

/-- The key that a step offers. A text is a kind, also as a plain object. -/
def keyIn : KeyName → Doing KindKey
  | .kind name | .object (.text name) => pure (.named name)
  | .goalClass kind => return .cls (← playing (goalClassOf kind))
  | .otherClass path => pure (.other (shownClass path))
  | .object d => pure (.other d.shown)

/-- The names of classes, besides those of evaluators, that a function may say it returns. -/
def plainClasses : List String :=
  ["str", "int", "object", "type", "bool"]

/-- What a function says that it returns, in an expression of its own if it has one. -/
def returnHint (classes : Ledger String EvaluatorClass) (hint : Option String) : ReturnHint :=
  match hint.bind NameExpression.name? with
  | none => .unchecked
  | some name =>
    match classes.find? name with
    | some c => .evaluators c
    | none => if plainClasses.contains name then .others name else .unchecked

def constructorIn : ConstructorName → Doing (Constructor Body)
  | .evaluators name => return .evaluators (← evaluatorClassNamed name)
  | .otherClass name => pure (.others name)
  | .object d => pure (.object d.shown)
  | .sealed body => pure (.sealed body)
  | .function params returns body => do
    let params ← orRefuse .parameters (parameters params)
    return .function params (returnHint (← get).evaluatorClasses returns) body

/-- The place of the registry to which registrations go: that of the inferencer in use, or the one
in use. -/
def World.registrationPlace (w : World) : Nat :=
  (w.engine.bind (·.ownRegistry)).getD w.registry

/-- Change a registry, and give the kinds of the one in use afterwards. -/
def changeRegistry (place : Nat) (change : Catalogue → Registry Factory Body →
    Except RegistrationError (Registry Factory Body)) : Doing Answer := do
  let w ← get
  let changed ← orRefuse .registration (change w.catalogue (w.registryAt place))
  set { w with registries := w.registries.setIfInBounds place changed }
  return .texts (← get).currentRegistry.kinds

/-- Put a registry behind those that are there, and use it. -/
def useRegistry (r : Registry Factory Body) : Doing Nat := do
  let w ← get
  set { w with registries := w.registries.push r, registry := w.registries.size }
  return w.registries.size

def declareEvaluators (d : ClassName) : Doing Answer := do
  let base ← evaluatorClassNamed d.base
  let arguments ← d.arguments.mapM fun names => names.mapM fun
    | .goals none => pure (TypeArgument.goals .base)
    | .goals (some kind) => return .goals (.declared (← playing (goalClassOf kind)))
    | .free name => pure (.free name)
    | .other => pure .other
  let declaration : EvaluatorDeclaration := {
    name := d.name, base, typeVariables := d.typeVariables, arguments, constructor := d.constructor
    init := if d.definesInit then some .custom else none
    resume := if d.definesResume then some .custom else none }
  unless declaration.fitsBase do refuse .badType
  if Catalogue.isBadName d.name then throw (.declaration .badName)
  match declaration.toClass? with
  | none => refuse .badType
  | some c =>
    modify fun w => { w with evaluatorClasses := w.evaluatorClasses.put d.name c }
    return .nothing

/-- The evaluator that the registry in use hands out for a goal. -/
def createEvaluator (goal : Goal) : Doing (Option Evaluator) := do
  playing ((← get).currentRegistry.create standingServices.builder goal)

/-- Take an evaluator of the registry in use through one round without answers. -/
def driveGoal (goal : Goal) : Doing Answer := do
  match ← createEvaluator goal with
  | none => return .driven none
  | some e =>
    let subgoals ← playing (standingServices.init e)
    match ← playing (standingServices.resume e []) with
    | .done value => return .driven (some (subgoals, .done value))
    | .more (.ok goals) => return .driven (some (subgoals, .more goals))
    | .more (.error failure) => throw (.failure failure)
    | .stray className _ => refuse (.missingAttribute className "goals")

/-! ## Engines -/

def settingsIn (s : SettingsName) : Doing Settings :=
  orRefuse .settings (Settings.make s.timeLimitMs s.maxDepth)

def prunerIn (script : PrunerScript) : Doing (Pruner Leaf) := do
  let w ← get
  let (result, probes) := script.build w.probes
  set { w with probes }
  orRefuse .budget result

def engineInUse : Doing Engine := do
  match (← get).engine with
  | some engine => pure engine
  | none => refuse (noEngine "evaluate_goal")

/-- The engine in use, which has to be an inferencer. -/
def inferencerInUse : Doing Engine := do
  match (← get).engine with
  | some engine => if engine.ownRegistry.isSome then pure engine else absent
  | none => absent
where
  /-- There is no inferencer. -/
  absent : Doing Engine := refuse (noEngine "evaluate_type")

def limitIn : LimitName → Doing (TimeLimit Leaf)
  | .unset => pure .unset
  | .millis ms => pure (.millis ms)
  | .truth b => pure (.truth b)
  | .pruner script => return .pruner (← prunerIn script)

/-! ## Statistics -/

/-- The role of the listener with a name. -/
def roleOf (id : String) : Doing (Nat × Role) := do
  let place ← playing (listenerPlace id)
  match (← get).listeners[place]? with
  | some l => return (place, l.role)
  | none => return (place, .silent)

/-- What a listener recorded, of which `wanted` is asked. -/
def recordingOf (id wanted : String) : Doing (Nat × Recording Goal Value Product) := do
  let (place, role) ← roleOf id
  match role with
  | .recording r => return (place, r)
  | role => refuse (.missingAttribute role.className wanted)

/-- What a listener counted, of which `wanted` is asked. -/
def totalsOf (id wanted : String) : Doing (Nat × Collector (Option String) Goal FieldValue) := do
  let (place, role) ← roleOf id
  match role with
  | .collecting totals => return (place, totals)
  | role => refuse (.missingAttribute role.className wanted)

def World.registeredIds (w : World) : List String :=
  w.registered.filterMap fun place => (w.listeners[place]?).map (·.id)

def amountIn (amount : Amount) : Doing Float :=
  match amount.double with
  | .ok x => pure x
  | .error f => refuse f

/-- The state whose name an object is. -/
def stateIn (d : Data) : Doing GoalState :=
  let state? := match d with
    | .text name => GoalState.ofName? name
    | _ => none
  match state? with
  | some state => pure state
  | none => refuse (.badValue (d.shown ++ " is not a valid GoalState"))

/-- The event that a signal sends. The time and the subgoals are looked at whatever the event is,
all else only if it belongs to it, the state that is left before the one that is entered. -/
def eventIn (s : Signal) : Doing Happening := do
  let goal ← goalIn s.goal
  let evaluator : GoalEvaluator Goal Product := .nullEvaluator goal
  let elapsed ← amountIn s.elapsed
  let subgoals ← s.subgoals.mapM (·.mapM goalIn)
  match s.event with
  | "evaluation_started" => return .evaluationStarted goal
  | "goal_evaluator_assigned" => return .evaluatorAssigned goal evaluator
  | "evaluator_initialized" => return .initialized evaluator (subgoals.getD []) elapsed
  | "evaluator_received_result" =>
    return .received evaluator (← s.finished.mapM goalIn) subgoals elapsed
  | "evaluator_produced_result" =>
    match s.result with
    | .ok result => return .produced evaluator result elapsed
    | .error f => refuse f
  | "goal_state_changed" => do
    let old ← s.old.mapM stateIn
    match s.state with
    | some state => return .stateChanged goal (← stateIn state) old
    | none => refuse (.missingKey "state")
  | name => refuse (.missingAttribute "StatisticsSink" name)

/-- Send an event by hand, on the thread that it names. -/
def sendSignal (s : Signal) : Doing Answer := do
  let event ← eventIn s
  let extras ← s.extras.mapM fun id => playing (listenerPlace id)
  let before := (← get).thread
  modify fun w => { w with thread := s.thread }
  let (reply, w) := standingServices.emit extras event (← get)
  set { w with thread := before }
  match reply with
  | none => return .nothing
  | some i => throw (.failure (.interrupt i))

/-! ## What is written out -/

def evaluatorFault? : GoalEvaluator Goal Product → Option Fault
  | .nullEvaluator goal => unwritable? [goal]
  | .evaluator (.evaluator e) => unwritable? [e.goal]
  | .evaluator (.other d) => some (.missingAttribute d.className "goal")

/-- Why an event cannot be written out. -/
def eventFault? : Happening → Option Fault
  | .evaluationStarted root => unwritable? [root]
  | .evaluatorAssigned goal evaluator => unwritable? [goal] <|> evaluatorFault? evaluator
  | .initialized evaluator subgoals _ => evaluatorFault? evaluator <|> unwritable? subgoals
  | .received evaluator finished requested _ =>
    evaluatorFault? evaluator <|> unwritable? (finished.toList ++ requested.getD [])
  | .produced evaluator _ _ => evaluatorFault? evaluator
  | .stateChanged goal _ _ => unwritable? [goal]

/-- Why an answer cannot be written out. -/
def Answer.fault? : Answer → Option Fault
  | .goals items => unwritable? items
  | .evaluator made => unwritable? (made.map (·.goal)).toList
  | .driven (some (subgoals, .more asked)) => unwritable? (subgoals ++ asked)
  | .driven (some (subgoals, .done _)) => unwritable? subgoals
  | .events items => items.findSome? eventFault?
  | _ => none

def written (answer : Answer) : Doing Answer :=
  match answer.fault? with
  | some f => refuse f
  | none => return answer

/-! ## Steps -/

def Step.doing : Step → Doing Answer
  | .define d => do
    let base ← d.base.mapM fun kind => playing (goalClassOf kind)
    let declaration := { name := d.name, home := "dyn", base, kind := d.kind, fields := d.fields }
    let (c, cat) ← orRefuse .declaration ((← get).catalogue.declare declaration)
    modify fun w => { w with catalogue := cat }
    return .text c.kind
  | .goalClass kind => return .text (← playing (goalClassOf kind)).name
  | .goalKinds => return .texts (← get).catalogue.kinds
  | .goalsEqual a b => do
    let a ← goalIn a
    let b ← goalIn b
    if a == b && !Keyed.isKey a then refuse .badType
    return .flag (a == b)
  | .distinctGoals names => do
    let goals ← names.mapM goalIn
    match Goal.distinct goals with
    | .ok kept => return .goals kept
    | .error f => refuse f
  | .showGoal name => return .text (← goalIn name).shown
  | .newRegistry factory => do
    let _ ← useRegistry (.empty factory)
    return .nothing
  | .register key constructor => do
    let key ← keyIn key
    let constructor ← constructorIn constructor
    changeRegistry (← get).registrationPlace fun cat r => r.register cat key constructor
  | .unregister key => do
    let key ← keyIn key
    changeRegistry (← get).registry fun cat r => r.unregister cat key
  | .isRegistered key => do
    let key ← keyIn key
    let w ← get
    return .flag (w.currentRegistry.isRegistered w.catalogue key)
  | .kinds => return .texts (← get).currentRegistry.kinds
  | .defineEvaluators d => declareEvaluators d
  | .goalParameter name => do
    return .optionalText ((← evaluatorClassNamed name).goalParameter.map (·.name))
  | .create name => do
    return .evaluator (← createEvaluator (← goalIn name))
  | .drive name => do driveGoal (← goalIn name)
  | .newEngine factory settings => do
    let settings ← settingsIn settings
    let place := (← get).registry
    let supply := match factory with
      | some f => .factory f
      | none => .registry place
    modify fun w => { w with engine := some { supply, settings, ownRegistry := none } }
    return .settings settings
  | .newInferencer factory settings => do
    let settings ← settingsIn settings
    let made ← orRefuse .registration (Inferencer.make (← get).catalogue factory settings)
    let place ← useRegistry made.registry
    let engine : Engine := { supply := .registry place, settings, ownRegistry := some place }
    modify fun w => { w with engine := some engine }
    return .settings settings
  | .evaluate name pruner listeners => do
    let pruner ← pruner.mapM prunerIn
    let extras ← listeners.mapM fun id => playing (listenerPlace id)
    let engine ← engineInUse
    let goal ← goalIn name
    return .value (← playing (resolve engine pruner extras goal))
  | .evaluateType name limit => do
    let limit ← limitIn limit
    let engine ← inferencerInUse
    let goal ← goalIn name
    let pruner ← orRefuse .budget (engine.settings.budget limit)
    return .value (← playing (resolve engine pruner [] goal))
  | .setStackLimit limit => do
    modify fun w => { w with stackLimit := limit }
    return .number (stackBound limit)
  | .advance seconds => do
    playing (Scenario.advance seconds)
    return .nothing
  | .newListener id role => do
    let role := match role with
      | .recording => .recording {}
      | .collecting => .collecting {}
      | .silent => .silent
      | .scripted on => .scripted on
    modify fun w => { w with
      listeners := w.listeners.push ⟨id, role⟩
      listenerPlaces := w.listenerPlaces.put id w.listeners.size }
    return .nothing
  | .addListener id => do
    playing (Scenario.addListener id)
    return .texts (← get).registeredIds
  | .removeListener id => do
    playing (Scenario.removeListener id)
    return .texts (← get).registeredIds
  | .events id clear => do
    let (place, r) ← recordingOf id "events"
    let answer ← written (.events r.events.toList)
    if clear then playing (setRole place (.recording {}))
    return answer
  | .eventNames id => return .texts (← recordingOf id "names").2.names
  | .eventsNamed id event => return .events ((← recordingOf id "of").2.named event)
  | .snapshot id => return .totals (← totalsOf id "snapshot").2
  | .reset id => do
    let (place, _) ← totalsOf id "reset"
    playing (setRole place (.collecting {}))
    return .nothing
  | .emit signal => sendSignal signal

/-- What one step showed: its answer or why it was refused, the calls of scripted parts, the times
at which the probes made in it were asked, and the log. -/
structure Report where
  outcome : Except StepError Answer
  trace : List TraceEntry
  checks : List (List Float)
  log : List LogRecord

def World.play (w : World) (step : Step) : Report × World :=
  let answering : Doing Answer := do written (← step.doing)
  let (outcome, after) := answering.run.run { w with trace := [], log := [] }
  let checks := (after.probes.toList.drop w.probes.size).map (·.times)
  ({ outcome, trace := after.trace.reverse, checks, log := after.log.reverse }, after)

/-! ## The beginning -/

/-- Goal classes that every scenario has besides those of the library. -/
def scenarioGoals : List GoalClass := [
  { name := "NodeGoal", kind := "node", home := "driver"
    layout := FieldSpec.bare ++ [⟨"name", none⟩], ancestors := [] },
  { name := "NumGoal", kind := "num", home := "driver"
    layout := FieldSpec.bare ++ [⟨"number", none⟩], ancestors := [] },
  { name := "TypeOfGoal", kind := "type_of", home := "driver"
    layout := FieldSpec.bare ++ [⟨"name", none⟩], ancestors := [abstractTypeGoal.kind] },
  { name := "ScopedCallsGoal", kind := "scoped_calls", home := "driver"
    layout := methodCallsGoal.layout, ancestors := [methodCallsGoal.kind] }]

def scriptedEvaluators : EvaluatorClass :=
  { name := "ScriptEvaluator", constructor := [.positional], customSetUp := true
    arguments := [.goals .base], typeVariables := []
    init := some .custom, resume := some .custom }

def scenarioEvaluators : List EvaluatorClass :=
  [.root, .nullEvaluator, .fixedAnswer, .indexSearch, .fieldReferences, .methodCalls,
    scriptedEvaluators]

def plainContext : Context :=
  { module := .text "m.py", instanceType := none, index := .empty }

def World.start (now : Float) (stackLimit : Int) (logging : Bool) (contexts : Ledger String Context)
    (scripts : Ledger String Script) : World :=
  { now, thread := none, stackLimit
    catalogue := ⟨Catalogue.standard.classes ++ scenarioGoals⟩
    evaluatorClasses := scenarioEvaluators.map fun c => (c.name, c)
    contexts := contexts ++ [("c", plainContext)]
    scripts
    registries := #[.empty none], registry := 0
    engine := none
    listeners := #[], listenerPlaces := [], registered := []
    memories := #[], probes := #[]
    trace := [], logging, log := [] }

end Pursuit.Scenario

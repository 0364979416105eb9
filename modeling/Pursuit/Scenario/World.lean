import Pursuit.Inferencer
import Pursuit.Scenario.Script
import Pursuit.Statistics.Collector
import Pursuit.Statistics.Recording

/-! # The world of a scenario

All that a scripted host remembers: the time, the declared classes, the registries, the listeners,
what the evaluators have been told, and two lists of what happened.
-/

namespace Pursuit.Scenario

abbrev Happening := Event Goal Value Product

structure Memory where
  /-- All answers so far. -/
  received : List (Option Value) := []
  /-- How often it was handed answers. -/
  calls : Nat := 0
  /-- The results of the sessions it ran itself. -/
  nested : List (Option Value) := []

/-- A call of a scripted part, as the trace keeps it. -/
inductive TraceEntry where
  | make (goal : Goal)
  | init (goal : Goal)
  | resume (goal : Goal) (answers : Ledger Goal (Option Value))
  | factory (goal : Goal)
  | listener (id event : String)
  | find (query : Query)

def TraceEntry.goals : TraceEntry → List Goal
  | .make goal | .init goal | .factory goal => [goal]
  | .resume goal answers => goal :: answers.keys
  | .listener .. | .find _ => []

/-- Why goals cannot be written out: the module of the context is wanted, and one of them has
something else in its place. -/
def unwritable? (goals : List Goal) : Option Fault :=
  goals.findSome? fun goal =>
    match goal.getField FieldSpec.contextName with
    | .ok (.context _) => none
    | .ok (.data d) => some (.missingAttribute d.className "module")
    | .error f => some f

/-- The field of a goal that comes after the first. -/
def secondField? (goal : Goal) : Option FieldValue :=
  goal.values[1]?

def writtenKind (goal : Goal) : String :=
  match goal.kind with
  | .ok kind => kind.plain
  | .error _ => ""

structure LogRecord where
  channel : Channel
  level : Level
  text : String
  fault : Option Fault

inductive Role where
  /-- Nothing. -/
  | silent
  /-- Keep every event. -/
  | recording (r : Recording Goal Value Product)
  /-- Count. -/
  | collecting (totals : Collector (Option String) Goal FieldValue)
  /-- Act on some events, by their names. -/
  | scripted (on : Ledger String (List Action))

def Role.className : Role → String
  | .silent => "StatisticsListener"
  | .recording _ => "RecordingListener"
  | .collecting _ => "StatisticsCollector"
  | .scripted _ => "ScriptListener"

structure Listener where
  id : String
  role : Role

/-- Where an engine gets its evaluators. -/
inductive Supply where
  /-- From the registry at a place. -/
  | registry (place : Nat)
  /-- From a scripted factory. -/
  | factory (f : Factory)

/-- An engine, or an inferencer with a registry of its own. -/
structure Engine where
  supply : Supply
  settings : Settings
  /-- The place of the inferencer's registry. -/
  ownRegistry : Option Nat

structure World where
  now : Float
  /-- The thread that is running; none is the main one. -/
  thread : Option String
  stackLimit : Int
  catalogue : Catalogue
  evaluatorClasses : Ledger String EvaluatorClass
  contexts : Ledger String Context
  scripts : Ledger String Script
  registries : Array (Registry Factory Body)
  /-- The place of the registry in use. -/
  registry : Nat
  engine : Option Engine
  /-- All listeners ever made. -/
  listeners : Array Listener
  /-- The places of the listeners by their names. -/
  listenerPlaces : Ledger String Nat
  /-- The places of the registered listeners. -/
  registered : Listeners Nat
  memories : Array Memory
  probes : Array Probe
  /-- Calls of scripted parts, latest first. -/
  trace : List TraceEntry
  /-- Whether a log is kept. -/
  logging : Bool
  /-- Log records, latest first. -/
  log : List LogRecord

namespace World

def traced (w : World) (entry : TraceEntry) : World :=
  { w with trace := entry :: w.trace }

def shownListener (w : World) (place : Nat) : String :=
  "ScriptListener(" ++ ((w.listeners[place]?).map (·.id)).getD "" ++ ")"

/-- Write to the log, if one is kept. -/
def logged (w : World) (entry : LogEntry Leaf Nat) : World :=
  if w.logging then
    let text := entry.text Leaf.shown w.shownListener
    { w with log := ⟨entry.channel, entry.level, text, entry.fault?⟩ :: w.log }
  else w

/-- The script for a goal: the one for its kind and the field after the context, else the one for
its kind. -/
def scriptFor (w : World) (goal : Goal) : Script :=
  let field := (secondField? goal).getD (.data .null)
  let own := w.scripts.find? (writtenKind goal ++ "/" ++ field.plain)
  let common := w.scripts.find? (writtenKind goal ++ "/*")
  (own <|> common).getD .blank

def registryAt (w : World) (place : Nat) : Registry Factory Body :=
  (w.registries[place]?).getD (.empty none)

def currentRegistry (w : World) : Registry Factory Body :=
  w.registryAt w.registry

def memoryOf (w : World) (e : Evaluator) : Memory :=
  (w.memories[e.serial]?).getD {}

end World

/-- What scripted parts do to the world. -/
abbrev Play := Attempt World

/-- Remember a call, if its goals can be written out. -/
def trace (entry : TraceEntry) : Play Unit :=
  match unwritable? entry.goals with
  | some f => .fault f
  | none => modify (·.traced entry)

def setRole (place : Nat) (role : Role) : Play Unit :=
  modify fun w => { w with listeners := w.listeners.modify place fun l => { l with role } }

def remember (serial : Nat) (change : Memory → Memory) : Play Unit :=
  modify fun w => { w with memories := w.memories.modify serial change }

def goalClassOf (kind : String) : Play GoalClass := do
  let cat := (← get).catalogue
  match cat.find? kind with
  | some c => pure c
  | none => .fault (.missingKey (cat.unknownKindText kind))

/-- The context with a name, where `asking` is the goal on whose behalf a script is played. That
goal may have anything in the place of its context. -/
def contextNamed (asking : Option Goal) (name : String) : Play FieldValue := do
  if name == ownContext then
    match asking with
    | some goal => .ofExcept (goal.getField FieldSpec.contextName)
    | none => .fault (.missingAttribute "NoneType" "context")
  else
    match (← get).contexts.find? name with
    | some context => pure (.context context)
    | none => .fault (.missingKey name)

def makeGoal (cls : GoalType) (context : FieldValue) (fields : List Data) : Play Goal :=
  match Goal.make? cls (context :: fields.map .data) with
  | some goal => pure goal
  | none => .fault .badType

/-- The goal that a script names, where `asking` is the goal on whose behalf it is played. -/
def goalNamed (asking : Option Goal) : GoalName → Play Goal
  | .sibling field => do
    match asking with
    | some goal =>
      let context ← .ofExcept (goal.getField FieldSpec.contextName)
      makeGoal goal.cls context [.text field]
    | none => .fault (.missingAttribute "NoneType" "context")
  | .full kind contextName fields => do
    let cls ← goalClassOf kind
    let context ← contextNamed asking contextName
    makeGoal (.declared cls) context fields

end Pursuit.Scenario

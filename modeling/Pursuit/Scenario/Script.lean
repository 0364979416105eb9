import Pursuit.Budget
import Pursuit.Registry.Basic
import Pursuit.Registry.Evaluator

/-! # Scripts

A host given as data: what its factories, evaluators, pruners and listeners do is written down
beforehand. A script speaks of goals by name, since the goals themselves are only there when it is
played.
-/

namespace Pursuit.Scenario

inductive GoalName where
  /-- The goal of a kind in a named context, with the given first fields. -/
  | full (kind context : String) (fields : List Data)
  /-- The goal of the asking goal's class and context, with that single field. -/
  | sibling (field : String)

/-- A number as a script writes it: a double, or an integer of any size, which has to become a
double when it is used. -/
inductive Amount where
  | whole (n : Int)
  | real (x : Float)

def Amount.double : Amount → Except Fault Float
  | .real x => .ok x
  | .whole n =>
    match Number.nearestFloat? n with
    | some x => .ok x
    | none => .error .tooLarge

/-- The context that stands for the asking goal's own one. -/
def ownContext : String := "^"

/-- Something that a scripted part does on the side. -/
inductive Action where
  /-- Let time pass. -/
  | advance (seconds : Amount)
  /-- Register a listener. -/
  | addListener (id : String)
  /-- Remove a listener. -/
  | removeListener (id : String)
  /-- Resolve a goal in a session of its own. -/
  | eval (goal : GoalName)
  | raise (failure : Failure)

/-- How a scripted evaluator computes its result. -/
inductive Expression where
  /-- The first field of its goal with all answers so far. -/
  | collect
  /-- The answers of this batch. -/
  | last
  /-- The given answers merged with all answers so far. -/
  | combine (literals : Except Fault (List (Option Value)))
  /-- One more than the sum of the numbers among the answers so far. -/
  | size
  /-- How often it was handed answers. -/
  | calls
  /-- The results of the sessions it ran itself. -/
  | nested
  /-- A literal, which may name something that does not exist. -/
  | const (value : Except Fault (Option Value))

/-- How a scripted evaluator answers when it is handed a batch. -/
inductive Reply where
  | raise (failure : Failure)
  /-- Answer with something that is no outcome. -/
  | stray (object : Except Fault (Option Value))
  /-- Write to the answers, and go on if that is allowed. -/
  | tamper (rest : Reply)
  /-- Ask for goals that are named one after the other, the last of them followed by a failure. -/
  | moreThenRaise (goals : List GoalName) (failure : Failure)
  | more (goals : List GoalName)
  | done (expression : Expression)

structure Turn where
  actions : List Action
  reply : Reply

/-- The turn of an evaluator for which none is written down. -/
def Turn.collecting : Turn :=
  ⟨[], .done .collect⟩

/-- The part of an evaluator. -/
structure Script where
  /-- What it does when it is built. -/
  onMake : List Action
  /-- What it does when it is asked for its first subgoals. -/
  onInit : List Action
  /-- The first subgoals. -/
  init : Except Failure (List GoalName)
  /-- The turns; the last one repeats. -/
  turns : List Turn

/-- The part of an evaluator for which nothing is written down. -/
def Script.blank : Script :=
  { onMake := [], onInit := [], init := .ok [], turns := [] }

/-- The turn that comes after a number of turns. -/
def Script.turn (script : Script) (played : Nat) : Turn :=
  (script.turns[played]? <|> script.turns.getLast?).getD .collecting

/-- What a scripted function hands out for a goal. -/
inductive Handout where
  /-- An evaluator of the named class. -/
  | evaluator (className : String)
  /-- An evaluator with a preset answer. -/
  | fixed (answer : Except Fault (Option Value))
  /-- An object that is no evaluator. -/
  | junk (d : Data)
  | nothing

/-- What a scripted function does with a goal. -/
structure Body where
  actions : List Action
  handout : Handout

/-- When a scripted factory uses a body: for goals of a kind, and of one first field if it is
given. -/
structure Rule where
  kind : String
  field : Option Data
  body : Body

/-- A scripted factory: the first rule that fits, or else the default. -/
structure Factory where
  rules : List Rule
  default : Option Body

inductive PrunerScript where
  | never
  | limit (seconds : Amount)
  | millis (ms : Int)
  | any (pruners : List PrunerScript)
  /-- Gives these answers one after the other, the last one again and again. -/
  | answers (replies : List (Except Failure Bool))
  /-- A number in the place of a pruner. -/
  | number (x : Amount)

/-- What the host has in the place of a pruner: one that follows a script, or a bare number. -/
inductive Leaf where
  | probe (slot : Nat)
  | number (x : Float)

def Leaf.shown : Leaf → String
  | .probe _ => "ScriptPruner"
  | .number x => Number.shortestText x

/-- A pruner that follows a script. -/
structure Probe where
  /-- The answers still to come; the last one stays. -/
  replies : List (Except Failure Bool)
  /-- The times at which it was asked, latest first. -/
  asked : List Float

namespace Probe

def ask (p : Probe) (elapsed : Float) : Except Failure Bool × Probe :=
  let asked := elapsed :: p.asked
  match p.replies with
  | [] => (.error (.fault .outOfRange), { p with asked })
  | [reply] => (reply, { p with asked })
  | reply :: rest => (reply, { replies := rest, asked })

def times (p : Probe) : List Float :=
  p.asked.reverse

end Probe

/-- Ask a leaf, where the probes stand in their slots. A number has no answer to give. -/
def Leaf.ask (leaf : Leaf) (elapsed : Float) (probes : Array Probe) :
    Except Failure Bool × Array Probe :=
  match leaf with
  | .number _ => (.error (.fault (.missingAttribute "float" "should_stop")), probes)
  | .probe slot =>
    match probes[slot]? with
    | none => (.ok false, probes)
    | some p =>
      let (reply, after) := p.ask elapsed
      (reply, probes.setIfInBounds slot after)

def buildWith (amount : Amount) (pruner : Float → Pruner Leaf) : Except BudgetError (Pruner Leaf) :=
  match amount.double with
  | .ok x => .ok (pruner x)
  | .error _ => .error .tooLarge

/-- Build a pruner. Its probes take the slots after those in use, from the left, also when a later
part cannot be built. -/
def PrunerScript.build (script : PrunerScript) (probes : Array Probe) :
    Except BudgetError (Pruner Leaf) × Array Probe :=
  match script with
  | .never => (.ok .never, probes)
  | .limit seconds => (buildWith seconds .limit, probes)
  | .millis ms => (millisBudget ms, probes)
  | .answers replies => (.ok (.custom (.probe probes.size)), probes.push ⟨replies, []⟩)
  | .number x => (buildWith x fun x => .custom (.number x), probes)
  | .any scripts =>
    match buildEach scripts probes with
    | (.ok pruners, probes) => (.ok (.any pruners), probes)
    | (.error e, probes) => (.error e, probes)
where
  buildEach : List PrunerScript → Array Probe →
      Except BudgetError (List (Pruner Leaf)) × Array Probe
    | [], probes => (.ok [], probes)
    | s :: rest, probes =>
      match s.build probes with
      | (.error e, probes) => (.error e, probes)
      | (.ok p, probes) =>
        match buildEach rest probes with
        | (.error e, probes) => (.error e, probes)
        | (.ok ps, probes) => (.ok (p :: ps), probes)

end Pursuit.Scenario

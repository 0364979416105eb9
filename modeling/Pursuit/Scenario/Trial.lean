import Pursuit.Scenario.Script

/-! # Trials of single parts

A pruner is asked a number of times, and an index is filled and searched, each on its own.
-/

namespace Pursuit.Scenario

/-! ## Pruners -/

structure PrunerTrial where
  /-- Its answer to each time. -/
  answers : List (Except Failure Bool)
  shown : String
  /-- The seconds of a time limit. -/
  limit : Option Float
  /-- The times at which each probe was asked. -/
  checks : List (List Float)
  /-- Whether it equals another pruner, if there is one. -/
  equal : Option Bool

def askAt (pruner : Pruner Leaf) (probes : Array Probe) :
    List Amount → List (Except Failure Bool) × Array Probe
  | [] => ([], probes)
  | elapsed :: rest =>
    let ask (leaf : Leaf) (elapsed : Float) : Attempt (Array Probe) Bool :=
      .ofFunction (leaf.ask elapsed)
    let attempt : Attempt (Array Probe) Bool := do
      pruner.shouldStop ask (← .ofExcept elapsed.double)
    let (answer, probes) := attempt.perform probes
    let (answers, probes) := askAt pruner probes rest
    (answer :: answers, probes)

def tryPruner (script : PrunerScript) (times : List Amount) (other : Option PrunerScript) :
    Except BudgetError PrunerTrial := do
  let (pruner, probes) := script.build #[]
  let pruner ← pruner
  let equal ← other.mapM fun script => return pruner.equivalent (← (script.build #[]).1)
  let (answers, probes) := askAt pruner probes times
  return {
    answers, equal
    shown := pruner.shown Leaf.shown
    limit := pruner.limit?
    checks := probes.toList.map (·.times) }

/-! ## Indexes -/

/-- An element of an index as a script names it. -/
inductive ElementName where
  | reference (name : String) (kind : Data) (module : String) (offset length : Int)
    (parent : Option String)
  | other (d : Data)

def referenceKind (d : Data) : Except Fault ReferenceKind :=
  match ReferenceKind.ofData? d with
  | some kind => .ok kind
  | none => .error (.badValue (ReferenceKind.unknownText d))

def ElementName.element : ElementName → Except Fault IndexElement
  | .other d => .ok (.other d)
  | .reference name kind module offset length parent => do
    let kind ← referenceKind kind
    return .reference { name, kind, module, offset, length, parent }

inductive IndexStep where
  | add (element : ElementName)
  | extend (elements : List ElementName)
  | find (name kind parent : Data)
  | all
  | show
  | distinct

inductive IndexAnswer where
  | size (n : Nat)
  | elements (items : List IndexElement)
  /-- Elements with their qualified names. -/
  | named (items : List (String × IndexElement))
  | texts (items : List String)

/-- Do a step on the elements of an index. A step that is refused leaves them as they were. -/
def IndexStep.run (elements : List IndexElement) :
    IndexStep → Except Fault (IndexAnswer × List IndexElement)
  | .add name => do
    let after := elements ++ [← name.element]
    return (.size after.length, after)
  | .extend names => do
    let after := elements ++ (← names.mapM (·.element))
    return (.size after.length, after)
  | .find name kind parent => do
    let kind ← referenceKind kind
    let query : Query := { name := .data name, kind, parent := .data parent }
    return (.elements (← SourceIndex.searchListed query elements), elements)
  | .all => do
    let named ← elements.mapM fun e => return (← e.qualifiedName, e)
    return (.named named, elements)
  | .show => .ok (.texts (elements.map (·.shown)), elements)
  | .distinct => return (.elements (← IndexElement.distinct elements), elements)

end Pursuit.Scenario

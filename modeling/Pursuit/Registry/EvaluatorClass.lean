import Pursuit.Goal.Catalogue
import Pursuit.Source.Reference

/-! # Evaluator classes

A class of evaluators is described by how it is built, by how its two methods behave, and by the
goals it takes. The latter it states as the first type argument to one of the classes it descends
from.
-/

namespace Pursuit

/-- How a parameter of a function is passed. -/
inductive ParameterKind where
  | positional
  /-- Positional, with a default. -/
  | optional
  /-- Any number of further positional ones. -/
  | variadic
  /-- By name, and not to be left out. -/
  | named
  /-- By name, with a default. -/
  | namedOptional
  /-- Any number of further named ones. -/
  | namedVariadic
deriving DecidableEq

/-- A function with these parameters can be called with one positional argument. -/
def acceptsOne (params : List ParameterKind) : Bool :=
  let required := params.count .positional
  let room := required + params.count .optional
  required ≤ 1 && (1 ≤ room || params.contains .variadic) && !params.contains .named

inductive TypeArgument where
  /-- A class of goals. -/
  | goals (cls : GoalType)
  /-- A type variable. -/
  | free (name : String)
  /-- Anything else. -/
  | other

def TypeArgument.goals? : TypeArgument → Option GoalType
  | .goals cls => some cls
  | _ => none

/-- How an evaluator names its first subgoals. -/
inductive InitMethod where
  /-- There are none. -/
  | nothing
  /-- The host decides. -/
  | custom
deriving DecidableEq

/-- How an evaluator goes on when it is handed answers. -/
inductive ResumeMethod where
  /-- It is done, without a result. -/
  | absent
  /-- It is done, with the answer it was built with. -/
  | preset
  /-- It searches the index of its context for references of a kind; a class that leaves the kind
  open cannot. -/
  | search (kind : Option ReferenceKind)
  /-- The host decides. -/
  | custom
deriving DecidableEq

structure EvaluatorClass where
  name : String
  /-- The parameters with which it is built. -/
  constructor : List ParameterKind
  /-- The host has work of its own to do when an evaluator is built. -/
  customSetUp : Bool
  /-- The first type argument to each parameterised class from which it descends, nearest first. -/
  arguments : List TypeArgument
  /-- Its type variables. -/
  typeVariables : List String
  /-- The method that names subgoals; none is left to descendants. -/
  init : Option InitMethod
  /-- The method that takes answers; none is left to descendants. -/
  resume : Option ResumeMethod

namespace EvaluatorClass

/-- The goals that the evaluators of a class take, if it states any. -/
def goalParameter (c : EvaluatorClass) : Option GoalType :=
  c.arguments.findSome? TypeArgument.goals?

/-- A method is missing, so no evaluator can be built. -/
def isAbstract (c : EvaluatorClass) : Bool :=
  c.init.isNone || c.resume.isNone

/-- An evaluator can be built from a goal alone. -/
def buildable (c : EvaluatorClass) : Bool :=
  !c.isAbstract && acceptsOne c.constructor

end EvaluatorClass

/-- An evaluator class as its author writes it. What is built from it starts with work of the
host. -/
structure EvaluatorDeclaration where
  name : String
  base : EvaluatorClass
  /-- Type variables that the class names as its own. -/
  typeVariables : List String
  /-- Type arguments to the base; none leaves the base as it is. -/
  arguments : Option (List TypeArgument)
  constructor : List ParameterKind
  /-- The methods that the class has of its own. -/
  init : Option InitMethod
  resume : Option ResumeMethod

namespace EvaluatorDeclaration

/-- The type variables among the arguments, without repetition. -/
def openNames (d : EvaluatorDeclaration) : List String :=
  ((d.arguments.getD []).filterMap fun
    | .free name => some name
    | _ => none).eraseDups

/-- The base takes that many arguments. -/
def fitsBase (d : EvaluatorDeclaration) : Bool :=
  match d.arguments with
  | none => true
  | some args => !args.isEmpty && args.length == d.base.typeVariables.length

/-- The variables are named completely, if any are named. -/
def namesVariables (d : EvaluatorDeclaration) : Bool :=
  d.typeVariables.isEmpty || d.openNames.all d.typeVariables.contains

/-- The class that a declaration describes. A variable that is named again is the same one. -/
def toClass? (d : EvaluatorDeclaration) : Option EvaluatorClass :=
  if d.fitsBase && d.namesVariables then
    some {
      name := d.name
      constructor := d.constructor
      customSetUp := true
      arguments := ((d.arguments.bind (·.head?)).toList) ++ d.base.arguments
      typeVariables := if d.typeVariables.isEmpty then d.openNames else d.typeVariables.eraseDups
      init := d.init <|> d.base.init
      resume := d.resume <|> d.base.resume }
  else none

end EvaluatorDeclaration

/-! ## Classes that are always there -/

namespace EvaluatorClass

/-- The class from which all others descend. -/
def root : EvaluatorClass :=
  { name := "GoalEvaluator", constructor := [.positional], customSetUp := false
    arguments := [], typeVariables := ["G"]
    init := none, resume := none }

/-- Stands in when no evaluator can be built for a goal. -/
def nullEvaluator : EvaluatorClass :=
  { name := "NullGoalEvaluator", constructor := [.positional], customSetUp := false
    arguments := [.goals .base], typeVariables := []
    init := some .nothing, resume := some .absent }

/-- Answers its goal with a preset value. -/
def fixedAnswer : EvaluatorClass :=
  { name := "FixedAnswerEvaluator", constructor := [.positional, .positional], customSetUp := false
    arguments := [.goals .base], typeVariables := []
    init := some .nothing, resume := some .preset }

def indexSearch : EvaluatorClass :=
  { name := "_IndexSearchEvaluator", constructor := [.positional], customSetUp := false
    arguments := [.free "G"], typeVariables := ["G"]
    init := some .nothing, resume := some (.search none) }

def fieldReferences : EvaluatorClass :=
  { name := "FieldReferencesGoalEvaluator", constructor := [.positional], customSetUp := false
    arguments := [.goals (.declared fieldReferencesGoal), .free "G"], typeVariables := []
    init := some .nothing, resume := some (.search (some .field)) }

def methodCalls : EvaluatorClass :=
  { name := "MethodCallsGoalEvaluator", constructor := [.positional], customSetUp := false
    arguments := [.goals (.declared methodCallsGoal), .free "G"], typeVariables := []
    init := some .nothing, resume := some (.search (some .methodCall)) }

end EvaluatorClass

end Pursuit

import Pursuit.Registry.EvaluatorClass

/-! # Admission of constructors

What may be registered for a kind of goal. Anything can be offered; what is offered is described as
far as the checks look at it.
-/

namespace Pursuit

/-- What a function says that it returns. -/
inductive ReturnHint where
  /-- Nothing, or something that names no class. -/
  | unchecked
  | evaluators (c : EvaluatorClass)
  /-- A class that is none of evaluators. -/
  | others (className : String)

/-- An object offered as the constructor of evaluators. `β` is what calling a function of the host
does. -/
inductive Constructor (β : Type) where
  | evaluators (c : EvaluatorClass)
  /-- A class that is none of evaluators. -/
  | others (className : String)
  /-- An object that cannot be called, in its shown form. -/
  | object (shown : String)
  /-- A function whose parameters cannot be read, which is taken on trust. -/
  | sealed (body : β)
  | function (params : List ParameterKind) (returns : ReturnHint) (body : β)

/-- An object offered as the kind of goal. -/
inductive KindKey where
  | named (kind : String)
  | cls (c : GoalClass)
  /-- Any other object, in its shown form. -/
  | other (shown : String)

inductive RegistrationError where
  | notAKind (shown : String)
  | unknownKind (text : String)
  | notCallable (kind shown : String)
  | notEvaluators (kind className : String)
  | isAbstract (kind className : String)
  /-- The evaluators take other goals than those of the kind. -/
  | otherGoals (kind className handled goalClass : String)
  | returnsOthers (kind className : String)
  | wrongParameters (kind : String)
deriving DecidableEq

def RegistrationError.message : RegistrationError → String
  | .notAKind shown => s!"Expected a Goal subclass or kind name, got {shown}"
  | .unknownKind text => text
  | .notCallable kind shown => s!"Constructor for '{kind}' is not callable: {shown}"
  | .notEvaluators kind name =>
    s!"Constructor for '{kind}' must be a GoalEvaluator subclass, got {name}"
  | .isAbstract kind name => s!"Evaluator {name} for '{kind}' is abstract"
  | .otherGoals kind name handled goals =>
    s!"Evaluator {name} handles {handled} goals, not '{kind}' ({goals})"
  | .returnsOthers kind name =>
    s!"Constructor for '{kind}' is annotated to return {name}, not a GoalEvaluator"
  | .wrongParameters kind => s!"Constructor for '{kind}' must accept exactly one goal argument"

def Catalogue.resolve (cat : Catalogue) : KindKey → Except RegistrationError GoalClass
  | .other shown => .error (.notAKind shown)
  | .named kind => known kind
  | .cls c => known c.kind
where
  known (kind : String) : Except RegistrationError GoalClass :=
    match cat.find? kind with
    | some c => .ok c
    | none => .error (.unknownKind (cat.unknownKindText kind))

def EvaluatorClass.checkGoals (evaluators : EvaluatorClass) (goals : GoalClass) :
    Except RegistrationError Unit :=
  match evaluators.goalParameter with
  | none => .ok ()
  | some handled =>
    if handled.includes (.declared goals) then .ok ()
    else .error (.otherGoals goals.kind evaluators.name handled.name goals.name)

namespace Constructor

variable {β : Type}

/-- The parameters with which a constructor is called, if they can be read. -/
def params? : Constructor β → Option (List ParameterKind)
  | .evaluators c => some c.constructor
  | .function params _ _ => some params
  | _ => none

/-- What a constructor says of the evaluators it makes fits the goals. -/
def checkKind (goals : GoalClass) : Constructor β → Except RegistrationError Unit
  | .object shown => .error (.notCallable goals.kind shown)
  | .others name => .error (.notEvaluators goals.kind name)
  | .evaluators c =>
    if c.isAbstract then .error (.isAbstract goals.kind c.name) else c.checkGoals goals
  | .function _ (.others name) _ => .error (.returnsOthers goals.kind name)
  | .function _ (.evaluators c) _ => c.checkGoals goals
  | .function _ .unchecked _ => .ok ()
  | .sealed _ => .ok ()

/-- A constructor may be registered for a class of goals. Its parameters are looked at last. -/
def check (goals : GoalClass) (c : Constructor β) : Except RegistrationError Unit := do
  c.checkKind goals
  match c.params? with
  | some params => if acceptsOne params then .ok () else .error (.wrongParameters goals.kind)
  | none => .ok ()

end Constructor

end Pursuit

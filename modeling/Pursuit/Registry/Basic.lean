import Pursuit.Ledger
import Pursuit.Log.Level
import Pursuit.Registry.Admission
import Pursuit.Registry.Evaluator

/-! # The registry of constructors

Each kind of goal may have a constructor of evaluators. A factory of the caller, if there is one, is
asked first. Whatever goes wrong while an evaluator is built is logged and counts as "no evaluator".
-/

namespace Pursuit

/-- Constructors by kind, in order of registration, behind an optional factory of the caller. -/
structure Registry (F β : Type) where
  userFactory : Option F
  table : Ledger String (Constructor β)

inductive EvaluatorSource where
  | userFactory
  | constructor (kind : String)
deriving DecidableEq

def EvaluatorSource.text : EvaluatorSource → String
  | .userFactory => "user factory"
  | .constructor kind => s!"constructor for '{kind}'"

inductive RegistryRecord where
  | failed (source : EvaluatorSource) (goal : Goal) (fault : Fault)
  /-- A source handed out something that is no evaluator, here in its shown form. -/
  | notEvaluator (source : EvaluatorSource) (shown : String)
  | unregistered (kind : FieldValue) (goal : Goal)

namespace RegistryRecord

def level : RegistryRecord → Level
  | .unregistered .. => .debug
  | _ => .warning

def fault? : RegistryRecord → Option Fault
  | .failed _ _ fault => some fault
  | _ => none

def text : RegistryRecord → String
  | .failed source goal _ => "Evaluator " ++ source.text ++ " failed for " ++ goal.shown
  | .notEvaluator source shown =>
    "Evaluator " ++ source.text ++ " returned " ++ shown ++ ", which is not a GoalEvaluator"
  | .unregistered kind goal =>
    "No evaluator registered for '" ++ kind.plain ++ "': " ++ goal.shown

end RegistryRecord

namespace Registry

variable {F β : Type}

def empty (userFactory : Option F) : Registry F β :=
  ⟨userFactory, []⟩

/-- Register a constructor for a kind, in place of the one that is there. -/
def register (r : Registry F β) (cat : Catalogue) (key : KindKey) (c : Constructor β) :
    Except RegistrationError (Registry F β) := do
  let goals ← cat.resolve key
  c.check goals
  return { r with table := r.table.put goals.kind c }

def unregister (r : Registry F β) (cat : Catalogue) (key : KindKey) :
    Except RegistrationError (Registry F β) := do
  let goals ← cat.resolve key
  return { r with table := r.table.erase goals.kind }

/-- A kind has a constructor; what names no kind has none. -/
def isRegistered (r : Registry F β) (cat : Catalogue) (key : KindKey) : Bool :=
  match cat.resolve key with
  | .ok goals => r.table.contains goals.kind
  | .error _ => false

/-- The kinds that have a constructor, in order of registration. -/
def kinds (r : Registry F β) : List String :=
  r.table.keys

end Registry

/-- How a host builds evaluators. -/
structure Builder (W F β : Type) where
  /-- Ask the caller's factory. -/
  askFactory : F → Goal → Attempt W (Option Product)
  /-- Call a function that was registered. -/
  callFunction : β → Goal → Attempt W (Option Product)
  /-- Build an evaluator of a class that can be built from a goal alone. -/
  setUp : EvaluatorClass → Goal → Attempt W Evaluator
  /-- Keep a log record. -/
  record : RegistryRecord → W → W

namespace Builder

variable {W F β : Type}

def construct (builder : Builder W F β) (c : EvaluatorClass) (goal : Goal) : Attempt W Evaluator :=
  if c.buildable then builder.setUp c goal else .fault .badType

def apply (builder : Builder W F β) (goal : Goal) : Constructor β → Attempt W (Option Product)
  | .evaluators c => return some (.evaluator (← builder.construct c goal))
  | .function _ _ body | .sealed body => builder.callFunction body goal
  | .others _ | .object _ => .fault .badType

/-- What a source hands out for a goal, if it is an evaluator. Only interrupts get through. -/
def screen (builder : Builder W F β) (source : EvaluatorSource) (goal : Goal)
    (made : Attempt W (Option Product)) : Attempt W (Option Evaluator) :=
  .ofFunction fun w =>
    match made.perform w with
    | (.ok none, w) => (.ok none, w)
    | (.ok (some (.evaluator e)), w) => (.ok (some e), w)
    | (.ok (some (.other d)), w) => (.ok none, builder.record (.notEvaluator source d.shown) w)
    | (.error (.fault f), w) => (.ok none, builder.record (.failed source goal f) w)
    | (.error (.interrupt i), w) => (.error (.interrupt i), w)

end Builder

namespace Registry

variable {W F β : Type}

/-- Build an evaluator by the constructor of the goal's kind. A goal without a kind, or with one
that cannot be looked up, gets none, and this fault is not held back. -/
def fromTable (r : Registry F β) (builder : Builder W F β) (goal : Goal) :
    Attempt W (Option Evaluator) := do
  let kind ← .ofExcept goal.lookupKind
  match kind.text?.bind r.table.find? with
  | some c => builder.screen (.constructor kind.plain) goal (builder.apply goal c)
  | none => .ofFunction fun w => (.ok none, builder.record (.unregistered kind goal) w)

/-- Build the evaluator of a goal: by the caller's factory, else by the constructor of the goal's
kind. -/
def create (r : Registry F β) (builder : Builder W F β) (goal : Goal) :
    Attempt W (Option Evaluator) :=
  match r.userFactory with
  | none => r.fromTable builder goal
  | some f => do
    match ← builder.screen .userFactory goal (builder.askFactory f goal) with
    | some e => return some e
    | none => r.fromTable builder goal

end Registry

end Pursuit

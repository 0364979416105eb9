/-! # Failures

What a part of the host may raise when it is called. A fault is an ordinary failure, which a session
catches and answers with an absent result. An interrupt asks the whole program to stop; nothing
catches it. Failures are told apart by class and text; where they were raised is left out.
-/

namespace Pursuit

/-- An ordinary failure, by its cause. -/
inductive Fault where
  /-- An argument has a value that is not accepted. -/
  | badValue (text : String)
  /-- Something went wrong that has no class of its own. -/
  | broken (text : String)
  /-- A look-up found nothing. -/
  | missingKey (text : String)
  /-- The stack has no room left. -/
  | stackExhausted (text : String)
  /-- A list was asked for an item that it does not have. -/
  | outOfRange
  /-- An integer is too large to be a double. -/
  | tooLarge
  /-- Something of the wrong type was called, built or written to. -/
  | badType
  /-- An object of a class lacks an attribute. -/
  | missingAttribute (owner member : String)
deriving DecidableEq

/-- A request to stop everything. -/
inductive Interrupt where
  | keyboard (text : String)
  | exit (text : String)
  | closed (text : String)
deriving DecidableEq

/-- A fault or an interrupt. -/
inductive Failure where
  | fault (f : Fault)
  | interrupt (i : Interrupt)
deriving DecidableEq

namespace Fault

/-- The text that goes with a fault; a fault of type has none. -/
def message : Fault → Option String
  | .badValue text | .broken text | .missingKey text | .stackExhausted text => some text
  | .outOfRange => some "list index out of range"
  | .tooLarge => some "int too large to convert to float"
  | .badType => none
  | .missingAttribute owner member => some s!"'{owner}' object has no attribute '{member}'"

def isStackExhausted : Fault → Bool
  | .stackExhausted _ => true
  | _ => false

end Fault

namespace Interrupt

def message : Interrupt → String
  | .keyboard text | .exit text | .closed text => text

end Interrupt

/-- A computation on a world `W` that may fail. What it did to the world before the failure stays
done. -/
abbrev Attempt (W : Type) := ExceptT Failure (StateM W)

namespace Attempt

variable {W α : Type}

/-- Run an attempt: its outcome and the world after it. -/
def perform (a : Attempt W α) (w : W) : Except Failure α × W :=
  a.run.run w

/-- The attempt that does what a function on the world says. -/
def ofFunction (f : W → Except Failure α × W) : Attempt W α :=
  ExceptT.mk fun w => f w

def fault (f : Fault) : Attempt W α :=
  throw (.fault f)

/-- Go on with a value, or fail with the fault that stands in its place. -/
def ofExcept : Except Fault α → Attempt W α
  | .ok a => pure a
  | .error f => fault f

end Attempt

end Pursuit

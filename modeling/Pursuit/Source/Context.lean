import Pursuit.Source.Index

/-! # Contexts

The module, and within a method body the type of the instance, about which a goal asks. A context
also gives access to an index, which is no part of its identity: goals that differ in the index
alone are one goal.
-/

namespace Pursuit

/-- Where a goal is asked. Nothing keeps other objects out of the places of its texts. -/
structure Context where
  /-- The module. -/
  module : Data
  /-- The type of the instance, inside a method body. -/
  instanceType : Option Data
  /-- The index to search. -/
  index : SourceIndex

namespace Context

def identity (c : Context) : Data × Option Data :=
  (c.module, c.instanceType)

instance : BEq Context := ⟨fun a b => a.identity == b.identity⟩

/-- The context has one identity for good. -/
def isConstant (c : Context) : Bool :=
  c.module.isConstant && c.instanceType.all (·.isConstant)

def className (c : Context) : String :=
  if c.instanceType.isSome then "InstanceContext" else "BasicContext"

def shown (c : Context) : String :=
  let instanceType := c.instanceType.map fun type => "instance_type=" ++ type.shown
  c.className ++ Text.enclosed "(" ")" (("module=" ++ c.module.shown) :: instanceType.toList)

end Context

end Pursuit

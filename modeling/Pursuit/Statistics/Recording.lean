import Pursuit.Session.Event

/-! # Recorded events

A recording keeps every event in the order of arrival.
-/

namespace Pursuit

/-- Events in order of arrival. -/
structure Recording (G V E : Type) where
  events : Array (Event G V E) := #[]

namespace Recording

variable {G V E : Type}

def hear (r : Recording G V E) (event : Event G V E) : Recording G V E :=
  ⟨r.events.push event⟩

def names (r : Recording G V E) : List String :=
  r.events.toList.map (·.name)

def named (r : Recording G V E) (name : String) : List (Event G V E) :=
  r.events.toList.filter (·.name == name)

end Recording

end Pursuit

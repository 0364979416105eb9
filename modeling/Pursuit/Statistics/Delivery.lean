import Pursuit.Failure

/-! # Delivery of events

Listeners are registered for all sessions, and a session may have some of its own. Who receives an
event is settled when its delivery begins; what listeners then do to the registered ones, and how
they fail, changes neither the recipients nor their order.
-/

namespace Pursuit

/-- The registered listeners, in the order of their registration, each once. -/
abbrev Listeners (L : Type) := List L

namespace Listeners

variable {L : Type} [BEq L]

/-- Register a listener; one that is registered stays where it is. -/
def add (listeners : Listeners L) (l : L) : Listeners L :=
  if listeners.contains l then listeners else listeners ++ [l]

/-- Remove a listener; one that is not registered changes nothing. -/
def remove (listeners : Listeners L) (l : L) : Listeners L :=
  listeners.filter fun other => !(other == l)

/-- Who receives an event: the registered listeners, then those of the session that are not
registered. -/
def targets (listeners : Listeners L) (extras : List L) : List L :=
  listeners ++ extras.filter fun l => !listeners.contains l

end Listeners

/-- Tell each recipient in turn. A fault of one is put on record and does not keep the event from
the others; an interrupt ends the delivery. -/
def deliver {L W : Type} (hear : L → Attempt W Unit) (record : L → Fault → W → W) :
    List L → W → Option Interrupt × W
  | [], w => (none, w)
  | l :: rest, w =>
    match (hear l).perform w with
    | (.ok _, w) => deliver hear record rest w
    | (.error (.fault f), w) => deliver hear record rest (record l f w)
    | (.error (.interrupt i), w) => (some i, w)

end Pursuit

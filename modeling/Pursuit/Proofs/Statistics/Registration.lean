import Mathlib.Tactic.Choose
import Pursuit.Proofs.Changes
import Pursuit.Statistics.Delivery

/-! # The list of listeners and the calls that made it

Listeners come and go by calls. A list that is changed by calls alone has each listener once, namely
those whose last call was an addition, by the places of the calls with which they entered.
-/

namespace Pursuit

inductive ListenerCall (L : Type) where
  | add (l : L)
  | remove (l : L)

variable {L : Type}

def ListenerCall.change : ListenerCall L → Change L Unit
  | .add l => .put l ()
  | .remove l => .remove l

variable [BEq L]

namespace Listeners

def afterCall (listeners : Listeners L) : ListenerCall L → Listeners L
  | .add l => listeners.add l
  | .remove l => listeners.remove l

def after (listeners : Listeners L) (calls : List (ListenerCall L)) : Listeners L :=
  calls.foldl afterCall listeners

theorem after_append (listeners : Listeners L) (first later : List (ListenerCall L)) :
    listeners.after (first ++ later) = (listeners.after first).after later :=
  List.foldl_append

/-- Calls do not do away with a property of lists of listeners. -/
def KeptByCalls (J : Listeners L → Prop) : Prop :=
  ∀ listeners call, J listeners → J (listeners.afterCall call)

theorem keptByCalls_after (start : Listeners L) :
    KeptByCalls fun listeners => ∃ calls, listeners = start.after calls := by
  rintro _ call ⟨calls, rfl⟩
  exact ⟨calls ++ [call], (after_append start calls [call]).symm⟩

theorem exists_history (lists : Nat → Listeners L) (Makes : Nat → List (ListenerCall L) → Prop)
    (each : ∀ n, ∃ calls, Makes n calls ∧ lists (n + 1) = (lists n).after calls) :
    ∃ made : Nat → List (ListenerCall L), (∀ n, Makes n (made n)) ∧
      ∀ n, lists n = (lists 0).after ((List.range n).flatMap made) := by
  choose made makes same using each
  refine ⟨made, makes, fun n => ?_⟩
  induction n with
  | zero => rfl
  | succ n ih =>
      rw [same, ih, List.range_succ, List.flatMap_append, after_append]
      simp

/-- The listeners are those that calls leave of none: each once, and in the order in which they
entered. -/
abbrev Reflects (calls : List (ListenerCall L)) (listeners : Listeners L) : Prop :=
  Change.OrderedByEntry (calls.map (·.change)) listeners

namespace Reflects

theorem nil : Reflects [] ([] : Listeners L) :=
  Change.OrderedByEntry.nil

variable [EquivBEq L] {calls : List (ListenerCall L)} {listeners : Listeners L}

theorem afterCall (reflects : Reflects calls listeners) (call : ListenerCall L) :
    Reflects (calls ++ [call]) (listeners.afterCall call) := by
  have next := Change.OrderedByEntry.concat reflects call.change
  rw [Reflects, List.map_append]
  cases call with
  | add l | remove l => exact next

theorem after (reflects : Reflects calls listeners) (later : List (ListenerCall L)) :
    Reflects (calls ++ later) (listeners.after later) := by
  induction later generalizing calls listeners with
  | nil => simpa [Listeners.after] using reflects
  | cons call rest ih =>
      have next := ih (reflects.afterCall call)
      rwa [List.append_assoc] at next

end Reflects

end Listeners

end Pursuit

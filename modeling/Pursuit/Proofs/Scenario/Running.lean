import Pursuit.Proofs.Session.Keeping
import Pursuit.Scenario.Step

/-! # How steps run

What the first parts of a step give and leave behind, for those steps that have to be followed
exactly.
-/

namespace Pursuit.Scenario

theorem run_playing {α : Type} (p : Play α) (w : World) :
    (playing p).run.run w = ((p.perform w).1.mapError .failure, (p.perform w).2) := by
  cases played : p.perform w with
  | mk reply w' =>
      cases reply <;>
        simp [playing, ExceptT.run, ExceptT.mk, StateT.run, Except.mapError, played]

theorem run_get (w : World) : (get : Play World).run.run w = (.ok w, w) :=
  rfl

theorem perform_goalClassOf (kind : String) (w : World) : (goalClassOf kind).perform w =
    (match w.catalogue.find? kind with
      | some c => .ok c
      | none => .error (.fault (.missingKey (w.catalogue.unknownKindText kind))), w) := by
  rw [goalClassOf, Attempt.perform, run_bind (run_get w), ExceptT.bindCont]
  dsimp only
  generalize w.catalogue.unknownKindText kind = text
  cases w.catalogue.find? kind <;> rfl

theorem perform_listenerPlace (id : String) (w : World) : (listenerPlace id).perform w =
    (match w.listenerPlaces.find? id with
      | some place => .ok place
      | none => .error (.fault (.missingKey id)), w) := by
  rw [listenerPlace, Attempt.perform, run_bind (run_get w), ExceptT.bindCont]
  cases w.listenerPlaces.find? id <;> rfl

end Pursuit.Scenario

import Pursuit.Proofs.Session.EventLog
import Pursuit.Proofs.Session.Lockstep

/-! # Listeners have no influence

Listeners hear of all that happens in a session, and the session learns nothing from them but
interrupts. So two sessions that differ in their listeners only go the same way, whichever of them
the listeners add or remove and however they fail, and a listener that records both sessions finds
the same in both.
-/

namespace Pursuit

variable {W U F β K L : Type}

namespace Services

/-- The pruner and the log records of a session too depend on what the view shows. Listeners, and
the log of their faults, change nothing of it, and they fail by faults only. -/
structure Isolated (p : Services W F β K L) (create : Goal → Attempt W (Option Product))
    (pruner : Pruner K) (view : W → U) : Prop extends p.Confined create view where
  shouldStop : ∀ elapsed, (pruner.shouldStop p.askPruner elapsed).Within view
  log : ∀ n w w', view w = view w' →
    view (p.record (.session n pruner) w) = view (p.record (.session n pruner) w')
  tame : ∀ l event, (p.hear l event).Tame
  unseen : ∀ l event w, view ((p.hear l event).perform w).2 = view w
  unnoted : ∀ l name f w, view (p.record (.listener l name f) w) = view w

namespace Isolated

variable [BEq L] {p : Services W F β K L} {create : Goal → Attempt W (Option Product)}
  {pruner : Pruner K} {view : W → U} (isolated : p.Isolated create pruner view)

include isolated

theorem emit_unseen (extras : List L) (event : Event Goal Value Product) (w : W) :
    (p.emit extras event w).1 = none ∧ view (p.emit extras event w).2 = view w :=
  ⟨deliver_eq_none (fun l => isolated.tame l event) _ w,
    deliver_unseen (fun l f => isolated.unnoted l event.name f)
      (fun l => isolated.unseen l event) _ w⟩

theorem inStep (settings : Settings) (stackLimit : Int) (extras extras' : List L) (root : Goal)
    {w w' : W} (same : view w = view w') (n : Nat) :
    Play.InStep (fun w w' => view w = view w') (settings.depthBound stackLimit)
      (Play.opening (p.host create pruner extras) settings stackLimit root w)
      (Play.opening (p.host create pruner extras') settings stackLimit root w')
      ((Play.opening (p.host create pruner extras) settings stackLimit root w).after
        (p.host create pruner extras) n)
      ((Play.opening (p.host create pruner extras') settings stackLimit root w').after
        (p.host create pruner extras') n) := by
  apply Play.inStep_after
  · apply isolated.follows settings stackLimit root w (P := fun _ => True)
    · exact fun _ _ _ _ _ => trivial
    · intro n w w' same _
      exact ⟨trivial, isolated.log n w w' same⟩
    · intro elapsed now reply _ w w' same gives
      exact (isolated.shouldStop elapsed).gives isolated.clock same gives
    · rintro event now reply w w' same ⟨rfl, rfl⟩
      obtain ⟨quiet, kept⟩ := isolated.emit_unseen extras event w
      obtain ⟨quiet', kept'⟩ := isolated.emit_unseen extras' event w'
      have alike : view (p.emit extras event w).2 = view (p.emit extras' event w').2 := by
        rw [kept, kept', same]
      exact ⟨⟨quiet.trans quiet'.symm, isolated.clock _ _ alike⟩, alike⟩
  · intro n
    exact .inl (Play.bound_after (.start root _ _ _) n)
  · simp only [Play.opening, Services.host, isolated.clock w w' same]
    rfl
  · exact same

end Isolated

end Services

/-- In two sessions that differ in nothing but their listeners, and in worlds that differ in
nothing but what listeners have to do with, the outcome is the same, and so is what pruner,
factory and evaluators are asked. A listener that records both sessions, as one of their own
listeners and nowhere else, records the same. -/
theorem listeners_have_no_influence [BEq L] (p : Services W F β K L)
    (create : Goal → Attempt W (Option Product)) (settings : Settings) (stackLimit : Int)
    (pruner : Option (Pruner K)) (view : W → U)
    (isolated : p.Isolated create (pruner.getD .never) view) (extras extras' : List L) (root : Goal)
    (w w' : W) (same : view w = view w') :
    let h := p.host create (pruner.getD .never) extras
    let h' := p.host create (pruner.getD .never) extras'
    (∀ fuel, (p.resolve create settings stackLimit fuel pruner extras root w).1 =
      (p.resolve create settings stackLimit fuel pruner extras' root w').1) ∧
    (∀ n, ((Play.opening h settings stackLimit root w).after h n).queries =
      ((Play.opening h' settings stackLimit root w').after h' n).queries) ∧
    ∀ (l : L) (log : W → Recording Goal Value Product) (before after before' after' : List L),
      p.Records create (pruner.getD .never) l log →
      extras = before ++ l :: after → (∀ other ∈ before ++ after, (l == other) = false) →
      extras' = before' ++ l :: after' → (∀ other ∈ before' ++ after', (l == other) = false) →
      p.Unregistered l w → p.Unregistered l w' →
      ∀ fuel, ∃ told,
        (log (p.resolve create settings stackLimit fuel pruner extras root w).2).events.toList =
          (log w).events.toList ++ told ∧
        (log (p.resolve create settings stackLimit fuel pruner extras' root w').2).events.toList =
          (log w').events.toList ++ told := by
  intro h h'
  have inStep := isolated.inStep settings stackLimit extras extras' root same
  have exchanges : ∀ n, ((Play.opening h settings stackLimit root w).after h n).exchanges =
      ((Play.opening h' settings stackLimit root w').after h' n).exchanges := by
    intro n
    obtain ⟨later, first, second⟩ := (inStep n).exchanges
    exact first.trans second.symm
  refine ⟨?_, ?_, ?_⟩
  · intro fuel
    cases fuel with
    | zero => rfl
    | succ n =>
        simp only [Services.resolve, evaluate_eq_after]
        exact (inStep n).outcome?.symm
  · intro n
    exact congrArg (List.filter (·.isQuery)) (exchanges n)
  · rintro l log before after before' after' records rfl once rfl once' apart apart' fuel
    refine ⟨((Play.opening h settings stackLimit root w).after h fuel).events, ?_, ?_⟩
    · rw [Services.resolve, evaluate_world]
      exact (records.logged_of_quiet once settings stackLimit root apart
        (fun event w => (isolated.emit_unseen _ event w).1) fuel).1
    · rw [Services.resolve, evaluate_world, Play.events_eq_exchanges, exchanges,
        ← Play.events_eq_exchanges]
      exact (records.logged_of_quiet once' settings stackLimit root apart'
        (fun event w => (isolated.emit_unseen _ event w).1) fuel).1

/-- Listeners with ways of their own. -/
inductive SampleListener where
  /-- It keeps all events. -/
  | recorder
  /-- It fails at every event. -/
  | grumbler
  /-- It registers another one at every event. -/
  | recruiter
  /-- It fails at its first event, after it has removed itself. -/
  | leaver
deriving DecidableEq

/-- The world of these listeners and of evaluators that count how often they are called. -/
structure ListenerWorld where
  calls : Nat
  listeners : Listeners SampleListener
  log : Recording Goal Value Product

/-- Services whose evaluators are done as soon as enough calls were made. -/
def sampleServices : Services ListenerWorld Empty Empty Empty SampleListener :=
  { Services.hosting
      (fun g => .ofFunction fun o => (.ok (knottedNeeds g), { o with calls := o.calls + 1 }))
      (fun _ _ => .ofFunction fun o =>
        (.ok (if o.calls < 6 then .more (.ok []) else .done (some .baseType)),
          { o with calls := o.calls + 1 })) with
    listeners := ListenerWorld.listeners
    hear := fun l event => .ofFunction fun o =>
      match l with
      | .recorder => (.ok (), { o with log := o.log.hear event })
      | .grumbler => (.error (.fault .badType), o)
      | .recruiter => (.ok (), { o with listeners := o.listeners.add .grumbler })
      | .leaver => (.error (.fault .badType), { o with listeners := o.listeners.remove .leaver })
    record := fun _ o => o }

theorem sampleServices_isolated :
    sampleServices.Isolated hostedFactory .never ListenerWorld.calls where
  clock _ _ _ := rfl
  factory _ _ _ same := ⟨rfl, same⟩
  init g w e created := by
    cases created
    exact fun w w' same => ⟨rfl, congrArg (· + 1) same⟩
  resume g w e created answers := by
    cases created
    intro w w' same
    refine ⟨?_, congrArg (· + 1) same⟩
    change Except.ok (if w.calls < 6 then _ else _) = Except.ok (if w'.calls < 6 then _ else _)
    rw [same]
  shouldStop _ _ _ same := ⟨rfl, same⟩
  log _ _ _ same := same
  tame l _ _ _ failed := by cases l <;> cases failed
  unseen l _ _ := by cases l <;> rfl
  unnoted _ _ _ _ := rfl

theorem sampleServices_records :
    sampleServices.Records hostedFactory .never .recorder ListenerWorld.log where
  hears _ _ apart := ⟨_, rfl, rfl, apart⟩
  others l event differs w apart := by
    cases l with
    | recorder => cases differs
    | grumbler => exact ⟨rfl, apart⟩
    | recruiter =>
        refine ⟨rfl, ?_⟩
        change (w.listeners.add .grumbler).contains SampleListener.recorder = false
        have missing : w.listeners.contains SampleListener.recorder = false := apart
        unfold Listeners.add
        split
        · exact missing
        · simpa using missing
    | leaver =>
        refine ⟨rfl, ?_⟩
        change (w.listeners.remove .leaver).contains SampleListener.recorder = false
        have missing : w.listeners.contains SampleListener.recorder = false := apart
        simpa [Listeners.remove] using missing
  record _ _ apart := ⟨rfl, apart⟩
  shouldStop _ _ apart := ⟨rfl, apart⟩
  factory _ _ apart := ⟨rfl, apart⟩
  init _ _ _ created := by
    cases created
    exact fun _ apart => ⟨rfl, apart⟩
  resume _ _ _ created _ := by
    cases created
    exact fun _ apart => ⟨rfl, apart⟩

theorem sampleServices_undisturbed :
    (∀ fuel, (sampleServices.resolve hostedFactory .standard 1000 fuel none [.recorder]
        (numberedGoal 0) ⟨0, [], {}⟩).1 =
      (sampleServices.resolve hostedFactory .standard 1000 fuel none [.grumbler, .recorder]
        (numberedGoal 0) ⟨0, [.leaver, .recruiter], {}⟩).1) ∧
    ∀ fuel, (sampleServices.resolve hostedFactory .standard 1000 fuel none [.recorder]
        (numberedGoal 0) ⟨0, [], {}⟩).2.log.events.toList =
      (sampleServices.resolve hostedFactory .standard 1000 fuel none [.grumbler, .recorder]
        (numberedGoal 0) ⟨0, [.leaver, .recruiter], {}⟩).2.log.events.toList := by
  obtain ⟨outcomes, -, logs⟩ := listeners_have_no_influence sampleServices hostedFactory .standard
    1000 none ListenerWorld.calls sampleServices_isolated [.recorder] [.grumbler, .recorder]
    (numberedGoal 0) ⟨0, [], {}⟩ ⟨0, [.leaver, .recruiter], {}⟩ rfl
  refine ⟨outcomes, fun fuel => ?_⟩
  obtain ⟨told, first, second⟩ := logs .recorder ListenerWorld.log [] [] [.grumbler] []
    sampleServices_records rfl (by simp) rfl (by decide) rfl rfl fuel
  exact first.trans second.symm

end Pursuit

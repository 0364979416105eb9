import Pursuit.Proofs.Scenario.Registration
import Pursuit.Proofs.Session.Isolation

/-! # Who is told of an event

To see who is told, each delivery is put into a trace. Tracking changes nothing else: a session
goes on as it does without the trace. Each event adds an entry for every listener that is
registered when the delivery begins, and then one for every listener of the session that is not.
What listeners do to the registered ones meanwhile, and the faults by which they fail, make no
difference.
-/

namespace Pursuit

variable {W F β K L α γ B : Type}

namespace Attempt

/-- An attempt in a world that has something else beside it. -/
def beside (a : Attempt W α) : Attempt (W × B) α :=
  .ofFunction fun s => ((a.perform s.1).1, (a.perform s.1).2, s.2)

/-- An attempt does what another one does, and leaves what is beside the world as it is. -/
def Lifts (a' : Attempt (W × B) α) (a : Attempt W α) : Prop :=
  ∀ s, a'.perform s = ((a.perform s.1).1, (a.perform s.1).2, s.2)

namespace Lifts

theorem beside (a : Attempt W α) : Lifts (a.beside : Attempt (W × B) α) a :=
  fun _ => rfl

theorem pure (a : α) : Lifts (Pure.pure a : Attempt (W × B) α) (Pure.pure a) :=
  fun _ => rfl

theorem throw (f : Failure) :
    Lifts (MonadExcept.throw f : Attempt (W × B) α) (MonadExcept.throw f) :=
  fun _ => rfl

theorem ofExcept (result : Except Fault α) :
    Lifts (.ofExcept result : Attempt (W × B) α) (.ofExcept result) := by
  cases result <;> exact fun _ => rfl

theorem bind {a' : Attempt (W × B) α} {a : Attempt W α} {k' : α → Attempt (W × B) γ}
    {k : α → Attempt W γ} (first : a'.Lifts a) (later : ∀ x, (k' x).Lifts (k x)) :
    (a' >>= k').Lifts (a >>= k) := by
  intro s
  have whole : (a >>= k).perform s.1 =
      (ExceptT.bindCont k (a.perform s.1).1).run (a.perform s.1).2 := run_bind rfl
  have whole' : (a' >>= k').perform s =
      (ExceptT.bindCont k' (a.perform s.1).1).run ((a.perform s.1).2, s.2) := run_bind (first s)
  rw [whole, whole']
  cases (a.perform s.1).1 with
  | ok x => exact later x _
  | error f => rfl

theorem gives {a' : Attempt (W × B) α} {a : Attempt W α} (lifts : a'.Lifts a) {clock : W → Float}
    {s : W × B} {now : Float} {reply : Except Failure α} (gives : a.Gives clock s.1 now reply) :
    a'.Gives (fun s => clock s.1) s now reply := by
  rw [Gives, lifts s]
  exact gives

end Lifts

end Attempt

namespace Services

def tracked (p : Services W F β K L) :
    Services (W × List (L × Event Goal Value Product)) F β K L where
  clock s := p.clock s.1
  askFactory f g := (p.askFactory f g).beside
  callFunction b g := (p.callFunction b g).beside
  setUp c g := (p.setUp c g).beside
  initCustom e := (p.initCustom e).beside
  resumeCustom e answers := (p.resumeCustom e answers).beside
  noticeSearch query s := (p.noticeSearch query s.1, s.2)
  askPruner k elapsed := (p.askPruner k elapsed).beside
  listeners s := p.listeners s.1
  hear l event := .ofFunction fun s =>
    (((p.hear l event).perform s.1).1, ((p.hear l event).perform s.1).2, s.2 ++ [(l, event)])
  record entry s := (p.record entry s.1, s.2)

def tell (p : Services W F β K L) (event : Event Goal Value Product) :
    List L → W → Option Interrupt × W :=
  deliver (fun l => p.hear l event) fun l f => p.record (.listener l event.name f)

def trackedHost [BEq L] (p : Services W F β K L) (create : Goal → Attempt W (Option Product))
    (pruner : Pruner K) (extras : List L) :
    Host (W × List (L × Event Goal Value Product)) Goal Value Product :=
  p.tracked.host (fun g => (create g).beside) pruner extras

/-- Who is told at an exchange: all recipients of an event, in order, or the first of them if one
interrupts. -/
def Tracks [BEq L] (p : Services W F β K L) (extras : List L) (w : W) :
    Exchange Goal Value Product → List (L × Event Goal Value Product) → Prop
  | .emit event _ none, deliveries => deliveries =
      (p.listeners w ++ extras.filter fun l => !(p.listeners w).contains l).map (·, event)
  | .emit event _ (some _), deliveries => deliveries <+:
      (p.listeners w ++ extras.filter fun l => !(p.listeners w).contains l).map (·, event)
  | _, deliveries => deliveries = []

variable (p : Services W F β K L)

theorem lifts_init (e : Evaluator) : (p.tracked.init e).Lifts (p.init e) := by
  unfold init
  split
  · exact .pure _
  · exact .beside _
  · exact .beside _

theorem lifts_search (index : SourceIndex) (query : Query) :
    (p.tracked.search index query).Lifts (p.search index query) := by
  intro s
  cases foreign : index.isForeign <;> simp [search, Attempt.perform_ofFunction, foreign, tracked]

theorem lifts_resume (e : Evaluator) (answers : Ledger Goal (Option Value)) :
    (p.tracked.resume e answers).Lifts (p.resume e answers) := by
  unfold resume
  split
  · exact .pure _
  · exact .bind (.ofExcept _) fun _ => .pure _
  · exact .bind (.ofExcept _) fun index => .bind (.ofExcept _) fun query =>
      .bind (p.lifts_search index query) fun _ => .pure _
  · exact .beside _
  · exact .beside _

theorem lifts_shouldStop (elapsed : Float) (pruner : Pruner K) :
    (pruner.shouldStop p.tracked.askPruner elapsed).Lifts
      (pruner.shouldStop p.askPruner elapsed) := by
  have relates : Pruner.Relates Attempt.Lifts p.tracked.askPruner p.askPruner elapsed :=
    { settled := .pure
      asked := fun _ => .beside _
      inTurn := fun first later => first.bind fun stops => by
        cases stops with
        | false => exact later
        | true => exact .pure _ }
  exact relates.shouldStop pruner

theorem tell_tracked (event : Event Goal Value Product) (targets : List L)
    (s : W × List (L × Event Goal Value Product)) :
    ∃ told,
      p.tracked.tell event targets s = ((p.tell event targets s.1).1,
        (p.tell event targets s.1).2, s.2 ++ told.map (·, event)) ∧
      told <+: targets ∧ ((p.tell event targets s.1).1 = none → told = targets) := by
  -- Who is still to be told does not depend on the world, which is any one at each recipient.
  induction targets generalizing s with
  | nil => exact ⟨[], by simp [tell, deliver], List.nil_prefix, fun _ => rfl⟩
  | cons l rest ih =>
      have tracks : (p.tracked.hear l event).perform s = (((p.hear l event).perform s.1).1,
        ((p.hear l event).perform s.1).2, s.2 ++ [(l, event)]) := rfl
      have goes : ∀ w, ∃ told,
          p.tracked.tell event rest (w, s.2 ++ [(l, event)]) =
            ((p.tell event rest w).1, (p.tell event rest w).2, s.2 ++ told.map (·, event)) ∧
          told <+: l :: rest ∧ ((p.tell event rest w).1 = none → told = l :: rest) := by
        intro w
        obtain ⟨told, same, first, all⟩ := ih (w, s.2 ++ [(l, event)])
        refine ⟨l :: told, by simpa using same, by simpa using first, fun quiet => ?_⟩
        rw [all quiet]
      simp only [tell, deliver, tracks]
      cases (p.hear l event).perform s.1 with
      | mk reply w =>
          cases reply with
          | ok => exact goes w
          | error failure =>
              cases failure with
              | fault f => exact goes _
              | interrupt i => exact ⟨[l], rfl, by simp, by simp⟩

variable [BEq L]

theorem emit_tracked (extras : List L) (event : Event Goal Value Product)
    (s : W × List (L × Event Goal Value Product)) :
    ∃ told,
      p.tracked.emit extras event s =
        ((p.emit extras event s.1).1, (p.emit extras event s.1).2, s.2 ++ told.map (·, event)) ∧
      told <+: (p.listeners s.1).targets extras ∧
      ((p.emit extras event s.1).1 = none → told = (p.listeners s.1).targets extras) :=
  p.tell_tracked event _ s

section Sessions

variable (create : Goal → Attempt W (Option Product)) (pruner : Pruner K) (extras : List L)

theorem lifts_initEvaluator (evaluator : GoalEvaluator Goal Product) :
    ((p.trackedHost create pruner extras).initEvaluator evaluator).Lifts
      ((p.host create pruner extras).initEvaluator evaluator) := by
  cases evaluator with
  | nullEvaluator g => exact .pure _
  | evaluator e =>
      cases e with
      | evaluator e => exact p.lifts_init e
      | other d => exact .throw _

theorem lifts_resumeEvaluator (evaluator : GoalEvaluator Goal Product)
    (answers : Ledger Goal (Option Value)) :
    ((p.trackedHost create pruner extras).resumeEvaluator evaluator answers).Lifts
      ((p.host create pruner extras).resumeEvaluator evaluator answers) := by
  cases evaluator with
  | nullEvaluator g => exact .pure _
  | evaluator e =>
      cases e with
      | evaluator e => exact p.lifts_resume e answers
      | other d => exact .throw _

/-- The trace makes no difference to an exchange, and each exchange adds to it who is told. -/
theorem tracked_follows (x : Exchange Goal Value Product) (w : W)
    (trace : List (L × Event Goal Value Product))
    (gives : (p.host create pruner extras).Gives w x) :
    (p.trackedHost create pruner extras).Gives (w, trace) x ∧
    ∃ deliveries, p.Tracks extras w x deliveries ∧
      (p.trackedHost create pruner extras).world (w, trace) x =
        ((p.host create pruner extras).world w x, trace ++ deliveries) := by
  have untracked : ∀ {α : Type} {a' : Attempt (W × List (L × Event Goal Value Product)) α}
      {a : Attempt W α}, a'.Lifts a →
        (a'.perform (w, trace)).2 = ((a.perform w).2, trace ++ []) := by
    intro α a' a lifts
    rw [lifts (w, trace), List.append_nil]
  cases x with
  | proceed => exact ⟨trivial, [], rfl, by simp [Host.world]⟩
  | record n => exact ⟨trivial, [], rfl, by simp [Host.world, trackedHost, host, tracked]⟩
  | check elapsed now reply =>
      have lifts := p.lifts_shouldStop elapsed pruner
      exact ⟨lifts.gives gives, [], rfl, untracked lifts⟩
  | create g now reply =>
      have lifts := Attempt.Lifts.beside (B := List (L × Event Goal Value Product)) (create g)
      exact ⟨lifts.gives gives, [], rfl, untracked lifts⟩
  | init evaluator now reply =>
      have lifts := p.lifts_initEvaluator create pruner extras evaluator
      exact ⟨lifts.gives gives, [], rfl, untracked lifts⟩
  | resume evaluator answers now reply =>
      have lifts := p.lifts_resumeEvaluator create pruner extras evaluator answers
      exact ⟨lifts.gives gives, [], rfl, untracked lifts⟩
  | emit event now reply =>
      obtain ⟨told, same, first, all⟩ := p.emit_tracked extras event (w, trace)
      have replied : reply = (p.emit extras event w).1 := gives.1
      have timed : now = p.clock (p.emit extras event w).2 := gives.2
      refine ⟨⟨?_, ?_⟩, told.map (·, event), ?_, congrArg Prod.snd same⟩
      · exact replied.trans (congrArg Prod.fst same).symm
      · exact timed.trans (congrArg (fun result => p.clock result.2.1) same).symm
      · cases reply with
        | none => exact congrArg (List.map (·, event)) (all replied.symm)
        | some i => exact first.map _

theorem tracked_inStep (settings : Settings) (stackLimit : Int) (root : Goal) (w : W)
    (trace : List (L × Event Goal Value Product)) (n : Nat) :
    Play.InStep (fun w s => s.1 = w) (settings.depthBound stackLimit)
      (Play.opening (p.host create pruner extras) settings stackLimit root w)
      (Play.opening (p.trackedHost create pruner extras) settings stackLimit root (w, trace))
      ((Play.opening (p.host create pruner extras) settings stackLimit root w).after
        (p.host create pruner extras) n)
      ((Play.opening (p.trackedHost create pruner extras) settings stackLimit root (w, trace)).after
        (p.trackedHost create pruner extras) n) := by
  apply Play.inStep_after
  · rintro n x _ _ - w ⟨w', trace'⟩ same gives
    obtain rfl : w' = w := same
    obtain ⟨gives', deliveries, -, world⟩ :=
      p.tracked_follows create pruner extras x w' trace' gives
    exact ⟨gives', congrArg Prod.fst world⟩
  · intro n
    exact .inl (Play.bound_after (.start root _ _ _) n)
  · rfl
  · rfl

theorem tracked_session (settings : Settings) (stackLimit : Int) (root : Goal) (w : W)
    (trace : List (L × Event Goal Value Product)) (n : Nat) :
    ((Play.opening (p.trackedHost create pruner extras) settings stackLimit root (w, trace)).after
        (p.trackedHost create pruner extras) n).session =
      ((Play.opening (p.host create pruner extras) settings stackLimit root w).after
        (p.host create pruner extras) n).session := by
  have bound : ((Play.opening (p.host create pruner extras) settings stackLimit root w).after
      (p.host create pruner extras) n).session.bound = settings.depthBound stackLimit :=
    Play.bound_after (.start root _ _ _) n
  rw [(p.tracked_inStep create pruner extras settings stackLimit root w trace n).session, ← bound]
  rfl

theorem tracked_advance {d : Play W Goal Value Product}
    {d' : Play (W × List (L × Event Goal Value Product)) Goal Value Product}
    (session : d'.session = d.session) (world : d'.world.1 = d.world)
    {x : Exchange Goal Value Product} {s : Session Goal Value Product} {w : W}
    (met : (p.host create pruner extras).meet d.world d.session.next = some (x, s, w)) :
    ∃ deliveries, p.Tracks extras d.world x deliveries ∧
      (d'.advance (p.trackedHost create pruner extras)).world.2 = d'.world.2 ++ deliveries := by
  obtain ⟨past, session', w', trace⟩ := d'
  obtain rfl : session' = d.session := session
  obtain rfl : w' = d.world := world
  obtain ⟨gives, deliveries, tracks, after⟩ :=
    p.tracked_follows create pruner extras x d.world trace (Host.gives_of_meet met)
  refine ⟨deliveries, tracks, ?_⟩
  rw [Play.advance, Host.meet_of_gives (Host.meets_of_meet met) gives]
  exact congrArg Prod.snd after

end Sessions

/-- The services and a factory change the list of listeners by calls alone. -/
structure CallsOnly (p : Services W F β K L) (create : Goal → Attempt W (Option Product)) :
    Prop where
  parts : ∀ listeners : Listeners L, p.Keeps fun w => ∃ calls, p.listeners w = listeners.after calls
  factory : ∀ (listeners : Listeners L) g,
    Pursuit.Keeps (fun w => ∃ calls, p.listeners w = listeners.after calls) (create g)

/-- At each exchange of a session the list of listeners is what the calls so far made of it. -/
theorem CallsOnly.history {p : Services W F β K L} {create : Goal → Attempt W (Option Product)}
    (only : p.CallsOnly create) (pruner : Pruner K) (extras : List L)
    (c : Play W Goal Value Product) : ∃ made : Nat → List (ListenerCall L), ∀ n,
      p.listeners (c.after (p.host create pruner extras) n).world =
        (p.listeners c.world).after ((List.range n).flatMap made) := by
  have each : ∀ n, ∃ calls, True ∧
      p.listeners (c.after (p.host create pruner extras) (n + 1)).world =
        (p.listeners (c.after (p.host create pruner extras) n).world).after calls := by
    intro n
    have keeps := (only.parts (p.listeners (c.after (p.host create pruner extras) n).world)).host
      (only.factory _) pruner extras
    obtain ⟨calls, same⟩ := keeps.after ⟨[], rfl⟩ 1
    exact ⟨calls, trivial, same⟩
  obtain ⟨made, -, same⟩ := Listeners.exists_history
    (fun n => p.listeners (c.after (p.host create pruner extras) n).world) (fun _ _ => True) each
  exact ⟨made, same⟩

end Services

theorem Scenario.services_callsOnly (depth : Nat) :
    (∀ f, (services (nestedResolver depth) true).CallsOnly
      ((services (nestedResolver depth) true).askFactory f)) ∧
    ∀ r, (services (nestedResolver depth) true).CallsOnly
      ((services (nestedResolver depth) true).supplyFrom r) := by
  have parts : ∀ listeners : Listeners Nat, (services (nestedResolver depth) true).Keeps
      fun w => ∃ calls, w.registered = listeners.after calls := by
    intro listeners
    have called := Listeners.keptByCalls_after listeners
    exact services_keeps called (keeps_nestedResolver called depth) true
  refine ⟨fun f => ⟨parts, fun listeners => (parts listeners).askFactory f⟩, fun r => ⟨parts, ?_⟩⟩
  intro listeners g
  exact ((parts listeners).create r g).bind fun _ => .pure _

/-- A list of listeners that is changed by calls lists each listener once, in the order of the
earliest additions since the last removals. An event is delivered to those on the list when the
delivery begins, in this order, and then to those of the session that are not on it, as the trace
of deliveries shows. The calls may come from anywhere, also from listeners that are being told and
from evaluators in the middle of a session; those that fail by faults are told all the same. -/
theorem events_reach_registered_then_extras [BEq L] [EquivBEq L] (p : Services W F β K L) :
    (∀ calls : List (ListenerCall L), Listeners.Reflects calls (Listeners.after [] calls)) ∧
    (∀ (extras : List L) event w trace, ∃ told,
      p.tracked.emit extras event (w, trace) =
        ((p.emit extras event w).1, (p.emit extras event w).2, trace ++ told.map (·, event)) ∧
      told <+: p.listeners w ++ extras.filter (fun l => !(p.listeners w).contains l) ∧
      ((p.emit extras event w).1 = none →
        told = p.listeners w ++ extras.filter fun l => !(p.listeners w).contains l) ∧
      ((∀ l, (p.hear l event).Tame) → (p.emit extras event w).1 = none)) ∧
    (∀ create pruner extras settings stackLimit root w trace,
      let h := p.host create pruner extras
      let h' := p.trackedHost create pruner extras
      let c := Play.opening h settings stackLimit root w
      let c' := Play.opening h' settings stackLimit root (w, trace)
      (∀ n, (c'.after h' n).session = (c.after h n).session ∧
        (c'.after h' n).world.1 = (c.after h n).world) ∧
      (∀ n x s w', h.meet (c.after h n).world (c.after h n).session.next = some (x, s, w') →
        ∃ deliveries, p.Tracks extras (c.after h n).world x deliveries ∧
          (c'.after h' (n + 1)).world.2 = (c'.after h' n).world.2 ++ deliveries) ∧
      ∀ calls, p.CallsOnly create → p.listeners w = Listeners.after [] calls →
        ∃ made : Nat → List (ListenerCall L), ∀ n,
          Listeners.Reflects (calls ++ (List.range n).flatMap made)
            (p.listeners (c.after h n).world)) ∧
    (∀ depth, let p := Scenario.services (Scenario.nestedResolver depth) true
      (∀ f, p.CallsOnly (p.askFactory f)) ∧ ∀ r, p.CallsOnly (p.supplyFrom r)) ∧
    ∀ (w : Scenario.World) (steps : List Scenario.Step), w.registered = [] →
      ∃ made : Nat → List (ListenerCall Nat),
        (∀ i (step : Scenario.Step), steps[i]? = some step →
          step.Makes (w.playAll (steps.take i)) (made i)) ∧
        ∀ i, Listeners.Reflects ((List.range i).flatMap made)
          (w.playAll (steps.take i)).registered := by
  have reflects : ∀ {A : Type} [BEq A] [EquivBEq A] (calls : List (ListenerCall A)),
      Listeners.Reflects calls (Listeners.after [] calls) :=
    fun calls => Listeners.Reflects.nil.after calls
  refine ⟨reflects, ?_, ?_, Scenario.services_callsOnly, ?_⟩
  · intro extras event w trace
    obtain ⟨told, same, first, all⟩ := p.emit_tracked extras event (w, trace)
    exact ⟨told, same, first, all, fun tame => deliver_eq_none tame _ w⟩
  · intro create pruner extras settings stackLimit root w trace h h' c c'
    have session : ∀ n, (c'.after h' n).session = (c.after h n).session :=
      p.tracked_session create pruner extras settings stackLimit root w trace
    have world : ∀ n, (c'.after h' n).world.1 = (c.after h n).world :=
      fun n => (p.tracked_inStep create pruner extras settings stackLimit root w trace n).world
    refine ⟨fun n => ⟨session n, world n⟩, fun n x s w' met => ?_, fun calls only start => ?_⟩
    · exact p.tracked_advance create pruner extras (session n) (world n) met
    · obtain ⟨made, same⟩ := only.history pruner extras c
      refine ⟨made, fun n => ?_⟩
      rw [same, show p.listeners c.world = _ from start, ← Listeners.after_append]
      exact reflects _
  · intro w steps empty
    obtain ⟨made, makes, same⟩ := w.registered_playAll steps
    refine ⟨made, makes, fun i => ?_⟩
    rw [same, empty]
    exact reflects _

/-- One listener came and went, and another one was added twice. -/
def sampleCalls : List (ListenerCall SampleListener) :=
  [.add .grumbler, .add .leaver, .add .recruiter, .remove .grumbler, .add .leaver]

theorem sampleCalls_delivery :
    let o : ListenerWorld := ⟨0, Listeners.after [] sampleCalls, {}⟩
    let event : Event Goal Value Product := .evaluationStarted (numberedGoal 0)
    let delivered := sampleServices.tracked.emit [.grumbler, .leaver, .recorder] event (o, [])
    o.listeners = [.leaver, .recruiter] ∧ Listeners.Reflects sampleCalls o.listeners ∧
    delivered.1 = none ∧
    delivered.2.2 = [.leaver, .recruiter, .grumbler, .recorder].map (·, event) ∧
    delivered.2.1.listeners = [.recruiter, .grumbler] := by
  intro o event delivered
  obtain ⟨reflects, deliveries, -⟩ := events_reach_registered_then_extras sampleServices
  obtain ⟨told, same, -, all, quiet⟩ := deliveries [.grumbler, .leaver, .recorder] event o []
  have silent := quiet fun l => sampleServices_isolated.tame l event
  refine ⟨rfl, reflects sampleCalls, (congrArg Prod.fst same).trans silent, ?_, rfl⟩
  have tracked : delivered.2.2 = told.map (·, event) := congrArg (fun result => result.2.2) same
  rw [tracked, all silent]
  rfl

end Pursuit

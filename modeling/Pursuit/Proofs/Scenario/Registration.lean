import Pursuit.Proofs.Scenario.Running
import Pursuit.Proofs.Statistics.Registration

/-! # Who changes the list of listeners of a scenario

Scripted evaluators, functions and listeners may register listeners and take them out at any time,
in the middle of a session and in the middle of a delivery. Whatever they do, the list of
listeners changes by calls alone.
-/

namespace Pursuit.Scenario

def Lists (J : Listeners Nat → Prop) (w : World) : Prop :=
  J w.registered

variable {J : Listeners Nat → Prop}

/-! ## Scripts -/

section Scripts

theorem keeps_trace (entry : TraceEntry) : Keeps (Lists J) (trace entry) := by
  unfold trace
  split
  · exact .throw _
  · exact .modify fun _ made => made

theorem keeps_setRole (place : Nat) (role : Role) : Keeps (Lists J) (setRole place role) :=
  .modify fun _ made => made

theorem keeps_remember (serial : Nat) (change : Memory → Memory) :
    Keeps (Lists J) (remember serial change) :=
  .modify fun _ made => made

theorem keeps_goalClassOf (kind : String) : Keeps (Lists J) (goalClassOf kind) := by
  apply Keeps.reading
  intro w made
  dsimp only
  split
  · exact .pure _
  · exact .throw _

theorem keeps_contextNamed (asking : Option Goal) (name : String) :
    Keeps (Lists J) (contextNamed asking name) := by
  unfold contextNamed
  split
  · split
    · exact .ofExcept _
    · exact .throw _
  · apply Keeps.reading
    intro w made
    split
    · exact .pure _
    · exact .throw _

theorem keeps_makeGoal (cls : GoalType) (context : FieldValue) (fields : List Data) :
    Keeps (Lists J) (makeGoal cls context fields) := by
  unfold makeGoal
  split
  · exact .pure _
  · exact .throw _

theorem keeps_goalNamed (asking : Option Goal) (name : GoalName) :
    Keeps (Lists J) (goalNamed asking name) := by
  cases name with
  | sibling field =>
      cases asking with
      | none => exact .throw _
      | some goal => exact (Keeps.ofExcept _).bind fun context => keeps_makeGoal _ context _
  | full kind context fields =>
      exact (keeps_goalClassOf kind).bind fun cls => (keeps_contextNamed asking context).bind
        fun context => keeps_makeGoal _ context fields

theorem keeps_listenerPlace (id : String) : Keeps (Lists J) (listenerPlace id) := by
  apply Keeps.reading
  intro w made
  split
  · exact .pure _
  · exact .throw _

theorem keeps_advance (seconds : Amount) : Keeps (Lists J) (advance seconds) :=
  (Keeps.ofExcept _).bind fun _ => .modify fun _ made => made

theorem keeps_newSerial : Keeps (Lists J) newSerial :=
  .reading fun _ made => .bind (.set made) fun _ => .pure _

theorem keeps_askLeaf (leaf : Leaf) (elapsed : Float) :
    Keeps (Lists J) (askLeaf leaf elapsed) :=
  .ofFunction fun _ made => made

variable (called : Listeners.KeptByCalls J)

include called

theorem keeps_addListener (id : String) : Keeps (Lists J) (addListener id) :=
  (keeps_listenerPlace id).bind fun place =>
    .modify fun w made => called w.registered (.add place) made

theorem keeps_removeListener (id : String) : Keeps (Lists J) (removeListener id) :=
  (keeps_listenerPlace id).bind fun place =>
    .modify fun w made => called w.registered (.remove place) made

variable {resolver : Resolver} (resolved : ∀ g, Keeps (Lists J) (resolver g))

include resolved

theorem keeps_act (actor : Actor) (action : Action) :
    Keeps (Lists J) (act resolver actor action) := by
  cases action with
  | advance seconds => exact keeps_advance seconds
  | addListener id => exact keeps_addListener called id
  | removeListener id => exact keeps_removeListener called id
  | raise failure => exact .throw _
  | eval name =>
      apply (keeps_goalNamed _ name).bind
      intro goal
      apply (resolved goal).bind
      intro value
      split
      · exact keeps_remember _ _
      · exact .pure _

theorem keeps_actAll (actor : Actor) (actions : List Action) :
    Keeps (Lists J) (actAll resolver actor actions) :=
  .forM (keeps_act called resolved actor) actions

theorem keeps_setUp (cls : EvaluatorClass) (goal : Goal) :
    Keeps (Lists J) (setUp resolver cls goal) := by
  apply keeps_newSerial.bind
  intro serial
  dsimp only
  split
  · exact (keeps_trace _).bind fun _ => Keeps.reading fun _ _ =>
      (keeps_actAll called resolved _ _).bind fun _ => .pure _
  · exact .pure _

theorem keeps_initScripted (e : Evaluator) :
    Keeps (Lists J) (initScripted resolver e) := by
  apply (keeps_trace _).bind
  intro _
  apply Keeps.reading
  intro w made
  apply (keeps_actAll called resolved _ _).bind
  intro _
  split
  · exact .mapM (keeps_goalNamed _) _
  · exact .throw _

omit called resolved in
theorem keeps_reply (answersSealed : Bool) (e : Evaluator) (batch : List (Option Value))
    (r : Reply) : Keeps (Lists J) (reply answersSealed e batch r) := by
  induction r with
  | raise failure => exact .throw _
  | stray object => exact (Keeps.ofExcept _).bind fun _ => .pure _
  | tamper rest ih =>
      rw [reply]
      split
      · exact .throw _
      · exact ih
  | moreThenRaise names failure =>
      exact .tryCatch ((Keeps.mapM (keeps_goalNamed _) names).bind fun _ => .pure _) fun _ =>
        .pure _
  | more names => exact (Keeps.mapM (keeps_goalNamed _) names).bind fun _ => .pure _
  | done expression => exact Keeps.reading fun _ _ => (Keeps.ofExcept _).bind fun _ => .pure _

theorem keeps_resumeScripted (answersSealed : Bool) (e : Evaluator)
    (answers : Ledger Goal (Option Value)) :
    Keeps (Lists J) (resumeScripted resolver answersSealed e answers) :=
  (keeps_trace _).bind fun _ => Keeps.reading fun _ _ => (keeps_remember _ _).bind fun _ =>
    Keeps.reading fun _ _ => (keeps_actAll called resolved _ _).bind fun _ => keeps_reply _ _ _ _

theorem keeps_callBody (body : Body) (goal : Goal) :
    Keeps (Lists J) (callBody resolver body goal) := by
  apply (keeps_actAll called resolved _ _).bind
  intro _
  split
  · apply Keeps.reading
    intro w made
    split
    · split
      · exact (keeps_setUp called resolved _ _).bind fun _ => .pure _
      · exact .throw _
    · exact .throw _
  · exact (Keeps.ofExcept _).bind fun _ => keeps_newSerial.bind fun _ => .pure _
  · exact .pure _
  · exact .pure _
  · exact .pure _

theorem keeps_askFactory (f : Factory) (goal : Goal) :
    Keeps (Lists J) (askFactory resolver f goal) := by
  apply (keeps_trace _).bind
  intro _
  split
  · exact keeps_callBody called resolved _ goal
  · exact .pure _

theorem keeps_hear (place : Nat) (event : Happening) :
    Keeps (Lists J) (hear resolver place event) := by
  apply Keeps.reading
  intro w made
  split
  · exact .pure _
  · split
    · exact .pure _
    · exact keeps_setRole _ _
    · exact (keeps_setRole _ _).bind fun _ => .reply _
    · split
      · exact .pure _
      · exact (keeps_trace _).bind fun _ => keeps_actAll called resolved _ _

theorem services_keeps (answersSealed : Bool) :
    (services resolver answersSealed).Keeps (Lists J) where
  askFactory := keeps_askFactory called resolved
  callFunction := keeps_callBody called resolved
  setUp := keeps_setUp called resolved
  initCustom := keeps_initScripted called resolved
  resumeCustom := keeps_resumeScripted called resolved answersSealed
  noticeSearch _ _ made := made
  askPruner := keeps_askLeaf
  hear := keeps_hear called resolved
  record entry w made := by
    change Lists J (w.logged entry)
    unfold World.logged
    split <;> exact made

theorem Engine.evaluateGoal_keeps (engine : Engine) (pruner : Option (Pruner Leaf))
    (extras : List Nat) (goal : Goal) {w : World} (made : Lists J w) :
    Lists J (engine.evaluateGoal resolver pruner extras goal w).2 := by
  have keeps := services_keeps called resolved true
  unfold Engine.evaluateGoal
  dsimp only
  split
  · exact keeps.resolve (keeps.askFactory _) _ _ _ _ _ _ made
  · apply keeps.resolve
    · intro g
      exact (keeps.create _ g).bind fun _ => .pure _
    · exact made

end Scripts

/-! ## Sessions within sessions -/

/-- The means of a script to resolve a goal, with at most `depth` sessions within one another. -/
def nestedResolver (depth : Nat) : Resolver := fun goal => do
  match (← get).engine with
  | some current => resolveWithin depth current none [] goal
  | none => .fault (noEngine "engine")

section Sessions

variable (called : Listeners.KeptByCalls J)

include called

theorem keeps_resolveWithin (depth : Nat) (engine : Engine) (pruner : Option (Pruner Leaf))
    (extras : List Nat) (goal : Goal) :
    Keeps (Lists J) (resolveWithin depth engine pruner extras goal) := by
  induction depth generalizing engine pruner extras goal with
  | zero => exact .throw _
  | succ depth ih =>
      -- What a script resolves on its own goes one level deeper.
      have nested : ∀ g, Keeps (Lists J) (nestedResolver depth g) := by
        intro g
        apply Keeps.reading
        intro w made
        split
        · exact ih _ _ _ _
        · exact .throw _
      apply Keeps.ofFunction
      intro w made
      dsimp only
      split
      · rename_i same
        obtain rfl := congrArg Prod.snd same
        exact Engine.evaluateGoal_keeps called nested engine pruner extras goal made
      · rename_i same
        obtain rfl := congrArg Prod.snd same
        exact Engine.evaluateGoal_keeps called nested engine pruner extras goal made

theorem keeps_nestedResolver (depth : Nat) (goal : Goal) :
    Keeps (Lists J) (nestedResolver depth goal) := by
  apply Keeps.reading
  intro w made
  split
  · exact keeps_resolveWithin called _ _ _ _ _
  · exact .throw _

theorem standingServices_keeps : standingServices.Keeps (Lists J) :=
  services_keeps called (keeps_nestedResolver called nestingDepth) false

end Sessions

/-! ## Steps -/

section Steps

theorem keeps_playing {α : Type} {p : Play α} (kept : Keeps (Lists J) p) :
    Keeps (Lists J) (playing p) := by
  intro w made
  rw [run_playing]
  exact kept w made

theorem keeps_orRefuse {ε α : Type} (refusal : ε → StepError) (result : Except ε α) :
    Keeps (Lists J) (orRefuse refusal result) := by
  cases result with
  | ok a => exact .pure a
  | error e => exact .throw _

theorem keeps_goalIn (name : GoalName) : Keeps (Lists J) (goalIn name) :=
  keeps_playing (keeps_goalNamed none name)

theorem keeps_evaluatorClassNamed (name : String) :
    Keeps (Lists J) (evaluatorClassNamed name) := by
  apply Keeps.reading
  intro w made
  split
  · exact .pure _
  · exact .throw _

theorem keeps_keyIn (key : KeyName) : Keeps (Lists J) (keyIn key) := by
  unfold keyIn
  split
  · exact .pure _
  · exact .pure _
  · exact (keeps_playing (keeps_goalClassOf _)).bind fun _ => .pure _
  · exact .pure _
  · exact .pure _

theorem keeps_constructorIn (c : ConstructorName) :
    Keeps (Lists J) (constructorIn c) := by
  cases c with
  | evaluators name => exact (keeps_evaluatorClassNamed name).bind fun _ => .pure _
  | function params returns body =>
      exact (keeps_orRefuse _ _).bind fun _ => Keeps.reading fun _ _ => .pure _
  | _ => exact .pure _

theorem keeps_changeRegistry (place : Nat) (change : Catalogue → Registry Factory Body →
    Except RegistrationError (Registry Factory Body)) :
    Keeps (Lists J) (changeRegistry place change) :=
  .reading fun _ made => (keeps_orRefuse _ _).bind fun _ => .bind (.set made) fun _ =>
    .reading fun _ _ => .pure _

theorem keeps_useRegistry (r : Registry Factory Body) : Keeps (Lists J) (useRegistry r) :=
  .reading fun _ made => .bind (.set made) fun _ => .pure _

theorem keeps_declareEvaluators (d : ClassName) : Keeps (Lists J) (declareEvaluators d) := by
  apply (keeps_evaluatorClassNamed _).bind
  intro base
  refine .bind (.mapM_option (fun names => .mapM (fun name => ?_) names) _) fun arguments => ?_
  · split
    · exact .pure _
    · exact (keeps_playing (keeps_goalClassOf _)).bind fun _ => .pure _
    · exact .pure _
    · exact .pure _
  · -- Each refusal is followed by what would come after it.
    refine .ite (.ite (.bind (.throw _) fun _ => ?_) ?_)
      (.bind (.throw _) fun _ => .ite (.bind (.throw _) fun _ => ?_) ?_)
    all_goals
      generalize EvaluatorDeclaration.toClass? _ = found
      cases found with
      | none => exact .throw _
      | some c => exact .bind (.modify fun _ made => made) fun _ => .pure _

theorem keeps_settingsIn (s : SettingsName) : Keeps (Lists J) (settingsIn s) :=
  keeps_orRefuse _ _

theorem keeps_prunerIn (script : PrunerScript) : Keeps (Lists J) (prunerIn script) :=
  .reading fun _ made => .bind (.set made) fun _ => keeps_orRefuse _ _

theorem keeps_engineInUse : Keeps (Lists J) engineInUse := by
  apply Keeps.reading
  intro w made
  split
  · exact .pure _
  · exact .throw _

theorem keeps_inferencerInUse : Keeps (Lists J) inferencerInUse := by
  apply Keeps.reading
  intro w made
  split
  · split
    · exact .pure _
    · exact .throw _
  · exact .throw _

theorem keeps_limitIn (limit : LimitName) : Keeps (Lists J) (limitIn limit) := by
  cases limit with
  | pruner script => exact (keeps_prunerIn script).bind fun _ => .pure _
  | _ => exact .pure _

theorem keeps_roleOf (id : String) : Keeps (Lists J) (roleOf id) := by
  apply (keeps_playing (keeps_listenerPlace id)).bind
  intro place
  apply Keeps.reading
  intro w made
  split <;> exact .pure _

theorem keeps_recordingOf (id wanted : String) : Keeps (Lists J) (recordingOf id wanted) := by
  apply (keeps_roleOf id).bind
  intro found
  dsimp only
  split
  · exact .pure _
  · exact .throw _

theorem keeps_totalsOf (id wanted : String) : Keeps (Lists J) (totalsOf id wanted) := by
  apply (keeps_roleOf id).bind
  intro found
  dsimp only
  split
  · exact .pure _
  · exact .throw _

theorem keeps_amountIn (amount : Amount) : Keeps (Lists J) (amountIn amount) := by
  unfold amountIn
  split
  · exact .pure _
  · exact .throw _

theorem keeps_stateIn (d : Data) : Keeps (Lists J) (stateIn d) := by
  unfold stateIn
  dsimp only
  split
  · exact .pure _
  · exact .throw _

theorem keeps_eventIn (s : Signal) : Keeps (Lists J) (eventIn s) := by
  apply (keeps_goalIn _).bind
  intro goal
  apply (keeps_amountIn _).bind
  intro elapsed
  apply (Keeps.mapM_option (fun names => Keeps.mapM keeps_goalIn names) _).bind
  intro subgoals
  split
  · exact .pure _
  · exact .pure _
  · exact .pure _
  · exact (Keeps.mapM_option keeps_goalIn _).bind fun _ => .pure _
  · split
    · exact .pure _
    · exact .throw _
  · apply (Keeps.mapM_option keeps_stateIn _).bind
    intro old
    split
    · exact (keeps_stateIn _).bind fun _ => .pure _
    · exact .throw _
  · exact .throw _

theorem keeps_written (answer : Answer) : Keeps (Lists J) (written answer) := by
  unfold written
  split
  · exact .throw _
  · exact .pure _

def Step.playsScripts : Step → Bool
  | .create _ | .drive _ | .evaluate .. | .evaluateType .. | .emit _ => true
  | _ => false

def Step.call? (w : World) : Step → Option (ListenerCall Nat)
  | .addListener id => (w.listenerPlaces.find? id).map .add
  | .removeListener id => (w.listenerPlaces.find? id).map .remove
  | _ => none

theorem keeps_createEvaluator (called : Listeners.KeptByCalls J)
    (goal : Goal) : Keeps (Lists J) (createEvaluator goal) :=
  .reading fun _ _ => keeps_playing ((standingServices_keeps called).create _ goal)

theorem keeps_driveGoal (called : Listeners.KeptByCalls J)
    (goal : Goal) : Keeps (Lists J) (driveGoal goal) := by
  have keeps := standingServices_keeps called
  apply (keeps_createEvaluator called goal).bind
  intro made
  split
  · exact .pure _
  · apply (keeps_playing (keeps.init _)).bind
    intro subgoals
    apply (keeps_playing (keeps.resume _ _)).bind
    intro outcome
    split
    · exact .pure _
    · exact .pure _
    · exact .throw _
    · exact .throw _

theorem keeps_sendSignal (called : Listeners.KeptByCalls J)
    (s : Signal) : Keeps (Lists J) (sendSignal s) := by
  apply (keeps_eventIn s).bind
  intro event
  apply (Keeps.mapM (fun id => keeps_playing (keeps_listenerPlace id)) _).bind
  intro extras
  apply Keeps.reading
  intro w _
  refine .bind (.modify fun _ made => made) fun _ => ?_
  apply Keeps.reading
  intro w' made
  have heard := (standingServices_keeps called).emit extras event made
  generalize standingServices.emit extras event w' = delivered at heard ⊢
  obtain ⟨reply, after⟩ := delivered
  refine .bind (.set heard) fun _ => ?_
  split
  · exact .pure _
  · exact .throw _

theorem Step.keeps_of_playsScripts {step : Step} (plays : step.playsScripts = true)
    (called : Listeners.KeptByCalls J) :
    Keeps (Lists J) step.doing := by
  cases step with
  | create name =>
      exact (keeps_goalIn name).bind fun goal => (keeps_createEvaluator called goal).bind
        fun _ => .pure _
  | drive name => exact (keeps_goalIn name).bind fun goal => keeps_driveGoal called goal
  | evaluate name pruner listeners =>
      exact (Keeps.mapM_option keeps_prunerIn _).bind fun _ =>
        (Keeps.mapM (fun id => keeps_playing (keeps_listenerPlace id)) _).bind fun _ =>
        keeps_engineInUse.bind fun _ => (keeps_goalIn name).bind fun _ =>
        (keeps_playing (keeps_resolveWithin called _ _ _ _ _)).bind fun _ => .pure _
  | evaluateType name limit =>
      exact (keeps_limitIn limit).bind fun _ => keeps_inferencerInUse.bind fun _ =>
        (keeps_goalIn name).bind fun _ => (keeps_orRefuse _ _).bind fun _ =>
        (keeps_playing (keeps_resolveWithin called _ _ _ _ _)).bind fun _ => .pure _
  | emit signal => exact keeps_sendSignal called signal
  | _ => cases plays

/-- A step that neither plays scripts nor is a call keeps the list of listeners as it is. -/
theorem Step.keeps_quiet {step : Step} (quiet : step.playsScripts = false)
    (unadded : ∀ id, step ≠ .addListener id) (unremoved : ∀ id, step ≠ .removeListener id) :
    Keeps (Lists J) step.doing := by
  cases step with
  | define d =>
      exact (Keeps.mapM_option (fun kind => keeps_playing (keeps_goalClassOf kind)) _).bind fun _ =>
        .reading fun _ _ => (keeps_orRefuse _ _).bind fun _ => .bind (.modify fun _ made => made)
        fun _ => .pure _
  | goalClass kind => exact (keeps_playing (keeps_goalClassOf kind)).bind fun _ => .pure _
  | goalKinds | kinds => exact .reading fun _ _ => .pure _
  | goalsEqual a b =>
      exact (keeps_goalIn a).bind fun _ => (keeps_goalIn b).bind fun _ =>
        .ite (.bind (.throw _) fun _ => .pure _) (.pure _)
  | distinctGoals names =>
      apply (Keeps.mapM keeps_goalIn names).bind
      intro goals
      split
      · exact .pure _
      · exact .throw _
  | showGoal name => exact (keeps_goalIn name).bind fun _ => .pure _
  | newRegistry factory => exact (keeps_useRegistry _).bind fun _ => .pure _
  | register key constructor =>
      exact (keeps_keyIn key).bind fun _ => (keeps_constructorIn constructor).bind fun _ =>
        .reading fun _ _ => keeps_changeRegistry _ _
  | unregister key =>
      exact (keeps_keyIn key).bind fun _ => .reading fun _ _ => keeps_changeRegistry _ _
  | isRegistered key => exact (keeps_keyIn key).bind fun _ => .reading fun _ _ => .pure _
  | defineEvaluators d => exact keeps_declareEvaluators d
  | goalParameter name => exact (keeps_evaluatorClassNamed name).bind fun _ => .pure _
  | newEngine factory settings =>
      exact (keeps_settingsIn settings).bind fun _ => .reading fun _ _ =>
        .bind (.modify fun _ made => made) fun _ => .pure _
  | newInferencer factory settings =>
      exact (keeps_settingsIn settings).bind fun _ => .reading fun _ _ =>
        (keeps_orRefuse _ _).bind fun _ => (keeps_useRegistry _).bind fun _ =>
        .bind (.modify fun _ made => made) fun _ => .pure _
  | setStackLimit limit => exact .bind (.modify fun _ made => made) fun _ => .pure _
  | advance seconds => exact (keeps_playing (keeps_advance seconds)).bind fun _ => .pure _
  | newListener id role => exact .bind (.modify fun _ made => made) fun _ => .pure _
  | events id clear =>
      exact (keeps_recordingOf id _).bind fun _ => (keeps_written _).bind fun _ =>
        .ite (.bind (keeps_playing (keeps_setRole _ _)) fun _ => .pure _) (.pure _)
  | eventNames id | eventsNamed id => exact (keeps_recordingOf id _).bind fun _ => .pure _
  | snapshot id => exact (keeps_totalsOf id _).bind fun _ => .pure _
  | reset id =>
      exact (keeps_totalsOf id _).bind fun _ => .bind (keeps_playing (keeps_setRole _ _)) fun _ =>
        .pure _
  | addListener id => exact absurd rfl (unadded id)
  | removeListener id => exact absurd rfl (unremoved id)
  | create | drive | evaluate | evaluateType | emit => cases quiet

theorem registered_addListener (id : String) (w : World) :
    ((addListener id).perform w).2.registered =
    w.registered.after ((w.listenerPlaces.find? id).map .add).toList := by
  rw [addListener, Attempt.perform, run_bind (perform_listenerPlace id w)]
  cases w.listenerPlaces.find? id <;> rfl

theorem registered_removeListener (id : String) (w : World) :
    ((removeListener id).perform w).2.registered =
      w.registered.after ((w.listenerPlaces.find? id).map .remove).toList := by
  rw [removeListener, Attempt.perform, run_bind (perform_listenerPlace id w)]
  cases w.listenerPlaces.find? id <;> rfl

theorem registered_playing_bind {α γ : Type} {p : Play α} {k : α → Doing γ}
    (quiet : ∀ J a, Keeps (Lists J) (k a)) (w : World) :
    ((playing p >>= k).run.run w).2.registered = (p.perform w).2.registered := by
  rw [run_bind (run_playing p w)]
  cases (p.perform w).1 with
  | error f => rfl
  | ok a => exact quiet (· = (p.perform w).2.registered) a _ rfl

theorem World.play_world (w : World) (step : Step) : (w.play step).2 =
    ((step.doing >>= written).run.run { w with trace := [], log := [] }).2 :=
  rfl

/-- A step that plays no scripts makes the call that it is, and no other. -/
def Step.Makes (w : World) (step : Step) (calls : List (ListenerCall Nat)) : Prop :=
  step.playsScripts = false → calls = (step.call? w).toList

/-- Whatever a step does, it changes the list of listeners by calls. -/
theorem World.registered_play (w : World) (step : Step) :
    ∃ calls, step.Makes w calls ∧ (w.play step).2.registered = w.registered.after calls := by
  have shown : ∀ J (_ : Unit), Keeps (Lists J)
      ((do return .texts (← get).registeredIds : Doing Answer) >>= written) :=
    fun J _ => .bind (.reading fun _ _ => .pure _) keeps_written
  rw [World.play_world]
  cases plays : step.playsScripts with
  | true =>
      have keeps := Step.keeps_of_playsScripts plays (Listeners.keptByCalls_after w.registered)
      obtain ⟨calls, same⟩ := (keeps.bind keeps_written) { w with trace := [], log := [] } ⟨[], rfl⟩
      exact ⟨calls, fun quiet => by simp [plays] at quiet, same⟩
  | false =>
      refine ⟨(step.call? w).toList, fun _ => rfl, ?_⟩
      unfold Step.call?
      split
      · rw [Step.doing, bind_assoc, registered_playing_bind shown, registered_addListener]
      · rw [Step.doing, bind_assoc, registered_playing_bind shown, registered_removeListener]
      · rename_i unadded unremoved
        have same : ∀ J, Keeps (Lists J) (step.doing >>= written) :=
          fun J => (Step.keeps_quiet plays unadded unremoved).bind keeps_written
        exact same (· = w.registered) _ rfl

def World.playAll (w : World) (steps : List Step) : World :=
  steps.foldl (fun w step => (w.play step).2) w

/-- At each time the list of listeners is what the calls so far made of it. -/
theorem World.registered_playAll (w : World) (steps : List Step) :
    ∃ made : Nat → List (ListenerCall Nat),
      (∀ i (step : Step), steps[i]? = some step → step.Makes (w.playAll (steps.take i)) (made i)) ∧
      ∀ i, (w.playAll (steps.take i)).registered =
        w.registered.after ((List.range i).flatMap made) := by
  have each : ∀ i, ∃ calls,
      (∀ step : Step, steps[i]? = some step → step.Makes (w.playAll (steps.take i)) calls) ∧
      (w.playAll (steps.take (i + 1))).registered =
        (w.playAll (steps.take i)).registered.after calls := by
    intro i
    cases found : steps[i]? with
    | none =>
        refine ⟨[], by simp, ?_⟩
        rw [List.take_add_one, found]
        simp [Listeners.after]
    | some step =>
        obtain ⟨calls, makes, same⟩ := (w.playAll (steps.take i)).registered_play step
        refine ⟨calls, fun _ found => by cases found; exact makes, ?_⟩
        rw [List.take_add_one, found, playAll, List.foldl_append]
        exact same
  obtain ⟨made, makes, same⟩ :=
    Listeners.exists_history (fun i => (w.playAll (steps.take i)).registered)
    (fun i calls => ∀ step : Step, steps[i]? = some step →
      step.Makes (w.playAll (steps.take i)) calls) each
  exact ⟨made, makes, same⟩

end Steps

end Pursuit.Scenario

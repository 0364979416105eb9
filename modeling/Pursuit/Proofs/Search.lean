import Pursuit.Inferencer
import Pursuit.Proofs.Registry.History
import Pursuit.Proofs.Session.Progress

/-! # What index goals find

A goal that searches an index needs no other goals: its evaluator is built, asks for nothing and is
done when it is resumed. So a session on such a goal is one search, whatever the listeners do short
of interrupting it, and the answer holds the references that the index has for it, as they stand
there.
-/

namespace Pursuit

variable {W G V E F β K L : Type}

/-! ## Sessions of one goal -/

def Exchange.isInterruption : Exchange G V E → Bool
  | .emit _ _ (some _) => true
  | _ => false

/-- No listener interrupts, from here on. -/
def Play.Undisturbed [Keyed G] (h : Host W G V E) (c : Play W G V E) : Prop :=
  c.Always h fun _ x => x.isInterruption = false

/-- An evaluator asks for nothing, and is done with a value when it is resumed. -/
structure Host.Finds (h : Host W G V E) (value : Option V) (e : E) : Prop where
  init : ∀ w, ((h.init e).perform w).1 = .ok []
  resume : ∀ answers w, ((h.resume e answers).perform w).1 = .ok (.done value)

namespace Play

variable [Keyed G] {h : Host W G V E} {P : Play W G V E → Exchange G V E → Prop}
  {c : Play W G V E} {b : Nat} {k : Ledger G (Entry V)} {C : List (Frame G V E)}
  {L : List (G × Ledger G (Option V))}

theorem Stands.assigned {g : G} {Q : E → Prop} (stands : c.Stands b k C (.create g) L)
    (always : c.Always h P)
    (assigned : ∀ now reply, P c (.create g now reply) → ∃ e, reply = .ok (some e) ∧ Q e) :
    ∃ e, Q e ∧ (c.after h 1).Stands b k C (.assign g (.evaluator e)) L := by
  obtain ⟨root, started, now, x, s, taken, fits, session, log⟩ :=
    stands.turn (by simp [Session.next]) always
  cases taken with
  | create now' reply =>
      obtain ⟨e, rfl, fit⟩ := assigned now' reply fits
      exact ⟨e, fit, ⟨root, started, now', session⟩, log.trans (List.append_nil L)⟩

/-- A goal whose evaluator finds the value is answered with it, and no other goal is looked at. -/
theorem opening_finds [EquivBEq G] {root : G} {value : Option V} {settings : Settings}
    {stackLimit : Int} {w : W} (key : Keyed.isKey root = true)
    (lenient : ∀ elapsed w, ((h.check elapsed).perform w).1 = .ok false)
    (assigned : ∀ w, ∃ e, ((h.create root).perform w).1 = .ok (some e) ∧ h.Finds value e)
    (undisturbed : (opening h settings stackLimit root w).Undisturbed h) :
    (opening h settings stackLimit root w).Arrives h
      fun d => d.session.outcome? = some (.ok value) := by
  have room : ([] : List (Frame G V E)).length < settings.depthBound stackLimit := by
    have := settings.maxDepth_pos
    simp only [Settings.depthBound, stackBound, List.length_nil]
    omega
  have always : (opening h settings stackLimit root w).Always h fun c x =>
      h.Gives c.world x ∧ x.isInterruption = false :=
    fun n x s w' met => ⟨Host.gives_of_meet met, undisturbed n x s w' met⟩
  have quiet : ∀ (c : Play W G V E) event now reply,
      h.Gives c.world (.emit event now reply) ∧
        (Exchange.emit event now reply : Exchange G V E).isInterruption = false → reply = none := by
    rintro c event now (_ | i) ⟨-, calm⟩
    · rfl
    · cases calm
  refine (opening_requests quiet always).trans fun n requesting => ?_
  replace always := always.after n
  generalize (opening h settings stackLimit root w).after h n = c at always requesting
  have gated := requesting.gates quiet always key (by simp [Answered, Ledger.find?]) rfl
  have creating := gated.passes (always.after 2) (fun _ _ _ fits => fits.1.1.trans (lenient _ _))
    root false fun _ _ _ => Session.next_gate room
  obtain ⟨e, finds, assigning⟩ := creating.assigned (always.after 3) fun now reply fits => by
    obtain ⟨e, created, finds⟩ := assigned (c.after h 3).world
    exact ⟨e, fits.1.1.trans created, finds⟩
  have assigned : (c.after h 5).Stands _ _ [] (.assigned root (.evaluator e)) [] :=
    assigning.proceed fun _ _ _ => rfl
  have presenting := assigned.tell quiet (always.after 5) fun _ _ _ => ⟨_, rfl⟩
  obtain ⟨t, beginning⟩ := presenting.presented quiet (always.after 6)
  obtain ⟨batch, elapsed, rfl, initialized⟩ := beginning.begun (R := (· = [])) (always.after 7)
    fun now reply fits => ⟨[], fits.1.1.trans (finds.init _), rfl⟩
  have round := initialized.tell quiet (always.after 8) fun _ _ _ => ⟨_, rfl⟩
  -- The batch is empty, so the goal does not wait.
  have dispatching := round.passes (always.after 9)
    (fun _ _ _ fits => fits.1.1.trans (lenient _ _)) root true fun _ _ _ => rfl
  have resuming : (c.after h 11).Stands _ _ [] (.resume (.begin root (.evaluator e) t [])) [] :=
    dispatching.proceed fun _ _ _ => rfl
  obtain ⟨m, k', -, answering⟩ := resuming.concludes quiet (always.after 11)
    fun now reply fits => fits.1.1.trans (finds.resume _ _)
  obtain ⟨l, halted⟩ := answering.ends (h := h)
  exact ⟨11 + m + l, by rwa [after_add, after_add]⟩

end Play

/-! ## Searches -/

theorem SourceIndex.searchListed_references (q : Query) (references : List Reference) :
    searchListed q (references.map .reference) =
      .ok ((references.filter q.matches).map .reference) := by
  induction references with
  | nil => rfl
  | cons r rest ih =>
      simp only [List.map_cons, searchListed, ih, List.filter_cons]
      cases q.matches r <;> rfl

theorem Data.ofText?_beq (a : Option String) (b : String) :
    (Data.ofText? a == Data.text b) = (a == some b) := by
  cases a with
  | none => rfl
  | some a => exact Option.some_beq_some.symm

theorem FieldValue.data_beq (a b : Data) : (FieldValue.data a == .data b) = (a == b) := rfl

def Query.ofTexts (name : String) (kind : ReferenceKind) (parent : Option String) : Query :=
  ⟨.data (.text name), kind, .data (.ofText? parent)⟩

theorem Query.matches_ofTexts (name : String) (kind : ReferenceKind) (parent : Option String) :
    (ofTexts name kind parent).matches = fun r =>
      decide (r.kind = kind ∧ r.name = name ∧ (parent = none ∨ r.parent = parent)) := by
  funext r
  have named : (Data.text r.name == Data.text name) = (r.name == name) :=
    (Data.ofText?_beq (some r.name) name).trans Option.some_beq_some
  rw [Bool.eq_iff_iff]
  cases parent with
  | none =>
      simp [ofTexts, Query.matches, named, Data.ofText?, FieldValue.isNull, Data.isNull, and_comm]
  | some parent =>
      rw [Query.matches, ofTexts, Data.ofText?, FieldValue.data_beq, FieldValue.data_beq,
        Data.ofText?_beq]
      simp [named, FieldValue.isNull, Data.isNull, and_assoc, and_left_comm]

theorem Evaluator.foundReferences_map (references : List Reference) :
    foundReferences (references.map .reference) =
      .tuple (references.map fun r => some (.reference r)) := by
  simp [foundReferences, List.filterMap_map, IndexElement.reference?]

def searchGoal (goals : GoalClass) (context : Context) (name : String) (parent : Option String) :
    Goal :=
  ⟨.declared goals, [.context context, .data (.text name), .data (.ofText? parent)]⟩

theorem isKey_searchGoal (goals : GoalClass) {context : Context}
    (constant : context.isConstant = true) (name : String) (parent : Option String) :
    Keyed.isKey (searchGoal goals context name parent) = true := by
  change (context.isConstant && (true && ((Data.ofText? parent).isConstant && true))) = true
  rw [constant]
  cases parent <;> rfl

namespace Services

theorem searchFor_perform (p : Services W F β K L) {e : Evaluator} {kind : Option ReferenceKind}
    {index : SourceIndex} {q : Query} {elements : List IndexElement}
    (indexed : e.goal.index = .ok index) (queried : e.query kind = .ok q)
    (answered : index.search q = .ok elements) (w : W) :
    ((p.searchFor e kind).perform w).1 =
      .ok (.done (some (Evaluator.foundReferences elements))) := by
  simp only [searchFor, indexed, queried, Attempt.ofExcept, pure_bind]
  have searched : ((p.search index q).perform w).1 = .ok elements := answered
  rw [Attempt.perform_bind_of_ok searched]
  rfl

/-- An evaluator of a standard class is built for the goal that it is given. -/
def BuildsStandard (p : Services W F β K L) : Prop :=
  ∀ pair ∈ Inferencer.standardEvaluators, ∀ goal w,
    ∃ e, ((p.setUp pair.2 goal).perform w).1 = .ok e ∧ e.cls = pair.2 ∧ e.goal = goal

end Services

/-- There is no factory before the standard evaluators, and none of them is replaced. -/
structure Inferencer.Standard (i : Inferencer F β) : Prop where
  factory : i.registry.userFactory = none
  table : ∀ pair ∈ standardEvaluators,
    i.registry.table.find? pair.1.kind = some (.evaluators pair.2)

def Registry.standard : Registry F β :=
  ⟨none, Inferencer.standardEvaluators.map fun pair => (pair.1.kind, .evaluators pair.2)⟩

theorem Inferencer.standard_standard (settings : Settings) :
    (⟨settings, .standard⟩ : Inferencer F β).Standard := by
  refine ⟨rfl, ?_⟩
  simp only [standardEvaluators, List.forall_mem_cons]
  exact ⟨rfl, rfl, by simp⟩

theorem Inferencer.make_standard (later : List GoalClass) (settings : Settings) :
    ∃ i : Inferencer F β, make ⟨Catalogue.standard.classes ++ later⟩ none settings = .ok i ∧
      i.settings = settings ∧ i.Standard :=
  ⟨⟨settings, .standard⟩, rfl, rfl, standard_standard settings⟩

section Standard

variable {p : Services W F β K L} {i : Inferencer F β} {goals : GoalClass}
  {evaluators : EvaluatorClass} (member : (goals, evaluators) ∈ Inferencer.standardEvaluators)

include member

omit W F β K L p i in
/-- The standard classes search, each for its kind of reference, and differ in nothing else. -/
theorem standard_classes : evaluators.buildable = true ∧ evaluators.init = some .nothing ∧
    goals.layout = FieldSpec.bare ++ [⟨"name", none⟩, ⟨"parent", some .null⟩] := by
  simp only [Inferencer.standardEvaluators, List.mem_cons, Prod.mk.injEq, List.not_mem_nil,
    or_false] at member
  obtain ⟨rfl, rfl⟩ | ⟨rfl, rfl⟩ := member <;> exact ⟨rfl, rfl, rfl⟩

theorem Services.supplyFrom_perform (builds : p.BuildsStandard) (standard : i.Standard)
    {goal : Goal} (cls : goal.cls = .declared goals) (w : W) :
    ∃ e, ((p.supplyFrom i.registry goal).perform w).1 = .ok (some (.evaluator e)) ∧
      e.cls = evaluators ∧ e.goal = goal := by
  obtain ⟨buildable, -, layout⟩ := standard_classes member
  obtain ⟨e, built, fits⟩ := builds _ member goal w
  refine ⟨e, ?_, fits⟩
  have known : goal.lookupKind = .ok (.data (.text goals.kind)) := by
    apply Goal.lookupKind_of_layout cls
    rw [layout]
    simp [FieldSpec.bare, FieldSpec.contextName, FieldSpec.kindField]
  have listed : i.registry.table.find? goals.kind = some (.evaluators evaluators) :=
    standard.table _ member
  have applied : ((p.builder.apply goal (.evaluators evaluators)).perform w).1 =
      .ok (some (.evaluator e)) := by
    have constructed : ((p.builder.construct evaluators goal).perform w).1 = .ok e := by
      rw [Builder.construct, if_pos buildable]
      exact built
    rw [Builder.apply, Attempt.perform_bind_of_ok constructed]
    rfl
  have created : ((i.registry.create p.builder goal).perform w).1 = .ok (some e) := by
    rw [Registry.create, standard.factory]
    rw [Registry.fromTable_of_kind _ _ _ _ known, FieldValue.text?, Option.bind_some, listed,
      Option.map_some, applied]
    rfl
  rw [supplyFrom, Attempt.perform_bind_of_ok created]
  rfl

theorem Services.resolve_search [BEq L] {kind : ReferenceKind}
    (searches : evaluators.resume = some (.search (some kind))) (builds : p.BuildsStandard)
    (standard : i.Standard) {context : Context} (constant : context.isConstant = true)
    {name : String} {parent : Option String} {elements : List IndexElement}
    (answered : context.index.search (.ofTexts name kind parent) = .ok elements)
    (stackLimit : Int) (extras : List L) (w : W)
    (undisturbed :
      (Play.opening (p.host (p.supplyFrom i.registry) .never extras) i.settings stackLimit
        (searchGoal goals context name parent) w).Undisturbed
          (p.host (p.supplyFrom i.registry) .never extras)) :
    ∃ enough, ∀ n, enough ≤ n →
      (i.evaluateGoal p stackLimit n none extras (searchGoal goals context name parent) w).1 =
        some (.ok (some (Evaluator.foundReferences elements))) := by
  refine (exists_evaluate_iff _ _ _ _ _ _).mpr
    (Play.opening_finds (isKey_searchGoal goals constant name parent) (fun _ _ => rfl) (fun w => ?_)
      undisturbed)
  obtain ⟨e, supplied, cls, bound⟩ := supplyFrom_perform member builds standard
    (show (searchGoal goals context name parent).cls = .declared goals from rfl) w
  obtain ⟨-, init, layout⟩ := standard_classes member
  refine ⟨_, supplied, fun w => ?_, fun answers w => ?_⟩
  · change ((p.init e).perform w).1 = .ok []
    rw [Services.init, cls, init]
    rfl
  · change ((p.resume e answers).perform w).1 = _
    rw [Services.resume, cls, searches]
    refine p.searchFor_perform ?_ ?_ answered w
    · simp only [bound, Goal.index, Goal.getField, Goal.fields, searchGoal, GoalType.layout, layout]
      rfl
    · simp only [Evaluator.query, bound, Goal.getField, Goal.fields, searchGoal, GoalType.layout,
        layout]
      rfl

end Standard

/-- Goals that search an index are answered with what it has. An inferencer without a factory of the
caller has the standard evaluators, whatever other goal classes there are. As long as they are not
replaced and no listener interrupts, a goal for the references to a field, or for the calls of a
method, is answered with the references of that kind and name, and with the given parent if there is
one, in the order of the index and as often as they stand there. An index of the host decides itself
what it answers: the references among it are the answer. The goal has to be one that can be looked
up, which it is for every context whose module is a text. -/
theorem index_goals_find_references [BEq L] (p : Services W F β K L) (builds : p.BuildsStandard)
    (i : Inferencer F β) (standard : i.Standard) (goals : GoalClass) (kind : ReferenceKind)
    (searches : (goals, kind) ∈
      [(fieldReferencesGoal, ReferenceKind.field), (methodCallsGoal, .methodCall)])
    (context : Context) (constant : context.isConstant = true) (name : String)
    (parent : Option String) (stackLimit : Int) (extras : List L) (w : W)
    (undisturbed :
      (Play.opening (p.host (p.supplyFrom i.registry) .never extras) i.settings stackLimit
        (searchGoal goals context name parent) w).Undisturbed
          (p.host (p.supplyFrom i.registry) .never extras)) :
    (∀ (later : List GoalClass) (settings : Settings), ∃ j : Inferencer F β,
      Inferencer.make ⟨Catalogue.standard.classes ++ later⟩ none settings = .ok j ∧
        j.settings = settings ∧ j.Standard) ∧
    Goal.make? (.declared goals) [.context context, .data (.text name), .data (.ofText? parent)] =
      some (searchGoal goals context name parent) ∧
    (∀ references : List Reference, context.index = .listed (references.map .reference) →
      ∃ enough, ∀ n, enough ≤ n →
        (i.evaluateGoal p stackLimit n none extras (searchGoal goals context name parent) w).1 =
          some (.ok (some (.tuple ((references.filter fun r =>
            r.kind = kind ∧ r.name = name ∧ (parent = none ∨ r.parent = parent)).map
              fun r => some (.reference r)))))) ∧
    ∀ elements : List IndexElement, context.index = .foreign (.ok elements) →
      ∃ enough, ∀ n, enough ≤ n →
        (i.evaluateGoal p stackLimit n none extras (searchGoal goals context name parent) w).1 =
          some (.ok (some (.tuple ((elements.filterMap IndexElement.reference?).map
            fun r => some (.reference r))))) := by
  obtain ⟨evaluators, member, resume⟩ : ∃ evaluators,
      (goals, evaluators) ∈ Inferencer.standardEvaluators ∧
        evaluators.resume = some (.search (some kind)) := by
    simp only [List.mem_cons, Prod.mk.injEq, List.not_mem_nil, or_false] at searches
    obtain ⟨rfl, rfl⟩ | ⟨rfl, rfl⟩ := searches
    · exact ⟨.fieldReferences, by simp [Inferencer.standardEvaluators], rfl⟩
    · exact ⟨.methodCalls, by simp [Inferencer.standardEvaluators], rfl⟩
  refine ⟨Inferencer.make_standard, ?_, ?_, ?_⟩
  · obtain ⟨-, -, layout⟩ := standard_classes member
    simp only [Goal.make?, GoalType.layout, layout]
    rfl
  · intro references listed
    have answered := SourceIndex.searchListed_references (.ofTexts name kind parent) references
    have found := Services.resolve_search member resume builds standard constant
      (by rw [listed, SourceIndex.search, answered]; rfl) stackLimit extras w undisturbed
    rwa [Evaluator.foundReferences_map, Query.matches_ofTexts] at found
  · intro elements foreign
    have found := Services.resolve_search member resume builds standard constant
      (by rw [foreign]; rfl) stackLimit extras w undisturbed
    rwa [Evaluator.foundReferences, ← List.map_filterMap] at found

theorem Scenario.services_buildsStandard (resolver : Resolver) (answersSealed : Bool) :
    (services resolver answersSealed).BuildsStandard := by
  simp only [Services.BuildsStandard, Inferencer.standardEvaluators, List.forall_mem_cons]
  exact ⟨fun goal w => ⟨_, rfl, rfl, rfl⟩, fun goal w => ⟨_, rfl, rfl, rfl⟩, by simp⟩

/-- A world with one listener, which fails whenever it hears that an evaluator starts or is done. -/
def grumblingWorld : Scenario.World :=
  { Scenario.World.start 0.0 1000 false [] [] with
    listeners := #[⟨"grumbler", .scripted
      [("evaluator_initialized", [.raise (.fault (.badValue "not again"))]),
        ("evaluator_produced_result", [.raise (.fault .badType)])]⟩]
    registered := [0] }

theorem grumblingWorld_search :
    let size (kind : ReferenceKind) (offset : Int) (parent : Option String) : Reference :=
      ⟨"size", kind, "m.py", offset, 4, parent⟩
    let context : Context := ⟨.text "m.py", none, .listed [
      .reference (size .field 30 (some "Disk")), .reference (size .methodCall 50 (some "Disk")),
      .reference (size .field 10 (some "Disk")), .reference (size .field 70 none),
      .reference (size .field 30 (some "Disk"))]⟩
    let p := Scenario.services (fun _ => .fault .badType) true
    let i : Inferencer Scenario.Factory Scenario.Body := ⟨.standard, .standard⟩
    ∃ enough, ∀ n, enough ≤ n →
      (i.evaluateGoal p 1000 n none []
        (searchGoal fieldReferencesGoal context "size" (some "Disk")) grumblingWorld).1 =
          some (.ok (some (.tuple [some (.reference (size .field 30 (some "Disk"))),
            some (.reference (size .field 10 (some "Disk"))),
            some (.reference (size .field 30 (some "Disk")))]))) := by
  intro size context p i
  have halted : ((Play.opening (p.host (p.supplyFrom i.registry) .never []) i.settings 1000
      (searchGoal fieldReferencesGoal context "size" (some "Disk")) grumblingWorld).after
        (p.host (p.supplyFrom i.registry) .never []) 30).session.outcome?.isSome := by
    decide +kernel
  have calm : ∀ m ∈ ((Play.opening (p.host (p.supplyFrom i.registry) .never []) i.settings 1000
      (searchGoal fieldReferencesGoal context "size" (some "Disk")) grumblingWorld).after
        (p.host (p.supplyFrom i.registry) .never []) 30).past,
      m.exchange.isInterruption = false := by
    decide +kernel
  exact (index_goals_find_references p (Scenario.services_buildsStandard _ _) i
    (Inferencer.standard_standard _) fieldReferencesGoal .field (by simp) context rfl "size"
    (some "Disk") 1000 [] grumblingWorld
    (Play.always_of_past (Q := fun _ x => x.isInterruption = false) halted calm)).2.2.1
      [size .field 30 (some "Disk"), size .methodCall 50 (some "Disk"),
        size .field 10 (some "Disk"), size .field 70 none, size .field 30 (some "Disk")] rfl

end Pursuit

import Mathlib.Data.List.Nodup
import Mathlib.Logic.Relation
import Pursuit.Proofs.Registry.History
import Pursuit.Proofs.Scenario.Running

/-! # Constructors and the goals that they take

Goal classes, evaluator classes and registrations grow side by side. A registration is checked once,
with the classes that are there at that time, by the kinds that a goal class lists as its ancestors.
Since no kind is ever given to a second class, the check holds for good, and the kinds are as good
as the classes: a constructor that is registered for evaluators of goals of a class is handed goals
of that class and of its descendants, and no others.
-/

namespace Pursuit

open Relation (ReflTransGen)

variable {W F β : Type}

def Constructor.evaluators? : Constructor β → Option EvaluatorClass
  | .evaluators c | .function _ (.evaluators c) _ => some c
  | _ => none

/-- Something that is done to goal classes, to evaluator classes or to a registry. -/
inductive LibraryStep (β : Type) where
  | declareGoals (d : GoalDeclaration)
  | declareEvaluators (d : EvaluatorDeclaration)
  | call (call : RegistryCall β)

/-- The declared classes, and a registry. -/
structure Library (F β : Type) where
  catalogue : Catalogue
  evaluators : List EvaluatorClass
  registry : Registry F β

namespace Library

/-- Nothing is declared yet but what is always there. -/
def opening (factory : Option F) : Library F β where
  catalogue := .standard
  evaluators :=
    [.root, .nullEvaluator, .fixedAnswer, .indexSearch, .fieldReferences, .methodCalls]
  registry := .empty factory

/-- A library after a step; one that is refused leaves it as it is. -/
def afterStep (s : Library F β) : LibraryStep β → Library F β
  | .declareGoals d =>
    match s.catalogue.declare d with
    | .ok (_, cat) => { s with catalogue := cat }
    | .error _ => s
  | .declareEvaluators d =>
    match d.toClass? with
    | some c => { s with evaluators := s.evaluators ++ [c] }
    | none => s
  | .call call => { s with registry := s.registry.afterCall (s.catalogue, call) }

def after (s : Library F β) (steps : List (LibraryStep β)) : Library F β :=
  steps.foldl afterStep s

/-- A step names only classes that are declared. -/
def Knows (s : Library F β) : LibraryStep β → Prop
  | .declareGoals d => ∀ b, d.base = some b → b ∈ s.catalogue.classes
  | .declareEvaluators d => d.base ∈ s.evaluators ∧
      ∀ args, d.arguments = some args → ∀ P, .goals (.declared P) ∈ args → P ∈ s.catalogue.classes
  | .call (.register _ c) => ∀ E, c.evaluators? = some E → E ∈ s.evaluators
  | .call (.unregister _) => True

/-- Each of the steps names only classes that are declared by then. -/
def Follows (s : Library F β) : List (LibraryStep β) → Prop
  | [] => True
  | d :: rest => s.Knows d ∧ (s.afterStep d).Follows rest

/-- A goal class was accepted that is declared with another as its base. -/
def Extends (start : Library F β) (steps : List (LibraryStep β)) (c base : GoalClass) : Prop :=
  ∃ before d later cat, steps = before ++ .declareGoals d :: later ∧ d.base = some base ∧
    (start.after before).catalogue.declare d = .ok (c, cat)

/-- A goal class is another one, or its base is, or the base of that, and so on. -/
def Descends (start : Library F β) (steps : List (LibraryStep β)) : GoalClass → GoalClass → Prop :=
  ReflTransGen (start.Extends steps)

/-- The goals of a class are those that a constructor says its evaluators are for. -/
def Takes (start : Library F β) (steps : List (LibraryStep β)) (c : Constructor β)
    (goals : GoalClass) :
    Prop :=
  ∀ E P, c.evaluators? = some E → E.goalParameter = some (.declared P) →
    start.Descends steps goals P

end Library

/-! ## Declared classes -/

namespace Catalogue

variable {cat cat' : Catalogue} {d : GoalDeclaration} {c : GoalClass} {kind : String}

theorem kind_of_find? (found : cat.find? kind = some c) : c.kind = kind := by
  simpa using List.find?_some found

theorem mem_of_find? (found : cat.find? kind = some c) : c ∈ cat.classes :=
  List.mem_of_find?_eq_some found

theorem eq_of_kind (distinct : (cat.classes.map (·.kind)).Nodup) {b : GoalClass}
    (first : b ∈ cat.classes) (second : c ∈ cat.classes) (same : b.kind = c.kind) : b = c :=
  List.inj_on_of_nodup_map distinct first second same

theorem find?_of_mem (distinct : (cat.classes.map (·.kind)).Nodup) (member : c ∈ cat.classes) :
    cat.find? c.kind = some c := by
  cases found : cat.find? c.kind with
  | none =>
      have absent := List.find?_eq_none.mp found c member
      simp at absent
  | some b => rw [eq_of_kind distinct (mem_of_find? found) member (kind_of_find? found)]

theorem ancestors_of_shape (shaped : shape d = .ok c) :
    c.ancestors = (d.base.map fun b => b.kind :: b.ancestors).getD [] := by
  cases base : d.base <;>
  · simp only [shape, base, bind, Except.bind] at shaped
    repeat' split at shaped
    all_goals cases shaped <;> rfl

theorem declare_eq_ok (declared : cat.declare d = .ok (c, cat')) :
    shape d = .ok c ∧ cat.find? c.kind = none ∧ cat' = ⟨cat.classes ++ [c]⟩ := by
  simp only [declare, bind, Except.bind] at declared
  split at declared
  · cases declared
  · rename_i b shaped
    split at declared
    · cases declared
    · rename_i absent
      cases declared
      exact ⟨shaped, absent, rfl⟩

theorem find?_declare (declared : cat.declare d = .ok (c, cat')) {b : GoalClass}
    (found : cat.find? kind = some b) : cat'.find? kind = some b := by
  obtain ⟨-, -, rfl⟩ := declare_eq_ok declared
  rw [find?, List.find?_append]
  exact Option.or_eq_some_iff.mpr (.inl found)

end Catalogue

theorem Catalogue.find?_of_resolve {cat : Catalogue} {key : KindKey} {goals : GoalClass}
    (resolved : cat.resolve key = .ok goals) : cat.find? goals.kind = some goals := by
  have known : ∀ kind, resolve.known cat kind = .ok goals → cat.find? goals.kind = some goals := by
    intro kind known
    rw [resolve.known] at known
    split at known
    · rename_i found
      cases known
      rwa [kind_of_find? found]
    · cases known
  cases key with
  | named kind => exact known kind resolved
  | cls c => exact known c.kind resolved
  | other shown => cases resolved

theorem EvaluatorClass.mem_of_goalParameter {E : EvaluatorClass} {type : GoalType}
    (parameter : E.goalParameter = some type) : .goals type ∈ E.arguments := by
  obtain ⟨argument, member, stated⟩ := List.exists_of_findSome?_eq_some parameter
  cases argument with
  | goals =>
      cases stated
      exact member
  | free | other => cases stated

theorem Constructor.includes_of_check {goals P : GoalClass} {c : Constructor β} {E : EvaluatorClass}
    (checked : c.check goals = .ok ()) (made : c.evaluators? = some E)
    (parameter : E.goalParameter = some (.declared P)) : goals.descendsFrom P = true := by
  have fits : c.checkKind goals = .ok () → E.checkGoals goals = .ok () := by
    intro checked
    unfold evaluators? at made
    split at made
    · cases made
      rw [checkKind] at checked
      split at checked
      · cases checked
      · exact checked
    · cases made
      exact checked
    · cases made
  cases kind : c.checkKind goals with
  | error e =>
      simp only [check, kind, bind, Except.bind] at checked
      cases checked
  | ok _ =>
      have fitting := fits kind
      rw [EvaluatorClass.checkGoals, parameter] at fitting
      by_contra other
      have excluded : ¬ (GoalType.declared P).includes (.declared goals) = true := other
      simp [excluded] at fitting

/-! ## One more step -/

namespace Library

variable {s start : Library F β} {past : List (LibraryStep β)} {d : LibraryStep β}

theorem find?_afterStep {kind : String} {c : GoalClass}
    (found : s.catalogue.find? kind = some c) (d : LibraryStep β) :
    (s.afterStep d).catalogue.find? kind = some c := by
  cases d with
  | declareGoals d =>
      rw [afterStep]
      split
      · rename_i declared
        exact Catalogue.find?_declare declared found
      · exact found
  | declareEvaluators d =>
      rw [afterStep]
      split <;> exact found
  | call call => exact found

theorem find?_after {kind : String} {c : GoalClass} (found : s.catalogue.find? kind = some c)
    (steps : List (LibraryStep β)) : (s.after steps).catalogue.find? kind = some c := by
  induction steps generalizing s with
  | nil => exact found
  | cons d rest ih => exact ih (find?_afterStep found d)

theorem after_append (s : Library F β) (earlier later : List (LibraryStep β)) :
    s.after (earlier ++ later) = (s.after earlier).after later :=
  List.foldl_append

theorem Extends.concat {c b : GoalClass} (extends_ : start.Extends past c b) (d : LibraryStep β) :
    start.Extends (past ++ [d]) c b := by
  obtain ⟨before, declaration, later, cat, rfl, rest⟩ := extends_
  exact ⟨before, declaration, later ++ [d], cat, by simp, rest⟩

theorem Descends.concat {c b : GoalClass} (descends : start.Descends past c b) (d : LibraryStep β) :
    start.Descends (past ++ [d]) c b :=
  ReflTransGen.mono (fun _ _ step => Extends.concat step d) c b descends

theorem Takes.concat {c : Constructor β} {goals : GoalClass} (takes : start.Takes past c goals)
    (d : LibraryStep β) : start.Takes (past ++ [d]) c goals :=
  fun E P made stated => (takes E P made stated).concat d

/-- The kinds that a class lists as its ancestors are those of the classes from which it
descends. -/
theorem Descends.kind {c P : GoalClass} (descends : start.Descends past c P) :
    c.kind = P.kind ∨ P.kind ∈ c.ancestors := by
  induction descends using ReflTransGen.head_induction_on with
  | refl => exact .inl rfl
  | @head c b step _ ih =>
      obtain ⟨before, declaration, later, cat, -, base, declared⟩ := step
      have lineage := Catalogue.ancestors_of_shape (Catalogue.declare_eq_ok declared).1
      rw [base] at lineage
      right
      simp only [lineage, Option.map_some, Option.getD_some, List.mem_cons]
      exact ih.imp Eq.symm id

/-- How the classes of a library and the constructors in its registry hang together. -/
structure Sound (start : Library F β) (past : List (LibraryStep β)) (s : Library F β) : Prop where
  distinct : (s.catalogue.classes.map (·.kind)).Nodup
  lineage : ∀ c ∈ s.catalogue.classes, ∀ kind ∈ c.ancestors,
    ∃ b ∈ s.catalogue.classes, b.kind = kind ∧ start.Descends past c b
  stated : ∀ E ∈ s.evaluators, ∀ P, .goals (.declared P) ∈ E.arguments → P ∈ s.catalogue.classes
  fitting : ∀ kind c, (kind, c) ∈ s.registry.table →
    ∃ goals, s.catalogue.find? kind = some goals ∧ start.Takes past c goals

namespace Sound

theorem opening (factory : Option F) :
    Sound (opening factory : Library F β) [] (opening factory) where
  distinct := by
    change (Catalogue.standard.classes.map (·.kind)).Nodup
    decide
  lineage := by
    simp [Library.opening, Catalogue.standard, abstractTypeGoal, fieldReferencesGoal,
      methodCallsGoal]
  stated := by
    simp [Library.opening, Catalogue.standard, EvaluatorClass.root, EvaluatorClass.nullEvaluator,
      EvaluatorClass.fixedAnswer, EvaluatorClass.indexSearch, EvaluatorClass.fieldReferences,
      EvaluatorClass.methodCalls]
  fitting := by simp [Library.opening, Registry.empty]

/-- Among declared classes the check by kinds is the relation of descent. -/
theorem descendsFrom_iff (sound : Sound start past s) {c P : GoalClass}
    (member : c ∈ s.catalogue.classes) (declared : P ∈ s.catalogue.classes) :
    c.descendsFrom P = true ↔ start.Descends past c P := by
  rw [GoalClass.descendsFrom, Bool.or_eq_true, beq_iff_eq, List.contains_iff_mem]
  constructor
  · rintro (same | listed)
    · rw [Catalogue.eq_of_kind sound.distinct member declared same]
      exact .refl
    · obtain ⟨b, known, same, descends⟩ := sound.lineage c member P.kind listed
      rwa [← Catalogue.eq_of_kind sound.distinct known declared same]
  · exact Descends.kind

theorem refused (sound : Sound start past s) (d : LibraryStep β) : Sound start (past ++ [d]) s where
  distinct := sound.distinct
  lineage c member kind listed := by
    obtain ⟨b, known, same, descends⟩ := sound.lineage c member kind listed
    exact ⟨b, known, same, descends.concat d⟩
  stated := sound.stated
  fitting kind c registered := by
    obtain ⟨goals, listed, takes⟩ := sound.fitting kind c registered
    exact ⟨goals, listed, takes.concat d⟩

theorem declared (sound : Sound start past s) (reached : s = start.after past)
    {d : GoalDeclaration} (knows : s.Knows (.declareGoals d)) {c : GoalClass} {cat : Catalogue}
    (accepted : s.catalogue.declare d = .ok (c, cat)) :
    Sound start (past ++ [.declareGoals d]) { s with catalogue := cat } := by
  have older := sound.refused (.declareGoals d)
  have base : ∀ b, d.base = some b → start.Extends (past ++ [.declareGoals d]) c b :=
    fun b base => ⟨past, d, [], cat, rfl, base, reached ▸ accepted⟩
  obtain ⟨shaped, fresh, rfl⟩ := Catalogue.declare_eq_ok accepted
  refine ⟨?_, ?_, ?_, ?_⟩
  · rw [Catalogue.find?, List.find?_eq_none] at fresh
    simp only [List.map_append, List.map_singleton, List.nodup_append, List.nodup_singleton,
      List.mem_map, List.mem_singleton]
    refine ⟨sound.distinct, trivial, ?_⟩
    rintro _ ⟨b, member, rfl⟩ _ rfl same
    exact fresh b member (by simp [same])
  · intro a member kind listed
    rcases List.mem_append.mp member with old | new
    · obtain ⟨b, known, rest⟩ := older.lineage a old kind listed
      exact ⟨b, List.mem_append_left _ known, rest⟩
    · obtain rfl := List.mem_singleton.mp new
      rw [Catalogue.ancestors_of_shape shaped] at listed
      cases given : d.base with
      | none => simp [given] at listed
      | some b =>
          -- Its ancestors are its base and the ancestors of that.
          simp only [given, Option.map_some, Option.getD_some, List.mem_cons] at listed
          rcases listed with rfl | above
          · exact ⟨b, List.mem_append_left _ (knows b given), rfl, .single (base b given)⟩
          · obtain ⟨b', known, same, descends⟩ := older.lineage b (knows b given) kind above
            exact ⟨b', List.mem_append_left _ known, same, descends.head (base b given)⟩
  · intro E member P stated
    exact List.mem_append_left _ (sound.stated E member P stated)
  · intro kind a registered
    obtain ⟨goals, listed, takes⟩ := older.fitting kind a registered
    exact ⟨goals, Catalogue.find?_declare accepted listed, takes⟩

theorem declaredEvaluators (sound : Sound start past s) {d : EvaluatorDeclaration}
    (knows : s.Knows (.declareEvaluators d)) {E : EvaluatorClass} (accepted : d.toClass? = some E) :
    Sound start (past ++ [.declareEvaluators d]) { s with evaluators := s.evaluators ++ [E] } := by
  have older := sound.refused (.declareEvaluators d)
  refine ⟨older.distinct, older.lineage, ?_, older.fitting⟩
  intro E' member P stated
  rcases List.mem_append.mp member with old | new
  · exact sound.stated E' old P stated
  · obtain rfl := List.mem_singleton.mp new
    rw [EvaluatorDeclaration.toClass?] at accepted
    split at accepted
    · cases accepted
      rcases List.mem_append.mp stated with own | inherited
      · obtain ⟨args, given, first⟩ := Option.bind_eq_some_iff.mp (Option.mem_toList.mp own)
        exact knows.2 args given P (List.mem_of_mem_head? first)
      · exact sound.stated d.base knows.1 P inherited
    · cases accepted

/-- A constructor that is accepted takes the goals of its kind. -/
theorem takes_of_put (sound : Sound start past s) {call : RegistryCall β}
    (knows : s.Knows (.call call)) {kind : String} {c : Constructor β}
    (accepted : call.change s.catalogue = .put kind c) :
    ∃ goals, s.catalogue.find? kind = some goals ∧ start.Takes past c goals := by
  obtain ⟨key, goals, rfl, resolved, checked, rfl⟩ := RegistryCall.of_change_eq_put accepted
  have listed := Catalogue.find?_of_resolve resolved
  refine ⟨goals, listed, fun E P made parameter => ?_⟩
  have declared := sound.stated E (knows E made) P (EvaluatorClass.mem_of_goalParameter parameter)
  have included := Constructor.includes_of_check checked made parameter
  exact (sound.descendsFrom_iff (Catalogue.mem_of_find? listed) declared).mp included

theorem called (sound : Sound start past s) {call : RegistryCall β}
    (knows : s.Knows (.call call)) :
    Sound start (past ++ [.call call])
      { s with registry := s.registry.afterCall (s.catalogue, call) } := by
  have older := sound.refused (.call call)
  refine ⟨older.distinct, older.lineage, older.stated, ?_⟩
  intro kind c registered
  rw [Registry.afterCall_eq] at registered
  cases changes : call.change s.catalogue with
  | nothing =>
      rw [changes] at registered
      exact older.fitting kind c registered
  | put kind' c' =>
      rw [changes] at registered
      obtain old | ⟨same, rfl⟩ := Ledger.mem_put registered
      · exact older.fitting kind c old
      · obtain ⟨goals, listed, takes⟩ := sound.takes_of_put knows changes
        exact ⟨goals, eq_of_beq same ▸ listed, takes.concat _⟩
  | remove kind' =>
      rw [changes] at registered
      exact older.fitting kind c (Ledger.mem_erase registered)

theorem step (sound : Sound start past s) (reached : s = start.after past) (knows : s.Knows d) :
    Sound start (past ++ [d]) (s.afterStep d) := by
  cases d with
  | declareGoals d =>
      rw [afterStep]
      split
      · rename_i accepted
        exact sound.declared reached knows accepted
      · exact sound.refused _
  | declareEvaluators d =>
      rw [afterStep]
      split
      · rename_i accepted
        exact sound.declaredEvaluators knows accepted
      · exact sound.refused _
  | call call => exact sound.called knows

theorem run (sound : Sound start past s) (reached : s = start.after past)
    {steps : List (LibraryStep β)}
    (follows : s.Follows steps) : Sound start (past ++ steps) (s.after steps) := by
  induction steps generalizing past s with
  | nil => simpa [after] using sound
  | cons d rest ih =>
      have next : s.afterStep d = start.after (past ++ [d]) := by
        rw [after_append, ← reached]
        rfl
      simpa [after] using ih (sound.step reached follows.1) next follows.2

end Sound

theorem after_of_refused {before later : List (LibraryStep β)} {d : GoalDeclaration}
    {e : DeclarationError}
    (refused : (start.after before).catalogue.declare d = .error e) :
    start.after (before ++ .declareGoals d :: later) = start.after (before ++ later) := by
  have idle : (start.after before).afterStep (.declareGoals d) = start.after before := by
    rw [afterStep, refused]
  rw [after_append, after_append]
  exact congrArg (after · later) idle

end Library

theorem Scenario.define_of_refused {d : GoalClassName} {w w' : World} {e : StepError}
    (refused : (Step.define d).doing.run.run w = (.error e, w')) : w' = w := by
  have declares : ∀ base : Option GoalClass,
      (do let declared ← orRefuse .declaration
            (w.catalogue.declare ⟨d.name, "dyn", base, d.kind, d.fields⟩)
          modify fun w => { w with catalogue := declared.2 }
          return .text declared.1.kind : Doing Answer).run.run w = (.error e, w') → w' = w := by
    intro base refused
    cases declared : w.catalogue.declare ⟨d.name, "dyn", base, d.kind, d.fields⟩ with
    | error e' =>
        rw [declared] at refused
        cases refused
        rfl
    | ok result =>
        rw [declared] at refused
        cases refused
  obtain ⟨name, base, kind, fields⟩ := d
  cases base with
  | none => exact declares none refused
  | some baseKind =>
      simp only [Step.doing, Option.mapM_some, map_eq_pure_bind, bind_assoc, pure_bind] at refused
      rw [run_bind (run_playing _ w), perform_goalClassOf] at refused
      cases found : w.catalogue.find? baseKind with
      | none =>
          rw [found] at refused
          cases refused
          rfl
      | some c =>
          rw [found] at refused
          exact declares (some c) refused

/-- The evaluator of a goal depends on no other constructor than that of the goal's kind. -/
theorem Registry.create_congr {r : Registry F β} {builder builder' : Builder W F β} {goal : Goal}
    {kind : FieldValue} (known : goal.lookupKind = .ok kind)
    (factory : builder.askFactory = builder'.askFactory) (record : builder.record = builder'.record)
    (calls : ∀ c, kind.text?.bind r.table.find? = some c →
      builder.apply goal c = builder'.apply goal c) :
    r.create builder goal = r.create builder' goal := by
  have screens : ∀ source made,
      builder.screen source goal made = builder'.screen source goal made := by
    intro source made
    simp only [Builder.screen, record]
  have table : r.fromTable builder goal = r.fromTable builder' goal := by
    simp only [fromTable, known, Attempt.ofExcept, pure_bind]
    cases found : kind.text?.bind r.table.find? with
    | none => simp only [record]
    | some c => simp only [screens, calls c found]
  unfold create
  simp only [table, screens, factory]

/-- Goals about nodes, of the kind that their name gives. -/
def nodeGoals : GoalClass :=
  ⟨"NodeGoal", "node", "trees", FieldSpec.bare, []⟩

/-- Goals about leaves, which are goals about nodes. -/
def leafGoals : GoalClass :=
  ⟨"LeafGoal", "tip", "trees", FieldSpec.bare, ["node"]⟩

/-- Evaluators for goals about nodes. -/
def nodeEvaluators : EvaluatorClass :=
  { name := "NodeEvaluator", constructor := [.positional], customSetUp := true
    arguments := [.goals (.declared nodeGoals)], typeVariables := []
    init := some .custom, resume := some .custom }

/-- Nodes and leaves are declared, and evaluators for nodes are registered for leaves. A second
class of a kind and a registration for goals that are no nodes are refused. -/
def treeSteps : List (LibraryStep Unit) :=
  [.declareGoals ⟨"NodeGoal", "trees", none, none, []⟩,
    .declareGoals ⟨"LeafGoal", "trees", some nodeGoals, some "tip", []⟩,
    .declareGoals ⟨"TipGoal", "trees", none, none, []⟩,
    .declareEvaluators ⟨"NodeEvaluator", .root, [], some [.goals (.declared nodeGoals)],
      [.positional], some .custom, some .custom⟩,
    .call (.register (.named "abstract_type") (.evaluators nodeEvaluators)),
    .call (.register (.named "tip") (.evaluators nodeEvaluators))]

theorem treeSteps_follow : (Library.opening (none : Option Unit)).Follows treeSteps := by
  refine ⟨nofun, ?_, nofun, ⟨.head _, ?_⟩, ?_, ?_, trivial⟩
  · intro b same
    cases same
    exact .tail _ (.tail _ (.tail _ (.head _)))
  · intro args same P member
    cases same
    cases member with
    | head => exact .tail _ (.tail _ (.tail _ (.head _)))
    | tail _ rest => cases rest
  · intro E same
    cases same
    exact .tail _ (.tail _ (.tail _ (.tail _ (.tail _ (.tail _ (.head _))))))
  · intro E same
    cases same
    exact .tail _ (.tail _ (.tail _ (.tail _ (.tail _ (.tail _ (.head _))))))

/-- Nodes and goals with a field in the place of their kind are declared, and evaluators for nodes
are registered for nodes. -/
def taggedSteps : List (LibraryStep Unit) :=
  [.declareGoals ⟨"NodeGoal", "trees", none, none, []⟩,
    .declareGoals ⟨"TaggedGoal", "goals", none, none, [⟨FieldSpec.kindField, none⟩]⟩,
    .declareEvaluators ⟨"NodeEvaluator", .root, [], some [.goals (.declared nodeGoals)],
      [.positional], some .custom, some .custom⟩,
    .call (.register (.named "node") (.evaluators nodeEvaluators))]

end Pursuit

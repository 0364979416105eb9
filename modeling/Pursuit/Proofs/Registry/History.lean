import Mathlib.Data.List.Induction
import Pursuit.Proofs.Changes
import Pursuit.Proofs.Goal.Kind
import Pursuit.Proofs.Session.Hosting
import Pursuit.Scenario.Step

/-! # The history of a registry

What a registry holds is read off the calls that were made on it: the constructor of a kind is the
one registered last, and the kinds stand in the order in which they came, as long as they were not
taken out in between. Calls that were refused leave no trace.
-/

namespace Pursuit

variable {W F β : Type}

inductive RegistryCall (β : Type) where
  | register (key : KindKey) (c : Constructor β)
  | unregister (key : KindKey)

namespace RegistryCall

/-- Make the call on a registry, with the kinds of goals that are declared at that time. -/
def apply (call : RegistryCall β) (cat : Catalogue) (r : Registry F β) :
    Except RegistrationError (Registry F β) :=
  match call with
  | .register key c => r.register cat key c
  | .unregister key => r.unregister cat key

/-- What the call does to the table, which does not depend on what is registered. -/
def change (cat : Catalogue) : RegistryCall β → Change String (Constructor β)
  | .register key c =>
    match cat.resolve key with
    | .ok goals => if (c.check goals).isOk then .put goals.kind c else .nothing
    | .error _ => .nothing
  | .unregister key =>
    match cat.resolve key with
    | .ok goals => .remove goals.kind
    | .error _ => .nothing

theorem apply_cases (call : RegistryCall β) (cat : Catalogue) (r : Registry F β) :
    (∃ e, call.apply cat r = .error e) ∧ call.change cat = .nothing ∨
      call.apply cat r = .ok { r with table := r.table.change (call.change cat) } ∧
        call.change cat ≠ .nothing := by
  cases call with
  | register key c =>
      cases resolved : cat.resolve key with
      | error e =>
          refine .inl ⟨⟨e, ?_⟩, ?_⟩
          · simp only [apply, Registry.register, resolved]
            rfl
          · simp only [change, resolved]
      | ok goals =>
          cases checked : c.check goals with
          | error e =>
              refine .inl ⟨⟨e, ?_⟩, ?_⟩
              · simp only [apply, Registry.register, resolved, bind, Except.bind, checked]
              · simp only [change, resolved, checked]
                rfl
          | ok _ =>
              have changes : (register key c).change cat = .put goals.kind c := by
                simp only [change, resolved, checked]
                rfl
              rw [changes]
              refine .inr ⟨?_, by simp⟩
              simp only [apply, Registry.register, resolved, bind, Except.bind, checked]
              rfl
  | unregister key =>
      cases resolved : cat.resolve key with
      | error e =>
          refine .inl ⟨⟨e, ?_⟩, ?_⟩
          · simp only [apply, Registry.unregister, resolved]
            rfl
          · simp only [change, resolved]
      | ok goals =>
          have changes : (unregister key : RegistryCall β).change cat = .remove goals.kind := by
            simp only [change, resolved]
          rw [changes]
          refine .inr ⟨?_, by simp⟩
          simp only [apply, Registry.unregister, resolved]
          rfl

theorem apply_eq_error_iff (call : RegistryCall β) (cat : Catalogue) (r : Registry F β) :
    (∃ e, call.apply cat r = .error e) ↔ call.change cat = .nothing := by
  obtain ⟨refused, nothing⟩ | ⟨accepted, effective⟩ := call.apply_cases cat r
  · exact iff_of_true refused nothing
  · rw [accepted]
    exact iff_of_false (by simp) effective

/-- A constructor comes into the table only by a registration that passes all checks. -/
theorem of_change_eq_put {call : RegistryCall β} {cat : Catalogue} {kind : String}
    {c : Constructor β} (changes : call.change cat = .put kind c) :
    ∃ key goals, call = .register key c ∧ cat.resolve key = .ok goals ∧ c.check goals = .ok () ∧
      goals.kind = kind := by
  cases call with
  | unregister key =>
      rw [change] at changes
      split at changes <;> cases changes
  | register key c' =>
      rw [change] at changes
      split at changes
      · rename_i goals resolved
        split at changes
        · rename_i checked
          cases changes
          cases outcome : c.check goals with
          | error e =>
              rw [outcome] at checked
              cases checked
          | ok _ => exact ⟨key, goals, rfl, resolved, outcome, rfl⟩
        · cases changes
      · cases changes

end RegistryCall

/-- The calls that were made on a registry, each with the kinds of goals declared at its time. -/
abbrev History (β : Type) := List (Catalogue × RegistryCall β)

/-- A registry after a call; a refused one leaves it as it is. -/
def Registry.afterCall (r : Registry F β) (entry : Catalogue × RegistryCall β) : Registry F β :=
  match entry.2.apply entry.1 r with
  | .ok changed => changed
  | .error _ => r

def Registry.after (r : Registry F β) (history : History β) : Registry F β :=
  history.foldl Registry.afterCall r

/-- What the calls of a history did to the table. -/
def History.changes (history : History β) : List (Change String (Constructor β)) :=
  history.map fun entry => entry.2.change entry.1

namespace Registry

theorem afterCall_of_error {r : Registry F β} {entry : Catalogue × RegistryCall β}
    {e : RegistrationError} (refused : entry.2.apply entry.1 r = .error e) :
    r.afterCall entry = r := by
  rw [afterCall, refused]

theorem afterCall_eq (r : Registry F β) (entry : Catalogue × RegistryCall β) :
    r.afterCall entry = { r with table := r.table.change (entry.2.change entry.1) } := by
  obtain ⟨⟨e, refused⟩, nothing⟩ | ⟨accepted, -⟩ := entry.2.apply_cases entry.1 r
  · rw [afterCall_of_error refused, nothing]
    rfl
  · rw [afterCall, accepted]

theorem after_append (r : Registry F β) (first later : History β) :
    r.after (first ++ later) = (r.after first).after later :=
  List.foldl_append

/-- What a registry holds after calls is what their changes leave, and its factory stays. -/
theorem isLeftBy_after (factory : Option F) (history : History β) :
    Ledger.IsLeftBy history.changes ((empty factory).after history).table ∧
      ((empty factory).after history).userFactory = factory := by
  induction history using List.reverseRecOn with
  | nil => exact ⟨.nil, rfl⟩
  | append_singleton history entry ih =>
      obtain ⟨left, kept⟩ := ih
      rw [after_append, History.changes, List.map_append]
      change Ledger.IsLeftBy _ (afterCall _ entry).table ∧ (afterCall _ entry).userFactory = factory
      rw [afterCall_eq]
      exact ⟨left.concat _, kept⟩

/-- A refused call leaves no trace. -/
theorem after_of_refused (r : Registry F β) {before later : History β}
    {entry : Catalogue × RegistryCall β} {e : RegistrationError}
    (refused : entry.2.apply entry.1 (r.after before) = .error e) :
    r.after (before ++ entry :: later) = r.after (before ++ later) := by
  rw [after_append, after_append, after, List.foldl_cons, afterCall_of_error refused]
  rfl

end Registry

theorem Scenario.changeRegistry_of_refused {call : RegistryCall Body} {place : Nat} {w : World}
    {e : RegistrationError} (refused : call.apply w.catalogue (w.registryAt place) = .error e) :
    (changeRegistry place call.apply).run.run w = (.error (.registration e), w) := by
  change (orRefuse .registration (call.apply w.catalogue (w.registryAt place)) >>=
    fun _ => _ : Doing Answer).run.run w = _
  rw [refused]
  rfl

/-! ## Evaluators -/

/-- What is taken from the reply of a source, if there is one. An evaluator is, and an interrupt
gets through; a fault, nothing and anything that is no evaluator count as absent. -/
def Builder.taken : Option (Except Failure (Option Product)) → Except Failure (Option Evaluator)
  | some (.ok (some (.evaluator e))) => .ok (some e)
  | some (.error (.interrupt i)) => .error (.interrupt i)
  | _ => .ok none

theorem Builder.taken_ne_fault (reply : Option (Except Failure (Option Product))) (f : Fault) :
    taken reply ≠ .error (.fault f) := by
  unfold taken
  split <;> nofun

theorem Builder.screen_perform (builder : Builder W F β) (source : EvaluatorSource) (goal : Goal)
    (made : Attempt W (Option Product)) (w : W) :
    ((builder.screen source goal made).perform w).1 = taken (some (made.perform w).1) := by
  rw [screen, Attempt.perform_ofFunction]
  obtain ⟨reply, left⟩ := made.perform w
  cases reply with
  | ok product =>
      cases product with
      | none => rfl
      | some product => cases product <;> rfl
  | error failure => cases failure <;> rfl

namespace Registry

variable (r : Registry F β) (builder : Builder W F β) (goal : Goal) (w : W)

/-- The world after the caller's factory was asked, if there is one. -/
def afterFactory : W :=
  match r.userFactory with
  | some f => ((builder.screen .userFactory goal (builder.askFactory f goal)).perform w).2
  | none => w

theorem fromTable_of_kind {kind : FieldValue} (known : goal.lookupKind = .ok kind) :
    ((r.fromTable builder goal).perform w).1 =
      Builder.taken ((kind.text?.bind r.table.find?).map fun c =>
        ((builder.apply goal c).perform w).1) := by
  have read : ((Attempt.ofExcept goal.lookupKind : Attempt W FieldValue).perform w).1 =
      .ok kind := by
    rw [known]
    rfl
  rw [fromTable, Attempt.perform_bind_of_ok read, known]
  cases kind.text?.bind r.table.find? with
  | none => rfl
  | some c => exact builder.screen_perform _ goal _ w

theorem fromTable_of_fault {f : Fault} (unknown : goal.lookupKind = .error f) :
    ((r.fromTable builder goal).perform w).1 = .error (.fault f) := by
  rw [fromTable, unknown]
  rfl

variable {r builder goal w}

theorem create_of_taken
    (there : Builder.taken (r.userFactory.map fun f => ((builder.askFactory f goal).perform w).1) ≠
      .ok none) :
    ((r.create builder goal).perform w).1 =
      Builder.taken (r.userFactory.map fun f => ((builder.askFactory f goal).perform w).1) := by
  unfold create
  cases factory : r.userFactory with
  | none =>
      rw [factory] at there
      exact absurd rfl there
  | some f =>
      rw [factory, Option.map_some, ← builder.screen_perform .userFactory goal] at there
      rw [Option.map_some, ← builder.screen_perform .userFactory goal]
      cases reply :
          ((builder.screen .userFactory goal (builder.askFactory f goal)).perform w).1 with
      | error failure => exact Attempt.perform_bind_of_error reply
      | ok made =>
          simp only [Attempt.perform_bind_of_ok reply]
          cases made with
          | none => exact absurd reply there
          | some e => rfl

theorem create_of_absent
    (absent : Builder.taken (r.userFactory.map fun f => ((builder.askFactory f goal).perform w).1) =
      .ok none) :
    ((r.create builder goal).perform w).1 =
      ((r.fromTable builder goal).perform (r.afterFactory builder goal w)).1 := by
  unfold create afterFactory
  cases factory : r.userFactory with
  | none => rfl
  | some f =>
      rw [factory, Option.map_some, ← builder.screen_perform .userFactory goal] at absent
      simp only [Attempt.perform_bind_of_ok absent]

end Registry

/-- After any calls, some of them refused, the constructor of a kind is the one that was registered
last, unless the kind was taken out since. The kinds stand without repetition in the order in which
each was registered first since it was last taken out. A refused call changes nothing. The evaluator
of a goal comes from the caller's factory, else from the constructor of the goal's kind. The faults
of both are held back; one gets through if and only if the factory has no evaluator and the goal has
no kind to be looked up: it is of the base class, or has something in a field of that name that
cannot be looked up. -/
theorem registry_is_its_history (factory : Option F) (history : History β) :
    let r := (Registry.empty factory).after history
    (∀ kind c, r.table.find? kind = some c ↔ ∃ i, Change.Current history.changes kind c i) ∧
    (r.kinds.Nodup ∧ (∀ kind, kind ∈ r.kinds ↔ ∃ c, r.table.find? kind = some c) ∧
      Change.OrderedByEntry history.changes r.kinds) ∧
    (∀ (cat : Catalogue) (call : RegistryCall β), (∃ e, call.apply cat r = .error e) ↔
      call.change cat = .nothing) ∧
    (∀ before entry later e, history = before ++ entry :: later →
      entry.2.apply entry.1 ((Registry.empty factory).after before) = .error e →
        r = (Registry.empty factory).after (before ++ later)) ∧
    (∀ (call : RegistryCall Scenario.Body) (place : Nat) (w : Scenario.World)
        (e : RegistrationError),
      call.apply w.catalogue (w.registryAt place) = .error e →
        (Scenario.changeRegistry place call.apply).run.run w = (.error (.registration e), w)) ∧
    (∀ (builder : Builder W F β) (goal : Goal) (w : W),
      let asked := factory.map fun f => ((builder.askFactory f goal).perform w).1
      let created := ((r.create builder goal).perform w).1
      (Builder.taken asked ≠ .ok none → created = Builder.taken asked) ∧
      (∀ kind, Builder.taken asked = .ok none → goal.lookupKind = .ok kind →
        created = Builder.taken ((kind.text?.bind r.table.find?).map fun c =>
          ((builder.apply goal c).perform (r.afterFactory builder goal w)).1)) ∧
      ∀ f, created = .error (.fault f) ↔
        Builder.taken asked = .ok none ∧ goal.lookupKind = .error f) ∧
    (∀ (goal : Goal) (f : Fault), goal.lookupKind = .error f ↔
      goal.cls = .base ∧ f = .missingAttribute "Goal" FieldSpec.kindField ∨
      ∃ value, goal.fields.find? FieldSpec.kindField = some value ∧
        Keyed.isKey value = false ∧ f = .badType) ∧
    ∀ (goal : Goal) (goals : GoalClass), goal.cls = .declared goals →
      (∀ spec ∈ goals.layout, spec.name ≠ FieldSpec.kindField) →
        goal.lookupKind = .ok (.data (.text goals.kind)) := by
  intro r
  obtain ⟨left, kept⟩ := Registry.isLeftBy_after factory history
  refine ⟨left.values, ⟨left.nodup, ?_, left.keys⟩, fun cat call => call.apply_eq_error_iff cat r,
    ?_, fun _ _ _ _ => Scenario.changeRegistry_of_refused, ?_,
    fun _ _ => Goal.lookupKind_eq_error_iff, fun _ _ => Goal.lookupKind_of_layout⟩
  · intro kind
    rw [Registry.kinds, Ledger.mem_keys_iff, Option.isSome_iff_exists]
  · intro before entry later e cut refused
    unfold r
    rw [cut]
    exact Registry.after_of_refused _ refused
  · intro builder goal w asked created
    have first : Builder.taken asked ≠ .ok none → created = Builder.taken asked := by
      intro there
      unfold asked at there ⊢
      rw [← kept] at there ⊢
      exact Registry.create_of_taken there
    have second : Builder.taken asked = .ok none →
        created = ((r.fromTable builder goal).perform (r.afterFactory builder goal w)).1 := by
      intro absent
      unfold asked at absent
      rw [← kept] at absent
      exact Registry.create_of_absent absent
    refine ⟨first, fun kind absent known => ?_, fun f => ?_⟩
    · rw [second absent, r.fromTable_of_kind _ _ _ known]
    · by_cases missing : Builder.taken asked = .ok none
      · rw [second missing]
        cases known : goal.lookupKind with
        | ok kind =>
            rw [r.fromTable_of_kind _ _ _ known]
            exact iff_of_false (Builder.taken_ne_fault _ f) (by simp)
        | error f' =>
            rw [r.fromTable_of_fault _ _ _ known]
            simp [missing]
      · rw [first missing]
        exact iff_of_false (Builder.taken_ne_fault asked f) (fun both => missing both.1)

/-- Two kinds of goals. -/
def pairedCatalogue : Catalogue :=
  ⟨[numberedGoals ["number"], ⟨"Named", "named", "goals", FieldSpec.bare, []⟩]⟩

def numberedFunction (n : Nat) : Constructor Nat :=
  .function [.positional] .unchecked n

/-- One kind is registered twice and once more after it was taken out. Two calls are refused, as
a text is no constructor and the third kind does not exist. -/
def pairedHistory : History Nat :=
  [.register (.named "numbered") (numberedFunction 0),
    .register (.named "named") (numberedFunction 1),
    .register (.named "numbered") (.object "'text'"),
    .register (.named "numbered") (numberedFunction 2),
    .unregister (.cls (numberedGoals ["number"])),
    .register (.named "missing") (numberedFunction 3),
    .register (.named "numbered") (numberedFunction 4)].map (pairedCatalogue, ·)

/-- A factory that fails, and functions of which only the last one hands out evaluators. -/
def pairedBuilder : Builder Unit Unit Nat where
  askFactory _ _ := .fault .badType
  callFunction n g := if n = 4 then hostedFactory g else pure (some (.other (.number 0)))
  setUp _ _ := .fault .badType
  record _ w := w

theorem pairedHistory_registry :
    let r := (Registry.empty (some ())).after pairedHistory
    r.kinds = ["named", "numbered"] ∧
    (∃ i, Change.Current pairedHistory.changes "numbered" (numberedFunction 4) i) ∧
    Change.OrderedByEntry pairedHistory.changes ["named", "numbered"] ∧
    r = (Registry.empty (some ())).after (pairedHistory.eraseIdx 2) ∧
    ((r.create pairedBuilder (numberedGoal 0)).perform ()).1 =
      Builder.taken (some (.ok (some (hostedEvaluator (numberedGoal 0))))) := by
  intro r
  obtain ⟨constructors, ⟨-, members, ordered⟩, -, refused, -, create, -⟩ :=
    registry_is_its_history (some ()) pairedHistory
  have kinds : r.kinds = ["named", "numbered"] := by decide +kernel
  rw [kinds] at ordered
  refine ⟨kinds, (constructors _ _).mp rfl, ordered, ?_, ?_⟩
  · exact refused _ _ _ _ (List.take_append_drop 2 pairedHistory).symm rfl
  · exact (create pairedBuilder (numberedGoal 0) ()).2.1 _ rfl rfl

/-- Goals that have a field in the place of their kind, which stands before the context. -/
def taggedGoals : GoalClass :=
  ⟨"TaggedGoal", "tagged", "goals",
    FieldSpec.declare FieldSpec.bare ⟨FieldSpec.kindField, none⟩, []⟩

/-- A goal whose kind is an object that cannot be looked up, and a goal without a kind: nobody asks
for an evaluator, and yet there is a fault. -/
theorem unlistableKind_gets_through :
    let r : Registry Unit Nat := Registry.empty none
    let listed : FieldValue := .context ⟨.list [.number 1], none, .empty⟩
    (Goal.make? (.declared taggedGoals) [listed, .data (.text "x")]).map
        (fun goal => ((r.create pairedBuilder goal).perform ()).1.isOk) = some false ∧
      ((r.create pairedBuilder ⟨.base, [numberedContext]⟩).perform ()).1.isOk = false := by
  decide +kernel

end Pursuit

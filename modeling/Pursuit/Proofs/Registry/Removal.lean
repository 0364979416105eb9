import Pursuit.Proofs.Registry.Soundness

/-! # Taking constructors out

Taking a kind out of a registry should never fail: a kind without a constructor has nothing that
could be taken out. The name of the kind is looked up first, though, and a kind of which no class is
declared is refused, here as in a registration. What is said of the registry afterwards holds for
all other kinds, whatever was declared and registered before.
-/

namespace Pursuit

variable {F β : Type}

/-- The kind that a key stands for, whether a class of it is declared or not. -/
def KindKey.kind? : KindKey → Option String
  | .named kind => some kind
  | .cls c => some c.kind
  | .other _ => none

namespace Catalogue

variable {cat : Catalogue} {key : KindKey} {kind : String} {goals : GoalClass}

theorem resolve_of_find? (stands : key.kind? = some kind) (found : cat.find? kind = some goals) :
    cat.resolve key = .ok goals := by
  cases key with
  | other shown => cases stands
  | named | cls =>
      cases stands
      rw [resolve, resolve.known, found]

theorem resolve_of_unknown (stands : key.kind? = some kind) (unknown : cat.find? kind = none) :
    cat.resolve key = .error (.unknownKind (cat.unknownKindText kind)) := by
  cases key with
  | other shown => cases stands
  | named | cls =>
      cases stands
      rw [resolve, resolve.known, unknown]

theorem kind?_of_resolve (resolved : cat.resolve key = .ok goals) :
    key.kind? = some goals.kind := by
  cases stands : key.kind? with
  | none =>
      cases key with
      | other shown => cases resolved
      | named | cls => cases stands
  | some kind =>
      cases found : cat.find? kind with
      | none =>
          rw [resolve_of_unknown stands found] at resolved
          cases resolved
      | some c =>
          rw [resolve_of_find? stands found] at resolved
          cases resolved
          rw [kind_of_find? found]

theorem unknown_of_resolve_error {e : RegistrationError} (refused : cat.resolve key = .error e)
    (stands : key.kind? = some kind) :
    cat.find? kind = none ∧ e = .unknownKind (cat.unknownKindText kind) := by
  cases found : cat.find? kind with
  | none =>
      rw [resolve_of_unknown stands found] at refused
      cases refused
      exact ⟨rfl, rfl⟩
  | some c =>
      rw [resolve_of_find? stands found] at refused
      cases refused

theorem resolve_iff :
    (∃ goals, cat.resolve key = .ok goals) ↔ ∃ c ∈ cat.classes, key.kind? = some c.kind := by
  constructor
  · rintro ⟨goals, resolved⟩
    exact ⟨goals, mem_of_find? (find?_of_resolve resolved), kind?_of_resolve resolved⟩
  · rintro ⟨c, member, stands⟩
    have found : (cat.find? c.kind).isSome := List.find?_isSome.mpr ⟨c, member, by simp⟩
    obtain ⟨goals, found⟩ := Option.isSome_iff_exists.mp found
    exact ⟨goals, resolve_of_find? stands found⟩

end Catalogue

namespace Registry

variable {r : Registry F β} {cat : Catalogue} {key : KindKey} {goals : GoalClass}

/-- What is promised of a registry when a kind is taken out: it has no constructor any more, all
other kinds have the constructors and the order that they had, and if there was nothing to take out,
nothing is changed. -/
structure Without (r : Registry F β) (cat : Catalogue) (key : KindKey) (left : Registry F β) :
    Prop where
  gone : left.isRegistered cat key = false
  others : ∀ kind, key.kind? ≠ some kind → left.table.find? kind = r.table.find? kind
  order : left.kinds = r.kinds.filter fun kind => key.kind? ≠ some kind
  idle : r.isRegistered cat key = false → left = r

theorem isRegistered_of_resolve (resolved : cat.resolve key = .ok goals) :
    r.isRegistered cat key = (r.table.find? goals.kind).isSome := by
  rw [isRegistered, resolved]
  rfl

theorem isRegistered_of_error {e : RegistrationError} (refused : cat.resolve key = .error e) :
    r.isRegistered cat key = false := by
  rw [isRegistered, refused]

theorem unregister_of_resolve (resolved : cat.resolve key = .ok goals) :
    r.unregister cat key = .ok { r with table := r.table.erase goals.kind } := by
  rw [unregister, resolved]
  rfl

theorem unregister_of_error {e : RegistrationError} (refused : cat.resolve key = .error e) :
    r.unregister cat key = .error e := by
  rw [unregister, refused]
  rfl

theorem without_erase (distinct : r.kinds.Nodup) (resolved : cat.resolve key = .ok goals) :
    r.Without cat key { r with table := r.table.erase goals.kind } := by
  have stands := Catalogue.kind?_of_resolve resolved
  refine ⟨?_, ?_, ?_, ?_⟩
  · rw [isRegistered_of_resolve resolved, Ledger.find?_erase distinct, if_pos BEq.rfl]
    rfl
  · intro kind other
    rw [Ledger.find?_erase distinct, if_neg]
    rintro same
    exact other (eq_of_beq same ▸ stands)
  · have erased : kinds { r with table := r.table.erase goals.kind } = r.kinds.erase goals.kind :=
      Ledger.keys_erase r.table goals.kind
    rw [erased, distinct.erase_eq_filter, stands]
    apply List.filter_congr
    intro kind _
    grind
  · intro absent
    rw [isRegistered_of_resolve resolved, Option.isSome_eq_false_iff, Option.isNone_iff_eq_none]
      at absent
    rw [Ledger.erase_of_find?_eq_none absent]

theorem without_self {e : RegistrationError} (refused : cat.resolve key = .error e)
    (unlisted : ∀ kind ∈ r.kinds, key.kind? ≠ some kind) : r.Without cat key r := by
  refine ⟨isRegistered_of_error refused, fun _ _ => rfl, ?_, fun _ => rfl⟩
  rw [List.filter_eq_self.mpr]
  intro kind member
  exact decide_eq_true (unlisted kind member)

end Registry

namespace Library

variable {s : Library F β}

theorem registry_declareGoals (s : Library F β) (d : GoalDeclaration) :
    (s.afterStep (.declareGoals d)).registry = s.registry := by
  rw [afterStep]
  split <;> rfl

theorem registry_declareEvaluators (s : Library F β) (d : EvaluatorDeclaration) :
    (s.afterStep (.declareEvaluators d)).registry = s.registry := by
  rw [afterStep]
  split <;> rfl

/-- The registry of a library is what the calls among the steps make of it. -/
theorem exists_history (s : Library F β) (steps : List (LibraryStep β)) :
    ∃ history : History β, (s.after steps).registry = s.registry.after history := by
  induction steps generalizing s with
  | nil => exact ⟨[], rfl⟩
  | cons d rest ih =>
      obtain ⟨later, reached⟩ := ih (s.afterStep d)
      cases d with
      | declareGoals d => exact ⟨later, by rw [← registry_declareGoals s d]; exact reached⟩
      | declareEvaluators d =>
          exact ⟨later, by rw [← registry_declareEvaluators s d]; exact reached⟩
      | call call => exact ⟨(s.catalogue, call) :: later, reached⟩

/-- Only kinds of declared classes have a constructor. -/
def Grounded (s : Library F β) : Prop :=
  ∀ kind ∈ s.registry.kinds, ∃ c, s.catalogue.find? kind = some c

theorem Grounded.called (grounded : s.Grounded) (call : RegistryCall β) :
    (s.afterStep (.call call)).Grounded := by
  intro kind member
  rw [afterStep] at member ⊢
  rw [Registry.afterCall_eq, Registry.kinds] at member
  cases changes : call.change s.catalogue with
  | nothing =>
      rw [changes] at member
      exact grounded kind member
  | put kind' c =>
      rw [changes, Ledger.change, Ledger.mem_keys_iff, Ledger.find?_put] at member
      split at member
      · rename_i same
        obtain rfl := eq_of_beq same
        obtain ⟨key, goals, -, resolved, -, rfl⟩ := RegistryCall.of_change_eq_put changes
        exact ⟨goals, Catalogue.find?_of_resolve resolved⟩
      · exact grounded kind ((Ledger.mem_keys_iff _ kind).mpr member)
  | remove kind' =>
      rw [changes, Ledger.change, Ledger.keys_erase] at member
      exact grounded kind (List.mem_of_mem_erase member)

theorem Grounded.declared {d : LibraryStep β} (grounded : s.Grounded)
    (same : (s.afterStep d).registry = s.registry) : (s.afterStep d).Grounded := by
  intro kind member
  rw [same] at member
  obtain ⟨c, found⟩ := grounded kind member
  exact ⟨c, find?_afterStep found d⟩

theorem Grounded.step (grounded : s.Grounded) (d : LibraryStep β) : (s.afterStep d).Grounded := by
  cases d with
  | call call => exact grounded.called call
  | declareGoals d => exact grounded.declared (registry_declareGoals s d)
  | declareEvaluators d => exact grounded.declared (registry_declareEvaluators s d)

theorem Grounded.run (grounded : s.Grounded) (steps : List (LibraryStep β)) :
    (s.after steps).Grounded := by
  induction steps generalizing s with
  | nil => exact grounded
  | cons d rest ih => exact ih (grounded.step d)

end Library

/-- After any declarations, registrations and removals, taking a kind out does what it promises if
and only if a class of the kind is declared. A key of which there is none is refused, although
nothing is registered for it and leaving the registry as it is would be all that is asked. -/
theorem unregister_keeps_promise_iff (factory : Option F) (steps : List (LibraryStep β))
    (key : KindKey) :
    let s := (Library.opening factory).after steps
    ((∃ left, s.registry.unregister s.catalogue key = .ok left ∧
        s.registry.Without s.catalogue key left) ↔
      ∃ c ∈ s.catalogue.classes, key.kind? = some c.kind) ∧
    (∀ left, s.registry.unregister s.catalogue key = .ok left →
      s.registry.Without s.catalogue key left) ∧
    ∀ e, s.registry.unregister s.catalogue key = .error e →
      s.registry.Without s.catalogue key s.registry ∧
      ∀ kind, key.kind? = some kind → e = .unknownKind (s.catalogue.unknownKindText kind) := by
  intro s
  have distinct : s.registry.kinds.Nodup := by
    obtain ⟨history, reached⟩ := (Library.opening factory).exists_history steps
    rw [reached]
    exact (Registry.isLeftBy_after factory history).1.nodup
  have grounded : s.Grounded := Library.Grounded.run (by simp [Library.Grounded,
    Library.opening, Registry.empty, Registry.kinds, Ledger.keys]) steps
  rw [← Catalogue.resolve_iff]
  cases resolved : s.catalogue.resolve key with
  | ok goals =>
      have kept := Registry.without_erase distinct resolved
      rw [Registry.unregister_of_resolve resolved]
      refine ⟨iff_of_true ⟨_, rfl, kept⟩ ⟨goals, rfl⟩, ?_, by simp⟩
      rintro left ⟨⟩
      exact kept
  | error e =>
      have unlisted : ∀ kind ∈ s.registry.kinds, key.kind? ≠ some kind := by
        intro kind member stands
        obtain ⟨c, found⟩ := grounded kind member
        obtain ⟨unknown, -⟩ := Catalogue.unknown_of_resolve_error resolved stands
        cases found.symm.trans unknown
      rw [Registry.unregister_of_error resolved]
      refine ⟨iff_of_false (by simp) (by simp), by simp, ?_⟩
      rintro e ⟨⟩
      exact ⟨Registry.without_self resolved unlisted, fun kind stands =>
        (Catalogue.unknown_of_resolve_error resolved stands).2⟩

theorem treeSteps_removal :
    let s : Library Unit Unit := (Library.opening none).after treeSteps
    (∃ left, s.registry.unregister s.catalogue (.cls leafGoals) = .ok left ∧
      s.registry.Without s.catalogue (.cls leafGoals) left) ∧
    (∃ left, s.registry.unregister s.catalogue (.named "node") = .ok left ∧ left = s.registry) ∧
    (¬ ∃ left, s.registry.unregister s.catalogue (.named "shrub") = .ok left) ∧
    s.registry.isRegistered s.catalogue (.named "shrub") = false := by
  intro s
  have leaf : s.catalogue.find? "tip" = some leafGoals := rfl
  have node : s.catalogue.find? "node" = some nodeGoals := rfl
  have unknown : s.catalogue.find? "shrub" = none := rfl
  obtain ⟨ofLeaf, -, -⟩ := unregister_keeps_promise_iff none treeSteps (.cls leafGoals)
  obtain ⟨ofNode, -, -⟩ := unregister_keeps_promise_iff none treeSteps (.named "node")
  obtain ⟨ofShrub, kept, -⟩ := unregister_keeps_promise_iff none treeSteps (.named "shrub")
  refine ⟨ofLeaf.mpr ⟨leafGoals, Catalogue.mem_of_find? leaf, rfl⟩, ?_, ?_, rfl⟩
  · obtain ⟨left, removed, without⟩ :=
      ofNode.mpr ⟨nodeGoals, Catalogue.mem_of_find? node, rfl⟩
    exact ⟨left, removed, without.idle rfl⟩
  · rintro ⟨left, removed⟩
    obtain ⟨c, member, same⟩ := ofShrub.mp ⟨left, removed, kept left removed⟩
    exact List.find?_eq_none.mp unknown c member (by simpa using (Option.some.inj same).symm)

end Pursuit

import Pursuit.Goal.Basic
import Pursuit.Proofs.Ledger

/-! # Kinds of goals

A goal of a declared class has a kind, which is that of its class unless a field of that name hides
it. A goal of the base class has none.
-/

namespace Pursuit.Goal

variable {g : Goal} {c : GoalClass}

theorem mem_values_of_find? {name : String} {value : FieldValue}
    (found : g.fields.find? name = some value) : value ∈ g.values := by
  obtain ⟨pair, member, rfl⟩ := List.mem_map.mp (Ledger.mem_of_find? found)
  exact (List.of_mem_zip member).2

theorem find?_fields_eq_none {name : String} (absent : ∀ spec ∈ g.cls.layout, spec.name ≠ name) :
    g.fields.find? name = none := by
  cases found : g.fields.find? name with
  | none => rfl
  | some value =>
      have member := Ledger.entry_of_find? found
      obtain ⟨spec, listed, rfl⟩ := List.mem_map.mp (List.of_mem_zip member).1
      exact absurd rfl (absent spec listed)

theorem find?_kindField_of_base (base : g.cls = .base) :
    g.fields.find? FieldSpec.kindField = none := by
  apply find?_fields_eq_none
  rw [base]
  simp [GoalType.layout, FieldSpec.bare, FieldSpec.contextName, FieldSpec.kindField]

theorem kind_of_base (base : g.cls = .base) :
    g.kind = .error (.missingAttribute "Goal" FieldSpec.kindField) := by
  rw [kind, getField, find?_kindField_of_base base, base]
  rfl

theorem kind_of_declared (declared : g.cls = .declared c) :
    g.kind = .ok ((g.fields.find? FieldSpec.kindField).getD (.data (.text c.kind))) := by
  rw [kind, declared]
  rfl

/-- The kind of a goal cannot be looked up if the goal has none, or if what it has in a field of
that name cannot. -/
theorem lookupKind_eq_error_iff {f : Fault} :
    g.lookupKind = .error f ↔
      g.cls = .base ∧ f = .missingAttribute "Goal" FieldSpec.kindField ∨
      ∃ value, g.fields.find? FieldSpec.kindField = some value ∧ Keyed.isKey value = false ∧
        f = .badType := by
  cases cls : g.cls with
  | base =>
      have missing : g.lookupKind = .error (.missingAttribute "Goal" FieldSpec.kindField) := by
        rw [lookupKind, kind_of_base cls]
        rfl
      rw [missing, find?_kindField_of_base cls]
      constructor
      · rintro ⟨⟩
        exact .inl ⟨rfl, rfl⟩
      · rintro (⟨-, rfl⟩ | ⟨_, found, -⟩)
        · rfl
        · cases found
  | declared c =>
      have read : g.lookupKind =
          Keyed.asKey ((g.fields.find? FieldSpec.kindField).getD (.data (.text c.kind))) := by
        rw [lookupKind, kind_of_declared cls]
        rfl
      rw [read]
      cases found : g.fields.find? FieldSpec.kindField with
      | none =>
          have key : Keyed.isKey (FieldValue.data (.text c.kind)) = true := rfl
          simp [Keyed.asKey, key]
      | some value =>
          cases key : Keyed.isKey value with
          | true => simp [Keyed.asKey, key]
          | false =>
              simp only [Option.getD_some, Keyed.asKey, key, Bool.false_eq_true, if_false,
                Except.error.injEq]
              constructor
              · rintro rfl
                exact .inr ⟨value, rfl, key, rfl⟩
              · rintro (⟨base, -⟩ | ⟨_, -, -, rfl⟩)
                · cases base
                · rfl

/-- A goal of a declared class that can be looked up itself has a kind that can be looked up. -/
theorem lookupKind_of_isKey (declared : g.cls = .declared c) (key : Keyed.isKey g = true) :
    ∃ kind, g.lookupKind = .ok kind := by
  have constant : Keyed.isKey
      ((g.fields.find? FieldSpec.kindField).getD (.data (.text c.kind))) = true := by
    cases found : g.fields.find? FieldSpec.kindField with
    | none => rfl
    | some value => exact List.all_eq_true.mp key value (mem_values_of_find? found)
  rw [lookupKind, kind_of_declared declared]
  exact ⟨_, if_pos constant⟩

/-- Where the class has no field of that name, the kind of a goal is that of its class. -/
theorem lookupKind_of_layout (declared : g.cls = .declared c)
    (plain : ∀ spec ∈ c.layout, spec.name ≠ FieldSpec.kindField) :
    g.lookupKind = .ok (.data (.text c.kind)) := by
  have hidden : g.fields.find? FieldSpec.kindField = none := by
    apply find?_fields_eq_none
    rw [declared]
    exact plain
  rw [lookupKind, kind_of_declared declared, hidden]
  rfl

end Pursuit.Goal

import Mathlib.Data.List.Basic
import Pursuit.Goal.Basic

/-! # Equality of data and of goals

`==` on plain data follows values: numbers count by their size, lists item by item, records without
order. It is an equivalence, and so is `==` on goals, which is all that looking goals up relies on.
-/

namespace Pursuit

theorem fullyMarked_table {α β : Type} (r : α → β → Bool) (xs : List α) (ys : List β) :
    fullyMarked ys.length (xs.map fun x => ys.map (r x)) =
      ((xs.all fun x => ys.any (r x)) && ys.all fun y => xs.any fun x => r x y) := by
  have columns : ∀ (xs : List α) (p : β → Bool),
      (xs.map fun x => ys.map (r x)).foldl (List.zipWith (· || ·)) (ys.map p) =
        ys.map fun y => p y || xs.any fun x => r x y := by
    intro xs
    induction xs with
    | nil => intro p; simp
    | cons x xs ih =>
        intro p
        have row : List.zipWith (· || ·) (ys.map p) (ys.map (r x)) =
            ys.map fun y => p y || r x y := by
          rw [List.zipWith_map, List.zipWith_self]
        simp only [List.map_cons, List.foldl_cons, row, ih, List.any_cons, Bool.or_assoc]
  have blank : List.replicate ys.length false = ys.map fun _ => false := by simp
  simp only [fullyMarked, blank, columns, List.all_map, Function.comp_def, List.any_map,
    Bool.false_or, id_eq]

namespace Data

theorem parts {P : Data → Prop} (scalar : ∀ d x, d.scalar? = some x → P d)
    (list : ∀ items, (∀ d ∈ items, P d) → P (.list items))
    (record : ∀ entries : List (String × Data), (∀ e ∈ entries, P e.2) → P (.record entries)) :
    ∀ d, P d
  | .null => scalar _ _ rfl
  | .flag _ => scalar _ _ rfl
  | .number _ => scalar _ _ rfl
  | .real x => by
      cases whole : (Number.Binary.ofFloat x).whole? with
      | none => exact scalar _ (.fraction (.ofFloat x)) (by simp only [scalar?, whole])
      | some n => exact scalar _ (.whole n) (by simp only [scalar?, whole])
  | .text _ => scalar _ _ rfl
  | .list items => list items fun d _ => parts scalar list record d
  | .record entries => record entries fun e _ => parts scalar list record e.2
termination_by d => sizeOf d
decreasing_by
  · have := List.sizeOf_lt_of_mem ‹d ∈ items›
    simp only [Data.list.sizeOf_spec]
    omega
  · have := List.sizeOf_lt_of_mem ‹e ∈ entries›
    obtain ⟨key, d⟩ := e
    simp only [Prod.mk.sizeOf_spec, Data.record.sizeOf_spec] at this ⊢
    omega

theorem same_of_scalar {a : Data} {x : Scalar} (value : a.scalar? = some x) (b : Data) :
    same a b = (b.scalar? == some x) := by
  have flipped : (b.scalar? == some x) = (some x == b.scalar?) := by
    rw [Bool.eq_iff_iff, beq_iff_eq, beq_iff_eq, eq_comm]
  cases a <;> cases b <;>
    simp_all [same, isConstant, scalar?] <;>
    (obtain rfl := value; simp)

theorem same_list (xs : List Data) (b : Data) :
    same (.list xs) b = true ↔ ∃ ys, b = .list ys ∧ sameItems xs ys = true := by
  cases b <;> simp [same, isConstant, scalar?]

theorem entryMarks_eq (xs ys : List (String × Data)) :
    entryMarks xs ys = xs.map fun x => ys.map fun y => x.1 == y.1 && same x.2 y.2 := by
  induction xs with
  | nil => rfl
  | cons x xs ih => simp only [entryMarks, ih, List.map_cons]

theorem same_record (xs : List (String × Data)) (b : Data) :
    same (.record xs) b = true ↔ ∃ ys, b = .record ys ∧
      (∀ x ∈ xs, ∃ y ∈ ys, x.1 = y.1 ∧ same x.2 y.2 = true) ∧
      ∀ y ∈ ys, ∃ x ∈ xs, x.1 = y.1 ∧ same x.2 y.2 = true := by
  cases b with
  | record ys => simp [same, entryMarks_eq, fullyMarked_table]
  | _ => simp [same, isConstant, scalar?]

theorem sameItems_refl {xs : List Data} (each : ∀ x ∈ xs, same x x = true) :
    sameItems xs xs = true := by
  induction xs with
  | nil => rfl
  | cons x xs ih =>
      simp only [sameItems, each x List.mem_cons_self, Bool.true_and]
      exact ih fun y member => each y (List.mem_cons_of_mem x member)

theorem sameItems_symm {xs ys : List Data}
    (each : ∀ x ∈ xs, ∀ y, same x y = true → same y x = true)
    (equal : sameItems xs ys = true) : sameItems ys xs = true := by
  induction xs generalizing ys with
  | nil => cases ys <;> simp_all [sameItems]
  | cons x xs ih =>
      cases ys with
      | nil => simp [sameItems] at equal
      | cons y ys =>
          simp only [sameItems, Bool.and_eq_true] at equal ⊢
          exact ⟨each x List.mem_cons_self y equal.1,
            ih (fun z member => each z (List.mem_cons_of_mem x member)) equal.2⟩

theorem sameItems_trans {xs ys zs : List Data}
    (each : ∀ x ∈ xs, ∀ y z, same x y = true → same y z = true → same x z = true)
    (first : sameItems xs ys = true) (second : sameItems ys zs = true) :
    sameItems xs zs = true := by
  induction xs generalizing ys zs with
  | nil => cases ys <;> cases zs <;> simp_all [sameItems]
  | cons x xs ih =>
      cases ys with
      | nil => simp [sameItems] at first
      | cons y ys =>
          cases zs with
          | nil => simp [sameItems] at second
          | cons z zs =>
              simp only [sameItems, Bool.and_eq_true] at first second ⊢
              exact ⟨each x List.mem_cons_self y z first.1 second.1,
                ih (fun u member => each u (List.mem_cons_of_mem x member)) first.2 second.2⟩

theorem same_refl (a : Data) : same a a = true := by
  induction a using parts with
  | scalar a x value => rw [same_of_scalar value, value, beq_self_eq_true]
  | list items ih => exact (same_list _ _).mpr ⟨items, rfl, sameItems_refl ih⟩
  | record entries ih =>
      exact (same_record _ _).mpr ⟨entries, rfl, fun e member => ⟨e, member, rfl, ih e member⟩,
        fun e member => ⟨e, member, rfl, ih e member⟩⟩

theorem same_symm (a b : Data) (equal : same a b = true) : same b a = true := by
  induction a using parts generalizing b with
  | scalar a x value =>
      rw [same_of_scalar value, beq_iff_eq] at equal
      rw [same_of_scalar equal, value, beq_self_eq_true]
  | list items ih =>
      obtain ⟨ys, rfl, equal⟩ := (same_list _ _).mp equal
      exact (same_list _ _).mpr ⟨items, rfl, sameItems_symm ih equal⟩
  | record entries ih =>
      obtain ⟨ys, rfl, forth, back⟩ := (same_record _ _).mp equal
      refine (same_record _ _).mpr ⟨entries, rfl, ?_, ?_⟩
      · intro y member
        obtain ⟨x, inside, key, equal⟩ := back y member
        exact ⟨x, inside, key.symm, ih x inside _ equal⟩
      · intro x member
        obtain ⟨y, inside, key, equal⟩ := forth x member
        exact ⟨y, inside, key.symm, ih x member _ equal⟩

theorem same_trans (a b c : Data) (first : same a b = true) (second : same b c = true) :
    same a c = true := by
  induction a using parts generalizing b c with
  | scalar a x value =>
      rw [same_of_scalar value, beq_iff_eq] at first
      rw [same_of_scalar first] at second
      rw [same_of_scalar value, second]
  | list items ih =>
      obtain ⟨ys, rfl, first⟩ := (same_list _ _).mp first
      obtain ⟨zs, rfl, second⟩ := (same_list _ _).mp second
      exact (same_list _ _).mpr ⟨zs, rfl, sameItems_trans ih first second⟩
  | record entries ih =>
      obtain ⟨ys, rfl, forth, back⟩ := (same_record _ _).mp first
      obtain ⟨zs, rfl, forth', back'⟩ := (same_record _ _).mp second
      refine (same_record _ _).mpr ⟨zs, rfl, ?_, ?_⟩
      · intro x member
        obtain ⟨y, insideY, key, equal⟩ := forth x member
        obtain ⟨z, insideZ, key', equal'⟩ := forth' y insideY
        exact ⟨z, insideZ, key.trans key', ih x member _ _ equal equal'⟩
      · intro z member
        obtain ⟨y, insideY, key', equal'⟩ := back' z member
        obtain ⟨x, insideX, key, equal⟩ := back y insideY
        exact ⟨x, insideX, key.trans key', ih x insideX _ _ equal equal'⟩

instance : EquivBEq Data where
  rfl := same_refl _
  symm := same_symm _ _
  trans := same_trans _ _ _

end Data

/-! ## Equality of what is made of data -/

section Parts

variable {α : Type} [BEq α] [EquivBEq α]

instance equivBEq_option : EquivBEq (Option α) where
  symm := fun {a b} equal => by
    cases a <;> cases b <;> first | exact BEq.symm (α := α) equal | exact equal
  trans := fun {a b c} first second => by
    cases b with
    | none => cases a <;> first | exact second | cases first
    | some b =>
        cases a with
        | none => cases first
        | some a =>
            cases c with
            | none => cases second
            | some c => exact BEq.trans (α := α) first second

instance equivBEq_list : EquivBEq (List α) where
  symm := fun {as} => by
    induction as with
    | nil => intro bs equal; cases bs <;> first | rfl | cases equal
    | cons a as ih =>
        intro bs equal
        cases bs with
        | nil => cases equal
        | cons b bs =>
            rw [List.cons_beq_cons, Bool.and_eq_true] at equal ⊢
            exact ⟨BEq.symm equal.1, ih equal.2⟩
  trans := fun {as} => by
    induction as with
    | nil => intro bs cs first second; cases bs <;> first | exact second | cases first
    | cons a as ih =>
        intro bs cs first second
        cases bs with
        | nil => cases first
        | cons b bs =>
            cases cs with
            | nil => cases second
            | cons c cs =>
                rw [List.cons_beq_cons, Bool.and_eq_true] at first second ⊢
                exact ⟨BEq.trans first.1 second.1, ih first.2 second.2⟩

end Parts

namespace Context

theorem beq_iff (a b : Context) :
    (a == b) = true ↔
      (a.module == b.module) = true ∧ (a.instanceType == b.instanceType) = true := by
  rw [← Bool.and_eq_true]
  rfl

instance : EquivBEq Context where
  rfl := (beq_iff _ _).mpr ⟨BEq.rfl, BEq.rfl⟩
  symm := fun equal =>
    have ⟨module, type⟩ := (beq_iff _ _).mp equal
    (beq_iff _ _).mpr ⟨BEq.symm module, BEq.symm type⟩
  trans := fun first second =>
    have ⟨module, type⟩ := (beq_iff _ _).mp first
    have ⟨module', type'⟩ := (beq_iff _ _).mp second
    (beq_iff _ _).mpr ⟨BEq.trans module module', BEq.trans type type'⟩

end Context

namespace FieldValue

@[simp] theorem data_beq_data (a b : Data) : (data a == data b) = (a == b) := rfl

@[simp] theorem context_beq_context (a b : Context) : (context a == context b) = (a == b) := rfl

@[simp] theorem data_beq_context (d : Data) (c : Context) : (data d == context c) = false := rfl

@[simp] theorem context_beq_data (c : Context) (d : Data) : (context c == data d) = false := rfl

instance : EquivBEq FieldValue where
  rfl := fun {v} => by cases v <;> simp
  symm := fun {a b} equal => by
    cases a <;> cases b <;> simp at equal ⊢ <;> exact BEq.symm equal
  trans := fun {a b c} first second => by
    cases a <;> cases b <;> cases c <;> simp at first second ⊢ <;> exact BEq.trans first second

end FieldValue

namespace Goal

theorem beq_iff (a b : Goal) :
    (a == b) = true ↔ (a.values == b.values) = true ∧ a.cls.kind? = b.cls.kind? := by
  rw [← beq_iff_eq (a := a.cls.kind?), ← Bool.and_eq_true]
  rfl

instance : EquivBEq Goal where
  rfl := (beq_iff _ _).mpr ⟨BEq.rfl, rfl⟩
  symm := fun equal =>
    have ⟨values, kind⟩ := (beq_iff _ _).mp equal
    (beq_iff _ _).mpr ⟨BEq.symm values, kind.symm⟩
  trans := fun first second =>
    have ⟨values, kind⟩ := (beq_iff _ _).mp first
    have ⟨values', kind'⟩ := (beq_iff _ _).mp second
    (beq_iff _ _).mpr ⟨BEq.trans values values', kind.trans kind'⟩

end Goal

end Pursuit

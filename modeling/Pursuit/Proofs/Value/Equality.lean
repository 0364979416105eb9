import Pursuit.Proofs.Equality
import Pursuit.Value.Basic

/-! # Equality of answers

Equal ambiguities are those where each possibility of either side has an equal one on the other.
With that, equality of answers is an equivalence: tuples are compared item by item, and all other
answers by what they are made of.
-/

namespace Pursuit.Value

/-- Nothing in it is an answer or plain data itself. -/
def isAtom : Value → Bool
  | .data _ | .tuple _ | .ambiguousType _ => false
  | _ => true

theorem parts {P : Value → Prop} (data : ∀ d, P (.data d)) (atom : ∀ v, v.isAtom = true → P v)
    (tuple : ∀ items, (∀ v, some v ∈ items → P v) → P (.tuple items))
    (ambiguousType : ∀ vs, (∀ v ∈ vs, P v) → P (.ambiguousType vs)) : ∀ v, P v
  | .data d => data d
  | .reference _ => atom _ rfl
  | .baseType => atom _ rfl
  | .unknownType => atom _ rfl
  | .simpleType _ => atom _ rfl
  | .classType _ _ => atom _ rfl
  | .tuple items => tuple items fun v _ => parts data atom tuple ambiguousType v
  | .ambiguousType vs => ambiguousType vs fun v _ => parts data atom tuple ambiguousType v
termination_by v => sizeOf v
decreasing_by
  · have := List.sizeOf_lt_of_mem ‹some v ∈ items›
    simp only [Option.some.sizeOf_spec, Value.tuple.sizeOf_spec] at this ⊢
    omega
  · have := List.sizeOf_lt_of_mem ‹v ∈ vs›
    simp only [Value.ambiguousType.sizeOf_spec]
    omega

theorem same_data (d : Data) (b : Value) :
    same (.data d) b = true ↔ ∃ e, b = .data e ∧ (d == e) = true := by
  cases b <;> simp [same]

theorem same_iff_of_isAtom {a : Value} (atom : a.isAtom = true) (b : Value) :
    same a b = true ↔ a = b := by
  cases a <;> cases b <;> simp_all [same, isAtom]

theorem same_tuple (xs : List (Option Value)) (b : Value) :
    same (.tuple xs) b = true ↔ ∃ ys, b = .tuple ys ∧ sameItems xs ys = true := by
  cases b <;> simp [same]

theorem marks_eq (xs ys : List Value) : marks xs ys = xs.map fun x => ys.map (same x) := by
  induction xs with
  | nil => rfl
  | cons x xs ih => simp only [marks, ih, List.map_cons]

theorem same_ambiguousType_iff (xs : List Value) (b : Value) :
    same (.ambiguousType xs) b = true ↔ ∃ ys, b = .ambiguousType ys ∧
      (∀ x ∈ xs, ∃ y ∈ ys, same x y = true) ∧ ∀ y ∈ ys, ∃ x ∈ xs, same x y = true := by
  cases b with
  | ambiguousType ys => simp [same, marks_eq, fullyMarked_table]
  | _ => simp [same]

@[simp]
theorem beq_eq_same (a b : Value) : (a == b) = a.same b := rfl

/-! ## Item by item -/

theorem sameItems_refl {xs : List (Option Value)} (each : ∀ x, some x ∈ xs → same x x = true) :
    sameItems xs xs = true := by
  induction xs with
  | nil => rfl
  | cons x xs ih =>
      have rest := ih fun y member => each y (.tail x member)
      cases x with
      | none => simpa [sameItems] using rest
      | some x => simp [sameItems, each x (.head xs), rest]

theorem sameItems_symm {xs ys : List (Option Value)}
    (each : ∀ x, some x ∈ xs → ∀ y, same x y = true → same y x = true)
    (equal : sameItems xs ys = true) : sameItems ys xs = true := by
  induction xs generalizing ys with
  | nil => cases ys <;> simp_all [sameItems]
  | cons x xs ih =>
      have rest := fun {ys} => @ih ys fun y member => each y (.tail x member)
      cases x <;> rcases ys with _ | ⟨_ | y, ys⟩ <;> simp_all [sameItems]

theorem sameItems_trans {xs ys zs : List (Option Value)}
    (each : ∀ x, some x ∈ xs → ∀ y z, same x y = true → same y z = true → same x z = true)
    (first : sameItems xs ys = true) (second : sameItems ys zs = true) :
    sameItems xs zs = true := by
  induction xs generalizing ys zs with
  | nil => cases ys <;> simp_all [sameItems]
  | cons x xs ih =>
      have rest := fun {ys zs} => @ih ys zs fun y member => each y (.tail x member)
      cases x with
      | none =>
          rcases ys with _ | ⟨_ | y, ys⟩ <;> simp only [sameItems, Bool.false_eq_true] at first
          rcases zs with _ | ⟨_ | z, zs⟩ <;> simp only [sameItems, Bool.false_eq_true] at second
          exact rest first second
      | some x =>
          rcases ys with _ | ⟨_ | y, ys⟩ <;>
            simp only [sameItems, Bool.false_eq_true, Bool.and_eq_true] at first
          rcases zs with _ | ⟨_ | z, zs⟩ <;>
            simp only [sameItems, Bool.false_eq_true, Bool.and_eq_true] at second
          simp [sameItems, each x (.head xs) y z first.1 second.1, rest first.2 second.2]

/-! ## The equivalence -/

theorem same_refl (a : Value) : same a a = true := by
  induction a using parts with
  | data d => exact (same_data _ _).mpr ⟨d, rfl, BEq.rfl⟩
  | atom a atom => exact (same_iff_of_isAtom atom a).mpr rfl
  | tuple items ih => exact (same_tuple _ _).mpr ⟨items, rfl, sameItems_refl ih⟩
  | ambiguousType vs ih =>
      exact (same_ambiguousType_iff _ _).mpr
        ⟨vs, rfl, fun v member => ⟨v, member, ih v member⟩,
          fun v member => ⟨v, member, ih v member⟩⟩

theorem same_symm (a b : Value) (equal : same a b = true) : same b a = true := by
  induction a using parts generalizing b with
  | data d =>
      obtain ⟨e, rfl, equal⟩ := (same_data _ _).mp equal
      exact (same_data _ _).mpr ⟨d, rfl, BEq.symm equal⟩
  | atom a atom =>
      obtain rfl := (same_iff_of_isAtom atom b).mp equal
      exact equal
  | tuple items ih =>
      obtain ⟨ys, rfl, equal⟩ := (same_tuple _ _).mp equal
      exact (same_tuple _ _).mpr ⟨items, rfl, sameItems_symm ih equal⟩
  | ambiguousType vs ih =>
      obtain ⟨ws, rfl, forth, back⟩ := (same_ambiguousType_iff _ _).mp equal
      refine (same_ambiguousType_iff _ _).mpr ⟨vs, rfl, ?_, ?_⟩
      · intro w member
        obtain ⟨v, inside, equal⟩ := back w member
        exact ⟨v, inside, ih v inside w equal⟩
      · intro v member
        obtain ⟨w, inside, equal⟩ := forth v member
        exact ⟨w, inside, ih v member w equal⟩

theorem same_trans (a b c : Value) (first : same a b = true) (second : same b c = true) :
    same a c = true := by
  induction a using parts generalizing b c with
  | data d =>
      obtain ⟨e, rfl, first⟩ := (same_data _ _).mp first
      obtain ⟨f, rfl, second⟩ := (same_data _ _).mp second
      exact (same_data _ _).mpr ⟨f, rfl, BEq.trans first second⟩
  | atom a atom =>
      obtain rfl := (same_iff_of_isAtom atom b).mp first
      exact second
  | tuple items ih =>
      obtain ⟨ys, rfl, first⟩ := (same_tuple _ _).mp first
      obtain ⟨zs, rfl, second⟩ := (same_tuple _ _).mp second
      exact (same_tuple _ _).mpr ⟨zs, rfl, sameItems_trans ih first second⟩
  | ambiguousType vs ih =>
      obtain ⟨ws, rfl, forth, back⟩ := (same_ambiguousType_iff _ _).mp first
      obtain ⟨us, rfl, forth', back'⟩ := (same_ambiguousType_iff _ _).mp second
      refine (same_ambiguousType_iff _ _).mpr ⟨us, rfl, ?_, ?_⟩
      · intro v member
        obtain ⟨w, insideW, equal⟩ := forth v member
        obtain ⟨u, insideU, equal'⟩ := forth' w insideW
        exact ⟨u, insideU, ih v member w u equal equal'⟩
      · intro u member
        obtain ⟨w, insideW, equal'⟩ := back' u member
        obtain ⟨v, insideV, equal⟩ := back w insideW
        exact ⟨v, insideV, ih v insideV w u equal equal'⟩

instance : EquivBEq Value where
  rfl := same_refl _
  symm := same_symm _ _
  trans := same_trans _ _ _

end Pursuit.Value

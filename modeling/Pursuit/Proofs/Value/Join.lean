import Pursuit.Proofs.Value.Equality
import Pursuit.Proofs.Value.Normal

/-! # Merging as a join

A merge depends on its entries as a set: their order does not count, nor how often one is there, nor
which of several equal ones it is. Where the entries are in normal form or unknown, merges can be
merged again: the result is that of merging all entries at once, and its members are those of the
entries.
-/

namespace Pursuit

/-- The lists hold equal members, in whatever order and however often. -/
def Alike {α : Type} [BEq α] (xs ys : List α) : Prop :=
  (∀ x ∈ xs, ∃ y ∈ ys, (x == y) = true) ∧ ∀ y ∈ ys, ∃ x ∈ xs, (x == y) = true

namespace Alike

variable {α β : Type} [BEq α] [BEq β]

theorem symm [EquivBEq α] {xs ys : List α} (alike : Alike xs ys) : Alike ys xs := by
  constructor
  · intro y member
    obtain ⟨x, inside, equal⟩ := alike.2 y member
    exact ⟨x, inside, BEq.symm equal⟩
  · intro x member
    obtain ⟨y, inside, equal⟩ := alike.1 x member
    exact ⟨y, inside, BEq.symm equal⟩

theorem trans [EquivBEq α] {xs ys zs : List α} (first : Alike xs ys) (second : Alike ys zs) :
    Alike xs zs := by
  constructor
  · intro x member
    obtain ⟨y, insideY, equal⟩ := first.1 x member
    obtain ⟨z, insideZ, equal'⟩ := second.1 y insideY
    exact ⟨z, insideZ, BEq.trans equal equal'⟩
  · intro z member
    obtain ⟨y, insideY, equal'⟩ := second.2 z member
    obtain ⟨x, insideX, equal⟩ := first.2 y insideY
    exact ⟨x, insideX, BEq.trans equal equal'⟩

theorem append {xs ys xs' ys' : List α} (front : Alike xs ys) (back : Alike xs' ys') :
    Alike (xs ++ xs') (ys ++ ys') := by
  simp only [Alike, List.mem_append] at *
  grind

theorem flatMap {f : α → List β} (congr : ∀ x y, (x == y) = true → Alike (f x) (f y))
    {xs ys : List α} (alike : Alike xs ys) : Alike (xs.flatMap f) (ys.flatMap f) := by
  constructor
  · intro b member
    obtain ⟨x, inside, held⟩ := List.mem_flatMap.mp member
    obtain ⟨y, other, equal⟩ := alike.1 x inside
    obtain ⟨c, held', equal'⟩ := (congr x y equal).1 b held
    exact ⟨c, List.mem_flatMap.mpr ⟨y, other, held'⟩, equal'⟩
  · intro c member
    obtain ⟨y, inside, held⟩ := List.mem_flatMap.mp member
    obtain ⟨x, other, equal⟩ := alike.2 y inside
    obtain ⟨b, held', equal'⟩ := (congr x y equal).2 c held
    exact ⟨b, List.mem_flatMap.mpr ⟨x, other, held'⟩, equal'⟩

end Alike

namespace Value

theorem alike_distinct (xs : List Value) : Alike (distinct xs) xs := by
  constructor
  · intro d member
    exact ⟨d, mem_of_mem_distinctFrom member, BEq.rfl⟩
  · intro x member
    obtain ⟨d, kept, equal⟩ := kept_by_distinctFrom [] member
    refine ⟨d, by simpa [distinct] using kept, ?_⟩
    obtain rfl | equal := equal
    · exact BEq.rfl
    · exact equal

theorem contribution_of_isPlain {v : Value} (plain : v.isPlain = true) :
    contribution (some v) = [v] := by
  cases v <;> simp_all [contribution, isPlain]

theorem alike_contribution (a b : Option Value) (equal : (a == b) = true) :
    Alike (contribution a) (contribution b) := by
  cases a with
  | none =>
      cases b with
      | none => simp [Alike, contribution]
      | some _ => simp at equal
  | some v =>
      cases b with
      | none => simp at equal
      | some w =>
          rw [Option.some_beq_some, beq_eq_same] at equal
          cases plain : v.isPlain with
          | true =>
              rw [contribution_of_isPlain plain,
                contribution_of_isPlain ((isPlain_congr equal).symm.trans plain)]
              simpa [Alike] using equal
          | false =>
              cases v with
              | ambiguousType vs =>
                  obtain ⟨ws, rfl, alike⟩ := (same_ambiguousType_iff _ _).mp equal
                  exact alike
              | unknownType =>
                  obtain rfl := (same_iff_of_isAtom rfl w).mp equal
                  simp [Alike, contribution]
              | _ => cases plain

/-- What is alike and without repetition is equal as one answer. A list of one answer is never alike
to a longer one, whose first two answers would equal it both. -/
theorem ofDistinct_congr {xs ys : List Value} (apart : xs.Pairwise fun a b => a.same b = false)
    (apart' : ys.Pairwise fun a b => a.same b = false) (alike : Alike xs ys) :
    (ofDistinct xs == ofDistinct ys) = true := by
  have lone : ∀ {x y z : Value} {zs : List Value},
      (y :: z :: zs).Pairwise (fun a b => a.same b = false) → ¬ Alike [x] (y :: z :: zs) := by
    intro x y z zs apart alike
    have first : x.same y = true := by simpa using alike.2 y (by simp)
    have second : x.same z = true := by simpa using alike.2 z (by simp)
    have equal := same_trans y x z (same_symm x y first) second
    rw [List.rel_of_pairwise_cons apart (by simp)] at equal
    cases equal
  rcases xs with _ | ⟨x, _ | ⟨x', xs⟩⟩ <;> rcases ys with _ | ⟨y, _ | ⟨y', ys⟩⟩
  · rfl
  · simp [Alike] at alike
  · simpa using alike.2 y (.head _)
  · simp [Alike] at alike
  · simpa [Alike, ofDistinct] using alike
  · exact absurd alike (lone apart')
  · simpa using alike.1 x (.head _)
  · exact absurd alike.symm (lone apart)
  · exact (same_ambiguousType_iff _ _).mpr ⟨_, rfl, alike⟩

theorem combine_congr {xs ys : List (Option Value)}
    (alike : Alike (xs.flatMap contribution) (ys.flatMap contribution)) :
    (combine xs == combine ys) = true :=
  ofDistinct_congr (pairwise_distinctFrom [] _) (pairwise_distinctFrom [] _)
    (((alike_distinct _).trans alike).trans (alike_distinct _).symm)

/-! ## Merging in stages -/

/-- The entry is in normal form, or it is an unknown type. -/
def Proper (entry : Option Value) : Prop :=
  Normal entry ∨ entry = some .unknownType

/-- A plain type that occurs in the entry equals this one. -/
def Member (x : Value) (entry : Option Value) : Prop :=
  ∃ v, entry = some v ∧ ∃ y, Occurs y v ∧ y.same x = true

theorem plain_of_proper {entry : Option Value} (proper : Proper entry) :
    ∀ x ∈ contribution entry, x.isPlain = true := by
  intro x held
  obtain normal | rfl := proper
  · obtain ⟨rfl, plain⟩ | ⟨vs, rfl, among⟩ := (mem_contribution_iff entry x).mp held
    · exact plain
    · cases normal with
      | single plain => cases plain
      | several plain apart => exact plain x among
  · cases held

theorem occurs_of_isPlain {v : Value} (plain : v.isPlain = true) (x : Value) :
    Occurs x v ↔ x = v := by
  constructor
  · intro occurs
    cases occurs with
    | here => rfl
    | inside => cases plain
  · rintro rfl
    exact .here plain

theorem member_iff {entry : Option Value} (plain : ∀ x ∈ contribution entry, x.isPlain = true)
    (x : Value) : Member x entry ↔ ∃ y ∈ contribution entry, y.same x = true := by
  cases entry with
  | none => simp [Member, contribution]
  | some v =>
      simp only [Member, Option.some.injEq, exists_eq_left', occurs_iff v]
      constructor
      · rintro ⟨y, ⟨held, among, occurs⟩, equal⟩
        obtain rfl := (occurs_of_isPlain (plain held among) y).mp occurs
        exact ⟨y, among, equal⟩
      · rintro ⟨y, among, equal⟩
        exact ⟨y, ⟨y, among, .here (plain y among)⟩, equal⟩

theorem contribution_ofDistinct {types : List Value} (plain : ∀ x ∈ types, x.isPlain = true) :
    contribution (ofDistinct types) = types := by
  rcases types with _ | ⟨v, _ | ⟨w, rest⟩⟩
  · rfl
  · exact contribution_of_isPlain (plain v (.head []))
  · rfl

section

variable {entries : List (Option Value)} (proper : ∀ e ∈ entries, Proper e)

include proper

theorem plain_of_forall_proper : ∀ x ∈ entries.flatMap contribution, x.isPlain = true := by
  intro x member
  obtain ⟨e, among, held⟩ := List.mem_flatMap.mp member
  exact plain_of_proper (proper e among) x held

theorem normal_combine : Normal (combine entries) :=
  (normal_combine_iff entries).mpr
    (.inl ((shallow_iff entries).mpr (plain_of_forall_proper proper)))

theorem contribution_combine :
    contribution (combine entries) = distinct (entries.flatMap contribution) :=
  contribution_ofDistinct ((plain_distinct_iff _).mpr (plain_of_forall_proper proper))

theorem alike_contribution_combine :
    Alike (contribution (combine entries)) (entries.flatMap contribution) := by
  rw [contribution_combine proper]
  exact alike_distinct _

theorem member_combine_iff (x : Value) :
    Member x (combine entries) ↔ ∃ e ∈ entries, Member x e := by
  have alike := alike_contribution_combine proper
  rw [member_iff (plain_of_proper (.inl (normal_combine proper)))]
  constructor
  · rintro ⟨y, held, equal⟩
    obtain ⟨z, member, equal'⟩ := alike.1 y held
    obtain ⟨e, among, held⟩ := List.mem_flatMap.mp member
    exact ⟨e, among, (member_iff (plain_of_proper (proper e among)) x).mpr
      ⟨z, held, same_trans z y x (same_symm y z equal') equal⟩⟩
  · rintro ⟨e, among, member⟩
    obtain ⟨z, held, equal⟩ := (member_iff (plain_of_proper (proper e among)) x).mp member
    obtain ⟨y, held', equal'⟩ := alike.2 z (List.mem_flatMap.mpr ⟨e, among, held⟩)
    exact ⟨y, held', same_trans y z x equal' equal⟩

end

/-- Merging is a join. Lists that hold equal entries, in whatever order and however often, have
equal merges. Where each entry is in normal form or unknown, merging two merges is merging all
entries at once, the result is in normal form, and its members are those of the entries. -/
theorem combine_is_join :
    (∀ xs ys : List (Option Value), Alike xs ys → (combine xs == combine ys) = true) ∧
    ∀ xs ys : List (Option Value), (∀ e ∈ xs ++ ys, Proper e) →
      (combine [combine xs, combine ys] == combine (xs ++ ys)) = true ∧
      Normal (combine (xs ++ ys)) ∧
      ∀ x, Member x (combine (xs ++ ys)) ↔ ∃ e ∈ xs ++ ys, Member x e := by
  refine ⟨fun xs ys alike => combine_congr (alike.flatMap alike_contribution), ?_⟩
  intro xs ys proper
  have front : ∀ e ∈ xs, Proper e := fun e member => proper e (List.mem_append_left ys member)
  have back : ∀ e ∈ ys, Proper e := fun e member => proper e (List.mem_append_right xs member)
  refine ⟨?_, normal_combine proper, member_combine_iff proper⟩
  apply combine_congr
  simpa using (alike_contribution_combine front).append (alike_contribution_combine back)

theorem mixedEntries_joined :
    let int : Option Value := some (.simpleType "int")
    let either := some (.ambiguousType [.simpleType "int", .classType "Item" none])
    let swapped := some (.ambiguousType
      [.classType "Item" none, .simpleType "int", .classType "Item" none])
    let unknown := some .unknownType
    (Alike [int, either] [swapped, int, swapped] ∧
      (combine [int, either] == combine [swapped, int, swapped]) = true) ∧
    (∀ e ∈ [int, none] ++ [unknown, either], Proper e) ∧
    (combine [combine [int, none], combine [unknown, either]] ==
      combine ([int, none] ++ [unknown, either])) = true := by
  intro int either swapped unknown
  have alike : Alike [int, either] [swapped, int, swapped] := by
    simp [Alike, int, either, swapped, same_ambiguousType_iff, same_refl]
  have apart : ∃ v ∈ [Value.simpleType "int", .classType "Item" none],
      ∃ w ∈ [Value.simpleType "int", .classType "Item" none], v.same w = false :=
    ⟨_, .head _, _, .tail _ (.head _), by simp [same]⟩
  have proper : ∀ e ∈ [int, none] ++ [unknown, either], Proper e := by
    simp only [List.cons_append, List.nil_append, List.forall_mem_cons]
    exact ⟨.inl (.single rfl), .inl .absent, .inr rfl,
      .inl (.several (by simp [isPlain]) apart), by simp⟩
  exact ⟨⟨alike, combine_is_join.1 _ _ alike⟩, proper, (combine_is_join.2 _ _ proper).1⟩

end Value

end Pursuit

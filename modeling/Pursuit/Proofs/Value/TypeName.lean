import Mathlib.Data.List.Perm.Basic
import Pursuit.Proofs.Value.Join
import Pursuit.Value.TypeName

/-! # Names respect equality

An ambiguous type is a set: types are equal when one comes from the other by reordering and
repeating possibilities, at whatever depth. The name of an ambiguous type does not show the list by
which it was built: any list of its members without repetition leads to it. Members that are not
equal may have one name, which then stands there once for each of them.
-/

namespace Pursuit

theorem Text.sorted_of_perm {texts texts' : List String} (perm : texts.Perm texts') :
    Text.sorted texts = Text.sorted texts' := by
  have ordered (texts : List String) :
      (Text.sorted texts).Pairwise fun a b => (!decide (b < a)) = true := by
    apply List.pairwise_mergeSort
    · intro a b c
      simp only [Bool.not_eq_true', decide_eq_false_iff_not, String.not_lt]
      exact String.le_trans
    · intro a b
      simp only [Bool.or_eq_true, Bool.not_eq_true', decide_eq_false_iff_not, String.not_lt]
      exact String.le_total a b
  refine List.Perm.eq_of_pairwise ?_ (ordered _) (ordered _) ?_
  · intro a b _ _
    simp only [Bool.not_eq_true', decide_eq_false_iff_not, String.not_lt]
    exact String.le_antisymm
  · exact (List.mergeSort_perm texts _).trans (perm.trans (List.mergeSort_perm texts' _).symm)

theorem Alike.exists_matching {α : Type} [BEq α] [EquivBEq α] {xs ys : List α}
    (alike : Alike xs ys) (apart : xs.Pairwise fun a b => (a == b) = false)
    (apart' : ys.Pairwise fun a b => (a == b) = false) :
    ∃ zs, zs.Perm ys ∧ List.Forall₂ (fun x z => (x == z) = true) xs zs := by
  induction xs generalizing ys with
  | nil =>
      have empty : ys = [] := by simpa [Alike, List.eq_nil_iff_forall_not_mem] using alike
      exact ⟨[], by rw [empty], .nil⟩
  | cons x xs ih =>
      obtain ⟨y, member, equal⟩ := alike.1 x (.head xs)
      obtain ⟨before, after, rfl⟩ := List.append_of_mem member
      have moved : (before ++ y :: after).Perm (y :: (before ++ after)) := List.perm_middle
      have apartRest := apart'.perm moved fun differ => by rwa [BEq.comm]
      have alikeRest : Alike xs (before ++ after) := by
        constructor
        · intro x' inside
          obtain ⟨y', member', equal'⟩ := alike.1 x' (.tail x inside)
          obtain rfl | other := List.mem_cons.mp (moved.mem_iff.mp member')
          · have twice := BEq.trans equal (BEq.symm equal')
            rw [List.rel_of_pairwise_cons apart inside] at twice
            cases twice
          · exact ⟨y', other, equal'⟩
        · intro y' inside
          obtain ⟨x', member', equal'⟩ := alike.2 y' (moved.mem_iff.mpr (.tail y inside))
          obtain rfl | other := List.mem_cons.mp member'
          · have twice := BEq.trans (BEq.symm equal) equal'
            rw [List.rel_of_pairwise_cons apartRest inside] at twice
            cases twice
          · exact ⟨x', other, equal'⟩
      obtain ⟨zs, perm, sided⟩ := ih alikeRest apart.of_cons apartRest.of_cons
      exact ⟨y :: zs, (perm.cons y).trans moved.symm, .cons equal sided⟩

namespace Value

/-- The answer is a type, and so is all that it holds. -/
inductive IsType : Value → Prop where
  | baseType : IsType .baseType
  | unknownType : IsType .unknownType
  | simpleType (name : String) : IsType (.simpleType name)
  | classType (name : String) (module : Option String) : IsType (.classType name module)
  | ambiguousType {possibilities : List Value} (each : ∀ v ∈ possibilities, IsType v) :
      IsType (.ambiguousType possibilities)

/-! ## Order and repetition -/

/-- The answers differ in the order of possibilities and in how often they are there, at whatever
depth. -/
inductive Rearranged : Value → Value → Prop where
  | refl (a : Value) : Rearranged a a
  | symm {a b : Value} (first : Rearranged a b) : Rearranged b a
  | trans {a b c : Value} (first : Rearranged a b) (second : Rearranged b c) : Rearranged a c
  | reorder {xs ys : List Value} (perm : xs.Perm ys) :
      Rearranged (.ambiguousType xs) (.ambiguousType ys)
  | double (x : Value) (xs : List Value) :
      Rearranged (.ambiguousType (x :: xs)) (.ambiguousType (x :: x :: xs))
  | inside {x y : Value} (xs : List Value) (within : Rearranged x y) :
      Rearranged (.ambiguousType (x :: xs)) (.ambiguousType (y :: xs))

theorem same_ambiguousType_of_subset {xs ys : List Value} (forth : xs ⊆ ys) (back : ys ⊆ xs) :
    same (.ambiguousType xs) (.ambiguousType ys) = true :=
  (same_ambiguousType_iff _ _).mpr ⟨ys, rfl, fun x member => ⟨x, forth member, same_refl x⟩,
    fun y member => ⟨y, back member, same_refl y⟩⟩

theorem Rearranged.same {a b : Value} (rearranged : Rearranged a b) : a.same b = true := by
  induction rearranged with
  | refl a => exact same_refl a
  | symm _ ih => exact same_symm _ _ ih
  | trans _ _ first second => exact same_trans _ _ _ first second
  | reorder perm => exact same_ambiguousType_of_subset perm.subset perm.symm.subset
  | double x xs => exact same_ambiguousType_of_subset (by simp) (by simp)
  | @inside x y xs _ ih =>
      refine (same_ambiguousType_iff _ _).mpr ⟨y :: xs, rfl, ?_, ?_⟩
      · rintro z (_ | ⟨_, member⟩)
        · exact ⟨y, .head xs, ih⟩
        · exact ⟨z, .tail y member, same_refl z⟩
      · rintro z (_ | ⟨_, member⟩)
        · exact ⟨x, .head xs, ih⟩
        · exact ⟨z, .tail x member, same_refl z⟩

/-- An ambiguity takes in what is a possibility of it already, in another form. -/
theorem Rearranged.absorb {xs ys : List Value} (known : ∀ y ∈ ys, ∃ x ∈ xs, Rearranged x y) :
    Rearranged (.ambiguousType xs) (.ambiguousType (ys ++ xs)) := by
  induction ys with
  | nil => exact .refl _
  | cons y ys ih =>
      obtain ⟨x, member, form⟩ := known y (.head ys)
      obtain ⟨before, after, split⟩ := List.append_of_mem (List.mem_append_right ys member)
      have moved : (ys ++ xs).Perm (x :: (before ++ after)) := split ▸ List.perm_middle
      -- one of two copies of `x` becomes `y`, the other one stays
      have added : Rearranged (.ambiguousType (x :: (before ++ after)))
          (.ambiguousType (y :: x :: (before ++ after))) :=
        (Rearranged.double x _).trans (.inside _ form)
      exact (ih fun z inside => known z (.tail y inside)).trans
        ((Rearranged.reorder moved).trans (added.trans (.reorder (moved.symm.cons y))))

theorem IsType.rearranged {a : Value} (type : a.IsType) (b : Value) (equal : a.same b = true) :
    Rearranged a b := by
  induction type generalizing b with
  | @ambiguousType xs _ ih =>
      obtain ⟨ys, rfl, forth, back⟩ := (same_ambiguousType_iff _ _).mp equal
      have left : Rearranged (.ambiguousType xs) (.ambiguousType (ys ++ xs)) := by
        apply Rearranged.absorb
        intro y member
        obtain ⟨x, inside, equal⟩ := back y member
        exact ⟨x, inside, ih x inside y equal⟩
      have right : Rearranged (.ambiguousType ys) (.ambiguousType (xs ++ ys)) := by
        apply Rearranged.absorb
        intro x member
        obtain ⟨y, inside, equal⟩ := forth x member
        exact ⟨y, inside, (ih x member y equal).symm⟩
      exact left.trans ((Rearranged.reorder List.perm_append_comm).trans right.symm)
  | baseType | unknownType | simpleType | classType =>
      obtain rfl := (same_iff_of_isAtom rfl b).mp equal
      exact .refl _

/-! ## Names -/

def Names (members : List Value) (names : List String) : Prop :=
  List.Forall₂ (fun m name => m.typeName? = some name) members names

theorem namesFrom?_eq_some_iff (seen xs : List Value) (names : List String) :
    namesFrom? seen xs = some names ↔ Names (distinctFrom seen xs) names := by
  unfold Names
  induction xs generalizing seen names with
  | nil => simp [namesFrom?, distinctFrom, eq_comm]
  | cons x xs ih =>
      rw [namesFrom?, distinctFrom]
      split
      · exact ih seen names
      · simp only [Option.bind_eq_bind, Option.bind_eq_some_iff, Option.pure_def,
          Option.some.injEq, ih, List.forall₂_cons_left_iff]
        grind

theorem typeName?_ambiguousType_eq_some_iff (xs : List Value) (name : String) :
    typeName? (.ambiguousType xs) = some name ↔
      ∃ names, Names (distinct xs) names ∧ " | ".intercalate (Text.sorted names) = name := by
  rw [typeName?, Option.map_eq_some_iff]
  simp only [namesFrom?_eq_some_iff, distinct]

theorem Names.of_alike {xs ys : List Value} {names : List String} (named : Names xs names)
    (alike : Alike ys xs) (apart : ys.Pairwise fun a b => a.same b = false)
    (apart' : xs.Pairwise fun a b => a.same b = false)
    (congr : ∀ y ∈ ys, ∀ x ∈ xs, y.same x = true → y.typeName? = x.typeName?) :
    ∃ names', Names ys names' ∧ names'.Perm names := by
  obtain ⟨zs, perm, sided⟩ := alike.exists_matching apart apart'
  obtain ⟨names', named', permNames⟩ := List.perm_comp_forall₂ perm named
  refine ⟨names', ?_, permNames⟩
  have members : ∀ z ∈ zs, z ∈ xs := fun z member => perm.mem_iff.mp member
  clear perm permNames apart alike
  unfold Names
  -- each member has the name of the one that stands beside it
  induction sided generalizing names' with
  | nil => exact named'
  | @cons y z ys zs equal _ ih =>
      obtain ⟨name, rest, first, others, rfl⟩ := List.forall₂_cons_left_iff.mp named'
      refine .cons ?_ (ih (fun y member => congr y (.tail _ member)) rest others
        fun z member => members z (.tail _ member))
      rw [congr y (.head ys) z (members z (.head zs)) equal]
      exact first

theorem typeName?_of_alike {xs ys : List Value} (alike : Alike ys xs)
    (congr : ∀ y ∈ ys, ∀ x ∈ xs, y.same x = true → y.typeName? = x.typeName?) {name : String}
    (known : typeName? (.ambiguousType xs) = some name) :
    typeName? (.ambiguousType ys) = some name := by
  obtain ⟨names, named, rfl⟩ := (typeName?_ambiguousType_eq_some_iff _ _).mp known
  obtain ⟨names', named', perm⟩ := named.of_alike
    (((alike_distinct ys).trans alike).trans (alike_distinct xs).symm)
    (pairwise_distinctFrom [] ys) (pairwise_distinctFrom [] xs) fun y memberY x memberX =>
      congr y (mem_of_mem_distinctFrom memberY) x (mem_of_mem_distinctFrom memberX)
  exact (typeName?_ambiguousType_eq_some_iff _ _).mpr
    ⟨names', named', congrArg _ (Text.sorted_of_perm perm)⟩

theorem typeName?_congr (a b : Value) (equal : a.same b = true) : a.typeName? = b.typeName? := by
  induction a using parts generalizing b with
  | data d =>
      obtain ⟨e, rfl, -⟩ := (same_data _ _).mp equal
      rfl
  | atom a atom =>
      obtain rfl := (same_iff_of_isAtom atom b).mp equal
      rfl
  | tuple items =>
      obtain ⟨others, rfl, -⟩ := (same_tuple _ _).mp equal
      rfl
  | ambiguousType vs ih =>
      obtain ⟨ws, rfl, alike⟩ := (same_ambiguousType_iff _ _).mp equal
      have alike : Alike vs ws := alike
      refine Option.ext fun name => ⟨?_, ?_⟩
      · exact typeName?_of_alike alike.symm fun w _ v member equal =>
          (ih v member w (same_symm w v equal)).symm
      · exact typeName?_of_alike alike fun v member w _ => ih v member w

theorem exists_names {members : List Value}
    (each : ∀ m ∈ members, ∃ name, m.typeName? = some name) : ∃ names, Names members names := by
  refine ⟨members.map fun m => m.typeName?.getD "", ?_⟩
  refine List.forall₂_map_right_iff.mpr (List.forall₂_same.mpr fun m member => ?_)
  obtain ⟨name, named⟩ := each m member
  rw [named, Option.getD_some]

theorem IsType.exists_typeName {a : Value} (type : a.IsType) :
    ∃ name, a.typeName? = some name := by
  induction type with
  | @ambiguousType vs _ ih =>
      have each : ∀ m ∈ distinct vs, ∃ name, m.typeName? = some name := fun m member =>
        ih m (mem_of_mem_distinctFrom member)
      obtain ⟨names, named⟩ := exists_names each
      exact ⟨_, (typeName?_ambiguousType_eq_some_iff vs _).mpr ⟨names, named, rfl⟩⟩
  | classType name module => cases module <;> exact ⟨_, rfl⟩
  | baseType | unknownType | simpleType => exact ⟨_, rfl⟩

/-- Equality of types is an equivalence, and it is what reordering and repeating possibilities leads
to. Every type has a name, and equal types have the same one. The name of an ambiguous type is made
of the names of its members, in order and each counted once, however they are listed. -/
theorem typeName_respects_equality :
    Equivalence (fun a b : Value => (a == b) = true) ∧
    (∀ a b : Value, a.IsType → ((a == b) = true ↔ Rearranged a b)) ∧
    (∀ a b : Value, a.IsType → (a == b) = true →
      ∃ name, a.typeName? = some name ∧ b.typeName? = some name) ∧
    ∀ possibilities members : List Value, (∀ m ∈ members, m.IsType) → Alike members possibilities →
      members.Pairwise (fun a b => (a == b) = false) →
      ∃ names, Names members names ∧
        typeName? (.ambiguousType possibilities) =
          some (" | ".intercalate (Text.sorted names)) := by
  refine ⟨⟨fun _ => BEq.rfl, BEq.symm, BEq.trans⟩, ?_, ?_, ?_⟩
  · exact fun a b type => ⟨type.rearranged b, Rearranged.same⟩
  · intro a b type equal
    obtain ⟨name, named⟩ := type.exists_typeName
    exact ⟨name, named, (typeName?_congr a b equal).symm.trans named⟩
  · intro possibilities members types alike apart
    obtain ⟨names, named⟩ := exists_names fun m member => (types m member).exists_typeName
    obtain ⟨names', named', perm⟩ := named.of_alike
      ((alike_distinct possibilities).trans alike.symm) (pairwise_distinctFrom [] _) apart
      fun y _ x _ => typeName?_congr y x
    refine ⟨names, named, (typeName?_ambiguousType_eq_some_iff _ _).mpr ⟨names', named', ?_⟩⟩
    rw [Text.sorted_of_perm perm]

/-- Two members that are not equal have one name, and a third one is built in two ways. -/
theorem shuffledType_named :
    let either : Value := .ambiguousType [.simpleType "str", .unknownType]
    let members : List Value := [.simpleType "int", .classType "int" none, either]
    let shuffled : List Value := [.ambiguousType [.unknownType, .simpleType "str", .unknownType],
      .classType "int" none, .simpleType "int", either, .simpleType "int"]
    (IsType (.ambiguousType members) ∧
      (Value.ambiguousType members == .ambiguousType shuffled) = true ∧
      Rearranged (.ambiguousType members) (.ambiguousType shuffled) ∧
      ∃ name, typeName? (.ambiguousType members) = some name ∧
        typeName? (.ambiguousType shuffled) = some name) ∧
    (∀ m ∈ members, m.IsType) ∧ Alike members shuffled ∧
      members.Pairwise (fun a b => (a == b) = false) ∧
      ∃ last, typeName? either = some last ∧
        typeName? (.ambiguousType shuffled) =
          some (" | ".intercalate (Text.sorted ["int", "int", last])) := by
  intro either members shuffled
  have types : ∀ m ∈ members, m.IsType := by
    simp only [members, either, List.forall_mem_cons]
    refine ⟨.simpleType _, .classType _ _, .ambiguousType ?_, by simp⟩
    simp only [List.forall_mem_cons]
    exact ⟨.simpleType _, .unknownType, by simp⟩
  have equal : (Value.ambiguousType members == .ambiguousType shuffled) = true := by decide
  have alike : Alike members shuffled := by
    unfold Alike
    decide
  have apart : members.Pairwise fun a b => (a == b) = false := by decide
  obtain ⟨-, rearranged, named, listed⟩ := typeName_respects_equality
  refine ⟨⟨.ambiguousType types, equal, (rearranged _ _ (.ambiguousType types)).mp equal,
    named _ _ (.ambiguousType types) equal⟩, types, alike, apart, ?_⟩
  obtain ⟨names, all, whole⟩ := listed shuffled members types alike apart
  obtain ⟨_, _, ⟨⟩, later, rfl⟩ := List.forall₂_cons_left_iff.mp all
  obtain ⟨_, _, ⟨⟩, latest, rfl⟩ := List.forall₂_cons_left_iff.mp later
  obtain ⟨last, _, third, ⟨⟩, rfl⟩ := List.forall₂_cons_left_iff.mp latest
  exact ⟨last, third, whole⟩

end Value

end Pursuit

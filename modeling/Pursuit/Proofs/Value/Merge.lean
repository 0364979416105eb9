import Pursuit.Proofs.Value.Join

/-! # Merging types that have a name

A merge of named types is known by the types that it holds: `contribution` gives them back, and two
merges that hold the same types are equal. So neither the order of the entries counts, nor how
often a type is among them, nor whether it comes alone or inside another merge.
-/

namespace Pursuit.Value

/-- The type has a name: it is a built-in type or a declared class. -/
def isNamed : Value → Bool
  | .simpleType _ | .classType _ _ => true
  | _ => false

theorem isAtom_of_isNamed {v : Value} (named : v.isNamed = true) : v.isAtom = true := by
  cases v <;> simp_all [isNamed, isAtom]

theorem isPlain_of_isNamed {v : Value} (named : v.isNamed = true) : v.isPlain = true := by
  cases v <;> simp_all [isNamed, isPlain]

theorem same_iff_of_isNamed {a : Value} (named : a.isNamed = true) (b : Value) :
    a.same b = true ↔ a = b :=
  same_iff_of_isAtom (isAtom_of_isNamed named) b

theorem nodup_distinct (xs : List Value) : (distinct xs).Nodup := by
  refine (pairwise_distinctFrom [] xs).imp ?_
  rintro a b apart rfl
  simp [same_refl] at apart

/-- What remains without repetition is what was there, as long as it has a name. -/
theorem mem_distinct {xs : List Value} (named : ∀ x ∈ xs, x.isNamed = true) (v : Value) :
    v ∈ distinct xs ↔ v ∈ xs := by
  refine ⟨mem_of_mem_distinctFrom, fun member => ?_⟩
  obtain ⟨d, kept, equal⟩ := (alike_distinct xs).2 v member
  obtain rfl := (same_iff_of_isNamed (named d (mem_of_mem_distinctFrom kept)) v).mp equal
  exact kept

/-- An answer that is a merge of named types. -/
def Merged (v : Option Value) : Prop :=
  ∃ types : List Value, types.Nodup ∧ (∀ x ∈ types, x.isNamed = true) ∧ v = ofDistinct types

theorem named_contributions {entries : List (Option Value)}
    (named : ∀ e ∈ entries, ∀ x ∈ contribution e, x.isNamed = true) :
    ∀ x ∈ entries.flatMap contribution, x.isNamed = true := by
  intro x member
  obtain ⟨e, among, held⟩ := List.mem_flatMap.mp member
  exact named e among x held

theorem named_distinct {entries : List (Option Value)}
    (named : ∀ e ∈ entries, ∀ x ∈ contribution e, x.isNamed = true) :
    ∀ x ∈ distinct (entries.flatMap contribution), x.isNamed = true :=
  fun x member => named_contributions named x (mem_of_mem_distinctFrom member)

theorem merged_combine {entries : List (Option Value)}
    (named : ∀ e ∈ entries, ∀ x ∈ contribution e, x.isNamed = true) : Merged (combine entries) :=
  ⟨_, nodup_distinct _, named_distinct named, rfl⟩

theorem contribution_of_isNamed {v : Value} (named : v.isNamed = true) :
    contribution (some v) = [v] :=
  contribution_of_isPlain (isPlain_of_isNamed named)

theorem contribution_of_named {types : List Value} (named : ∀ x ∈ types, x.isNamed = true) :
    contribution (ofDistinct types) = types :=
  contribution_ofDistinct fun x member => isPlain_of_isNamed (named x member)

theorem mem_combine {entries : List (Option Value)}
    (named : ∀ e ∈ entries, ∀ x ∈ contribution e, x.isNamed = true) (v : Value) :
    v ∈ contribution (combine entries) ↔ ∃ e ∈ entries, v ∈ contribution e := by
  rw [combine, contribution_of_named (named_distinct named),
    mem_distinct (named_contributions named), List.mem_flatMap]

theorem pairwise_of_named {types : List Value} (apart : types.Nodup)
    (named : ∀ x ∈ types, x.isNamed = true) : types.Pairwise fun a b => a.same b = false := by
  refine apart.imp_of_mem fun {a b} member _ differ => ?_
  rw [Bool.eq_false_iff, ne_eq, same_iff_of_isNamed (named a member)]
  exact differ

theorem beq_of_merged {v w : Option Value} (left : Merged v) (right : Merged w)
    (alike : ∀ x, x ∈ contribution v ↔ x ∈ contribution w) : (v == w) = true := by
  obtain ⟨xs, apart, named, rfl⟩ := left
  obtain ⟨ys, apart', named', rfl⟩ := right
  rw [contribution_of_named named, contribution_of_named named'] at alike
  refine ofDistinct_congr (pairwise_of_named apart named) (pairwise_of_named apart' named') ⟨?_, ?_⟩
  · exact fun x member => ⟨x, (alike x).mp member, BEq.rfl⟩
  · exact fun y member => ⟨y, (alike y).mpr member, BEq.rfl⟩

end Pursuit.Value

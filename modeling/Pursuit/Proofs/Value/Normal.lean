import Mathlib.Data.List.Basic
import Pursuit.Value.Combine

/-! # Merges in normal form

A merge opens the ambiguities among its entries once. It does not look at what they hold: an
unknown type or an ambiguity inside of an ambiguity comes out as it is. So the result of a merge
is in normal form when there is nothing of that kind, or when a single ambiguity comes out that is
in normal form already, and not otherwise.
-/

namespace Pursuit.Value

/-- The type is known, and it is no ambiguity. -/
def isPlain : Value → Bool
  | .unknownType | .ambiguousType _ => false
  | _ => true

/-- A plain type occurs in another type, at whatever depth. -/
inductive Occurs (x : Value) : Value → Prop where
  | here (plain : x.isPlain = true) : Occurs x x
  | inside {v : Value} {possibilities : List Value} (among : v ∈ possibilities)
      (occurs : Occurs x v) : Occurs x (.ambiguousType possibilities)

/-- Absent, a plain type, or two and more of them that are not all equal. -/
inductive Normal : Option Value → Prop where
  | absent : Normal none
  | single {v : Value} (plain : v.isPlain = true) : Normal (some v)
  | several {vs : List Value} (plain : ∀ v ∈ vs, v.isPlain = true)
      (apart : ∃ v ∈ vs, ∃ w ∈ vs, v.same w = false) : Normal (some (.ambiguousType vs))

/-- No possibility of an entry is unknown or ambiguous itself. -/
def Shallow (entries : List (Option Value)) : Prop :=
  ∀ vs, some (.ambiguousType vs) ∈ entries → ∀ v ∈ vs, v.isPlain = true

/-- All that the entries hold is one ambiguity, and that one is in normal form. -/
def Lone (entries : List (Option Value)) : Prop :=
  ∃ vs rest, entries.flatMap contribution = .ambiguousType vs :: rest ∧
    (∀ x ∈ rest, same (.ambiguousType vs) x = true) ∧ Normal (some (.ambiguousType vs))

theorem isPlain_congr {a b : Value} (equal : a.same b = true) : a.isPlain = b.isPlain := by
  cases a <;> cases b <;> simp_all [same, isPlain]

/-! ## What remains without repetition -/

theorem distinctFrom_eq_nil (seen xs : List Value) :
    distinctFrom seen xs = [] ↔ ∀ x ∈ xs, seen.any (·.same x) = true := by
  induction xs generalizing seen with
  | nil => simp [distinctFrom]
  | cons x xs ih =>
      rw [distinctFrom]
      split <;> simp_all

theorem mem_of_mem_distinctFrom {seen xs : List Value} {v : Value}
    (member : v ∈ distinctFrom seen xs) : v ∈ xs := by
  induction xs generalizing seen with
  | nil => exact member
  | cons x xs ih =>
      rw [distinctFrom] at member
      split at member
      · exact .tail x (ih member)
      · cases member with
        | head => exact .head xs
        | tail _ later => exact .tail x (ih later)

theorem kept_by_distinctFrom (seen : List Value) {xs : List Value} {x : Value} (member : x ∈ xs) :
    ∃ d, (d ∈ seen ∨ d ∈ distinctFrom seen xs) ∧ (d = x ∨ d.same x = true) := by
  induction xs generalizing seen with
  | nil => cases member
  | cons y ys ih =>
      rw [distinctFrom]
      split
      · rename_i repeated
        cases member with
        | head =>
            obtain ⟨d, old, equal⟩ := List.any_eq_true.mp repeated
            exact ⟨d, .inl old, .inr equal⟩
        | tail _ later => exact ih seen later
      · cases member with
        | head => exact ⟨x, .inr (.head _), .inl rfl⟩
        | tail _ later =>
            obtain ⟨d, kept, equal⟩ := ih (y :: seen) later
            refine ⟨d, ?_, equal⟩
            simp only [List.mem_cons] at kept ⊢
            tauto

theorem apart_from_seen {seen xs : List Value} {d : Value} (member : d ∈ distinctFrom seen xs) :
    ∀ s ∈ seen, s.same d = false := by
  induction xs generalizing seen with
  | nil => cases member
  | cons x xs ih =>
      rw [distinctFrom] at member
      split at member
      · exact ih member
      · rename_i fresh
        cases member with
        | head => simpa using fresh
        | tail _ later => exact fun s old => ih later s (.tail x old)

theorem pairwise_distinctFrom (seen xs : List Value) :
    (distinctFrom seen xs).Pairwise fun a b => a.same b = false := by
  induction xs generalizing seen with
  | nil => exact .nil
  | cons x xs ih =>
      rw [distinctFrom]
      split
      · exact ih seen
      · exact .cons (fun d member => apart_from_seen member x (.head seen)) (ih (x :: seen))

theorem distinct_eq_nil (xs : List Value) : distinct xs = [] ↔ xs = [] := by
  rw [distinct, distinctFrom_eq_nil]
  simp [List.eq_nil_iff_forall_not_mem]

theorem distinct_eq_singleton (xs : List Value) (v : Value) :
    distinct xs = [v] ↔ ∃ rest, xs = v :: rest ∧ ∀ x ∈ rest, v.same x = true := by
  cases xs with
  | nil => simp [distinct, distinctFrom]
  | cons x xs =>
      simp only [distinct, distinctFrom, List.any_nil, Bool.false_eq_true, if_false,
        List.cons.injEq, distinctFrom_eq_nil, List.any_cons, Bool.or_false]
      constructor
      · rintro ⟨rfl, equal⟩
        exact ⟨xs, ⟨rfl, rfl⟩, equal⟩
      · rintro ⟨rest, ⟨rfl, rfl⟩, equal⟩
        exact ⟨rfl, equal⟩

theorem plain_distinct_iff (xs : List Value) :
    (∀ d ∈ distinct xs, d.isPlain = true) ↔ ∀ x ∈ xs, x.isPlain = true := by
  constructor
  · intro plain x member
    obtain ⟨d, kept, equal⟩ := kept_by_distinctFrom [] member
    have remains : d ∈ distinct xs := by simpa [distinct] using kept
    obtain rfl | equal := equal
    · exact plain d remains
    · rw [← isPlain_congr equal]
      exact plain d remains
  · intro plain d member
    exact plain d (mem_of_mem_distinctFrom member)

/-! ## What the entries hold -/

theorem mem_contribution_iff (entry : Option Value) (x : Value) :
    x ∈ contribution entry ↔
      (entry = some x ∧ x.isPlain = true) ∨ ∃ vs, entry = some (.ambiguousType vs) ∧ x ∈ vs := by
  cases entry with
  | none => simp [contribution]
  | some v => cases v <;> simp [contribution] <;> grind [isPlain]

theorem shallow_iff (entries : List (Option Value)) :
    Shallow entries ↔ ∀ x ∈ entries.flatMap contribution, x.isPlain = true := by
  simp only [List.mem_flatMap, mem_contribution_iff]
  constructor
  · rintro shallow x ⟨entry, member, ⟨rfl, plain⟩ | ⟨vs, rfl, among⟩⟩
    · exact plain
    · exact shallow vs member x among
  · intro plain vs member v among
    exact plain v ⟨_, member, .inr ⟨vs, rfl, among⟩⟩

/-- A plain type occurs in an entry where it occurs in something that the entry holds. -/
theorem occurs_iff (v x : Value) :
    Occurs x v ↔ ∃ held ∈ contribution (some v), Occurs x held := by
  simp only [mem_contribution_iff]
  constructor
  · intro occurs
    cases occurs with
    | here plain => exact ⟨v, .inl ⟨rfl, plain⟩, .here plain⟩
    | inside among occurs => exact ⟨_, .inr ⟨_, rfl, among⟩, occurs⟩
  · rintro ⟨held, ⟨same, -⟩ | ⟨vs, same, among⟩, occurs⟩
    · cases same
      exact occurs
    · cases same
      exact .inside among occurs

theorem unknown_iff (entries : List (Option Value)) :
    (∀ v, some v ∈ entries → ∀ x, ¬ Occurs x v) ↔
      ∀ held ∈ entries.flatMap contribution, ∀ x, ¬ Occurs x held := by
  simp only [List.mem_flatMap]
  constructor
  · rintro nowhere held ⟨entry, member, among⟩ x occurs
    cases entry with
    | none => cases among
    | some v => exact nowhere v member x ((occurs_iff v x).mpr ⟨held, among, occurs⟩)
  · intro nowhere v member x occurs
    obtain ⟨held, among, occurs⟩ := (occurs_iff v x).mp occurs
    exact nowhere held ⟨_, member, among⟩ x occurs

/-! ## Merges -/

theorem combine_eq_none_iff (entries : List (Option Value)) :
    combine entries = none ↔ entries.flatMap contribution = [] := by
  rw [combine, ← distinct_eq_nil]
  generalize distinct _ = types
  rcases types with _ | ⟨_, _ | ⟨_, _⟩⟩ <;> simp [ofDistinct]

theorem normal_combine_iff (entries : List (Option Value)) :
    Normal (combine entries) ↔ Shallow entries ∨ Lone entries := by
  rw [shallow_iff, ← plain_distinct_iff]
  unfold Lone combine
  cases remains : distinct (entries.flatMap contribution) with
  | nil => simpa [ofDistinct] using Normal.absent
  | cons a rest =>
      cases rest with
      | nil =>
          -- The only answer that remains is the result, whatever it is.
          obtain ⟨others, held, equal⟩ := (distinct_eq_singleton _ a).mp remains
          simp only [ofDistinct, List.mem_singleton, forall_eq, held]
          constructor
          · intro normal
            cases normal with
            | single plain => exact .inl plain
            | several plain apart => exact .inr ⟨_, others, rfl, equal, .several plain apart⟩
          · rintro (plain | ⟨vs, others', same, -, normal⟩)
            · exact .single plain
            · cases same
              exact normal
      | cons b rest =>
          constructor
          · intro normal
            cases normal with
            | single plain => cases plain
            | several plain apart => exact .inl plain
          · rintro (plain | ⟨vs, others, held, equal, -⟩)
            · have apart := pairwise_distinctFrom [] (entries.flatMap contribution)
              rw [← distinct, remains] at apart
              exact .several plain ⟨a, .head _, b, .tail a (.head _),
                List.rel_of_pairwise_cons apart (.head rest)⟩
            · rw [(distinct_eq_singleton _ _).mpr ⟨others, held, equal⟩] at remains
              cases remains

/-- What is held by a shallow list, or by a lone ambiguity, has plain types in it. -/
theorem exists_occurs {entries : List (Option Value)} (proper : Shallow entries ∨ Lone entries)
    (something : entries.flatMap contribution ≠ []) :
    ∃ held ∈ entries.flatMap contribution, ∃ x, Occurs x held := by
  obtain shallow | ⟨vs, rest, held, -, normal⟩ := proper
  · obtain ⟨x, member⟩ := List.exists_mem_of_ne_nil _ something
    exact ⟨x, member, x, .here ((shallow_iff entries).mp shallow x member)⟩
  · cases normal with
    | single plain => cases plain
    | several plain apart =>
        obtain ⟨v, among, -⟩ := apart
        exact ⟨_, by rw [held]; exact .head rest, v, .inside among (.here (plain v among))⟩

/-- A merge gives a normal form, and is absent only where no plain type occurs at any depth,
exactly when no possibility of an entry is unknown or ambiguous itself, or when a lone ambiguity
comes out of it that is in normal form already. Where it is absent nothing was lost in any
case. -/
theorem combine_normalises_iff (entries : List (Option Value)) :
    ((Normal (combine entries) ∧
        (combine entries = none ↔ ∀ v, some v ∈ entries → ∀ x, ¬ Occurs x v)) ↔
      Shallow entries ∨ Lone entries) ∧
    (combine entries = none → ∀ v, some v ∈ entries → ∀ x, ¬ Occurs x v) := by
  have nowhere : combine entries = none → ∀ v, some v ∈ entries → ∀ x, ¬ Occurs x v := by
    intro absent
    rw [unknown_iff, (combine_eq_none_iff entries).mp absent]
    simp
  refine ⟨?_, nowhere⟩
  rw [normal_combine_iff]
  refine ⟨And.left, fun proper => ⟨proper, nowhere, fun unknown => ?_⟩⟩
  rw [combine_eq_none_iff]
  by_contra something
  obtain ⟨held, member, x, occurs⟩ := exists_occurs proper something
  exact (unknown_iff entries).mp unknown held member x occurs

/-- An unknown possibility is not dropped, and an inner ambiguity is not opened. -/
example (v w : Value) :
    combine [some (.ambiguousType [.unknownType])] = some .unknownType ∧
      combine [some (.ambiguousType [.ambiguousType [v, w]])] = some (.ambiguousType [v, w]) ∧
      combine [some (.ambiguousType [.ambiguousType [v, w], .unknownType])] =
        some (.ambiguousType [.ambiguousType [v, w], .unknownType]) := by
  refine ⟨rfl, rfl, ?_⟩
  simp [combine, distinct, distinctFrom, contribution, ofDistinct, same]

end Pursuit.Value

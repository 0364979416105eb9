import Mathlib.Data.Nat.Find
import Pursuit.Proofs.Ledger

/-! # What is left of changes

A ledger that is changed entry by entry can be read off the changes. The value of a key is the one
that was put last, and the keys stand in the order in which they entered: at the earliest put since
the key was last removed.
-/

namespace Pursuit

/-! ## Places in a list -/

section Since

variable {α : Type} {P Q : α → Prop} {l : List α} {a : α} {i : Nat}

/-- At a place the one property holds, and at all places after it the other. -/
def Since (P Q : α → Prop) (l : List α) (i : Nat) : Prop :=
  (∃ a, l[i]? = some a ∧ P a) ∧ ∀ j a, i < j → l[j]? = some a → Q a

theorem Since.lt_length (since : Since P Q l i) : i < l.length := by
  obtain ⟨⟨a, found, -⟩, -⟩ := since
  exact (List.getElem?_eq_some_iff.mp found).1

theorem since_concat :
    Since P Q (l ++ [a]) i ↔ Since P Q l i ∧ Q a ∨ i = l.length ∧ P a := by
  constructor
  · rintro ⟨⟨b, found, holds⟩, later⟩
    have bound : i < l.length + 1 := by simpa using (List.getElem?_eq_some_iff.mp found).1
    rcases Nat.lt_succ_iff_lt_or_eq.mp bound with before | rfl
    · refine .inl ⟨⟨⟨b, ?_, holds⟩, fun j c after listed => ?_⟩, ?_⟩
      · rwa [List.getElem?_append_left before] at found
      · apply later j c after
        rwa [List.getElem?_append_left (List.getElem?_eq_some_iff.mp listed).1]
      · exact later l.length a before (by simp)
    · refine .inr ⟨rfl, ?_⟩
      simp only [List.getElem?_concat_length, Option.some.injEq] at found
      rwa [found]
  · rintro (⟨since, last⟩ | ⟨rfl, holds⟩)
    · have before := since.lt_length
      obtain ⟨⟨b, found, holds⟩, later⟩ := since
      refine ⟨⟨b, ?_, holds⟩, fun j c after listed => ?_⟩
      · rwa [List.getElem?_append_left before]
      · grind
    · refine ⟨⟨a, by simp, holds⟩, fun j c after listed => ?_⟩
      grind

end Since

/-! ## Changes -/

inductive Change (κ ν : Type) where
  | put (key : κ) (value : ν)
  | remove (key : κ)
  | nothing

variable {κ ν : Type} [BEq κ]

namespace Change

def puts (key : κ) : Change κ ν → Bool
  | .put k _ => k == key
  | _ => false

def removes (key : κ) : Change κ ν → Bool
  | .remove k => k == key
  | _ => false

theorem removes_eq_false_of_puts {change : Change κ ν} {key : κ} (puts : change.puts key = true) :
    change.removes key = false := by
  cases change with
  | put | nothing => rfl
  | remove => cases puts

/-- A new key comes last; one that is put again stays where it is. -/
def keysAfter (keys : List κ) : Change κ ν → List κ
  | .put key _ => if keys.contains key then keys else keys ++ [key]
  | .remove key => keys.filter fun k => !(k == key)
  | .nothing => keys

/-- A change puts the key, and none after it removes it. -/
def Standing (changes : List (Change κ ν)) (key : κ) (i : Nat) : Prop :=
  Since (puts key · = true) (removes key · = false) changes i

/-- The place of the earliest put of a key since it was last removed. -/
def Entered (changes : List (Change κ ν)) (key : κ) (i : Nat) : Prop :=
  Standing changes key i ∧ ∀ j, j < i → ¬ Standing changes key j

/-- The place at which a value was put for a key that was neither put again nor removed since. -/
def Current (changes : List (Change κ ν)) (key : κ) (value : ν) (i : Nat) : Prop :=
  Since (fun change => ∃ k, change = .put k value ∧ (k == key) = true)
    (fun change => puts key change = false ∧ removes key change = false) changes i

section Concat

variable {changes : List (Change κ ν)} {change : Change κ ν} {key : κ} {i : Nat}

theorem exists_entered (standing : Standing changes key i) : ∃ j, Entered changes key j := by
  classical
  have there : ∃ j, Standing changes key j := ⟨i, standing⟩
  exact ⟨Nat.find there, Nat.find_spec there, fun _ => Nat.find_min there⟩

theorem not_entered_concat (removes : change.removes key = true) :
    ¬ Entered (changes ++ [change]) key i := by
  rintro ⟨standing, -⟩
  rcases since_concat.mp standing with ⟨-, keeps⟩ | ⟨-, puts⟩
  · simp [removes] at keeps
  · simp [removes_eq_false_of_puts puts] at removes

/-- Unless a change removes a key, the key stays where it entered; one that is not there enters with
the change that puts it. -/
theorem entered_concat (keeps : change.removes key = false) : Entered (changes ++ [change]) key i ↔
    Entered changes key i ∨
      i = changes.length ∧ change.puts key = true ∧ ∀ j, ¬ Entered changes key j := by
  simp only [Entered, Standing, since_concat, keeps, and_true]
  constructor
  · rintro ⟨standing | ⟨rfl, puts⟩, least⟩
    · exact .inl ⟨standing, fun j before standing' => least j before (.inl standing')⟩
    · refine .inr ⟨rfl, puts, ?_⟩
      rintro j ⟨standing', -⟩
      exact least j standing'.lt_length (.inl standing')
  · rintro (⟨standing, least⟩ | ⟨rfl, puts, absent⟩)
    · refine ⟨.inl standing, ?_⟩
      rintro j before (standing' | ⟨rfl, -⟩)
      · exact least j before standing'
      · exact absurd before (Nat.lt_asymm standing.lt_length)
    · refine ⟨.inr ⟨rfl, puts⟩, ?_⟩
      rintro j before (standing' | ⟨rfl, -⟩)
      · obtain ⟨k, entered⟩ := exists_entered standing'
        exact absent k entered
      · exact Nat.lt_irrefl _ before

theorem entered_concat_remove (removed : κ) :
    Entered (changes ++ [.remove removed]) key i ↔
      Entered changes key i ∧ (removed == key) = false := by
  cases same : (Change.remove removed : Change κ ν).removes key with
  | true =>
      have equal : (removed == key) = true := same
      simp [not_entered_concat same, equal]
  | false =>
      have apart : (removed == key) = false := same
      simp [entered_concat same, puts, apart]

theorem exists_current_concat_nothing (value : ν) :
    (∃ i, Current (changes ++ [.nothing]) key value i) ↔ ∃ i, Current changes key value i := by
  simp [Current, since_concat, puts, removes]

theorem exists_current_concat_put (put : κ) (new value : ν) :
    (∃ i, Current (changes ++ [.put put new]) key value i) ↔
      if put == key then value = new else ∃ i, Current changes key value i := by
  simp only [Current, since_concat, puts, removes, Change.put.injEq]
  cases same : put == key with
  | true =>
      rw [if_pos rfl]
      constructor
      · rintro ⟨i, ⟨-, kept, -⟩ | ⟨-, k, ⟨-, rfl⟩, -⟩⟩
        · cases kept
        · rfl
      · rintro rfl
        exact ⟨_, .inr ⟨rfl, put, ⟨rfl, rfl⟩, same⟩⟩
  | false => simp [same]

theorem exists_current_concat_remove (removed : κ) (value : ν) :
    (∃ i, Current (changes ++ [.remove removed]) key value i) ↔
      (removed == key) = false ∧ ∃ i, Current changes key value i := by
  simp [Current, since_concat, puts, removes, and_comm]

end Concat

/-! ## Keys in the order of their entry -/

/-- Keys are those that changes leave, each once and in the order in which they entered. -/
structure OrderedByEntry (changes : List (Change κ ν)) (keys : List κ) : Prop where
  distinct : keys.Pairwise fun a b => (a == b) = false
  member : ∀ key, keys.contains key = true ↔ ∃ i, Entered changes key i
  ordered : keys.Pairwise fun a b => ∀ i j, Entered changes a i → Entered changes b j → i < j

namespace OrderedByEntry

variable {changes : List (Change κ ν)} {keys : List κ}

theorem nil : OrderedByEntry ([] : List (Change κ ν)) [] where
  distinct := .nil
  member key := by
    simp only [List.contains_nil, Bool.false_eq_true, false_iff, not_exists]
    intro i entered
    exact Nat.not_lt_zero i entered.1.lt_length
  ordered := .nil

theorem of_entered_iff (ordered : OrderedByEntry changes keys) {changes' : List (Change κ ν)}
    (same : ∀ key i, Entered changes' key i ↔ Entered changes key i) :
    OrderedByEntry changes' keys where
  distinct := ordered.distinct
  member := by simpa only [same] using ordered.member
  ordered := by simpa only [same] using ordered.ordered

theorem entered_put (ordered : OrderedByEntry changes keys) (put key : κ) (value : ν) (i : Nat) :
    Entered (changes ++ [.put put value]) key i ↔
      Entered changes key i ∨
        i = changes.length ∧ (put == key) = true ∧ keys.contains key = false := by
  rw [entered_concat rfl, ← Bool.not_eq_true, ordered.member, not_exists]
  rfl

variable [EquivBEq κ]

theorem put_listed (ordered : OrderedByEntry changes keys) {key : κ}
    (listed : keys.contains key = true) (value : ν) :
    OrderedByEntry (changes ++ [.put key value]) keys := by
  apply ordered.of_entered_iff
  intro other i
  rw [ordered.entered_put]
  constructor
  · -- whatever equals the key is listed already
    rintro (old | ⟨-, equal, absent⟩)
    · exact old
    · rw [← List.contains_congr equal, listed] at absent
      cases absent
  · exact .inl

theorem put_new (ordered : OrderedByEntry changes keys) {key : κ}
    (new : keys.contains key = false) (value : ν) :
    OrderedByEntry (changes ++ [.put key value]) (keys ++ [key]) := by
  have apart : ∀ k ∈ keys, (k == key) = false := by
    intro k member
    apply Bool.eq_false_iff.mpr
    intro equal
    have listed := List.contains_iff_exists_mem_beq.mpr ⟨k, member, BEq.symm equal⟩
    rw [new] at listed
    cases listed
  have stays : ∀ k ∈ keys, ∀ i, Entered (changes ++ [.put key value]) k i ↔
      Entered changes k i := by
    intro k member i
    simp [ordered.entered_put, BEq.comm.trans (apart k member)]
  have enters : ∀ i, Entered (changes ++ [.put key value]) key i → i = changes.length := by
    intro i entered
    rcases (ordered.entered_put key key value i).mp entered with old | ⟨here, -⟩
    · have listed := (ordered.member key).mpr ⟨i, old⟩
      rw [new] at listed
      cases listed
    · exact here
  refine ⟨?_, ?_, ?_⟩
  · simpa [List.pairwise_append] using ⟨ordered.distinct, apart⟩
  · intro k
    simp only [ordered.entered_put, exists_or, ← ordered.member]
    cases equal : key == k with
    | true => simp [List.contains_congr (BEq.symm equal), new]
    | false => simp [BEq.comm.trans equal]
  · rw [List.pairwise_append]
    refine ⟨?_, List.pairwise_singleton _ _, ?_⟩
    · apply ordered.ordered.imp_of_mem
      intro a b member member' before
      simpa only [stays a member, stays b member'] using before
    · intro a member b last i j entered entered'
      obtain rfl := List.mem_singleton.mp last
      rw [enters j entered']
      exact ((stays a member i).mp entered).1.lt_length

theorem remove (ordered : OrderedByEntry changes keys) (key : κ) :
    OrderedByEntry (changes ++ [.remove key]) (keys.filter fun k => !(k == key)) := by
  refine ⟨ordered.distinct.filter _, ?_, ?_⟩
  · intro k
    simp only [entered_concat_remove, exists_and_right, ← ordered.member,
      List.contains_iff_exists_mem_beq, List.mem_filter, Bool.not_eq_true']
    constructor
    · rintro ⟨other, ⟨member, apart⟩, equal⟩
      exact ⟨⟨other, member, equal⟩, by rw [BEq.congr_right equal, BEq.comm, apart]⟩
    · rintro ⟨⟨other, member, equal⟩, apart⟩
      exact ⟨other, ⟨member, by rw [BEq.comm, ← BEq.congr_right equal, apart]⟩, equal⟩
  · apply (ordered.ordered.filter _).imp
    intro a b before i j entered entered'
    exact before i j ((entered_concat_remove key).mp entered).1
      ((entered_concat_remove key).mp entered').1

theorem concat (ordered : OrderedByEntry changes keys) (change : Change κ ν) :
    OrderedByEntry (changes ++ [change]) (change.keysAfter keys) := by
  cases change with
  | put key value =>
      rw [keysAfter]
      split
      · rename_i listed
        exact ordered.put_listed listed value
      · rename_i new
        exact ordered.put_new (Bool.eq_false_iff.mpr new) value
  | remove key => exact ordered.remove key
  | nothing =>
      apply ordered.of_entered_iff
      intro key i
      have kept : (Change.nothing : Change κ ν).removes key = false := rfl
      simp [entered_concat kept, puts]

end OrderedByEntry

end Change

/-! ## Ledgers -/

namespace Ledger

def change (ledger : Ledger κ ν) : Change κ ν → Ledger κ ν
  | .put key value => ledger.put key value
  | .remove key => ledger.erase key
  | .nothing => ledger

/-- A ledger is what changes make of an empty one. -/
structure IsLeftBy (changes : List (Change κ ν)) (ledger : Ledger κ ν) : Prop where
  keys : Change.OrderedByEntry changes ledger.keys
  values : ∀ key value, ledger.find? key = some value ↔ ∃ i, Change.Current changes key value i

theorem IsLeftBy.nil : IsLeftBy ([] : List (Change κ ν)) [] where
  keys := .nil
  values key value := by
    refine iff_of_false (by simp) ?_
    rintro ⟨i, current⟩
    exact Nat.not_lt_zero i current.lt_length

variable [LawfulBEq κ] {ledger : Ledger κ ν} {changes : List (Change κ ν)}

theorem keys_change (distinct : ledger.keys.Nodup) (change : Change κ ν) :
    (ledger.change change).keys = change.keysAfter ledger.keys := by
  cases change with
  | put key value =>
      simp only [Ledger.change, keys_put, Change.keysAfter, List.contains_eq_any_beq, BEq.comm]
  | remove key =>
      rw [Ledger.change, keys_erase, Change.keysAfter, distinct.erase_eq_filter]
      rfl
  | nothing => rfl

namespace IsLeftBy

theorem nodup (left : IsLeftBy changes ledger) : ledger.keys.Nodup :=
  left.keys.distinct.imp fun apart => by simpa using apart

theorem concat (left : IsLeftBy changes ledger) (change : Change κ ν) :
    IsLeftBy (changes ++ [change]) (ledger.change change) where
  keys := by
    rw [keys_change left.nodup]
    exact left.keys.concat change
  values key value := by
    cases change with
    | put put new =>
        rw [Ledger.change, find?_put, Change.exists_current_concat_put]
        split
        · rw [Option.some.injEq, eq_comm]
        · exact left.values key value
    | remove removed =>
        rw [Ledger.change, find?_erase left.nodup, Change.exists_current_concat_remove,
          ← left.values]
        split <;> simp [*]
    | nothing =>
        rw [Change.exists_current_concat_nothing]
        exact left.values key value

end IsLeftBy

end Ledger

end Pursuit

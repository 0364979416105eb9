import Mathlib.Data.List.Basic
import Pursuit.Ledger

/-! # Looking ledgers up

A ledger is known by what `find?` says of each key. Keys that are equal are one key here, whatever
else tells them apart, so all laws ask for `==` to be an equivalence and no more.
-/

namespace Pursuit.Ledger

variable {κ ν : Type} [BEq κ]

@[simp] theorem find?_nil (key : κ) : find? ([] : Ledger κ ν) key = none := rfl

theorem mem_of_find? {ledger : Ledger κ ν} {key : κ} {value : ν}
    (found : ledger.find? key = some value) : value ∈ ledger.map (·.2) := by
  induction ledger with
  | nil => simp at found
  | cons entry rest ih =>
      obtain ⟨k, v⟩ := entry
      simp only [find?] at found
      split at found
      · obtain rfl := Option.some.inj found
        exact List.mem_cons_self
      · exact List.mem_cons_of_mem _ (ih found)

theorem mem_values_put {ledger : Ledger κ ν} {key : κ} {value v : ν}
    (member : v ∈ (ledger.put key value).map (·.2)) : v = value ∨ v ∈ ledger.map (·.2) := by
  induction ledger with
  | nil => simpa [put] using member
  | cons entry rest ih =>
      obtain ⟨k, old⟩ := entry
      simp only [put] at member
      split at member
      · rcases List.mem_cons.mp member with rfl | later
        · exact .inl rfl
        · exact .inr (.tail old later)
      · rcases List.mem_cons.mp member with rfl | later
        · exact .inr (.head _)
        · exact (ih later).imp_right (.tail old)

omit [BEq κ] in
@[simp] theorem keys_cons (k : κ) (v : ν) (rest : Ledger κ ν) :
    keys ((k, v) :: rest) = k :: keys rest := rfl

/-- A new key comes last; writing to one that is there leaves the keys alone. -/
theorem keys_put (ledger : Ledger κ ν) (key : κ) (value : ν) :
    (ledger.put key value).keys =
      if ledger.keys.any (· == key) then ledger.keys else ledger.keys ++ [key] := by
  induction ledger with
  | nil => rfl
  | cons entry rest ih =>
      obtain ⟨k, v⟩ := entry
      cases same : k == key with
      | true => simp [put, same]
      | false =>
          simp only [put, same, Bool.false_eq_true, if_false, keys_cons, ih, List.any_cons,
            Bool.false_or]
          split <;> simp

theorem any_keys (ledger : Ledger κ ν) (key : κ) :
    ledger.keys.any (· == key) = (ledger.find? key).isSome := by
  induction ledger with
  | nil => rfl
  | cons entry rest ih =>
      obtain ⟨k, v⟩ := entry
      cases same : k == key with
      | true => simp [find?, same]
      | false => simp [find?, same, ih]

theorem keys_put_of_find? {ledger : Ledger κ ν} {key : κ} {old : ν}
    (found : ledger.find? key = some old) (value : ν) :
    (ledger.put key value).keys = ledger.keys := by
  rw [keys_put, any_keys, found]
  rfl

theorem keys_erase (ledger : Ledger κ ν) (key : κ) :
    (ledger.erase key).keys = ledger.keys.erase key := by
  induction ledger with
  | nil => rfl
  | cons entry rest ih =>
      obtain ⟨k, v⟩ := entry
      rw [keys_cons, List.erase_cons, erase]
      split
      · rfl
      · rw [keys_cons, ih]

theorem erase_of_find?_eq_none {ledger : Ledger κ ν} {key : κ} (absent : ledger.find? key = none) :
    ledger.erase key = ledger := by
  induction ledger with
  | nil => rfl
  | cons entry rest ih =>
      obtain ⟨k, v⟩ := entry
      rw [find?] at absent
      split at absent
      · cases absent
      · rename_i other
        rw [erase, if_neg other, ih absent]

theorem mem_erase {ledger : Ledger κ ν} {key : κ} {entry : κ × ν}
    (member : entry ∈ ledger.erase key) : entry ∈ ledger := by
  induction ledger with
  | nil => exact member
  | cons first rest ih =>
      rw [erase] at member
      split at member
      · exact .tail _ member
      · cases member with
        | head => exact .head _
        | tail _ later => exact .tail _ (ih later)

theorem entry_of_find? [LawfulBEq κ] {ledger : Ledger κ ν} {key : κ} {value : ν}
    (found : ledger.find? key = some value) : (key, value) ∈ ledger := by
  induction ledger with
  | nil => cases found
  | cons first rest ih =>
      rw [find?] at found
      split at found
      · rename_i same
        cases found
        rw [← eq_of_beq same]
        exact .head _
      · exact .tail _ (ih found)

variable [EquivBEq κ]

theorem mem_put {ledger : Ledger κ ν} {key k : κ} {value v : ν}
    (member : (k, v) ∈ ledger.put key value) : (k, v) ∈ ledger ∨ k == key ∧ v = value := by
  induction ledger with
  | nil =>
      cases List.mem_singleton.mp member
      exact .inr ⟨BEq.rfl, rfl⟩
  | cons entry rest ih =>
      obtain ⟨first, old⟩ := entry
      simp only [put] at member
      split at member
      · rename_i same
        rcases List.mem_cons.mp member with written | later
        · cases written
          exact .inr ⟨same, rfl⟩
        · exact .inl (.tail _ later)
      · rcases List.mem_cons.mp member with kept | later
        · exact .inl (kept ▸ .head _)
        · exact (ih later).imp_left (.tail _)

theorem find?_congr {a b : κ} (same : a == b) (ledger : Ledger κ ν) :
    ledger.find? a = ledger.find? b := by
  induction ledger with
  | nil => rfl
  | cons entry rest ih =>
      obtain ⟨k, v⟩ := entry
      simp only [find?, BEq.congr_right same, ih]

theorem find?_put (ledger : Ledger κ ν) (a b : κ) (value : ν) :
    (ledger.put a value).find? b = if a == b then some value else ledger.find? b := by
  induction ledger with
  | nil => simp only [put, find?]
  | cons entry rest ih =>
      obtain ⟨k, v⟩ := entry
      by_cases atKey : k == a
      · simp only [put, find?, atKey, if_true, BEq.congr_left atKey]
        split <;> rfl
      · by_cases atOther : k == b
        · have apart : (a == b) = false := by
            rw [Bool.eq_false_iff]
            intro same
            exact atKey (BEq.trans atOther (BEq.symm same))
          simp [put, find?, atKey, atOther, apart]
        · simp [put, find?, atKey, atOther, ih]

theorem find?_put_self (ledger : Ledger κ ν) (key : κ) (value : ν) :
    (ledger.put key value).find? key = some value := by
  rw [find?_put, if_pos BEq.rfl]

theorem find?_put_of_eq (ledger : Ledger κ ν) {a b : κ} (value : ν) (same : a == b) :
    (ledger.put a value).find? b = some value := by
  rw [find?_put, if_pos same]

theorem find?_put_of_ne (ledger : Ledger κ ν) {a b : κ} (value : ν) (apart : (a == b) = false) :
    (ledger.put a value).find? b = ledger.find? b := by
  rw [find?_put, apart, if_neg Bool.false_ne_true]

omit [EquivBEq κ] in
theorem mem_keys_iff [LawfulBEq κ] (ledger : Ledger κ ν) (key : κ) :
    key ∈ ledger.keys ↔ (ledger.find? key).isSome := by
  rw [← any_keys, List.any_eq_true]
  constructor
  · intro member
    exact ⟨key, member, BEq.rfl⟩
  · rintro ⟨k, member, same⟩
    exact eq_of_beq same ▸ member

omit [EquivBEq κ] in
theorem find?_of_mem [LawfulBEq κ] {ledger : Ledger κ ν} (distinct : ledger.keys.Nodup) {key : κ}
    {value : ν} (member : (key, value) ∈ ledger) : ledger.find? key = some value := by
  induction ledger with
  | nil => cases member
  | cons entry rest ih =>
      obtain ⟨k, v⟩ := entry
      obtain ⟨apart, distinct⟩ := List.nodup_cons.mp distinct
      rw [find?]
      cases member with
      | head => rw [if_pos BEq.rfl]
      | tail _ later =>
          have other : ¬ (k == key) = true := by
            intro same
            obtain rfl := eq_of_beq same
            exact apart (List.mem_map.mpr ⟨_, later, rfl⟩)
          rw [if_neg other, ih distinct later]

omit [EquivBEq κ] in
theorem find?_erase [LawfulBEq κ] {ledger : Ledger κ ν} (distinct : ledger.keys.Nodup) (a b : κ) :
    (ledger.erase a).find? b = if a == b then none else ledger.find? b := by
  induction ledger with
  | nil => simp [erase]
  | cons entry rest ih =>
      obtain ⟨k, v⟩ := entry
      obtain ⟨apart, distinct⟩ := List.nodup_cons.mp distinct
      rw [erase]
      split
      · rename_i same
        obtain rfl := eq_of_beq same
        split
        · rename_i same
          obtain rfl := eq_of_beq same
          exact Option.not_isSome_iff_eq_none.mp (mt (mem_keys_iff rest k).mpr apart)
        · rename_i other
          rw [find?, if_neg other]
      · rename_i other
        rw [find?, find?, ih distinct]
        split
        · rename_i here
          rw [if_neg]
          intro same
          exact other (BEq.trans here (BEq.symm same))
        · rfl

end Pursuit.Ledger

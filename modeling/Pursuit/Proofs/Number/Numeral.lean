import Mathlib.Data.Nat.Digits.Lemmas
import Pursuit.Number.Numeral
import Pursuit.Text.Blank

/-! # The grammar of numerals

`DigitRow` and `Numeral` say which texts are numerals and what they stand for, and the reader
accepts exactly those. The usual decimal form of a number is one of its numerals, and no numeral
has a blank in it.
-/

namespace Pursuit

open Text

/-! ## Digits -/

namespace Text

variable {c : Char} {d : Nat}

theorem exists_zero_of_digitValue? (digit : digitValue? c = some d) :
    ∃ nought ∈ zeroDigits, d < 10 ∧ c.toNat = nought + d := by
  obtain ⟨nought, found, rfl⟩ := Option.map_eq_some_iff.1 digit
  have place := List.find?_some found
  simp only [Bool.and_eq_true, decide_eq_true_eq] at place
  exact ⟨nought, List.mem_of_find?_eq_some found, by omega, by omega⟩

theorem digitValue?_lt (digit : digitValue? c = some d) : d < 10 := by
  obtain ⟨_, _, small, _⟩ := exists_zero_of_digitValue? digit
  exact small

/-- The two tables have no code point in common. -/
theorem not_isBlank_of_digitValue? (digit : digitValue? c = some d) : isBlank c = false := by
  have apart : ∀ nought ∈ zeroDigits, ∀ d < 10, blanks.contains (nought + d) = false := by
    decide +kernel
  obtain ⟨nought, listed, small, place⟩ := exists_zero_of_digitValue? digit
  rw [isBlank, place]
  exact apart nought listed d small

theorem digitValue?_of_isDigit (ascii : c.isDigit) : digitValue? c = some (c.toNat - 48) := by
  have place : 48 ≤ c.toNat ∧ c.toNat ≤ 57 := Char.isDigit_iff_toNat.1 ascii
  have found : zeroDigits.find? (fun z => z ≤ c.toNat && c.toNat < z + 10) = some 48 := by
    rw [zeroDigits, List.find?_cons_of_pos]
    simp only [Bool.and_eq_true, decide_eq_true_eq]
    omega
  simp only [digitValue?, found, Option.map_some]

end Text

namespace Number

/-! ## The grammar -/

/-- Digits of any scripts in a row, with their values; an underscore may stand between two. -/
inductive DigitRow : List Char → List Nat → Prop where
  | last {c d} (digit : digitValue? c = some d) : DigitRow [c] [d]
  | next {c d cs ds} (digit : digitValue? c = some d) (rest : DigitRow cs ds) :
      DigitRow (c :: cs) (d :: ds)
  | spaced {c d cs ds} (digit : digitValue? c = some d) (rest : DigitRow cs ds) :
      DigitRow (c :: '_' :: cs) (d :: ds)

/-- A row of at most `maxDigits` digits with or without a sign, and the number in base ten. -/
inductive Numeral : List Char → Int → Prop where
  | unsigned {cs ds} (row : DigitRow cs ds) (short : ds.length ≤ maxDigits) :
      Numeral cs (Nat.ofDigits 10 ds.reverse : Nat)
  | plus {cs ds} (row : DigitRow cs ds) (short : ds.length ≤ maxDigits) :
      Numeral ('+' :: cs) (Nat.ofDigits 10 ds.reverse : Nat)
  | minus {cs ds} (row : DigitRow cs ds) (short : ds.length ≤ maxDigits) :
      Numeral ('-' :: cs) (-(Nat.ofDigits 10 ds.reverse : Nat))

variable {c : Char} {cs : List Char} {d : Nat} {ds : List Nat} {n : Int}

/-! ## Reading rows of digits -/

theorem digits?_cons_eq_some_iff :
    digits? (c :: cs) = some ds ↔
      ∃ d rest, digitValue? c = some d ∧ laterDigits? cs = some rest ∧ d :: rest = ds := by
  simp only [digits?, Option.bind_eq_some_iff, Option.map_eq_some_iff]
  grind

theorem laterDigits?_of_digits? (read : digits? cs = some ds) : laterDigits? cs = some ds := by
  cases cs with
  | nil => cases read
  | cons c rest =>
    have solid : c ≠ '_' := by
      rintro rfl
      have underscore : digitValue? '_' = none := by decide
      obtain ⟨d, _, digit, _⟩ := digits?_cons_eq_some_iff.1 read
      rw [underscore] at digit
      cases digit
    rw [laterDigits?]
    · exact read
    · intro c' rest' eq
      exact absurd eq (by simp [solid])

theorem DigitRow.of_later (digit : digitValue? c = some d) (later : laterDigits? cs = some ds) :
    DigitRow (c :: cs) (d :: ds) := by
  -- The digit in front goes along, since an underscore counts as a separator only behind one.
  fun_induction laterDigits? cs generalizing c d ds with
  | case1 =>
    cases later
    exact .last digit
  | case2 c' rest ih =>
    obtain ⟨d', later', digit', read, rfl⟩ := digits?_cons_eq_some_iff.1 later
    exact .spaced digit (ih digit' read)
  | case3 c' rest _ ih =>
    obtain ⟨d', later', digit', read, rfl⟩ := digits?_cons_eq_some_iff.1 later
    exact .next digit (ih digit' read)

theorem DigitRow.read (row : DigitRow cs ds) : digits? cs = some ds := by
  induction row with
  | last digit => exact digits?_cons_eq_some_iff.2 ⟨_, _, digit, rfl, rfl⟩
  | next digit _ ih =>
    exact digits?_cons_eq_some_iff.2 ⟨_, _, digit, laterDigits?_of_digits? ih, rfl⟩
  | @spaced _ _ cs _ digit rest ih =>
    cases cs with
    | nil => cases rest
    | cons c' cs =>
      -- Past an underscore the later digits are read just as a row is from its start.
      have later : laterDigits? ('_' :: c' :: cs) = some _ := ih
      exact digits?_cons_eq_some_iff.2 ⟨_, _, digit, later, rfl⟩

theorem digits?_eq_some_iff : digits? cs = some ds ↔ DigitRow cs ds := by
  constructor
  · intro read
    cases cs with
    | nil => cases read
    | cons c rest =>
      obtain ⟨d, ds, digit, later, rfl⟩ := digits?_cons_eq_some_iff.1 read
      exact .of_later digit later
  · exact DigitRow.read

theorem DigitRow.small (row : DigitRow cs ds) : ∀ d ∈ ds, d < 10 := by
  induction row with
  | last digit => simpa using digitValue?_lt digit
  | next digit _ ih | spaced digit _ ih => simpa using ⟨digitValue?_lt digit, ih⟩

theorem DigitRow.not_isBlank (row : DigitRow cs ds) : ∀ c ∈ cs, isBlank c = false := by
  induction row with
  | last digit => simpa using not_isBlank_of_digitValue? digit
  | next digit _ ih => simpa using ⟨not_isBlank_of_digitValue? digit, ih⟩
  | spaced digit _ ih => simpa using ⟨not_isBlank_of_digitValue? digit, by decide, ih⟩

/-- A row starts with a digit, so a sign is no row. -/
theorem DigitRow.head_isSome (row : DigitRow (c :: cs) ds) : (digitValue? c).isSome := by
  cases row with
  | last digit | next digit | spaced digit => simp [digit]

theorem DigitRow.of_isDigit (some_digit : cs ≠ []) (ascii : ∀ c ∈ cs, c.isDigit) :
    DigitRow cs (cs.map fun c => c.toNat - 48) := by
  induction cs with
  | nil => exact absurd rfl some_digit
  | cons c rest ih =>
    have digit := digitValue?_of_isDigit (ascii c List.mem_cons_self)
    cases rest with
    | nil => exact .last digit
    | cons c' rest =>
      exact .next digit (ih (List.cons_ne_nil _ _) fun x listed =>
        ascii x (List.mem_cons_of_mem c listed))

/-! ## Reading numerals -/

theorem ofDigits_eq (ds : List Nat) : ofDigits ds = Nat.ofDigits 10 ds.reverse := by
  simp [ofDigits, Nat.ofDigits_eq_foldr, Nat.add_comm]

theorem natural?_eq_some_iff {value : Nat} : natural? cs = some value ↔
    ∃ ds, DigitRow cs ds ∧ ds.length ≤ maxDigits ∧ Nat.ofDigits 10 ds.reverse = value := by
  simp only [natural?, Option.bind_eq_some_iff, Option.ite_none_right_eq_some, Option.some.injEq,
    digits?_eq_some_iff, ofDigits_eq]

theorem integer?_of_row (row : DigitRow cs ds) :
    integer? cs = (natural? cs).map Int.ofNat := by
  have plus : digitValue? '+' = none := by decide
  have minus : digitValue? '-' = none := by decide
  rw [integer?]
  · rintro rest rfl
    simpa [plus] using row.head_isSome
  · rintro rest rfl
    simpa [minus] using row.head_isSome

theorem Numeral.read (numeral : Numeral cs n) : integer? cs = some n := by
  cases numeral with
  | unsigned row short =>
    rw [integer?_of_row row, natural?_eq_some_iff.2 ⟨_, row, short, rfl⟩]
    rfl
  | plus row short | minus row short =>
    rw [integer?, natural?_eq_some_iff.2 ⟨_, row, short, rfl⟩]
    rfl

theorem Numeral.of_integer? (read : integer? cs = some n) : Numeral cs n := by
  fun_cases integer? cs with
  | case1 rest =>
    obtain ⟨value, digits, rfl⟩ := Option.map_eq_some_iff.1 read
    obtain ⟨ds, row, short, rfl⟩ := natural?_eq_some_iff.1 digits
    exact .plus row short
  | case2 rest =>
    simp only [integer?, Option.map_eq_some_iff, Option.bind_eq_bind, Option.bind_eq_some_iff,
      Option.pure_def, Option.some.injEq] at read
    obtain ⟨_, ⟨value, digits, rfl⟩, rfl⟩ := read
    obtain ⟨ds, row, short, rfl⟩ := natural?_eq_some_iff.1 digits
    exact .minus row short
  | case3 cs noPlus noMinus =>
    rw [integer?.eq_3 _ noPlus noMinus] at read
    obtain ⟨value, digits, rfl⟩ := Option.map_eq_some_iff.1 read
    obtain ⟨ds, row, short, rfl⟩ := natural?_eq_some_iff.1 digits
    exact .unsigned row short

theorem integer?_eq_some_iff : integer? cs = some n ↔ Numeral cs n :=
  ⟨.of_integer?, Numeral.read⟩

theorem Numeral.ne_nil (numeral : Numeral cs n) : cs ≠ [] := by
  rintro rfl
  cases numeral with
  | unsigned row => cases row

theorem Numeral.not_isBlank (numeral : Numeral cs n) : ∀ c ∈ cs, isBlank c = false := by
  cases numeral with
  | unsigned row => exact row.not_isBlank
  | plus row | minus row => simpa using ⟨by decide, row.not_isBlank⟩

/-! ## Decimal forms -/

/-- The decimal form of a number is within the length of a numeral. -/
def IsShort (n : Nat) : Prop :=
  (toString n).length ≤ maxDigits

instance (n : Nat) : Decidable (IsShort n) :=
  inferInstanceAs (Decidable (_ ≤ _))

theorem length_toString (n : Nat) : (toString n).length = (Nat.toDigits 10 n).length := by
  rw [Nat.toString_eq_ofList_toDigits, String.length_ofList]

/-- What is read can be written again. -/
theorem Numeral.isShort (numeral : Numeral cs n) : IsShort n.natAbs := by
  obtain ⟨ds, small, short, value⟩ : ∃ ds : List Nat, (∀ d ∈ ds, d < 10) ∧
      ds.length ≤ maxDigits ∧ n.natAbs = Nat.ofDigits 10 ds.reverse := by
    cases numeral with
    | unsigned row short | plus row short | minus row short =>
      exact ⟨_, row.small, short, by simp⟩
  have bound : Nat.ofDigits 10 ds.reverse < 10 ^ ds.reverse.length :=
    Nat.ofDigits_lt_base_pow_length (by decide) (by simpa using small)
  rw [List.length_reverse] at bound
  rw [IsShort, length_toString, value, Nat.length_toDigits_le_iff (by decide) (by decide)]
  exact bound.trans_le (Nat.pow_le_pow_right (by decide) short)

theorem Numeral.of_toString {n : Nat} (short : IsShort n) : Numeral (toString n).toList n := by
  have row : DigitRow (Nat.toDigits 10 n) _ :=
    .of_isDigit Nat.toDigits_ne_nil fun _ => Nat.isDigit_of_mem_toDigits (by decide) (by decide)
  have value : ofDigits ((Nat.toDigits 10 n).map fun c => c.toNat - 48) = n := by
    rw [ofDigits, List.foldl_map]
    exact Nat.ofDigitChars_ten_toDigits
  rw [IsShort, length_toString] at short
  rw [Nat.toString_eq_ofList_toDigits, String.toList_ofList]
  have numeral := Numeral.unsigned row (by simpa using short)
  rwa [← ofDigits_eq, value] at numeral

end Number

end Pursuit

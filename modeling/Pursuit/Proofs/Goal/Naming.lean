import Mathlib.Data.List.Chain
import Pursuit.Goal.KindName

/-! # Kinds from the names of classes

The name of a class is written in words without anything between them: a capital and small letters,
or capitals only. As long as no two words of capitals meet, the words can be told apart again, so
the kind is the list of words in lower case, and no two lists have one kind.
-/

namespace Pursuit

/-- A small letter or a digit. -/
def isSmall (c : Char) : Bool :=
  c.isLower || c.isDigit

/-- A capital, a small letter, and then small letters and digits. -/
def isCapitalised : List Char → Bool
  | first :: second :: rest => first.isUpper && second.isLower && rest.all isSmall
  | _ => false

/-- Capitals only, and at least one. -/
def isAcronym (word : List Char) : Bool :=
  !word.isEmpty && word.all Char.isUpper

/-- The words of a class name before the last one, which is `Goal` for all. -/
structure ClassWords where
  words : List String
  nonempty : words ≠ []
  formed : ∀ w ∈ words, isCapitalised w.toList ∨ isAcronym w.toList
  apart : words.IsChain fun a b => ¬ (isAcronym a.toList ∧ isAcronym b.toList)

namespace ClassWords

def className (c : ClassWords) : String :=
  String.join c.words ++ "Goal"

def lowered (c : ClassWords) : List String :=
  c.words.map String.toLower

end ClassWords

/-! ## Letters and digits -/

theorem isUpper_iff {c : Char} : c.isUpper = true ↔ 65 ≤ c.toNat ∧ c.toNat ≤ 90 := by
  delta Char.isUpper
  simp [UInt32.le_iff_toNat_le, ← Char.toNat_val]

theorem isLower_iff {c : Char} : c.isLower = true ↔ 97 ≤ c.toNat ∧ c.toNat ≤ 122 := by
  delta Char.isLower
  simp [UInt32.le_iff_toNat_le, ← Char.toNat_val]

theorem isDigit_iff {c : Char} : c.isDigit = true ↔ 48 ≤ c.toNat ∧ c.toNat ≤ 57 :=
  Char.isDigit_iff_toNat

theorem isUpper_of_isSmall {c : Char} (small : isSmall c = true) : c.isUpper = false := by
  rw [isSmall, Bool.or_eq_true, isLower_iff, isDigit_iff] at small
  rw [Bool.eq_false_iff, Ne, isUpper_iff]
  omega

theorem isSmall_of_isUpper {c : Char} (capital : c.isUpper = true) : isSmall c = false := by
  rw [Bool.eq_false_iff]
  intro small
  rw [isUpper_of_isSmall small] at capital
  cases capital

theorem isLower_of_isUpper {c : Char} (capital : c.isUpper = true) : c.isLower = false :=
  (Bool.or_eq_false_iff.mp (isSmall_of_isUpper capital)).1

/-! ## Where words start -/

theorem startsWord_eq (before c : Char) (next : Option Char) : startsWord before c next =
    (c.isUpper && (isSmall before || before.isUpper && next.any Char.isLower)) := rfl

/-- The letters and digits of a word, of which the ones after the first are small. A capital after
them starts a word. -/
theorem separateWords_small {first : Char} {tail : List Char} (small : ∀ c ∈ tail, isSmall c = true)
    (ending : isSmall first = true ∨ tail ≠ []) {next : Char} (capital : next.isUpper = true)
    (rest : List Char) :
    separateWords (first :: tail ++ next :: rest) =
      first :: tail ++ '_' :: separateWords (next :: rest) := by
  induction tail generalizing first with
  | nil =>
      have starts : startsWord first next rest.head? = true := by
        simp_all [startsWord_eq]
      simp [separateWords, starts]
  | cons second tail ih =>
      obtain ⟨here, later⟩ := List.forall_mem_cons.mp small
      have goesOn : startsWord first second (tail ++ next :: rest).head? = false := by
        rw [startsWord_eq, isUpper_of_isSmall here, Bool.false_and]
      have inner := ih later (.inl here)
      simp only [List.cons_append] at inner ⊢
      rw [separateWords, goesOn, if_neg Bool.false_ne_true, inner]

/-- A row of capitals is one word up to the capital that a small letter follows. -/
theorem separateWords_capitals {first : Char} {tail : List Char}
    (capitals : ∀ c ∈ first :: tail, c.isUpper = true) {next second : Char}
    (capital : next.isUpper = true) (lower : second.isLower = true) (rest : List Char) :
    separateWords (first :: tail ++ next :: second :: rest) =
      first :: tail ++ '_' :: separateWords (next :: second :: rest) := by
  induction tail generalizing first with
  | nil =>
      have starts : startsWord first next (some second) = true := by
        simp_all [startsWord_eq]
      simp [separateWords, starts]
  | cons b tail ih =>
      obtain ⟨here, later⟩ := List.forall_mem_cons.mp capitals
      have follows : (tail ++ next :: second :: rest).head?.any Char.isLower = false := by
        cases tail with
        | nil => simp [isLower_of_isUpper capital]
        | cons c tail => simp [isLower_of_isUpper (later c (by simp))]
      have goesOn : startsWord first b (tail ++ next :: second :: rest).head? = false := by
        rw [startsWord_eq, isSmall_of_isUpper here, follows]
        simp
      have inner := ih later
      simp only [List.cons_append] at inner ⊢
      rw [separateWords, goesOn, if_neg Bool.false_ne_true, inner]

theorem exists_capitalised {word : List Char} (capitalised : isCapitalised word = true) :
    ∃ first second tail, word = first :: second :: tail ∧ first.isUpper = true ∧
      second.isLower = true ∧ ∀ c ∈ second :: tail, isSmall c = true := by
  cases word with
  | nil => cases capitalised
  | cons first rest =>
      cases rest with
      | nil => cases capitalised
      | cons second tail =>
          simp only [isCapitalised, Bool.and_eq_true, List.all_eq_true] at capitalised
          obtain ⟨⟨capital, lower⟩, small⟩ := capitalised
          refine ⟨first, second, tail, rfl, capital, lower, List.forall_mem_cons.mpr ⟨?_, small⟩⟩
          simp [isSmall, lower]

theorem exists_acronym {word : List Char} (acronym : isAcronym word = true) :
    ∃ first tail, word = first :: tail ∧ ∀ c ∈ first :: tail, c.isUpper = true := by
  cases word with
  | nil => cases acronym
  | cons first tail => exact ⟨first, tail, rfl, by simpa [isAcronym] using acronym⟩

/-- A word that another one follows is separated from it. -/
theorem separateWords_word {word next : List Char} (rest : List Char)
    (formed : isCapitalised word = true ∨ isAcronym word = true)
    (follows : isCapitalised next = true ∨ isAcronym next = true)
    (apart : ¬ (isAcronym word = true ∧ isAcronym next = true)) :
    separateWords (word ++ (next ++ rest)) = word ++ '_' :: separateWords (next ++ rest) := by
  -- After small letters any capital starts a word, after capitals only one before a small letter.
  rcases formed with capitalised | acronym
  · obtain ⟨first, second, tail, rfl, -, -, small⟩ := exists_capitalised capitalised
    obtain ⟨n, ntail, rfl, capital⟩ : ∃ n ntail, next = n :: ntail ∧ n.isUpper = true := by
      rcases follows with capitalised | acronym
      · obtain ⟨n, s, ntail, rfl, capital, -⟩ := exists_capitalised capitalised
        exact ⟨n, s :: ntail, rfl, capital⟩
      · obtain ⟨n, ntail, rfl, capitals⟩ := exists_acronym acronym
        exact ⟨n, ntail, rfl, capitals n (by simp)⟩
    exact separateWords_small small (.inr (by simp)) capital (ntail ++ rest)
  · have capitalised : isCapitalised next = true := by
      rcases follows with capitalised | both
      · exact capitalised
      · exact absurd ⟨acronym, both⟩ apart
    obtain ⟨first, tail, rfl, capitals⟩ := exists_acronym acronym
    obtain ⟨n, s, ntail, rfl, capital, lower, -⟩ := exists_capitalised capitalised
    exact separateWords_capitals capitals capital lower (ntail ++ rest)

/-- The words of a name are found again, each with an underscore behind it but for the last. -/
theorem separateWords_flatten {words : List (List Char)} {last : List Char}
    (formed : ∀ w ∈ words, isCapitalised w = true ∨ isAcronym w = true)
    (apart : words.IsChain fun a b => ¬ (isAcronym a = true ∧ isAcronym b = true))
    (ending : isCapitalised last = true) :
    separateWords (words.flatten ++ last) =
      words.flatMap (· ++ ['_']) ++ separateWords last := by
  have single : isAcronym last = false := by
    obtain ⟨first, second, tail, rfl, -, -, small⟩ := exists_capitalised ending
    simp [isAcronym, isUpper_of_isSmall (small second (by simp))]
  induction words with
  | nil => rfl
  | cons word words ih =>
      obtain ⟨here, later⟩ := List.forall_mem_cons.mp formed
      have inner := ih later apart.tail
      cases words with
      | nil =>
          have cut := separateWords_word [] here (.inl ending) (by simp [single])
          simpa using cut
      | cons next words =>
          obtain ⟨first, -⟩ := List.isChain_cons_cons.mp apart
          have cut := separateWords_word (words.flatten ++ last) here (later next (by simp)) first
          simp only [List.flatten_cons, List.append_assoc] at inner cut ⊢
          rw [cut, inner]
          simp

/-! ## Words in lower case -/

theorem lowerChar_of_ascii {c : Char} (ascii : c.toNat < 128) : Text.lowerChar c = c.toLower :=
  if_pos ascii

theorem lowerAfter_of_ascii (before : List Char) {cs : List Char}
    (ascii : ∀ c ∈ cs, c.toNat < 128) : Text.lowerAfter before cs = cs.map Char.toLower := by
  induction cs generalizing before with
  | nil => rfl
  | cons c rest ih =>
      obtain ⟨here, later⟩ := List.forall_mem_cons.mp ascii
      have sigma : c ≠ 'Σ' := by
        rintro rfl
        exact absurd here (by decide)
      have dotted : c ≠ 'İ' := by
        rintro rfl
        exact absurd here (by decide)
      simp [Text.lowerAfter, sigma, dotted, lowerChar_of_ascii here, ih _ later]

theorem dropGoalEnding_append (cs : List Char) : dropGoalEnding (cs ++ goalEnding) = cs := by
  simp [dropGoalEnding]

theorem isAlphanum_of_formed {word : List Char}
    (formed : isCapitalised word = true ∨ isAcronym word = true) :
    ∀ c ∈ word, c.isUpper = true ∨ isSmall c = true := by
  rcases formed with capitalised | acronym
  · obtain ⟨first, second, tail, rfl, capital, -, small⟩ := exists_capitalised capitalised
    exact List.forall_mem_cons.mpr ⟨.inl capital, fun c member => .inr (small c member)⟩
  · obtain ⟨first, tail, rfl, capitals⟩ := exists_acronym acronym
    exact fun c member => .inl (capitals c member)

theorem lt_of_isAlphanum {c : Char} (plain : c.isUpper = true ∨ isSmall c = true) :
    c.toNat < 128 := by
  rw [isSmall, Bool.or_eq_true, isUpper_iff, isLower_iff, isDigit_iff] at plain
  omega

theorem toLower_ne_underscore {c : Char} (plain : c.isUpper = true ∨ isSmall c = true) :
    c.toLower ≠ '_' := by
  have table : ∀ n < 128, (Char.ofNat n).isUpper = true ∨ isSmall (Char.ofNat n) = true →
      (Char.ofNat n).toLower ≠ '_' := by decide
  have here := table c.toNat (lt_of_isAlphanum plain)
  rw [Char.ofNat_toNat] at here
  exact here plain

theorem flatMap_underscore {words : List (List Char)} (nonempty : words ≠ []) :
    words.flatMap (· ++ ['_']) = ['_'].intercalate words ++ ['_'] := by
  induction words with
  | nil => exact absurd rfl nonempty
  | cons word words ih =>
      cases words with
      | nil => simp
      | cons next words => simp [ih, List.intercalate_cons_cons]

namespace ClassWords

variable (c : ClassWords)

theorem formed_toList :
    ∀ w ∈ c.words.map String.toList, isCapitalised w = true ∨ isAcronym w = true :=
  List.forall_mem_map.mpr c.formed

theorem apart_toList : (c.words.map String.toList).IsChain fun a b =>
    ¬ (isAcronym a = true ∧ isAcronym b = true) :=
  List.isChain_map String.toList |>.mpr c.apart

theorem lowered_toList : c.lowered.map String.toList =
    (c.words.map String.toList).map (·.map Char.toLower) := by
  have each : ∀ w : String, w.toLower.toList = w.toList.map Char.toLower :=
    fun _ => String.toList_map
  simp [lowered, each, Function.comp_def]

theorem lowered_ne_nil : c.lowered.map String.toList ≠ [] := by
  simpa [lowered] using c.nonempty

theorem separateWords_className : separateWords c.className.toList =
    (c.words.map String.toList).flatMap (· ++ ['_']) ++ "Goal".toList := by
  have whole : c.className.toList = (c.words.map String.toList).flatten ++ "Goal".toList := by
    simp [className, String.toList_join, List.flatMap_def]
  rw [whole, separateWords_flatten c.formed_toList c.apart_toList (by decide)]
  rfl

/-- The characters of the kind are those of the words in lower case, with underscores between. -/
theorem kindName_toList :
    (kindName c.className).toList = ['_'].intercalate (c.lowered.map String.toList) := by
  have ascii : ∀ x ∈ (c.words.map String.toList).flatMap (· ++ ['_']) ++ "Goal".toList,
      x.toNat < 128 := by
    simp only [List.forall_mem_append, List.forall_mem_flatMap, List.forall_mem_singleton]
    refine ⟨fun w member => ⟨fun x inside => ?_, by decide⟩, by simp⟩
    exact lt_of_isAlphanum (isAlphanum_of_formed (c.formed_toList w member) x inside)
  rw [kindName, String.toList_ofList, separateWords_className, Text.lowerChars,
    lowerAfter_of_ascii [] ascii]
  have lower : ((c.words.map String.toList).flatMap (· ++ ['_']) ++ "Goal".toList).map
      Char.toLower = ['_'].intercalate (c.lowered.map String.toList) ++ goalEnding := by
    have each : ((c.words.map String.toList).flatMap (· ++ ['_'])).map Char.toLower =
        (c.lowered.map String.toList).flatMap (· ++ ['_']) := by
      simp [lowered_toList, List.map_flatMap, List.flatMap_map]
    rw [List.map_append, each, flatMap_underscore c.lowered_ne_nil, List.append_assoc]
    rfl
  rw [lower, dropGoalEnding_append]

theorem underscore_not_mem : ∀ w ∈ c.lowered.map String.toList, '_' ∉ w := by
  rw [lowered_toList, List.forall_mem_map]
  intro w member inside
  obtain ⟨x, letter, same⟩ := List.mem_map.mp inside
  exact toLower_ne_underscore (isAlphanum_of_formed (c.formed_toList w member) x letter) same

end ClassWords

/-- The kind of a class is the list of the words of its name in lower case, joined by underscores.
So two classes have one kind if and only if these lists are equal. -/
theorem kindName_inverts_className (c : ClassWords) :
    kindName c.className = "_".intercalate c.lowered ∧
    ∀ d : ClassWords, kindName c.className = kindName d.className ↔ c.lowered = d.lowered := by
  have joined : ∀ c : ClassWords, kindName c.className = "_".intercalate c.lowered := by
    intro c
    apply String.toList_injective
    rw [c.kindName_toList, String.toList_intercalate]
    rfl
  refine ⟨joined c, fun d => ⟨fun same => ?_, fun same => by rw [joined c, joined d, same]⟩⟩
  have texts : ['_'].intercalate (c.lowered.map String.toList) =
      ['_'].intercalate (d.lowered.map String.toList) := by
    rw [← c.kindName_toList, ← d.kindName_toList, same]
  have words := congrArg (List.splitOn '_') texts
  rw [List.splitOn_intercalate '_' c.underscore_not_mem c.lowered_ne_nil,
    List.splitOn_intercalate '_' d.underscore_not_mem d.lowered_ne_nil] at words
  exact List.map_injective_iff.mpr (fun _ _ => String.toList_injective) words

/-- Acronyms beside words, one of a single letter, a digit, and a word that is `Goal` itself. -/
def serverWords : ClassWords :=
  ⟨["HTTP", "Server2", "X", "Goal"], by decide, by decide, by decide⟩

theorem serverWords_kind : serverWords.className = "HTTPServer2XGoalGoal" ∧
    kindName serverWords.className = "http_server2_x_goal" := by
  have lower : "_".intercalate serverWords.lowered = "http_server2_x_goal" := by
    apply String.toList_injective
    rw [String.toList_intercalate, ClassWords.lowered_toList]
    decide
  exact ⟨by decide, (kindName_inverts_className serverWords).1.trans lower⟩

end Pursuit

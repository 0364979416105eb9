import Mathlib.Data.List.DropRight
import Pursuit.Proofs.Number.Numeral
import Pursuit.Settings.Environment

/-! # What an environment asks for

`Holds` gives the meaning of one variable by the grammar of numerals alone: nothing when it is unset
or blank, and otherwise a number written between blanks. An environment has settings exactly when
both variables have a meaning in range, and decimal forms are read back.
-/

namespace Pursuit

open Text Number

/-! ## Stripping -/

namespace Text

variable {cs left inner right : List Char}

theorem exists_blanks_around (cs : List Char) : ∃ left right,
    (∀ c ∈ left, isBlank c) ∧ (∀ c ∈ right, isBlank c) ∧ cs = left ++ stripChars cs ++ right := by
  refine ⟨cs.takeWhile isBlank, (cs.dropWhile isBlank).rtakeWhile isBlank,
    fun _ => List.mem_takeWhile_imp, fun _ => List.mem_rtakeWhile_imp, ?_⟩
  calc cs
    _ = cs.takeWhile isBlank ++ cs.dropWhile isBlank := List.takeWhile_append_dropWhile.symm
    _ = cs.takeWhile isBlank ++ (stripChars cs ++ (cs.dropWhile isBlank).rtakeWhile isBlank) := by
      congr 1
      exact List.rdropWhile_append_rtakeWhile.symm
    _ = _ := (List.append_assoc ..).symm

theorem stripChars_eq_nil_iff : stripChars cs = [] ↔ ∀ c ∈ cs, isBlank c := by
  constructor
  · intro empty
    obtain ⟨left, right, leftBlank, rightBlank, split⟩ := exists_blanks_around cs
    rw [split, empty, List.append_nil]
    exact List.forall_mem_append.2 ⟨leftBlank, rightBlank⟩
  · intro blank
    simp [stripChars, List.dropWhile_eq_nil_iff.2 blank]

theorem dropWhile_blanks (leftBlank : ∀ c ∈ left, isBlank c) (some_char : inner ≠ [])
    (solid : ∀ c ∈ inner, isBlank c = false) :
    (left ++ inner ++ right).dropWhile isBlank = inner ++ right := by
  rw [List.append_assoc, List.dropWhile_append_of_pos leftBlank]
  cases inner with
  | nil => exact absurd rfl some_char
  | cons c rest => simp [solid c List.mem_cons_self]

theorem stripChars_between (leftBlank : ∀ c ∈ left, isBlank c) (rightBlank : ∀ c ∈ right, isBlank c)
    (some_char : inner ≠ []) (solid : ∀ c ∈ inner, isBlank c = false) :
    stripChars (left ++ inner ++ right) = inner := by
  -- Read backwards, the blanks on the right are blanks on the left with nothing behind.
  have fromRight : (right.reverse ++ inner.reverse ++ []).dropWhile isBlank = inner.reverse ++ [] :=
    dropWhile_blanks (by simpa using rightBlank) (by simpa using some_char) (by simpa using solid)
  rw [stripChars, dropWhile_blanks leftBlank some_char solid, List.reverse_append]
  rw [List.append_nil, List.append_nil] at fromRight
  rw [fromRight, List.reverse_reverse]

end Text

/-! ## One variable -/

namespace Environment

/-- What a variable holds: nothing, or the number whose numeral stands between blanks. -/
inductive Holds (env : Environment) (name : String) : Option Int → Prop where
  | unset (absent : env.lookup name = none) : Holds env name none
  | blank {value} (held : env.lookup name = some value) (blank : ∀ c ∈ value.toList, isBlank c) :
      Holds env name none
  | number {value left inner right n} (held : env.lookup name = some value)
      (split : value.toList = left ++ inner ++ right) (leftBlank : ∀ c ∈ left, isBlank c)
      (rightBlank : ∀ c ∈ right, isBlank c) (numeral : Numeral inner n) : Holds env name (some n)

variable {env : Environment} {name value : String}

theorem readInt_of_unset (absent : env.lookup name = none) : env.readInt name = .ok none := by
  rw [readInt, absent]
  rfl

theorem readInt_of_held (held : env.lookup name = some value) :
    env.readInt name =
      if stripChars value.toList = [] then .ok none
      else ((integer? (stripChars value.toList)).map (.ok ∘ some)).getD
        (.error (.notAnInteger name (quoted (strip value)))) := by
  have empty : (strip value).isEmpty ↔ stripChars value.toList = [] := by
    rw [String.isEmpty_iff, strip, String.ofList_eq_empty_iff]
  rw [readInt, held]
  simp only [Option.getD_some, empty]
  split
  · rfl
  · rw [strip, String.toList_ofList]
    cases integer? (stripChars value.toList) <;> rfl

/-- A variable has a meaning, or it is set and refused with what it holds between blanks. -/
theorem readInt_cases (env : Environment) (name : String) :
    (∃ found, env.readInt name = .ok found ∧ env.Holds name found) ∨
      ∃ value, env.lookup name = some value ∧
        env.readInt name = .error (.notAnInteger name (quoted (strip value))) := by
  cases held : env.lookup name with
  | none => exact .inl ⟨none, readInt_of_unset held, .unset held⟩
  | some value =>
    rw [readInt_of_held held]
    split
    next empty => exact .inl ⟨none, rfl, .blank held (stripChars_eq_nil_iff.1 empty)⟩
    next _ =>
      cases read : integer? (stripChars value.toList) with
      | none => exact .inr ⟨value, rfl, rfl⟩
      | some n =>
        obtain ⟨left, right, leftBlank, rightBlank, split⟩ := exists_blanks_around value.toList
        exact .inl ⟨some n, rfl, .number held split leftBlank rightBlank
          (integer?_eq_some_iff.1 read)⟩

theorem Holds.read {found : Option Int} (holds : env.Holds name found) :
    env.readInt name = .ok found := by
  cases holds with
  | unset absent => exact readInt_of_unset absent
  | blank held blank => rw [readInt_of_held held, if_pos (stripChars_eq_nil_iff.2 blank)]
  | number held split leftBlank rightBlank numeral =>
    rw [readInt_of_held held, split,
      stripChars_between leftBlank rightBlank numeral.ne_nil numeral.not_isBlank,
      if_neg numeral.ne_nil, integer?_eq_some_iff.2 numeral]
    rfl

theorem readInt_eq_ok_iff {found : Option Int} :
    env.readInt name = .ok found ↔ env.Holds name found := by
  refine ⟨fun read => ?_, Holds.read⟩
  obtain ⟨found', read', holds⟩ | ⟨value, _, refused⟩ := readInt_cases env name
  · cases read.symm.trans read'
    exact holds
  · cases read.symm.trans refused

theorem Holds.isShort {n : Int} (holds : env.Holds name (some n)) : IsShort n.natAbs := by
  cases holds with
  | number _ _ _ _ numeral => exact numeral.isShort

end Environment

/-! ## Settings with given numbers -/

namespace Settings

/-- The numbers of settings are those asked for; where none is, they are the usual ones. -/
structure Meets (s : Settings) (ms depth : Option Int) : Prop where
  timeLimit : s.timeLimitMs.map Int.ofNat = ms
  maxDepth : (s.maxDepth : Int) = depth.getD defaultMaxDepth

/-- Numbers that settings may have. -/
structure InRange (ms depth : Option Int) : Prop where
  timeLimit : ∀ n ∈ ms, 0 ≤ n
  maxDepth : ∀ n ∈ depth, 1 ≤ n

variable {s s' : Settings} {ms depth : Option Int}

theorem Meets.inRange (meets : s.Meets ms depth) : InRange ms depth where
  timeLimit := by
    rw [← meets.timeLimit]
    simp
  maxDepth n asked := by
    have value := meets.maxDepth
    rw [Option.mem_def.1 asked, Option.getD_some] at value
    have positive := s.maxDepth_pos
    omega

theorem Meets.unique (meets : s.Meets ms depth) (meets' : s'.Meets ms depth) : s = s' := by
  obtain ⟨limit, most, positive⟩ := s
  obtain ⟨limit', most', positive'⟩ := s'
  have sameLimit : limit = limit' :=
    Option.map_injective Int.ofNat_injective (meets.timeLimit.trans meets'.timeLimit.symm)
  have sameDepth : most = most' := Int.ofNat_inj.1 (meets.maxDepth.trans meets'.maxDepth.symm)
  subst sameLimit sameDepth
  rfl

theorem make_cases (ms : Option Int) (depth : Int) :
    (∃ n, ms = some n ∧ n < 0 ∧ make ms depth = .error (.negativeTimeLimit n)) ∨
    (depth < 1 ∧ make ms depth = .error (.depthBelowOne depth)) ∨
    ∃ s, make ms depth = .ok s ∧ s.timeLimitMs.map Int.ofNat = ms ∧ (s.maxDepth : Int) = depth := by
  rw [make]
  split
  next n negative =>
    obtain ⟨given, below⟩ := Option.filter_eq_some_iff.1 negative
    exact .inl ⟨n, given, by simpa using below, rfl⟩
  next limited =>
    split
    next low => exact .inr (.inl ⟨low, rfl⟩)
    next deep =>
      refine .inr (.inr ⟨_, rfl, ?_, by simp; omega⟩)
      cases ms with
      | none => rfl
      | some n => simpa [Option.filter_eq_none_iff] using limited

end Settings

/-! ## Both variables -/

namespace Environment

open Settings

/-- What the two variables hold. -/
structure Asks (env : Environment) (ms depth : Option Int) : Prop where
  timeLimit : env.Holds timeLimitVariable ms
  maxDepth : env.Holds maxDepthVariable depth

/-- Both variables have a meaning, and the numbers are in range. -/
def Acceptable (env : Environment) : Prop :=
  ∃ ms depth, env.Asks ms depth ∧ InRange ms depth

/-- The reasons to refuse an environment. A number that is out of range has a decimal form short
enough to be written into the refusal. -/
inductive Refuses (env : Environment) : SettingsError → Prop where
  | illegible {name value} (listed : name = timeLimitVariable ∨ name = maxDepthVariable)
      (held : env.lookup name = some value) (senseless : ∀ found, ¬ env.Holds name found) :
      Refuses env (.notAnInteger name (quoted (strip value)))
  | negative {ms depth} (asks : env.Asks (some ms) depth) (below : ms < 0)
      (short : IsShort ms.natAbs) : Refuses env (.negativeTimeLimit ms)
  | shallow {ms depth} (asks : env.Asks ms (some depth)) (below : depth < 1)
      (short : IsShort depth.natAbs) : Refuses env (.depthBelowOne depth)

/-- A variable holds the decimal form of a number between blanks. -/
def Spells (env : Environment) (name : String) (n : Nat) : Prop :=
  ∃ left right : String, (∀ c ∈ left.toList, isBlank c) ∧ (∀ c ∈ right.toList, isBlank c) ∧
    env.lookup name = some (left ++ toString n ++ right)

structure Writes (env : Environment) (s : Settings) : Prop where
  timeLimit : ∀ ms ∈ s.timeLimitMs, IsShort ms ∧ env.Spells timeLimitVariable ms
  noLimit : s.timeLimitMs = none → env.lookup timeLimitVariable = none
  maxDepth : IsShort s.maxDepth ∧ env.Spells maxDepthVariable s.maxDepth

variable {env : Environment} {ms depth : Option Int} {s : Settings}

theorem refuses_of_readInt_error {name : String} {e : SettingsError}
    (listed : name = timeLimitVariable ∨ name = maxDepthVariable)
    (read : env.readInt name = .error e) : env.Refuses e := by
  obtain ⟨found, read', _⟩ | ⟨value, held, refused⟩ := readInt_cases env name
  · cases read.symm.trans read'
  · cases read.symm.trans refused
    exact .illegible listed held fun found holds => by cases read.symm.trans holds.read

/-- Either both variables have a meaning, or the first without one is the reason to refuse. -/
theorem asks_or_refuses (env : Environment) :
    (∃ ms depth, env.Asks ms depth) ∨ ∃ e, env.settings = .error e ∧ env.Refuses e := by
  cases first : env.readInt timeLimitVariable with
  | error e =>
    refine .inr ⟨e, ?_, refuses_of_readInt_error (.inl rfl) first⟩
    rw [settings, first]
    rfl
  | ok ms =>
    cases second : env.readInt maxDepthVariable with
    | error e =>
      refine .inr ⟨e, ?_, refuses_of_readInt_error (.inr rfl) second⟩
      rw [settings, first, second]
      rfl
    | ok depth => exact .inl ⟨ms, depth, readInt_eq_ok_iff.1 first, readInt_eq_ok_iff.1 second⟩

theorem Asks.settings_eq (asks : env.Asks ms depth) :
    env.settings = Settings.make ms (depth.getD defaultMaxDepth) := by
  rw [settings, asks.timeLimit.read, asks.maxDepth.read]
  rfl

theorem Asks.settings_cases (asks : env.Asks ms depth) :
    (∃ s, env.settings = .ok s ∧ s.Meets ms depth) ∨
      ∃ e, env.settings = .error e ∧ env.Refuses e ∧ ¬ InRange ms depth := by
  rw [asks.settings_eq]
  obtain ⟨n, rfl, below, refused⟩ | ⟨below, refused⟩ | ⟨s, made, limit, most⟩ :=
    make_cases ms (depth.getD defaultMaxDepth)
  · refine .inr ⟨_, refused, .negative asks below asks.timeLimit.isShort, fun inRange => ?_⟩
    exact absurd (inRange.timeLimit n rfl) (Int.not_le.2 below)
  · cases depth with
    | none => exact absurd below (by decide)
    | some n =>
      refine .inr ⟨_, refused, .shallow asks below asks.maxDepth.isShort, fun inRange => ?_⟩
      exact absurd (inRange.maxDepth n rfl) (Int.not_le.2 below)
  · exact .inl ⟨s, made, limit, most⟩

theorem Asks.meets (asks : env.Asks ms depth) (made : env.settings = .ok s) : s.Meets ms depth := by
  obtain ⟨s', made', meets⟩ | ⟨e, refused, _⟩ := asks.settings_cases
  · cases made.symm.trans made'
    exact meets
  · cases made.symm.trans refused

theorem Asks.settings_of_inRange (asks : env.Asks ms depth) (inRange : InRange ms depth) :
    ∃ s, env.settings = .ok s ∧ s.Meets ms depth := by
  obtain made | ⟨_, _, _, out⟩ := asks.settings_cases
  · exact made
  · exact absurd inRange out

theorem acceptable_of_settings (made : env.settings = .ok s) : env.Acceptable := by
  obtain ⟨ms, depth, asks⟩ | ⟨e, refused, _⟩ := asks_or_refuses env
  · exact ⟨ms, depth, asks, (asks.meets made).inRange⟩
  · cases made.symm.trans refused

theorem refuses_of_not_acceptable (unacceptable : ¬ env.Acceptable) :
    ∃ e, env.settings = .error e ∧ env.Refuses e := by
  obtain ⟨ms, depth, asks⟩ | refused := asks_or_refuses env
  · obtain ⟨s, made, _⟩ | ⟨e, refused, refuses, _⟩ := asks.settings_cases
    · exact absurd (acceptable_of_settings made) unacceptable
    · exact ⟨e, refused, refuses⟩
  · exact refused

/-! ## Settings written out -/

theorem Spells.holds {name : String} {n : Nat} (spells : env.Spells name n) (short : IsShort n) :
    env.Holds name (some n) := by
  obtain ⟨left, right, leftBlank, rightBlank, held⟩ := spells
  exact .number held (by simp only [String.toList_append]) leftBlank rightBlank (.of_toString short)

theorem Writes.asks (writes : env.Writes s) :
    env.Asks (s.timeLimitMs.map Int.ofNat) (some s.maxDepth) where
  timeLimit := by
    cases limit : s.timeLimitMs with
    | none => exact .unset (writes.noLimit limit)
    | some ms =>
      obtain ⟨short, spells⟩ := writes.timeLimit ms limit
      exact spells.holds short
  maxDepth := writes.maxDepth.2.holds writes.maxDepth.1

theorem Writes.settings_eq (writes : env.Writes s) : env.settings = .ok s := by
  have meets : s.Meets (s.timeLimitMs.map Int.ofNat) (some s.maxDepth) := ⟨rfl, rfl⟩
  obtain ⟨s', made, meets'⟩ := writes.asks.settings_of_inRange meets.inRange
  rw [made, meets.unique meets']

end Environment

/-- An environment has settings exactly when each variable is unset, blank or a numeral and the
numbers are in range. The settings then have those numbers or the usual ones. Every other
environment is refused, for a reason that can be put into words. Settings that are written out in
decimal are read back as they were. -/
theorem environment_settings_exact (env : Environment) :
    ((∃ s, env.settings = .ok s) ↔ env.Acceptable) ∧
    (∀ s ms depth, env.settings = .ok s → env.Asks ms depth → s.Meets ms depth) ∧
    (¬ env.Acceptable → ∃ e, env.settings = .error e ∧ env.Refuses e) ∧
    ∀ s, env.Writes s → env.settings = .ok s := by
  refine ⟨⟨?_, ?_⟩, fun s ms depth made asks => asks.meets made,
    Environment.refuses_of_not_acceptable, fun s writes => writes.settings_eq⟩
  · rintro ⟨s, made⟩
    exact Environment.acceptable_of_settings made
  · rintro ⟨ms, depth, asks, inRange⟩
    obtain ⟨s, made, _⟩ := asks.settings_of_inRange inRange
    exact ⟨s, made⟩

/-- A time limit between blanks, and a depth with a sign in digits of two scripts. -/
def twoScripts : Environment :=
  [(Environment.maxDepthVariable, "\u2003+１_٢\n"), (Environment.timeLimitVariable, "\t750 ")]

/-- A depth that is a numeral but too small. -/
def noDepth : Environment :=
  [(Environment.maxDepthVariable, "-0_0")]

/-- The settings of `twoScripts` in decimal. -/
def writtenOut : Environment :=
  [(Environment.timeLimitVariable, "\x0b750\x1f"), (Environment.maxDepthVariable, "12")]

theorem twoScripts_settings :
    (∃ s, twoScripts.settings = .ok s ∧ s.Meets (some 750) (some 12)) ∧
    (∃ e, noDepth.settings = .error e ∧ noDepth.Refuses e) ∧
    writtenOut.settings = .ok { timeLimitMs := some 750, maxDepth := 12 } := by
  refine ⟨?_, ?_, ?_⟩
  · have asks : twoScripts.Asks (some 750) (some 12) :=
      ⟨Environment.readInt_eq_ok_iff.1 (by decide +kernel),
        Environment.readInt_eq_ok_iff.1 (by decide +kernel)⟩
    have inRange : Settings.InRange (some 750) (some 12) := ⟨by simp, by simp⟩
    obtain ⟨s, made⟩ := (environment_settings_exact twoScripts).1.2 ⟨_, _, asks, inRange⟩
    exact ⟨s, made, (environment_settings_exact twoScripts).2.1 s _ _ made asks⟩
  · refine (environment_settings_exact noDepth).2.2.1 fun acceptable => ?_
    obtain ⟨s, made⟩ := (environment_settings_exact noDepth).1.2 acceptable
    have refused : noDepth.settings = .error (.depthBelowOne 0) := by decide +kernel
    cases made.symm.trans refused
  · refine (environment_settings_exact writtenOut).2.2.2 _ ⟨?_, by simp, ?_⟩
    · rintro _ ⟨⟩
      exact ⟨by decide +kernel, "\x0b", "\x1f", List.all_eq_true.1 (by decide),
        List.all_eq_true.1 (by decide), by decide +kernel⟩
    · exact ⟨by decide +kernel, "", "", by simp, by simp, by decide +kernel⟩

end Pursuit

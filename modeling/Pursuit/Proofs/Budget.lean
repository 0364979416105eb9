import Pursuit.Proofs.Scenario.Running

/-! # Budgets that can be used

A time limit is a whole number of milliseconds of any size, and the pruner that keeps it holds a
double. Settings and callers may name any number, so where the doubles end decides whether a type
query runs: below that number a session is run under the pruner of the limit, and from there on the
query is refused before anything is done.
-/

namespace Pursuit

namespace Number

/-- The least whole number beyond every double. It lies half way between the largest double and the
next power of two, of which the power is the even one. -/
def leastOverflow : Nat := Nat.pow 2 1024 - Nat.pow 2 970

/-- Below the successor of an odd number, the upper half of the last unit is rounded up to it, and
the middle too. -/
theorem roundHalfEven_eq_succ_iff {num den k : Nat} (odd : k % 2 = 1)
    (below : num < (k + 1) * den) :
    roundHalfEven num den = k + 1 ↔ (2 * k + 1) * den ≤ 2 * num := by
  have positive : 0 < den := by
    by_contra zero
    simp [Nat.eq_zero_of_not_pos zero] at below
  have cut : den * (num / den) + num % den = num := Nat.div_add_mod num den
  have rest : num % den < den := Nat.mod_lt num positive
  have low : num / den ≤ k := Nat.le_of_lt_succ ((Nat.div_lt_iff_lt_mul positive).mpr below)
  obtain less | rfl := Nat.lt_or_eq_of_le low
  · have unreached : roundHalfEven num den ≠ k + 1 := by
      unfold roundHalfEven
      grind
    have short : 2 * num < (2 * k + 1) * den := by
      have := Nat.mul_le_mul_left den less
      grind
    exact iff_of_false unreached (Nat.not_le.mpr short)
  · unfold roundHalfEven
    grind

/-- Among the numbers of the largest width that doubles have, those that round up to the next power
of two. -/
theorem carries_iff {size width : Nat} (last : width = 1024) (below : size < Nat.pow 2 width) :
    roundHalfEven size (Nat.pow 2 (width - 53)) = Nat.pow 2 53 ↔ leastOverflow ≤ size := by
  have whole : Nat.pow 2 width = (Nat.pow 2 53 - 1 + 1) * Nat.pow 2 (width - 53) := by
    subst last
    decide +kernel
  have half : 2 * leastOverflow = (2 * (Nat.pow 2 53 - 1) + 1) * Nat.pow 2 (width - 53) := by
    subst last
    decide +kernel
  have top : Nat.pow 2 53 = Nat.pow 2 53 - 1 + 1 := by decide
  rw [top, roundHalfEven_eq_succ_iff (by decide) (whole ▸ below), ← half]
  omega

theorem nearestFloat?_eq_none_iff (n : Int) :
    nearestFloat? n = none ↔ leastOverflow ≤ n.natAbs := by
  simp only [nearestFloat?]
  generalize n.natAbs = size
  by_cases zero : size = 0
  · rw [if_pos zero, zero]
    exact iff_of_false (by simp) (by decide +kernel)
  have least : Nat.pow 2 size.log2 ≤ size := Nat.log2_self_le zero
  have most : size < Nat.pow 2 (size.log2 + 1) := Nat.lt_log2_self
  have rising : ∀ a b, a ≤ b → Nat.pow 2 a ≤ Nat.pow 2 b :=
    fun _ _ => Nat.pow_le_pow_right (by decide)
  rw [if_neg zero, ite_eq_left_iff]
  simp only [reduceCtorEq, imp_false, not_not]
  generalize round : (if size.log2 + 1 ≤ 53 then _ else _ : Nat) = rounded
  -- Only at the largest exponent does it matter whether rounding carries.
  obtain short | here | long : size.log2 < 1023 ∨ size.log2 = 1023 ∨ 1023 < size.log2 := by omega
  · have small : size < leastOverflow :=
      calc size < Nat.pow 2 (size.log2 + 1) := most
        _ ≤ Nat.pow 2 1023 := rising (size.log2 + 1) 1023 short
        _ < leastOverflow := by decide +kernel
    refine iff_of_false ?_ (Nat.not_le.mpr small)
    split <;> omega
  · rw [if_neg (by omega)] at round
    rw [← carries_iff (by omega) most, round]
    by_cases carried : rounded = Nat.pow 2 53
    · rw [if_pos carried]
      exact iff_of_true (by omega) carried
    · rw [if_neg carried]
      exact iff_of_false (by omega) carried
  · have large : leastOverflow ≤ size :=
      calc leastOverflow ≤ Nat.pow 2 1024 := by decide +kernel
        _ ≤ Nat.pow 2 size.log2 := rising 1024 size.log2 long
        _ ≤ size := least
    exact iff_of_true (by omega) large

end Number

/-! ## The pruner of a query -/

/-- The time limit of a query that names a number of milliseconds or nothing. -/
def TimeLimit.ofMillis {K : Type} : Option Int → TimeLimit K
  | some ms => .millis ms
  | none => .unset

namespace Settings

/-- The milliseconds that bound a query: those that it names, else those of the settings. -/
def millis (s : Settings) (asked : Option Int) : Option Int :=
  asked.or (s.timeLimitMs.map Int.ofNat)

/-- The milliseconds that bound a query, if any do, are not beyond every double. -/
def Affords (s : Settings) (asked : Option Int) : Prop :=
  ∀ ms, s.millis asked = some ms → ms.natAbs < Number.leastOverflow

variable {K : Type} {s : Settings} {asked : Option Int} {ms : Int}

theorem budget_of_none (bound : s.millis asked = none) :
    s.budget (.ofMillis asked : TimeLimit K) = .ok none := by
  cases asked with
  | some ms => simp [millis] at bound
  | none =>
      have unset : s.timeLimitMs = none := by simpa [millis] using bound
      simp [budget, TimeLimit.ofMillis, unset]

theorem budget_of_some (bound : s.millis asked = some ms) :
    s.budget (.ofMillis asked : TimeLimit K) = (millisBudget ms).map some := by
  cases asked with
  | some asked =>
      obtain rfl : asked = ms := by simpa [millis] using bound
      rfl
  | none =>
      obtain ⟨given, set, rfl⟩ : ∃ given, s.timeLimitMs = some given ∧ Int.ofNat given = ms := by
        simpa [millis] using bound
      simp [budget, TimeLimit.ofMillis, set]

/-- A budget that can be afforded becomes a pruner, and no pruner comes from nothing. -/
theorem Affords.budget (affords : s.Affords asked) :
    s.budget (.ofMillis asked : TimeLimit K) = .ok ((s.millis asked).bind Pruner.ofMillis?) ∧
      ((s.millis asked).bind Pruner.ofMillis? : Option (Pruner K)).isSome =
        (s.millis asked).isSome := by
  cases bound : s.millis asked with
  | none => exact ⟨budget_of_none bound, rfl⟩
  | some ms =>
      have found : Number.nearestFloat? ms ≠ none := by
        rw [Ne, Number.nearestFloat?_eq_none_iff]
        exact Nat.not_le.mpr (affords ms bound)
      obtain ⟨x, nearest⟩ := Option.ne_none_iff_exists'.mp found
      have made : Pruner.ofMillis? ms = some (.limit (x / 1000.0) : Pruner K) := by
        rw [Pruner.ofMillis?, nearest, Option.map_some]
      rw [budget_of_some bound, millisBudget, Option.bind_some, made]
      exact ⟨rfl, rfl⟩

theorem budget_of_not_affords (unable : ¬ s.Affords asked) :
    s.budget (.ofMillis asked : TimeLimit K) = .error .tooLarge := by
  obtain ⟨ms, bound, large⟩ : ∃ ms, s.millis asked = some ms ∧
      Number.leastOverflow ≤ ms.natAbs := by
    simpa [Affords] using unable
  rw [budget_of_some bound, millisBudget, Pruner.ofMillis?,
    (Number.nearestFloat?_eq_none_iff ms).mpr large]
  rfl

end Settings

variable {W F β K L : Type}

namespace Inferencer

variable (i : Inferencer F β) (p : Services W F β K L) [BEq L] (stackLimit : Int) (fuel : Nat)
  {asked : Option Int} (goal : Goal) (w : W)

theorem evaluateType_of_affords (affords : i.settings.Affords asked) :
    i.evaluateType p stackLimit fuel (.ofMillis asked) goal w =
      .ok (i.evaluateGoal p stackLimit fuel ((i.settings.millis asked).bind Pruner.ofMillis?) []
        goal w) := by
  rw [evaluateType, affords.budget.1]
  rfl

theorem evaluateType_of_not_affords (unable : ¬ i.settings.Affords asked) :
    i.evaluateType p stackLimit fuel (.ofMillis asked) goal w = .error .tooLarge := by
  rw [evaluateType, Settings.budget_of_not_affords unable]
  rfl

end Inferencer

namespace Scenario

/-- A step of a scenario makes a type query: there is an inferencer in use, the time limit is a
number of milliseconds or none, and the goal can be made. -/
structure Queries (w : World) (name : GoalName) (limit : LimitName) (engine : Engine)
    (asked : Option Int) (goal : Goal) : Prop where
  inUse : w.engine = some engine
  own : engine.ownRegistry.isSome
  gives : limitIn limit = pure (.ofMillis asked)
  names : (goalIn name).run.run w = (.ok goal, w)

variable {w : World} {name : GoalName} {limit : LimitName} {engine : Engine} {asked : Option Int}
  {goal : Goal}

theorem Queries.run (queries : Queries w name limit engine asked goal) :
    (Step.evaluateType name limit).doing.run.run w =
      (do let pruner ← orRefuse .budget (engine.settings.budget (.ofMillis asked))
          return .value (← playing (resolve engine pruner [] goal)) : Doing Answer).run.run w := by
  have uses : inferencerInUse.run.run w = (.ok engine, w) := by
    have seen : (get : Doing World).run.run w = (.ok w, w) := rfl
    rw [inferencerInUse, run_bind seen, ExceptT.bindCont, queries.inUse]
    simp only [queries.own, if_true]
    rfl
  rw [Step.doing, queries.gives, pure_bind, run_bind uses, ExceptT.bindCont]
  exact run_bind queries.names

theorem Queries.run_of_affords (queries : Queries w name limit engine asked goal)
    (affords : engine.settings.Affords asked) :
    (Step.evaluateType name limit).doing.run.run w =
      (Answer.value <$> playing (resolve engine
        ((engine.settings.millis asked).bind Pruner.ofMillis?) [] goal)).run.run w := by
  rw [queries.run, affords.budget.1, orRefuse, pure_bind, map_eq_pure_bind]

theorem Queries.run_of_not_affords (queries : Queries w name limit engine asked goal)
    (unable : ¬ engine.settings.Affords asked) :
    (Step.evaluateType name limit).doing.run.run w = (.error (.budget .tooLarge), w) := by
  rw [queries.run, Settings.budget_of_not_affords unable]
  rfl

end Scenario

/-- A type query whose time limit is a number of milliseconds, or is left to the settings, runs a
session under the pruner of that limit if and only if the number is not beyond every double. Else
it is refused before anything is done, whatever its goal. The steps of scenarios that make such
queries do the same. -/
theorem evaluateType_runs_session_iff (i : Inferencer F β) (p : Services W F β K L) [BEq L]
    (stackLimit : Int) (fuel : Nat) (asked : Option Int) (goal : Goal) (w : W) :
    ((∃ outcome, i.evaluateType p stackLimit fuel (.ofMillis asked) goal w = .ok outcome) ↔
      i.settings.Affords asked) ∧
    (∀ outcome, i.evaluateType p stackLimit fuel (.ofMillis asked) goal w = .ok outcome →
      ∃ pruner, pruner.isSome = (i.settings.millis asked).isSome ∧
        pruner = (i.settings.millis asked).bind Pruner.ofMillis? ∧
        outcome = i.evaluateGoal p stackLimit fuel pruner [] goal w) ∧
    (∀ e, i.evaluateType p stackLimit fuel (.ofMillis asked) goal w = .error e → e = .tooLarge) ∧
    ∀ (w : Scenario.World) (name : Scenario.GoalName) (limit : Scenario.LimitName)
        (engine : Scenario.Engine), Scenario.Queries w name limit engine asked goal →
      (engine.settings.Affords asked → (Scenario.Step.evaluateType name limit).doing.run.run w =
        (Scenario.Answer.value <$> Scenario.playing (Scenario.resolve engine
          ((engine.settings.millis asked).bind Pruner.ofMillis?) [] goal)).run.run w) ∧
      (¬ engine.settings.Affords asked → (Scenario.Step.evaluateType name limit).doing.run.run w =
        (.error (.budget .tooLarge), w)) := by
  have steps := fun (w : Scenario.World) name limit (engine : Scenario.Engine)
      (queries : Scenario.Queries w name limit engine asked goal) =>
    And.intro queries.run_of_affords queries.run_of_not_affords
  by_cases affords : i.settings.Affords asked
  · rw [i.evaluateType_of_affords p stackLimit fuel goal w affords]
    refine ⟨iff_of_true ⟨_, rfl⟩ affords, ?_, by simp, steps⟩
    rintro outcome ⟨⟩
    exact ⟨_, affords.budget.2, rfl, rfl⟩
  · rw [i.evaluateType_of_not_affords p stackLimit fuel goal w affords]
    refine ⟨iff_of_false (by simp) affords, by simp, ?_, steps⟩
    rintro e ⟨⟩
    rfl

/-- A world with an inferencer whose settings leave a query the least time that no pruner can
hold. -/
def lavishWorld : Scenario.World :=
  { Scenario.World.start 0.0 1000 false [] [] with
    engine := some ⟨.registry 0, ⟨some Number.leastOverflow, 200, by decide⟩, some 0⟩ }

theorem lavishWorld_refuses :
    let i : Inferencer Scenario.Factory Scenario.Body :=
      ⟨⟨some Number.leastOverflow, 200, by decide⟩, .empty none⟩
    let goal : Goal := ⟨.declared abstractTypeGoal, [.context Scenario.plainContext]⟩
    let query (asked : Option Int) :=
      i.evaluateType Scenario.standingServices 1000 1 (.ofMillis asked) goal lavishWorld
    Settings.make (some Number.leastOverflow) 200 = .ok i.settings ∧
    (¬ ∃ outcome, query none = .ok outcome) ∧
    (∃ outcome, query (some (Number.leastOverflow - 1)) = .ok outcome) ∧
    (Scenario.Step.evaluateType (.full "abstract_type" "c" []) .unset).doing.run.run lavishWorld =
      (.error (.budget .tooLarge), lavishWorld) := by
  intro i goal query
  have unable : ¬ i.settings.Affords none := by
    intro affords
    have less := affords Number.leastOverflow rfl
    rw [Int.natAbs_natCast] at less
    exact Nat.lt_irrefl Number.leastOverflow less
  have affords : i.settings.Affords (some (Number.leastOverflow - 1)) := by
    intro ms same
    obtain rfl : (Number.leastOverflow : Int) - 1 = ms := Option.some.inj same
    decide +kernel
  have queries : Scenario.Queries lavishWorld (.full "abstract_type" "c" []) .unset
      ⟨.registry 0, i.settings, some 0⟩ none goal := ⟨rfl, rfl, rfl, rfl⟩
  obtain ⟨refused, -, -, steps⟩ :=
    evaluateType_runs_session_iff i Scenario.standingServices 1000 1 none goal lavishWorld
  obtain ⟨runs, -⟩ := evaluateType_runs_session_iff i Scenario.standingServices 1000 1
    (some (Number.leastOverflow - 1)) goal lavishWorld
  exact ⟨by decide +kernel, mt refused.mp unable, runs.mpr affords,
    (steps _ _ _ _ queries).2 unable⟩

end Pursuit

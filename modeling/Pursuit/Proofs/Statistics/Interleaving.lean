import Mathlib
import Pursuit.Proofs.Session.Hosting
import Pursuit.Statistics.Collector

/-! # Totals of several threads

A collector takes in the events of all threads, one at a time. How the threads take turns is left to
chance, and the totals do not depend on it: a result is matched within its thread, so what an event
adds is settled by what its own thread told before.
-/

namespace Pursuit

variable {T G κ V E : Type}

/-- What a collector counts. -/
inductive Tally where
  | sessions
  | assignments
  | results
  | absentResults
  | cutoffs

namespace Collector

def count (c : Collector T G κ) : Tally → Nat
  | .sessions => c.sessions
  | .assignments => c.assignments
  | .results => c.results
  | .absentResults => c.absentResults
  | .cutoffs => c.cutoffs

theorem count_empty (k : Tally) : ({} : Collector T G κ).count k = 0 := by
  cases k <;> rfl

/-! ## What an event adds -/

/-- What an event comes to for a collector. -/
inductive Contribution (G κ : Type) where
  | nothing
  | session
  | assignment
  /-- A result, with the time to add to a kind and the goal that is to be done, as far as they can
  be had. -/
  | result (absent : Bool) (timed : Option (κ × Float)) (expected : Option G)
  | conclusion (g : G)

def Contribution.kind? : Contribution G κ → Option κ
  | .result _ timed _ => timed.map (·.1)
  | _ => none

def add [BEq T] [BEq G] [BEq κ] (c : Collector T G κ) (t : T) :
    Contribution G κ → Collector T G κ
  | .nothing => c
  | .session => { c with sessions := c.sessions + 1 }
  | .assignment => { c with assignments := c.assignments + 1 }
  | .result absent timed expected =>
    { c with
      results := c.results + 1
      absentResults := c.absentResults + absent.toNat
      time := timed.elim c.time fun (kind, elapsed) => (c.addTime kind elapsed).time
      unmatched := expected.elim c.unmatched fun g => (c.expect t g).unmatched }
  | .conclusion g => c.conclude t g

section Hear

variable [BEq T] [Keyed G] [Keyed κ] (kindOf : G → Except Fault κ)
  (goalOf : GoalEvaluator G E → Except Fault G)

/-- What an event adds does not depend on the collector. -/
def contribution : Event G V E → Contribution G κ
  | .evaluationStarted _ => .session
  | .evaluatorAssigned .. => .assignment
  | .produced evaluator result elapsed =>
    match goalOf evaluator with
    | .error _ => .nothing
    | .ok g =>
      match kindOf g >>= Keyed.asKey with
      | .error _ => .result result.isNone none none
      | .ok kind =>
        .result result.isNone (some (kind, elapsed)) (if Keyed.isKey g then some g else none)
  | .stateChanged g .done _ => if Keyed.isKey g then .conclusion g else .nothing
  | _ => .nothing

theorem hearResult_perform (c : Collector T G κ) (t : T) (g : G) (result : Option V)
    (elapsed : Float) :
    ((hearResult kindOf t g result elapsed).perform c).2 =
      c.add t (match kindOf g >>= Keyed.asKey with
        | .error _ => .result result.isNone none none
        | .ok kind =>
          .result result.isNone (some (kind, elapsed))
            (if Keyed.isKey g then some g else none)) := by
  have absent : (if result.isNone then 1 else 0) = result.isNone.toNat := by cases result <;> rfl
  cases kind : kindOf g >>= Keyed.asKey with
  | error f =>
      simp only [hearResult, kind, add, ← absent]
      rfl
  | ok kind' =>
      cases key : Keyed.isKey g <;>
        simp only [hearResult, kind, add, ← absent, Keyed.asKey, key] <;>
        rfl

theorem after_eq_add (c : Collector T G κ) (t : T) (event : Event G V E) :
    c.after kindOf goalOf t event = c.add t (contribution kindOf goalOf event) := by
  cases event with
  | produced evaluator result elapsed =>
      cases found : goalOf evaluator with
      | error f =>
          simp only [after, hear, contribution, found]
          rfl
      | ok g =>
          simp only [after, hear, contribution, found]
          exact hearResult_perform kindOf c t g result elapsed
  | stateChanged g state old =>
      cases state with
      | done =>
          cases key : Keyed.isKey g <;> simp only [after, hear, contribution, Keyed.asKey, key] <;>
            rfl
      | _ => rfl
  | _ => rfl

def afterAll (c : Collector T G κ) (order : List (T × Event G V E)) : Collector T G κ :=
  order.foldl (fun c told => c.after kindOf goalOf told.1 told.2) c

end Hear

/-- The results of a thread whose goals are not done yet. -/
def unmatchedOf [BEq T] (c : Collector T G κ) (t : T) : List (T × G) :=
  c.unmatched.filter (·.1 == t)

theorem contains_time_add [BEq T] [BEq G] [BEq κ] [EquivBEq κ] (c : Collector T G κ) (t : T)
    (e : Contribution G κ) (kind : κ) :
    (c.add t e).time.contains kind = (c.time.contains kind || e.kind?.any (· == kind)) := by
  cases e with
  | result absent timed expected =>
      cases timed with
      | none => simp [add, Contribution.kind?]
      | some pair =>
          simp only [add, addTime, Contribution.kind?, Ledger.contains, Option.elim_some,
            Ledger.find?_put, Option.map_some, Option.any_some]
          split <;> simp [*]
  | conclusion g =>
      simp only [add, conclude, Contribution.kind?]
      split <;> simp
  | _ => simp [add, Contribution.kind?]

/-! ## What a thread finds of its own -/

section Own

variable [BEq T] [LawfulBEq T] [BEq G] (l : List (T × G)) (t : T) (g : G)

omit [LawfulBEq T] in
theorem pair_beq (u : T) (k : G) : ((t, g) == (u, k)) = (t == u && g == k) := rfl

theorem contains_filter_thread : (l.filter (·.1 == t)).contains (t, g) = l.contains (t, g) := by
  induction l with
  | nil => rfl
  | cons entry rest ih =>
      obtain ⟨u, k⟩ := entry
      rw [List.filter_cons, List.contains_cons, pair_beq]
      cases same : u == t with
      | true => rw [if_pos rfl, List.contains_cons, ih, pair_beq]
      | false =>
          rw [if_neg Bool.false_ne_true, ih, BEq.comm, same, Bool.false_and, Bool.false_or]

omit [LawfulBEq T] in
theorem filter_thread_erase :
    (l.erase (t, g)).filter (·.1 == t) = (l.filter (·.1 == t)).erase (t, g) := by
  induction l with
  | nil => rfl
  | cons entry rest ih =>
      obtain ⟨u, k⟩ := entry
      rw [List.filter_cons, List.erase_cons, pair_beq]
      cases same : u == t with
      | false =>
          rw [Bool.false_and, if_neg Bool.false_ne_true, if_neg Bool.false_ne_true,
            List.filter_cons, if_neg (by rw [same]; exact Bool.false_ne_true), ih]
      | true =>
          rw [if_pos rfl, List.erase_cons, pair_beq, same]
          split
          · rfl
          · rw [List.filter_cons, if_pos same, ih]

theorem filter_thread_insert :
    (l.insert (t, g)).filter (·.1 == t) = (l.filter (·.1 == t)).insert (t, g) := by
  simp only [List.insert, contains_filter_thread]
  split
  · rfl
  · rw [List.filter_cons, if_pos BEq.rfl]

variable {t} {u : T} (other : (t == u) = false)

include other

theorem filter_other_erase : (l.erase (t, g)).filter (·.1 == u) = l.filter (·.1 == u) := by
  induction l with
  | nil => rfl
  | cons entry rest ih =>
      obtain ⟨v, k⟩ := entry
      rw [List.erase_cons, pair_beq]
      cases same : v == t with
      | false =>
          rw [Bool.false_and, if_neg Bool.false_ne_true, List.filter_cons, List.filter_cons, ih]
      | true =>
          obtain rfl := eq_of_beq same
          split
          · rw [List.filter_cons, other, if_neg Bool.false_ne_true]
          · rw [List.filter_cons, List.filter_cons, ih]

omit [LawfulBEq T] in
theorem filter_other_insert : (l.insert (t, g)).filter (·.1 == u) = l.filter (·.1 == u) := by
  unfold List.insert
  split
  · rfl
  · rw [List.filter_cons, other, if_neg Bool.false_ne_true]

end Own

section Step

variable [BEq T] [LawfulBEq T] [BEq G] [BEq κ] {c d : Collector T G κ} {t : T}

omit [BEq κ] in
theorem contains_unmatched (alike : c.unmatchedOf t = d.unmatchedOf t) (g : G) :
    c.unmatched.contains (t, g) = d.unmatched.contains (t, g) := by
  rw [← contains_filter_thread, ← contains_filter_thread d.unmatched]
  exact congrArg (·.contains (t, g)) alike

theorem unmatchedOf_add_other {u : T} (other : (t == u) = false) (e : Contribution G κ) :
    (c.add t e).unmatchedOf u = c.unmatchedOf u := by
  cases e with
  | result absent timed expected =>
      cases expected with
      | none => rfl
      | some g => exact filter_other_insert _ g other
  | conclusion g =>
      simp only [add, conclude, unmatchedOf]
      split
      · exact filter_other_erase _ g other
      · rfl
  | _ => rfl

theorem unmatchedOf_add (alike : c.unmatchedOf t = d.unmatchedOf t) (e : Contribution G κ) :
    (c.add t e).unmatchedOf t = (d.add t e).unmatchedOf t := by
  cases e with
  | result absent timed expected =>
      cases expected with
      | none => exact alike
      | some g =>
          simp only [add, expect, unmatchedOf, Option.elim_some]
          rw [filter_thread_insert, filter_thread_insert]
          exact congrArg _ alike
  | conclusion g =>
      simp only [add, conclude, contains_unmatched alike, unmatchedOf]
      split
      · rw [filter_thread_erase, filter_thread_erase]
        exact congrArg (·.erase (t, g)) alike
      · exact alike
  | _ => exact alike

theorem count_add (alike : c.unmatchedOf t = d.unmatchedOf t) (e : Contribution G κ) (k : Tally) :
    (c.add t e).count k + d.count k = (d.add t e).count k + c.count k := by
  cases e with
  | nothing => exact Nat.add_comm _ _
  | session | assignment | result => cases k <;> simp only [add, count] <;> omega
  | conclusion g =>
      simp only [add, conclude, contains_unmatched alike]
      split <;> cases k <;> simp only [count] <;> omega

end Step

end Collector

/-! ## Taking turns -/

/-- Where the numbers differ for one member only, the sums differ as these. -/
theorem sum_map_replace {α : Type} {members : List α} (distinct : members.Nodup) {f g : α → Nat}
    {a : α} (member : a ∈ members) (others : ∀ b, b ≠ a → f b = g b) :
    (members.map f).sum + g a = (members.map g).sum + f a := by
  classical
  have same : (members.erase a).map f = (members.erase a).map g :=
    List.map_congr_left fun b rest => others b (distinct.mem_erase_iff.mp rest).1
  rw [← List.sum_map_erase f member, ← List.sum_map_erase g member, same]
  omega

namespace Collector

variable [BEq T] [LawfulBEq T] [Keyed G] [Keyed κ] [EquivBEq κ] (kindOf : G → Except Fault κ)
  (goalOf : GoalEvaluator G E → Except Fault G)

/-- One collector holds together what separate collectors of several threads hold. -/
structure Gathers (threads : List T) (c : Collector T G κ) (parts : T → Collector T G κ) :
    Prop where
  counts : ∀ k, c.count k = (threads.map fun t => (parts t).count k).sum
  unmatched : ∀ t, c.unmatchedOf t = (parts t).unmatchedOf t
  kinds : ∀ kind, c.time.contains kind = threads.any fun t => (parts t).time.contains kind

variable {threads : List T} {c : Collector T G κ} {parts : T → Collector T G κ}

theorem Gathers.add (gathers : Gathers threads c parts) (distinct : threads.Nodup) {t : T}
    (member : t ∈ threads) (e : Contribution G κ) :
    Gathers threads (c.add t e) fun u => if t == u then (parts u).add t e else parts u where
  counts k := by
    have own := count_add (gathers.unmatched t) e k
    have sums := sum_map_replace distinct (f := fun u => (parts u).count k)
      (g := fun u => (if t == u then (parts u).add t e else parts u).count k)
      member fun u other => by rw [if_neg (by simpa using Ne.symm other)]
    simp only [BEq.rfl, if_true] at sums
    rw [gathers.counts k] at own
    omega
  unmatched u := by
    cases same : t == u with
    | true =>
        obtain rfl := eq_of_beq same
        exact unmatchedOf_add (gathers.unmatched t) e
    | false =>
        rw [unmatchedOf_add_other same, gathers.unmatched u]
        rfl
  kinds kind := by
    rw [contains_time_add, gathers.kinds, Bool.eq_iff_iff, Bool.or_eq_true, List.any_eq_true,
      List.any_eq_true]
    constructor
    · rintro (⟨u, known, before⟩ | now)
      · refine ⟨u, known, ?_⟩
        split
        · rw [contains_time_add, before, Bool.true_or]
        · exact before
      · refine ⟨t, member, ?_⟩
        rw [if_pos BEq.rfl, contains_time_add, now, Bool.or_true]
    · rintro ⟨u, known, there⟩
      split at there
      · rw [contains_time_add, Bool.or_eq_true] at there
        exact there.imp_left fun before => ⟨u, known, before⟩
      · exact .inl ⟨u, known, there⟩

/-- However threads take turns, the collector gathers what separate collectors would hold. -/
theorem Gathers.afterAll (distinct : threads.Nodup) {order : List (T × Event G V E)}
    (gathers : Gathers threads c parts) (known : ∀ told ∈ order, told.1 ∈ threads) :
    Gathers threads (c.afterAll kindOf goalOf order) fun t =>
      (parts t).afterAll kindOf goalOf (order.filter (·.1 == t)) := by
  induction order generalizing c parts with
  | nil => exact gathers
  | cons told rest ih =>
      obtain ⟨t, event⟩ := told
      have further := ih (gathers.add distinct (known _ (.head _))
        (contribution kindOf goalOf event))
        fun told member => known told (.tail _ member)
      have same : ∀ u, (parts u).afterAll kindOf goalOf (((t, event) :: rest).filter (·.1 == u)) =
          (if t == u then (parts u).add t (contribution kindOf goalOf event) else parts u).afterAll
            kindOf goalOf (rest.filter (·.1 == u)) := by
        intro u
        rw [List.filter_cons]
        split
        · rw [← after_eq_add]
          rfl
        · rfl
      simp only [same]
      rw [← after_eq_add] at further
      exact further

end Collector

section Threads

variable [BEq T]

/-- The events of all threads come in an order that keeps the order of each thread. -/
def Interleaves (family : Ledger T (List (Event G V E))) (order : List (T × Event G V E)) : Prop :=
  ∀ t, (order.filter (·.1 == t)).map (·.2) = (family.find? t).getD []

def Collector.alone [Keyed G] [Keyed κ] (kindOf : G → Except Fault κ)
    (goalOf : GoalEvaluator G E → Except Fault G) (thread : T × List (Event G V E)) :
    Collector T G κ :=
  Collector.afterAll kindOf goalOf {} (thread.2.map (thread.1, ·))

variable [LawfulBEq T] {family : Ledger T (List (Event G V E))} {order : List (T × Event G V E)}

theorem Interleaves.filter_eq (interleaves : Interleaves family order) (t : T) :
    order.filter (·.1 == t) = ((family.find? t).getD []).map (t, ·) := by
  rw [← interleaves t, List.map_map]
  symm
  refine (List.map_congr_left ?_).trans (List.map_id _)
  rintro ⟨u, event⟩ member
  obtain ⟨-, same⟩ := List.mem_filter.mp member
  obtain rfl := eq_of_beq same
  rfl

theorem Interleaves.known (interleaves : Interleaves family order) :
    ∀ told ∈ order, told.1 ∈ family.keys := by
  intro told member
  have own : told ∈ order.filter (·.1 == told.1) := List.mem_filter.mpr ⟨member, BEq.rfl⟩
  rw [interleaves.filter_eq] at own
  rw [Ledger.mem_keys_iff]
  cases found : family.find? told.1 with
  | none => rw [found] at own; cases own
  | some events => rfl

/-- The collector gathers what the collectors of the threads hold, each for its thread alone. -/
theorem Interleaves.gathers [Keyed G] [Keyed κ] [EquivBEq κ] (kindOf : G → Except Fault κ)
    (goalOf : GoalEvaluator G E → Except Fault G) (interleaves : Interleaves family order)
    (distinct : family.keys.Nodup) :
    Collector.Gathers family.keys (Collector.afterAll kindOf goalOf {} order) fun t =>
      .alone kindOf goalOf (t, (family.find? t).getD []) := by
  have start : Collector.Gathers family.keys ({} : Collector T G κ) fun _ => {} :=
    { counts := fun k => by simp [Collector.count_empty]
      unmatched := fun _ => rfl
      kinds := fun kind => by simp [Ledger.contains] }
  have gathers := start.afterAll kindOf goalOf distinct interleaves.known
  simp only [interleaves.filter_eq] at gathers
  exact gathers

end Threads

/-- However threads take turns in telling a collector, each in its own order, it counts the same, it
has times for the same kinds of goals, and the same results are left to be matched. Each count is
the sum of those of separate collectors, one for each thread. This holds also where goals have no
kind, or evaluators no goal, and the collector fails. -/
theorem totals_of_any_interleaving [BEq T] [LawfulBEq T] [Keyed G] [Keyed κ] [EquivBEq κ]
    (kindOf : G → Except Fault κ) (goalOf : GoalEvaluator G E → Except Fault G)
    (family : Ledger T (List (Event G V E)))
    (distinct : family.keys.Nodup) (order order' : List (T × Event G V E))
    (interleaves : Interleaves family order) (interleaves' : Interleaves family order') :
    let c := Collector.afterAll kindOf goalOf {} order
    let c' := Collector.afterAll kindOf goalOf {} order'
    (∀ k, c.count k = c'.count k) ∧
      (∀ kind, c.time.contains kind = c'.time.contains kind) ∧
      (∀ result, result ∈ c.unmatched ↔ result ∈ c'.unmatched) ∧
      ∀ k, c.count k =
        (family.map fun thread => (Collector.alone kindOf goalOf thread).count k).sum := by
  intro c c'
  have gathers := interleaves.gathers kindOf goalOf distinct
  have gathers' := interleaves'.gathers kindOf goalOf distinct
  refine ⟨?_, ?_, ?_, ?_⟩
  · intro k
    exact (gathers.counts k).trans (gathers'.counts k).symm
  · intro kind
    exact (gathers.kinds kind).trans (gathers'.kinds kind).symm
  · rintro ⟨t, g⟩
    have same : c.unmatchedOf t = c'.unmatchedOf t :=
      (gathers.unmatched t).trans (gathers'.unmatched t).symm
    have own : ∀ d : Collector T G κ, (t, g) ∈ d.unmatched ↔ (t, g) ∈ d.unmatchedOf t := by
      simp [Collector.unmatchedOf]
    rw [own, own, same]
  · intro k
    refine (gathers.counts k).trans ?_
    rw [Ledger.keys, List.map_map]
    congr 1
    apply List.map_congr_left
    rintro ⟨t, events⟩ member
    rw [Function.comp, Ledger.find?_of_mem distinct member]
    rfl

/-- Two threads that come to the same goal. The first one has a result for it and the second one has
none, but starts over and has a result that is not matched yet. A goal without a kind comes to a
result there too, which is counted and not remembered. -/
def twoThreads : Ledger Nat (List (Event Goal Value Product)) :=
  [(1, [.produced (.evaluator (hostedEvaluator (numberedGoal 0))) none 0.0,
      .stateChanged (numberedGoal 0) .done (some .assigned)]),
    (2, [.stateChanged (numberedGoal 0) .done (some .pending), .evaluationStarted (numberedGoal 0),
      .produced (.evaluator (hostedEvaluator (numberedGoal 0))) (some .baseType) 0.0,
      .produced (.evaluator (hostedEvaluator ⟨.base, [numberedContext]⟩)) none 0.0])]

/-- The second thread is done with the goal between the two events of the first one. -/
def crossedOrder : List (Nat × Event Goal Value Product) :=
  [(1, .produced (.evaluator (hostedEvaluator (numberedGoal 0))) none 0.0),
    (2, .stateChanged (numberedGoal 0) .done (some .pending)),
    (2, .evaluationStarted (numberedGoal 0)),
    (1, .stateChanged (numberedGoal 0) .done (some .assigned)),
    (2, .produced (.evaluator (hostedEvaluator (numberedGoal 0))) (some .baseType) 0.0),
    (2, .produced (.evaluator (hostedEvaluator ⟨.base, [numberedContext]⟩)) none 0.0)]

theorem twoThreads_totals :
    let separate := (twoThreads.flatMap fun thread => thread.2.map (thread.1, ·))
    let c := Collector.afterAll Goal.kind GoalEvaluator.goal {} crossedOrder
    let c' := Collector.afterAll Goal.kind GoalEvaluator.goal {} separate
    (c.cutoffs = 1 ∧ c'.cutoffs = 1 ∧ c.results = 3 ∧ c.unmatched.length = 1) ∧
      (∀ k, c.count k = c'.count k) ∧
      (∀ kind, c.time.contains kind = c'.time.contains kind) ∧
      (∀ result, result ∈ c.unmatched ↔ result ∈ c'.unmatched) ∧
      ∀ k, c.count k = (twoThreads.map fun thread =>
        (Collector.alone Goal.kind GoalEvaluator.goal thread).count k).sum := by
  intro separate c c'
  have crossed : Interleaves twoThreads crossedOrder := by
    intro t
    by_cases first : 1 = t
    · subst first
      rfl
    · by_cases second : 2 = t
      · subst second
        rfl
      · simp [twoThreads, crossedOrder, Ledger.find?, first, second]
  have inTurn : Interleaves twoThreads separate := by
    intro t
    by_cases first : 1 = t
    · subst first
      rfl
    · by_cases second : 2 = t
      · subst second
        rfl
      · simp [separate, twoThreads, Ledger.find?, first, second]
  refine ⟨by decide +kernel, ?_⟩
  exact totals_of_any_interleaving Goal.kind GoalEvaluator.goal twoThreads (by decide) crossedOrder
    separate crossed inTurn

end Pursuit

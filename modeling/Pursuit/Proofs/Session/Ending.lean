import Mathlib.Data.List.Infix
import Mathlib.Order.WithBot
import Pursuit.Proofs.Session.Pruning

/-! # Sessions that must end

A session that leaves its course is over at once. One that stays on it ends, however many goals
there are and whatever cycles they form, unless some evaluator can ask for more again and again. Two
things rule that out. Evaluators may have budgets, of which each request for more uses up some. Or
the pruner stops from some check on, and then no more work is done than it let pass before.
-/

namespace Pursuit

variable {W G V E : Type}

theorem Exchange.uninterrupted_or_interrupts (x : Exchange G V E) :
    x.Uninterrupted ∨ x.Interrupts := by
  by_contra neither
  obtain ⟨broken, whole⟩ := not_or.mp neither
  apply broken
  cases x with
  | check elapsed now reply =>
      rintro i rfl
      exact whole (.check elapsed now i)
  | create g now reply =>
      rintro i rfl
      exact whole (.create g now i)
  | init evaluator now reply =>
      rintro i rfl
      exact whole (.init evaluator now i)
  | resume evaluator answers now reply =>
      rintro i rfl
      exact whole (.resume evaluator answers now i)
  | emit event now reply =>
      cases reply with
      | none => rfl
      | some i => exact absurd (.emit event now i) whole
  | proceed | record => trivial

theorem Session.isEnding_of_spills [Keyed G] {s s' : Session G V E} {x : Exchange G V E}
    (taken : s.Step x s') (spills : s.Spills x) : s'.point.isEnding = true := by
  obtain ⟨root, bound, started, now, cache, callers, point⟩ := s
  cases spills with
  | more evaluator answers now' failure =>
      cases point with
      | report events p => cases events <;> cases taken
      | resume f => cases taken; exact escape_isEnding _ failure
      | _ => cases taken
  | request g standing unfit =>
      cases standing
      cases taken
      simp only [lookUp, unfit, Bool.false_eq_true, if_false]
      exact escape_isEnding _ _

namespace Play

variable [Keyed G] {h : Host W G V E} {c : Play W G V E} {settings : Settings} {stackLimit : Int}
  {root : G} {w : W}

theorem ends_of_isEnding (ending : c.session.point.isEnding = true) :
    c.Arrives h fun d => ∃ outcome, d.session.outcome? = some outcome := by
  -- only log records stand before the end
  induction standing : c.session.point generalizing c with
  | log n p ih =>
      rw [standing] at ending
      have next : (c.after h 1).session = c.session.goTo p := by
        simp only [after, advance, Session.next, standing, Host.meet]
      exact .later (ih (by rw [next]; exact ending) (by rw [next]; rfl))
  | halt outcome => exact .here ⟨outcome, by rw [Session.outcome?, standing]⟩
  | _ =>
      rw [standing] at ending
      cases ending

/-- A session whose evaluators ask for more by ration ends, be it with an answer or with a
failure. -/
theorem Rationed.opening_ends {α : Type} [Preorder α] [WellFoundedLT α]
    {kind : Play W G V E → Prop} {left : Play W G V E → G → GoalEvaluator G E → α}
    (rationed : Rationed h kind left) (belongs : kind (opening h settings stackLimit root w)) :
    ∃ outcome enough, ∀ n, enough ≤ n →
      (evaluate h settings stackLimit n root w).1 = some outcome := by
  have ends : (opening h settings stackLimit root w).Arrives h fun d =>
      ∃ outcome, d.session.outcome? = some outcome := by
    -- a session that leaves its course does so by one exchange, and is about to end after it
    by_cases always : (opening h settings stackLimit root w).Always h Orderly
    · obtain ⟨n, v, halted⟩ := rationed.opening_answers belongs always
      exact ⟨n, .ok v, halted⟩
    · simp only [Always, not_forall] at always
      obtain ⟨n, x, s, w', met, disorder⟩ := always
      have taken : ((opening h settings stackLimit root w).after h n).session.Step x s :=
        Host.meets_of_meet met
      have ending : s.point.isEnding = true := by
        obtain uninterrupted | interrupts := x.uninterrupted_or_interrupts
        · have spills := not_not.mp fun dry => disorder ⟨uninterrupted, dry⟩
          exact Session.isEnding_of_spills taken spills
        · exact Session.isEnding_of_interrupts taken interrupts
      obtain ⟨m, halted⟩ := ends_of_isEnding (h := h) (c := ⟨_, s, w'⟩) ending
      refine ⟨n + 1 + m, ?_⟩
      rw [after_add, Play.after, advance, met]
      exact halted
  obtain ⟨n, outcome, halted⟩ := ends
  exact ⟨outcome, (exists_evaluate_iff h settings stackLimit root w outcome).mpr ⟨n, halted⟩⟩

end Play

/-! ## Evaluators with budgets -/

namespace Host

/-- The factory hands out the evaluator for some goal. -/
def Builds (h : Host W G V E) (e : E) : Prop :=
  ∃ g w, ((h.create g).perform w).1 = .ok (some e)

/-- Evaluators have budgets. Nothing that the host does adds to a budget, and whenever an evaluator
of the factory asks for more it has less left, whatever it was handed. In an order with a top,
evaluators may have that until the factory gives them their budget. -/
structure Budgeted {α : Type} [Preorder α] (h : Host W G V E) (budget : W → E → α) : Prop where
  kept : ∀ w x e, budget (h.world w x) e ≤ budget w e
  spent : ∀ e, h.Builds e → ∀ answers w goals,
    ((h.resume e answers).perform w).1 = .ok (.more goals) →
      budget ((h.resume e answers).perform w).2 e < budget w e

end Host

/-- What an evaluator may still spend; a null evaluator has nothing, and asks for nothing. -/
def GoalEvaluator.budget {α : Type} (budget : W → E → α) (w : W) : GoalEvaluator G E → WithBot α
  | .nullEvaluator _ => ⊥
  | .evaluator e => budget w e

/-- An evaluator is the null evaluator or comes from the factory. -/
def GoalEvaluator.IsBuilt (h : Host W G V E) (evaluator : GoalEvaluator G E) : Prop :=
  ∀ e, evaluator = .evaluator e → h.Builds e

theorem GoalEvaluator.isBuilt_ofReply (h : Host W G V E) (g : G) (w : W) :
    (GoalEvaluator.ofReply g ((h.create g).perform w).1).IsBuilt h := by
  apply GoalEvaluator.ofReply_cases
  · intro e standsIn
    cases standsIn
  · intro e created e' same
    cases same
    exact ⟨g, w, created⟩

namespace Host.Budgeted

variable [Keyed G] {α : Type} [Preorder α] {h : Host W G V E} {budget : W → E → α}
  (budgeted : h.Budgeted budget)

include budgeted

theorem evaluator_kept (c : Play W G V E) (evaluator : GoalEvaluator G E) :
    evaluator.budget budget (c.after h 1).world ≤ evaluator.budget budget c.world := by
  cases evaluator with
  | nullEvaluator g => exact le_refl _
  | evaluator e =>
      rw [Play.after, Play.after, Play.advance]
      split
      · exact le_refl _
      · rename_i x s w met
        rw [Host.world_of_meet met]
        exact WithBot.coe_le_coe.mpr (budgeted.kept c.world x e)

theorem rationed : Play.Rationed h
    (fun c => c.session.Assigns fun _ evaluator => evaluator.IsBuilt h)
    fun c _ evaluator => evaluator.budget budget c.world where
  after c assigns := Play.assigns_advance (GoalEvaluator.isBuilt_ofReply h) assigns
  kept c _ evaluator _ := budgeted.evaluator_kept c evaluator
  spent c f goals assigns standing more := by
    have built := assigns.stands f.goal f.evaluator (by rw [standing]; rfl)
    have world : (c.after h 1).world =
        ((h.resumeEvaluator f.evaluator f.answers).perform c.world).2 := by
      simp only [Play.after, Play.advance, Session.next, standing, Host.meet]
    rw [world]
    cases assigned : f.evaluator with
    | nullEvaluator g =>
        rw [assigned] at more
        cases more
    | evaluator e =>
        rw [assigned] at more
        exact WithBot.coe_lt_coe.mpr
          (budgeted.spent e (built e assigned) f.answers c.world goals more)

end Host.Budgeted

/-- Whoever the host is, a session ends if each evaluator of the factory has a budget that gets
smaller whenever it asks for more, be it a number or anything else that cannot get smaller for ever.
The bound on the path makes up for goals of which there is no end. -/
theorem budgets_end_session [Keyed G] {α : Type} [Preorder α] [WellFoundedLT α]
    (h : Host W G V E) (settings : Settings) (stackLimit : Int) (root : G) (w : W)
    (budget : W → E → α) (budgeted : h.Budgeted budget) :
    ∃ outcome enough, ∀ n, enough ≤ n →
      (evaluate h settings stackLimit n root w).1 = some outcome :=
  budgeted.rationed.opening_ends (.start root _ _ _)

/-- Goals with ever more fields. -/
def lengthyGoal (n : Nat) : Goal :=
  ⟨.declared (numberedGoals (List.replicate n "digit")),
    numberedContext :: List.replicate n (.data (.number 0))⟩

/-- A host at which each goal asks for a longer one and for the shortest, and does so again as long
as its length has credit. Its world is what credit each length has. -/
def creditHost : Host (Nat → Nat) Goal Unit Nat where
  clock _ := 0.0
  check _ := pure false
  create g := pure (some g.values.tail.length)
  init n := pure [lengthyGoal (n + 1), lengthyGoal 0]
  resume n _ := .ofFunction fun credit =>
    if credit n = 0 then (.ok (.done (some ())), credit)
    else (.ok (.more (.ok [lengthyGoal (n + 2), lengthyGoal 0])),
      fun m => if m = n then credit m - 1 else credit m)
  emit _ w := (none, w)
  record _ w := w

theorem creditHost_resume (n : Nat) (answers : Ledger Goal (Option Unit)) (credit : Nat → Nat) :
    (creditHost.resume n answers).perform credit =
      if credit n = 0 then (.ok (.done (some ())), credit)
      else (.ok (.more (.ok [lengthyGoal (n + 2), lengthyGoal 0])),
        fun m => if m = n then credit m - 1 else credit m) :=
  rfl

theorem creditHost_budgeted : creditHost.Budgeted fun credit n => credit n where
  kept w x n := by
    cases x with
    | init evaluator => cases evaluator <;> exact Nat.le_refl _
    | resume evaluator answers =>
        cases evaluator with
        | nullEvaluator => exact Nat.le_refl _
        | evaluator m =>
            simp only [Host.world, Host.resumeEvaluator, creditHost_resume]
            split
            · exact Nat.le_refl _
            · grind
    | _ => exact Nat.le_refl _
  spent n _ answers w goals more := by
    rw [creditHost_resume] at more ⊢
    grind

theorem creditHost_ends :
    creditHost.Budgeted (fun credit n => credit n) ∧
      ∃ outcome enough, ∀ n, enough ≤ n →
        (evaluate creditHost .standard 1000 n (lengthyGoal 0) fun _ => 3).1 = some outcome :=
  ⟨creditHost_budgeted,
    budgets_end_session creditHost .standard 1000 (lengthyGoal 0) _ _ creditHost_budgeted⟩

/-! ## A pruner that stops from some check on -/

def Exchange.isCheck : Exchange G V E → Bool
  | .check .. => true
  | _ => false

namespace Play

/-- What the pruner was asked so far. -/
def checks (c : Play W G V E) : List (Exchange G V E) :=
  c.queries.filter (·.isCheck)

theorem countP_checks (c : Play W G V E) :
    c.checks.countP (·.passes) = c.queries.countP (·.passes) := by
  rw [checks, List.countP_filter]
  apply List.countP_congr
  intro x _
  cases x <;> simp [Exchange.passes, Exchange.isCheck]

theorem resumptions_le (c : Play W G V E) :
    c.resumptions.length ≤ c.queries.countP (·.needsPass) := by
  rw [resumptions, List.length_filterMap_eq_countP, queries, List.countP_filter, List.countP_map]
  apply List.countP_mono_left
  intro m _ resumes
  obtain ⟨s, x⟩ := m
  cases x with
  | resume => rfl
  | _ => cases resumes

variable [Keyed G] {h : Host W G V E} {c : Play W G V E} {n : Nat}

/-- The pruner stops at each check from the `n`-th on. -/
def StopsFrom (h : Host W G V E) (n : Nat) (c : Play W G V E) : Prop :=
  ∀ m, ∀ x ∈ (c.after h m).checks.drop (n - 1), x.stops = true

theorem StopsFrom.countP_le (stops : c.StopsFrom h n) (m : Nat) :
    (c.after h m).queries.countP (·.passes) ≤ n - 1 := by
  have none : ((c.after h m).checks.drop (n - 1)).countP (·.passes) = 0 := by
    rw [List.countP_eq_zero]
    intro x member passes
    have stopped := stops m x member
    unfold Exchange.passes at passes
    split at passes
    · cases stopped
    · cases passes
  calc (c.after h m).queries.countP (·.passes)
      = ((c.after h m).checks.take (n - 1)).countP (·.passes) := by
        rw [← countP_checks, ← List.take_append_drop (n - 1) (c.after h m).checks,
          List.countP_append, none, List.take_append_drop]
        rfl
    _ ≤ ((c.after h m).checks.take (n - 1)).length := List.countP_le_length
    _ ≤ n - 1 := by
        rw [List.length_take]
        exact Nat.min_le_left _ _

/-- In a session that is over it can be seen from which check on the pruner stopped. -/
theorem stopsFrom_of_over {k : Nat} (halted : (c.after h k).session.outcome?.isSome)
    (stops : ∀ x ∈ (c.after h k).checks.drop (n - 1), x.stops = true) : c.StopsFrom h n := by
  intro m x member
  obtain early | late := Nat.le_total m k
  · obtain ⟨j, rfl⟩ := Nat.exists_eq_add_of_le early
    rw [after_add] at stops
    have kept : (c.after h m).checks <+: ((c.after h m).after h j).checks :=
      (queries_extend j).filter _
    exact stops x ((kept.drop (n - 1)).subset member)
  · obtain ⟨j, rfl⟩ := Nat.exists_eq_add_of_le late
    rw [after_add, after_of_over halted] at member
    exact stops x member

end Play

/-- Whoever the host is, a session whose pruner stops from the `n`-th check on ends, after it has
asked the factory and handed answers over `n - 1` times at most. -/
theorem stopping_ends_session (h : Host W Goal V E) (settings : Settings) (stackLimit : Int)
    (root : Goal) (w : W) (n : Nat)
    (stops : (Play.opening h settings stackLimit root w).StopsFrom h n) :
    (∃ outcome enough, ∀ fuel, enough ≤ fuel →
      (evaluate h settings stackLimit fuel root w).1 = some outcome) ∧
    ∀ m, ((Play.opening h settings stackLimit root w).after h m).queries.countP (·.needsPass) ≤
      n - 1 := by
  have few : ∀ m, ((Play.opening h settings stackLimit root w).after h m).queries.countP
      (·.needsPass) ≤ n - 1 := by
    intro m
    have supervised := (Play.Supervised.opening h settings stackLimit root w).after (h := h) m
    exact supervised.guarded.countP_le.1.trans (stops.countP_le m)
  refine ⟨(Play.rationed_of_handed fun _ => n - 1).opening_ends ?_, few⟩
  intro m g
  calc (handed ((Play.opening h settings stackLimit root w).after h m).resumptions g).length
      ≤ ((Play.opening h settings stackLimit root w).after h m).resumptions.length := by
        rw [handed, List.length_map]
        exact List.length_filter_le _ _
    _ ≤ _ := Play.resumptions_le _
    _ ≤ n - 1 := few m

/-- A host whose evaluators ask for more whatever they are handed, some for further goals and some
for none. Its pruner lets nine checks pass and stops from then on. -/
def insatiableHost : Host Nat Goal Unit Nat where
  clock _ := 0.0
  check _ := .ofFunction fun checks => (.ok (decide (9 ≤ checks)), checks + 1)
  create g := pure (some g.values.tail.length)
  init _ := pure []
  resume n _ := pure (.more (.ok (if n < 2 then [lengthyGoal (n + 1), lengthyGoal 0] else [])))
  emit _ w := (none, w)
  record _ w := w

theorem insatiableHost_ends :
    (Play.opening insatiableHost .standard 1000 (lengthyGoal 0) 0).StopsFrom insatiableHost 10 ∧
      (∃ outcome enough, ∀ fuel, enough ≤ fuel →
        (evaluate insatiableHost .standard 1000 fuel (lengthyGoal 0) 0).1 = some outcome) ∧
      ∀ m, ((Play.opening insatiableHost .standard 1000 (lengthyGoal 0) 0).after insatiableHost
        m).queries.countP (·.needsPass) ≤ 9 := by
  have stops : (Play.opening insatiableHost .standard 1000 (lengthyGoal 0) 0).StopsFrom
      insatiableHost 10 := by
    apply Play.stopsFrom_of_over (k := 90) <;> decide +kernel
  exact ⟨stops, stopping_ends_session insatiableHost .standard 1000 (lengthyGoal 0) 0 10 stops⟩

end Pursuit

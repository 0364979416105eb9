import Pursuit.Proofs.Goal.Kind
import Pursuit.Proofs.Session.Fate
import Pursuit.Proofs.Session.Pruning
import Pursuit.Proofs.Statistics.Interleaving

/-! # The counts of one session

A collector that takes in the events of one session has in it what became of the goals. A result is
told by the evaluator of a goal right before the goal is done, and nobody is asked in between, so no
result is left to be matched whenever somebody is asked.
-/

namespace Pursuit

variable {W T G κ V E F β K L : Type}

/-! ## Goals that can be looked up -/

namespace Session

variable [Keyed G] {s s' : Session G V E} {x : Exchange G V E}

theorem Step.isKey_of_request (taken : s.Step x s') (running : s'.point.isOver = false) {g : G}
    (standing : s.point = .request g) : Keyed.isKey g = true := by
  obtain ⟨root, bound, started, now, cache, callers, point⟩ := s
  cases standing
  cases taken
  cases key : Keyed.isKey g with
  | true => rfl
  | false =>
      rw [lookUp, key, if_neg Bool.false_ne_true, escape_isOver] at running
      cases running

/-- The goals under way are keys. -/
structure Listed (s : Session G V E) : Prop where
  stands : ∀ g, s.point.subject? = some g → Keyed.isKey g = true
  waits : ∀ f ∈ s.callers, Keyed.isKey f.goal = true

theorem Listed.step [EquivBEq G] (listed : s.Listed) (coherent : s.Coherent) (taken : s.Step x s')
    (running : s'.point.isOver = false) : s'.Listed := by
  have same : ∀ {p : Point G V E} {g : G}, s.point = p → p.subject? = some g →
      Keyed.isKey g = true := by
    rintro p g rfl standing
    exact listed.stands g standing
  cases Turn.of_step coherent taken with
  | stay now onward =>
      refine ⟨fun g standing => listed.stands g ?_, listed.waits⟩
      rw [← Point.stance_eq_working_iff] at standing ⊢
      exact onward.stance ▸ standing
  | begin before =>
      refine ⟨?_, listed.waits⟩
      rintro g ⟨⟩
      exact taken.isKey_of_request running before
  | enter _ _ before | assign before | await before | finish before =>
      refine ⟨?_, listed.waits⟩
      rintro g ⟨⟩
      exact same before rfl
  | start | known | close | leave | conclude => exact ⟨nofun, listed.waits⟩
  | @call f k rest before waiting =>
      refine ⟨nofun, ?_⟩
      intro f' member
      obtain rfl | below := List.mem_cons.mp member
      · exact same before rfl
      · exact listed.waits f' below
  | @back f below v before callers =>
      have waits := listed.waits
      rw [callers] at waits
      refine ⟨?_, fun f' member => waits f' (.tail _ member)⟩
      rintro g ⟨⟩
      rw [Frame.receive_goal]
      exact waits f (.head _)
  | escape now failure =>
      rw [escape_isOver] at running
      cases running

end Session

theorem Play.listed_after [Keyed G] [EquivBEq G] {h : Host W G V E} (settings : Settings)
    (stackLimit : Int) (root : G) (w : W) {n : Nat}
    (running : ∀ k, k ≤ n →
      ((opening h settings stackLimit root w).after h k).session.point.isOver = false) :
    ((opening h settings stackLimit root w).after h n).session.Listed := by
  apply along_running (I := fun _ c => c.session.Listed) running
  · simp only [opening, Session.start]
    split <;> exact ⟨by simp [Point.subject?], by simp⟩
  · intro k x s w _ before _ taken further
    exact before.step (coherent_after (.start root _ _ _) k) taken further

/-! ## Evaluators with a result -/

/-- The frame of the goal whose evaluator has come to a result. -/
def Point.producer? : Point G V E → Option (Frame G V E)
  | .produce f _ => some f
  | .report _ p | .log _ p => p.producer?
  | _ => none

namespace Session

theorem producer?_escape (s : Session G V E) (failure : Failure) :
    (s.escape failure).point.producer? = none := by
  cases failure with
  | interrupt i => rfl
  | fault f =>
      simp only [escape]
      split <;> rfl

theorem Turn.producer? [Keyed G] {s s' : Session G V E} {x : Exchange G V E} (turn : s.Turn x s')
    {f : Frame G V E} (producing : s'.point.producer? = some f) :
    s.point.producer? = some f ∨
      ∃ now v, s.point = .resume f ∧ x = .resume f.evaluator f.answers now (.ok (.done v)) := by
  obtain ⟨root, bound, started, now, cache, callers, point⟩ := s
  cases turn with
  | stay now onward =>
      cases onward with
      | result f' now v =>
          cases producing
          exact .inr ⟨now, v, rfl, rfl⟩
      | report | reported | log => exact .inl producing
      | _ => cases producing
  | escape now failure =>
      rw [producer?_escape] at producing
      cases producing
  | _ => cases producing

end Session

/-- An evaluator that has come to a result is known to work for its goal. -/
def Session.Bound (s : Session Goal Value Product) : Prop :=
  ∀ f, s.point.producer? = some f → f.evaluator.goal = .ok f.goal

/-- A factory whose evaluators are bound to the goals for which they were asked. -/
def Binds (create : Goal → Attempt W (Option Product)) : Prop :=
  ∀ g w e, ((create g).perform w).1 = .ok (some (.evaluator e)) → e.goal = g

theorem Binds.goal_of_reply {create : Goal → Attempt W (Option Product)} (binds : Binds create)
    (g : Goal) (w : W) {k : Goal}
    (goal : (GoalEvaluator.ofReply g ((create g).perform w).1).goal = .ok k) : k = g := by
  revert goal
  apply GoalEvaluator.ofReply_cases (P := fun evaluator => evaluator.goal = .ok k → k = g)
  · rintro ⟨⟩
    rfl
  · rintro (e | d) created ⟨⟩
    exact binds g w e created

/-- A result comes from the null evaluator of a goal or from an evaluator that is bound to it. -/
theorem Services.bound_after [BEq L] (p : Services W F β K L)
    {create : Goal → Attempt W (Option Product)} (binds : Binds create) (pruner : Pruner K)
    (extras : List L) (settings : Settings) (stackLimit : Int) (root : Goal) (w : W) (n : Nat) :
    ((Play.opening (p.host create pruner extras) settings stackLimit root w).after
      (p.host create pruner extras) n).session.Bound := by
  apply Play.along (I := fun c => c.session.Bound)
  · intro f producing
    simp only [Play.opening, Session.start] at producing
    split at producing <;> cases producing
  · intro n x s w' before met taken f producing
    have turn := Session.Turn.of_step (Play.coherent_after (.start root _ _ _) n) taken
    obtain earlier | ⟨now, v, standing, rfl⟩ := turn.producer? producing
    · exact before f earlier
    · obtain ⟨-, reply⟩ := Play.reply_of_resume met standing
      have assigns : ((Play.opening (p.host create pruner extras) settings stackLimit root w).after
          (p.host create pruner extras) n).session.Assigns
            fun g evaluator => ∀ k, evaluator.goal = .ok k → k = g :=
        Play.assigns_after (fun g w _ goal => binds.goal_of_reply g w goal) n
      have suits := assigns.stands f.goal f.evaluator (by rw [standing]; rfl)
      cases evaluator : f.evaluator with
      | nullEvaluator g =>
          rw [evaluator] at suits
          rw [← suits g rfl]
          rfl
      | evaluator product =>
          rw [evaluator] at suits reply
          cases product with
          | evaluator e =>
              rw [← suits e.goal rfl]
              rfl
          -- what is no evaluator fails when it is handed answers, and has no result
          | other d => cases reply

/-! ## The events of one session -/

/-- The event tells of a result that a collector cannot remember, since its goal has no kind. -/
def Event.isUnkinded [Keyed κ] (kindOf : G → Except Fault κ)
    (goalOf : GoalEvaluator G E → Except Fault G) : Event G V E → Bool
  | .produced evaluator _ _ => match goalOf evaluator with
    | .ok g => !(kindOf g >>= Keyed.asKey).isOk
    | .error _ => false
  | _ => false

theorem Event.countP_isUnkinded_produced [Keyed κ] {kindOf : G → Except Fault κ}
    {goalOf : GoalEvaluator G E → Except Fault G} {evaluator : GoalEvaluator G E} {g : G}
    (goal : goalOf evaluator = .ok g) (value : Option V) (elapsed : Float) :
    [(.produced evaluator value elapsed : Event G V E)].countP (isUnkinded kindOf goalOf) =
      (!(kindOf g >>= Keyed.asKey).isOk).toNat := by
  simp only [List.countP_singleton, isUnkinded, goal]
  cases (kindOf g >>= Keyed.asKey).isOk <;> rfl

namespace Collector

/-- A collector has taken in the events of a thread. A result is left to be matched only while its
goal is the next one to be done. Results without a kind are counted, and their goals as cut off. -/
structure Counted (unkinded : Event G V E → Bool) (t : T) (events : List (Event G V E))
    (next? : Option G) (o : Collector T G κ) : Prop where
  sessions : o.sessions = events.countP (·.tells .start)
  assignments : o.assignments = events.countP (·.tells .evaluator)
  results : o.results = events.countP (·.tells .result)
  cutoffs : o.results + o.cutoffs =
    events.countP (·.tells .conclusion) + events.countP unkinded + o.unmatched.length
  absent : o.absentResults ≤ o.results
  unmatched : o.unmatched = [] ∨ ∃ g, next? = some g ∧ o.unmatched = [(t, g)]

theorem unmatched_add [BEq T] [BEq G] [BEq κ] {c d : Collector T G κ} {t : T}
    (alike : c.unmatched = d.unmatched) (e : Contribution G κ) :
    (c.add t e).unmatched = (d.add t e).unmatched := by
  cases e with
  | result absent timed expected => simp only [add, expect, alike]
  | conclusion g =>
      simp only [add, conclude, alike]
      split <;> rfl
  | _ => exact alike

namespace Counted

variable {unkinded : Event G V E → Bool} {t : T} {events : List (Event G V E)} {next? : Option G}
  {o : Collector T G κ}

theorem start (t : T) (next? : Option G) :
    Counted unkinded t [] next? ({} : Collector T G κ) :=
  ⟨rfl, rfl, rfl, rfl, Nat.le_refl _, .inl rfl⟩

theorem unmatched_eq_nil (counted : Counted unkinded t events none o) : o.unmatched = [] := by
  obtain nothing | ⟨g, next, -⟩ := counted.unmatched
  · exact nothing
  · cases next

theorem weaken (counted : Counted unkinded t events none o) (next? : Option G) :
    Counted unkinded t events next? o :=
  { counted with unmatched := .inl counted.unmatched_eq_nil }

theorem append (counted : Counted unkinded t events next? o) {event : Event G V E}
    {o' : Collector T G κ} {later? : Option G}
    (sessions : o'.sessions = o.sessions + [event].countP (·.tells .start))
    (assignments : o'.assignments = o.assignments + [event].countP (·.tells .evaluator))
    (results : o'.results = o.results + [event].countP (·.tells .result))
    (cutoffs : o'.results + o'.cutoffs + o.unmatched.length = o.results + o.cutoffs +
      [event].countP (·.tells .conclusion) + [event].countP unkinded + o'.unmatched.length)
    (absent : o'.absentResults + o.results ≤ o.absentResults + o'.results)
    (unmatched : o'.unmatched = [] ∨ ∃ g, later? = some g ∧ o'.unmatched = [(t, g)]) :
    Counted unkinded t (events ++ [event]) later? o' where
  sessions := by rw [sessions, counted.sessions, List.countP_append]
  assignments := by rw [assignments, counted.assignments, List.countP_append]
  results := by rw [results, counted.results, List.countP_append]
  cutoffs := by
    have before := counted.cutoffs
    rw [List.countP_append, List.countP_append]
    omega
  absent := by
    have before := counted.absent
    omega
  unmatched := unmatched

theorem uncounted (counted : Counted unkinded t events none o) {event : Event G V E}
    (untold : ∀ matter, event.tells matter = false) (kinded : unkinded event = false) :
    Counted unkinded t (events ++ [event]) none o := by
  have nothing : ∀ matter, [event].countP (·.tells matter) = 0 := by
    intro matter
    rw [List.countP_singleton, untold, if_neg Bool.false_ne_true]
  apply counted.append <;> simp [nothing, kinded, counted.unmatched_eq_nil]

variable [BEq T] [Keyed G] [Keyed κ] {kindOf : G → Except Fault κ}
  {goalOf : GoalEvaluator G E → Except Fault G}

/-- A result of a goal with a kind is left to be matched, and one of a goal without a kind is
not. -/
theorem produced (counted : Counted (Event.isUnkinded kindOf goalOf) t events none o)
    {evaluator : GoalEvaluator G E} {g : G} (goal : goalOf evaluator = .ok g)
    (key : Keyed.isKey g = true) (value : Option V) (elapsed : Float) :
    Counted (Event.isUnkinded kindOf goalOf) t (events ++ [.produced evaluator value elapsed])
      (some g) (o.after kindOf goalOf t (.produced evaluator value elapsed)) := by
  have nothing := counted.unmatched_eq_nil
  have absent : value.isNone.toNat ≤ 1 := Bool.toNat_le _
  rw [after_eq_add]
  cases kind : kindOf g >>= Keyed.asKey with
  | error f =>
      simp only [contribution, goal, kind, add, Option.elim_none]
      refine counted.append rfl rfl rfl ?_ ?_ (.inl nothing)
      · rw [Event.countP_isUnkinded_produced goal, kind, nothing]
        exact Nat.add_right_comm o.results 1 o.cutoffs
      · simp only
        omega
  | ok kind' =>
      have unmatched : o.unmatched.insert (t, g) = [(t, g)] := by rw [nothing]; rfl
      simp only [contribution, goal, kind, key, if_true, add, expect, Option.elim_some, unmatched]
      refine counted.append rfl rfl rfl ?_ ?_ (.inr ⟨g, rfl, rfl⟩)
      · rw [Event.countP_isUnkinded_produced goal, kind, nothing]
        exact Nat.add_right_comm o.results 1 o.cutoffs
      · simp only
        omega

theorem done [LawfulBEq T] [EquivBEq G] {g : G}
    (counted : Counted (Event.isUnkinded kindOf goalOf) t events (some g) o)
    (key : Keyed.isKey g = true) (old : Option GoalState) :
    Counted (Event.isUnkinded kindOf goalOf) t (events ++ [.stateChanged g .done old]) none
      (o.after kindOf goalOf t (.stateChanged g .done old : Event G V E)) := by
  rw [after_eq_add, contribution, key, if_pos rfl, add]
  -- a result that is left can only be that of the goal, and otherwise the goal was cut off
  obtain nothing | ⟨k, next, one⟩ := counted.unmatched
  · have cutOff : o.conclude t g = { o with cutoffs := o.cutoffs + 1 } := by
      simp [conclude, nothing]
    rw [cutOff]
    exact counted.append rfl rfl rfl rfl (Nat.le_refl _) (.inl nothing)
  · cases next
    have matched : o.conclude t g = { o with unmatched := [] } := by
      simp [conclude, one, List.erase_cons]
    rw [matched]
    refine counted.append rfl rfl rfl ?_ (Nat.le_refl _) (.inl rfl)
    rw [one]
    rfl

end Counted

end Collector

/-- The goal that is done next, after its result if there is one. -/
def Point.closing? : Point G V E → Option G
  | .finish g _ _ | .finished g _ _ _ => some g
  | _ => none

namespace Session.Step

open Collector

section Silent

variable [Keyed G] {s s' : Session G V E} {x : Exchange G V E} {t : T} {events : List (Event G V E)}
  {unkinded : Event G V E → Bool} {o : Collector T G κ}

theorem counted_silent (taken : s.Step x s') (silent : x.told = [])
    (counted : Counted unkinded t events s.point.closing? o) :
    Counted unkinded t events s'.point.closing? o := by
  cases closing : s.point.closing? with
  | none =>
      rw [closing] at counted
      exact counted.weaken _
  | some g =>
      obtain ⟨root, bound, started, now, cache, callers, point⟩ := s
      cases point with
      | finish k v held => cases taken; exact counted
      | finished k v old held => cases taken; cases silent
      | _ => cases closing

/-- Nobody is asked between a result and the end of its goal. -/
theorem closing?_of_isQuery (taken : s.Step x s') (query : x.isQuery = true) :
    s.point.closing? = none ∧ x.told = [] := by
  obtain ⟨root, bound, started, now, cache, callers, point⟩ := s
  constructor
  · cases point with
    | finish | finished => cases taken; cases query
    | _ => rfl
  · cases x with
    | emit => cases query
    | _ => rfl

end Silent

end Session.Step

abbrev Totals (T : Type) := Collector T Goal FieldValue

/-- The event tells of a result of a goal that has no kind. -/
abbrev Event.unkinded : Event Goal Value Product → Bool :=
  Event.isUnkinded Goal.kind GoalEvaluator.goal

namespace Session.Step

open Collector

variable {s s' : Session Goal Value Product} {event : Event Goal Value Product}

theorem counted_emit [BEq T] [LawfulBEq T] {t : T} {o : Totals T}
    {events : List (Event Goal Value Product)} {now : Float}
    (taken : s.Step (.emit event now none) s') (reports : s.point.Reports) (listed : s.Listed)
    (bound : s.Bound) (counted : Counted Event.unkinded t events s.point.closing? o) :
    Counted Event.unkinded t (events ++ [event]) s'.point.closing?
      (o.after Goal.kind GoalEvaluator.goal t event) := by
  obtain ⟨root, limit, started, now, cache, callers, point⟩ := s
  cases point with
  | announce | present =>
      cases taken
      rw [after_eq_add]
      exact counted.append rfl rfl rfl rfl (Nat.le_refl _) (.inl counted.unmatched_eq_nil)
  | produce f v =>
      cases taken
      exact counted.produced (bound f rfl) (listed.stands f.goal rfl) v _
  | finished g v old held =>
      cases taken
      exact counted.done (listed.stands g rfl) (some old)
  | enter | assigned | initialized | awaiting =>
      cases taken
      exact counted.uncounted (by rintro (_ | _) <;> rfl) rfl
  | report told p =>
      cases told with
      | nil => cases taken
      | cons event rest =>
          obtain ⟨evaluator, finished, requested, elapsed, rfl⟩ := reports.1 event (.head _)
          cases taken
          exact counted.uncounted (by rintro (_ | _) <;> rfl) rfl
  | _ => cases taken

/-- A result without a kind is that of a goal of the base class, which is on record. -/
theorem base_of_unkinded {x : Exchange Goal Value Product} (taken : s.Step x s')
    (coherent : s.Coherent) (reports : s.point.Reports) (listed : s.Listed) (bound : s.Bound)
    (told : event ∈ x.told) (unkinded : event.unkinded = true) :
    s.cache.keys.any (·.cls.kind?.isNone) = true := by
  obtain ⟨f, v, standing, elapsed, rfl⟩ : ∃ f v, s.point = .produce f v ∧
      ∃ elapsed, event = .produced f.evaluator v elapsed := by
    obtain ⟨root, limit, started, now, cache, callers, point⟩ := s
    cases x with
    | emit e now reply =>
        obtain rfl := List.mem_singleton.mp told
        cases point with
        | produce f v => cases taken; exact ⟨f, v, rfl, _, rfl⟩
        | report events p =>
            cases events with
            | nil => cases taken
            | cons e rest =>
                obtain ⟨evaluator, finished, requested, elapsed, rfl⟩ := reports.1 e (.head _)
                cases taken
                cases unkinded
        | announce | present | finished | enter | assigned | initialized | awaiting =>
            cases taken
            cases unkinded
        | _ => cases taken
    | _ => cases told
  have key := listed.stands f.goal (by rw [standing]; rfl)
  have recorded := (coherent.stands f.goal (by rw [standing]; rfl)).2
  rw [standing] at recorded
  have base : f.goal.cls.kind?.isNone = true := by
    cases declared : f.goal.cls with
    | base => rfl
    | declared c =>
        obtain ⟨kind, found⟩ := Goal.lookupKind_of_isKey declared key
        have goal := bound f (by rw [standing]; rfl)
        simp only [Event.unkinded, Event.isUnkinded, goal] at unkinded
        rw [Goal.lookupKind] at found
        rw [found] at unkinded
        cases unkinded
  have known : s.cache.keys.any (· == f.goal) = true := by
    rw [Ledger.any_keys]
    obtain ⟨found, -⟩ | found := recorded <;> rw [found] <;> rfl
  obtain ⟨k, member, same⟩ := List.any_eq_true.mp known
  refine List.any_eq_true.mpr ⟨k, member, ?_⟩
  rw [((Goal.beq_iff _ _).mp same).2]
  exact base

end Session.Step

theorem Session.Effect.any_keys [Keyed G] {s s' : Session G V E} (effect : Effect s s')
    {P : G → Bool}
    (known : s.cache.keys.any P = true) : s'.cache.keys.any P = true := by
  have put : ∀ g e, (s.cache.put g e).keys.any P = true := by
    intro g e
    rw [Ledger.keys_put]
    split
    · exact known
    · rw [List.any_append, known, Bool.true_or]
  cases effect with
  | stay cache | leave cache | back _ _ cache => rwa [cache]
  | write g e _ _ cache | begin g _ _ cache => rw [cache]; exact put g _

/-- The results without a kind that were told. -/
def Play.unkinded (c : Play W Goal Value Product) : Nat :=
  c.events.countP Event.unkinded

/-- Where every goal on record is of a declared class, each result has a kind. -/
theorem Services.unkinded_eq_zero [BEq L] (p : Services W F β K L)
    {create : Goal → Attempt W (Option Product)} (binds : Binds create) (pruner : Pruner K)
    (extras : List L) (settings : Settings) (stackLimit : Int) (root : Goal) (w : W)
    {h : Host W Goal Value Product} (host : h = p.host create pruner extras)
    {c : Play W Goal Value Product} (opening : c = Play.opening h settings stackLimit root w)
    {n : Nat}
    (running : ∀ k, k ≤ n → (c.after h k).session.point.isOver = false)
    (declared : ∀ g ∈ (c.after h n).session.cache.keys, g.cls ≠ .base) :
    (c.after h n).unkinded = 0 := by
  subst host opening
  have recorded : ∀ event ∈ (Play.after (p.host create pruner extras)
      (.opening (p.host create pruner extras) settings stackLimit root w) n).events,
      event.unkinded = true → (Play.after (p.host create pruner extras)
        (.opening (p.host create pruner extras) settings stackLimit root w)
          n).session.cache.keys.any (·.cls.kind?.isNone) = true := by
    apply Play.along_running (I := fun _ c => ∀ event ∈ c.events, event.unkinded = true →
      c.session.cache.keys.any (·.cls.kind?.isNone) = true) running
    · exact fun event member => by cases member
    · intro k x s w' early before met taken further event member unkinded
      have fated := Play.fated_after (.opening _ settings stackLimit root w)
        fun j soon => running j (Nat.le_trans soon (Nat.le_of_lt early))
      rw [Play.events_concat, List.mem_append] at member
      apply (Session.Effect.of_step fated.coherent taken).any_keys
      obtain told | now := member
      · exact before event told unkinded
      · exact taken.base_of_unkinded fated.coherent fated.reports
          (Play.listed_after settings stackLimit root w fun j soon =>
            running j (Nat.le_trans soon (Nat.le_of_lt early)))
          (p.bound_after binds pruner extras settings stackLimit root w k) now unkinded
  rw [Play.unkinded, List.countP_eq_zero]
  intro event member unkinded
  obtain ⟨g, known, base⟩ := List.any_eq_true.mp (recorded event member unkinded)
  cases cls : g.cls with
  | base => exact declared g known cls
  | declared c => rw [cls] at base; cases base

end Pursuit

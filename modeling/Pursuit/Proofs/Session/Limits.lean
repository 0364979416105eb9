import Pursuit.Proofs.Session.EventLog
import Pursuit.Proofs.Session.Lockstep

/-! # Limits that are not reached

A session has two limits, its pruner and the bound on its path. Where the pruner never stops and no
goal lies too deep, the session is the one that it would be without a pruner and under any larger
bound.
-/

namespace Pursuit

variable {W U G V E F β K L : Type}

/-- A goal is given up since it lies too deep. -/
def Exchange.cutsOff : Exchange G V E → Bool
  | .record (.tooDeep ..) => true
  | _ => false

namespace Play

/-- What factory and evaluators were asked so far. -/
def work (c : Play W G V E) : List (Exchange G V E) :=
  c.exchanges.filter (·.isWork)

theorem told_since_records {c d : Play W G V E}
    (logged : ∀ m ∈ c.past, ∃ n, m.exchange = .record n)
    {later : List (Exchange G V E)} (split : d.exchanges = c.exchanges ++ later) :
    d.events = later.flatMap (·.told) ∧ d.work = later.filter (·.isWork) := by
  have records : ∀ x ∈ c.exchanges, ∃ n, x = .record n := by
    intro x member
    obtain ⟨m, there, rfl⟩ := List.mem_map.mp member
    exact logged m there
  have untold : c.exchanges.flatMap (·.told) = [] := by
    rw [List.flatMap_eq_nil_iff]
    intro x member
    obtain ⟨n, rfl⟩ := records x member
    rfl
  have idle : c.exchanges.filter (·.isWork) = [] := by
    rw [List.filter_eq_nil_iff]
    intro x member
    obtain ⟨n, rfl⟩ := records x member
    exact Bool.false_ne_true
  rw [events_eq_exchanges, work, split, List.flatMap_append, List.filter_append, untold, idle]
  exact ⟨rfl, rfl⟩

variable [Keyed G] {h : Host W G V E} {c : Play W G V E}

/-- Neither limit is reached from here on. -/
def Unlimited (h : Host W G V E) (c : Play W G V E) : Prop :=
  c.Always h fun _ x => x.stops = false ∧ x.cutsOff = false

theorem Unlimited.room (unlimited : c.Unlimited h) {g : G} (standing : c.session.point = .gate g) :
    c.session.path.length < c.session.bound := by
  by_contra full
  have deep : c.session.bound ≤ c.session.path.length := Nat.le_of_not_lt full
  have running : c.session.outcome? = none := by
    rw [Session.outcome?, standing]
  obtain ⟨x, s, w, met, taken, next⟩ := exists_advance h running
  obtain ⟨passed, -⟩ := unlimited.now met
  simp only [Session.Step, Session.next, standing, if_pos deep] at taken
  cases taken with
  | check now reply =>
      cases reply with
      | error failure => cases passed
      | ok stop =>
          cases stop with
          | true => cases passed
          | false =>
              obtain ⟨-, cut⟩ := (unlimited.after 1).now (x := .record (.tooDeep c.session.bound g))
                (by rw [after, after, next]; rfl)
              cases cut

theorem Unlimited.roomy (unlimited : c.Unlimited h) {bound : Nat} (n : Nat)
    (deeper : (c.after h n).session.bound ≤ bound) : (c.after h n).session.Roomy bound := by
  right
  intro g standing
  have room := Unlimited.room (unlimited.after n) standing
  exact ⟨room, Nat.lt_of_lt_of_le room deeper⟩

end Play

namespace Services

/-- Listeners too depend on what the view shows, while asking the pruner and writing to the log
change nothing of it. -/
structure Discreet (p : Services W F β K L) (create : Goal → Attempt W (Option Product))
    (pruner : Pruner K) (view : W → U) : Prop extends p.Confined create view where
  shouldStop : ∀ elapsed w, view ((pruner.shouldStop p.askPruner elapsed).perform w).2 = view w
  listeners : ∀ w w', view w = view w' → p.listeners w = p.listeners w'
  hear : ∀ l event, (p.hear l event).Within view
  record : ∀ entry w, view (p.record entry w) = view w

namespace Discreet

variable [BEq L] {p : Services W F β K L} {create : Goal → Attempt W (Option Product)}
  {pruner : Pruner K} {view : W → U} (discreet : p.Discreet create pruner view)

include discreet

theorem follows (settings : Settings) (stackLimit : Int) (extras : List L) (root : Goal) (w : W)
    (unlimited : (Play.opening (p.host create pruner extras) settings stackLimit root w).Unlimited
      (p.host create pruner extras)) :
    (Play.opening (p.host create pruner extras) settings stackLimit root w).Always
      (p.host create pruner extras) fun _ x =>
        (p.host create .never extras).Follows (p.host create pruner extras)
          (fun w w' => view w = view w') x := by
  apply discreet.toConfined.follows settings stackLimit root w unlimited
  · intro n w w' same _
    refine ⟨trivial, ?_⟩
    calc view (p.record (.session n pruner) w) = view w := discreet.record _ _
      _ = view w' := same
      _ = view (p.record (.session n .never) w') := (discreet.record _ _).symm
  · -- a check that lets pass is answered in the same way where there is no pruner
    rintro elapsed now reply ⟨passed, -⟩ w w' same ⟨-, rfl⟩
    have alike : view ((pruner.shouldStop p.askPruner elapsed).perform w).2 = view w' :=
      (discreet.shouldStop elapsed w).trans same
    cases reply with
    | error failure => cases passed
    | ok stop =>
        cases stop with
        | true => cases passed
        | false => exact ⟨⟨rfl, discreet.clock _ _ alike⟩, alike⟩
  · rintro event now reply w w' same ⟨rfl, rfl⟩
    obtain ⟨replied, alike⟩ :=
      emit_within discreet.listeners discreet.hear discreet.record extras event same
    exact ⟨⟨replied, discreet.clock _ _ alike⟩, alike⟩

/-- Apart from a log record on the depth at the beginning, the two sessions go in step. -/
theorem inStep (settings settings' : Settings) (stackLimit stackLimit' : Int) (extras : List L)
    (root : Goal) (w : W)
    (deeper : settings.depthBound stackLimit ≤ settings'.depthBound stackLimit')
    (unlimited : (Play.opening (p.host create pruner extras) settings stackLimit root w).Unlimited
      (p.host create pruner extras)) :
    ∃ k k', k ≤ 1 ∧ k' ≤ 1 ∧ ∀ n,
      let d := (Play.opening (p.host create pruner extras) settings stackLimit root w).after
        (p.host create pruner extras) (k + n)
      let d' := (Play.opening (p.host create .never extras) settings' stackLimit' root w).after
        (p.host create .never extras) (k' + n)
      d'.session.outcome? = d.session.outcome? ∧ d'.events = d.events ∧ d'.work = d.work ∧
        view d'.world = view d.world := by
  obtain ⟨k, past, v, once, opened, logged, kept⟩ :=
    Play.opening_announces (p.host create pruner extras) settings stackLimit root w
  obtain ⟨k', past', v', once', opened', logged', kept'⟩ :=
    Play.opening_announces (p.host create .never extras) settings' stackLimit' root w
  have seen : view v = view w := by
    obtain rfl | ⟨n, rfl⟩ := kept
    · rfl
    · exact discreet.record _ _
  have seen' : view v' = view w := by
    obtain rfl | ⟨n, rfl⟩ := kept'
    · rfl
    · exact discreet.record _ _
  have roomy : ∀ n, (((Play.opening (p.host create pruner extras) settings stackLimit root w).after
      (p.host create pruner extras) k).after (p.host create pruner extras) n).session.Roomy
        (settings'.depthBound stackLimit') := by
    intro n
    apply Play.Unlimited.roomy (unlimited.after k)
    rw [← Play.after_add, Play.bound_after (.start root _ _ _)]
    exact deeper
  -- from where both sessions tell that they start, they have their exchanges in common
  refine ⟨k, k', once, once', fun n => ?_⟩
  rw [Play.after_add, Play.after_add]
  have inStep := Play.inStep_after
    ((discreet.follows settings stackLimit extras root w unlimited).after k) roomy
    (show ((Play.opening (p.host create .never extras) settings' stackLimit' root w).after
      (p.host create .never extras) k').session = _ by rw [opened, opened']; rfl)
    (by rw [opened, opened']; exact seen.trans seen'.symm) n
  obtain ⟨later, first, second⟩ := inStep.exchanges
  obtain ⟨told, worked⟩ := Play.told_since_records (by rw [opened]; exact logged) first
  obtain ⟨told', worked'⟩ := Play.told_since_records (by rw [opened']; exact logged') second
  exact ⟨inStep.outcome?, told'.trans told.symm, worked'.trans worked.symm, inStep.world.symm⟩

end Discreet

end Services

/-- A session whose limits are not reached has the same outcome without a pruner and under any
larger bound, and the same is told and asked for in the same order. Its own limits show in nothing
but one log record, that its depth was lowered. -/
theorem unreached_limits_are_invisible [BEq L] (p : Services W F β K L)
    (create : Goal → Attempt W (Option Product)) (settings settings' : Settings)
    (stackLimit stackLimit' : Int) (pruner : Pruner K) (extras : List L) (root : Goal) (w : W)
    (view : W → U) (discreet : p.Discreet create pruner view)
    (deeper : settings.depthBound stackLimit ≤ settings'.depthBound stackLimit')
    (unlimited : (Play.opening (p.host create pruner extras) settings stackLimit root w).Unlimited
      (p.host create pruner extras)) :
    (∀ outcome,
      (∃ enough, ∀ n, enough ≤ n →
        (p.resolve create settings stackLimit n (some pruner) extras root w).1 = some outcome) ↔
      ∃ enough, ∀ n, enough ≤ n →
        (p.resolve create settings' stackLimit' n none extras root w).1 = some outcome) ∧
    ∃ k k', k ≤ 1 ∧ k' ≤ 1 ∧ ∀ n,
      let d := (Play.opening (p.host create pruner extras) settings stackLimit root w).after
        (p.host create pruner extras) (k + n)
      let d' := (Play.opening (p.host create .never extras) settings' stackLimit' root w).after
        (p.host create .never extras) (k' + n)
      d'.events = d.events ∧ d'.work = d.work ∧ view d'.world = view d.world := by
  obtain ⟨k, k', once, once', alike⟩ :=
    discreet.inStep settings settings' stackLimit stackLimit' extras root w deeper unlimited
  refine ⟨fun outcome => ?_, k, k', once, once', fun n => (alike n).2⟩
  simp only [Services.resolve, Option.getD_some, Option.getD_none, exists_evaluate_iff]
  constructor
  · rintro ⟨n, halted⟩
    refine ⟨k' + n, (alike n).1.trans ?_⟩
    rw [Nat.add_comm]
    exact Play.outcome_stays halted k
  · rintro ⟨n, halted⟩
    refine ⟨k + n, (alike n).1.symm.trans ?_⟩
    rw [Nat.add_comm]
    exact Play.outcome_stays halted k'

/-- Services whose pruner stops after a hundred checks, and whose listener fails at every event.
Evaluators are done as soon as enough calls were made. Its world is how many checks and how many
calls there were. -/
def patientServices : Services (Nat × Nat) Empty Empty Unit Unit :=
  { Services.hosting
      (fun g => .ofFunction fun w => (.ok (knottedNeeds g), (w.1, w.2 + 1)))
      (fun _ _ => .ofFunction fun w =>
        (.ok (if w.2 < 6 then .more (.ok []) else .done (some .baseType)), (w.1, w.2 + 1))) with
    askPruner := fun _ _ => .ofFunction fun w => (.ok (decide (100 ≤ w.1)), (w.1 + 1, w.2))
    listeners := fun _ => [()]
    hear := fun _ _ => .fault .badType
    record := fun _ w => w }

theorem patientServices_discreet :
    patientServices.Discreet hostedFactory (.custom ()) Prod.snd where
  clock _ _ _ := rfl
  factory _ _ _ same := ⟨rfl, same⟩
  init g w e created := by
    cases created
    exact fun w w' same => ⟨rfl, congrArg (· + 1) same⟩
  resume g w e created answers := by
    cases created
    intro w w' same
    refine ⟨?_, congrArg (· + 1) same⟩
    change Except.ok (if w.2 < 6 then _ else _) = Except.ok (if w'.2 < 6 then _ else _)
    rw [same]
  shouldStop _ _ := rfl
  listeners _ _ _ := rfl
  hear _ _ _ _ same := ⟨rfl, same⟩
  record _ _ := rfl

theorem patientServices_over :
    ((Play.opening (patientServices.host hostedFactory (.custom ()) []) .standard 210
      (numberedGoal 0) (0, 0)).after (patientServices.host hostedFactory (.custom ()) [])
        94).session.outcome?.isSome := by
  decide +kernel

theorem patientServices_unlimited :
    (Play.opening (patientServices.host hostedFactory (.custom ()) []) .standard 210
      (numberedGoal 0) (0, 0)).Unlimited (patientServices.host hostedFactory (.custom ()) []) := by
  apply Play.always_of_past (Q := fun _ x => x.stops = false ∧ x.cutsOff = false)
    patientServices_over
  decide +kernel

theorem patientServices_resolved :
    ∃ outcome,
      (∃ enough, ∀ n, enough ≤ n → (patientServices.resolve hostedFactory .standard 210 n
        (some (.custom ())) [] (numberedGoal 0) (0, 0)).1 = some outcome) ∧
      ∃ enough, ∀ n, enough ≤ n → (patientServices.resolve hostedFactory .standard 1000 n none []
        (numberedGoal 0) (0, 0)).1 = some outcome := by
  obtain ⟨outcome, halted⟩ := Option.isSome_iff_exists.mp patientServices_over
  have limited : ∃ enough, ∀ n, enough ≤ n → (patientServices.resolve hostedFactory .standard 210 n
      (some (.custom ())) [] (numberedGoal 0) (0, 0)).1 = some outcome :=
    (exists_evaluate_iff _ .standard 210 (numberedGoal 0) (0, 0) outcome).mpr ⟨94, halted⟩
  obtain ⟨same, -⟩ := unreached_limits_are_invisible patientServices hostedFactory .standard
    .standard 210 1000 (.custom ()) [] (numberedGoal 0) (0, 0) Prod.snd patientServices_discreet
    (by decide) patientServices_unlimited
  exact ⟨outcome, limited, (same outcome).mp limited⟩

end Pursuit

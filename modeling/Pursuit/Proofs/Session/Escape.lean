import Mathlib.Data.List.Basic
import Pursuit.Proofs.Session.EventLog
import Pursuit.Proofs.Session.Pruning

/-! # Failures that leave a session

Most failures stay with the goal for which somebody was asked. An interrupt does not, and neither
does a failure in going through the goals for which an evaluator asks: it passes through all goals
on the path and out of the session. Nobody is called on its way, and the goals that wait are left
on record as they are.
-/

namespace Pursuit

variable {W G V E F β K L : Type}

/-- The failure that an exchange lets out into the session. -/
def Exchange.raised? : Exchange G V E → Option Failure
  | .check _ _ (.error (.interrupt i)) => some (.interrupt i)
  | .create _ _ (.error (.interrupt i)) => some (.interrupt i)
  | .init _ _ (.error (.interrupt i)) => some (.interrupt i)
  | .resume _ _ _ (.error (.interrupt i)) => some (.interrupt i)
  | .resume _ _ _ (.ok (.more (.error failure))) => some failure
  | .emit _ _ (some i) => some (.interrupt i)
  | _ => none

/-- How a session ends that a failure leaves. One that ran out of stack ends without an answer. -/
def Failure.verdict : Failure → Except Failure (Option V)
  | .fault f => if f.isStackExhausted then .ok none else .error (.fault f)
  | .interrupt i => .error (.interrupt i)

/-- The failure that is on its way out of a session. -/
def Point.failure? : Point G V E → Option Failure
  | .halt (.error failure) => some failure
  | .log (.exhausted _ f) p => p.failure? <|> some (.fault f)
  | .log _ p | .report _ p => p.failure?
  | _ => none

theorem Point.held?_of_isEnding {p : Point G V E} (ending : p.isEnding = true) :
    p.held? = none := by
  induction p with
  | log n p ih => exact ih ending
  | halt outcome => rfl
  | _ => cases ending

/-! ## One step -/

namespace Session

theorem failure?_escape (s : Session G V E) (failure : Failure) :
    (s.escape failure).point.failure? = some failure := by
  cases failure with
  | interrupt i => rfl
  | fault f =>
      simp only [escape]
      split <;> rfl

theorem failure?_told {s : Session G V E} {p : Point G V E} {event : Event G V E} {now : Float}
    {reply : Option Interrupt} (quiet : (Exchange.emit event now reply).raised? = none) :
    (s.told p now reply).point.failure? = p.failure? := by
  cases reply with
  | none => rfl
  | some i => cases quiet

theorem failure?_checked {s : Session G V E} {g : G} {held : Bool} {pass : Point G V E}
    {elapsed now : Float} {reply : Except Failure Bool}
    (quiet : (Exchange.check elapsed now reply : Exchange G V E).raised? = none)
    (whole : pass.failure? = none) : (s.checked g held pass now reply).point.failure? = none := by
  cases reply with
  | ok stop =>
      cases stop with
      | false => exact whole
      | true => rfl
  | error failure =>
      cases failure with
      | fault => rfl
      | interrupt => cases quiet

variable [Keyed G] {s s' : Session G V E} {x : Exchange G V E}

theorem Step.escapes (taken : s.Step x s') {failure : Failure} (raised : x.raised? = some failure) :
    ∃ now, s' = (s.after now).escape failure := by
  obtain ⟨root, bound, started, now, cache, callers, point⟩ := s
  unfold Exchange.raised? at raised
  split at raised
  all_goals cases raised
  all_goals
    cases point with
    | report events p => cases events <;> cases taken <;> exact ⟨_, rfl⟩
    | _ => cases taken <;> exact ⟨_, rfl⟩

/-- Nothing else leaves the session, as long as the goals that are requested can be looked up. -/
theorem Step.failure? (taken : s.Step x s')
    (keys : ∀ g, s.point = .request g → Keyed.isKey g = true)
    (quiet : x.raised? = none) {failure : Failure} (left : s'.point.failure? = some failure) :
    s.point.failure? = some failure := by
  obtain ⟨root, bound, started, now, cache, callers, point⟩ := s
  cases point with
  | request g =>
      cases taken
      simp only [lookUp, keys g rfl, if_true] at left
      split at left
      · cases left
      · split at left <;> cases left
  | answer v =>
      cases taken
      cases callers <;> cases left
  | gate g =>
      cases taken
      rw [failure?_checked quiet (by split <;> rfl)] at left
      cases left
  | round f =>
      cases taken
      rw [failure?_checked quiet (by split <;> rfl)] at left
      cases left
  | recheck f =>
      cases taken
      rw [failure?_checked quiet rfl] at left
      cases left
  | create g =>
      cases taken with | create now reply =>
      cases reply with
      | ok product => cases product <;> cases left
      | error failure =>
          cases failure with
          | fault => cases left
          | interrupt => cases quiet
  | init g evaluator assignedAt =>
      cases taken with | init now reply =>
      cases reply with
      | ok batch => cases left
      | error failure =>
          cases failure with
          | fault => cases left
          | interrupt => cases quiet
  | resume f =>
      cases taken with | resume now reply =>
      cases reply with
      | ok outcome =>
          cases outcome with
          | done | stray => cases left
          | more goals =>
              cases goals with
              | ok => cases left
              | error => cases quiet
      | error failure =>
          cases failure with
          | fault => cases left
          | interrupt => cases quiet
  | dispatch f =>
      cases taken
      simp only [dispatch] at left
      split at left
      · cases left
      · split at left <;> cases left
  | log n p =>
      cases taken
      cases n with
      | exhausted root f =>
          simp only [Point.failure?]
          rw [show p.failure? = some failure from left]
          rfl
      | _ => exact left
  | report events p =>
      cases events with
      | nil => cases taken; exact left
      | cons event rest =>
          cases taken
          rw [failure?_told quiet] at left
          exact left
  | halt outcome => cases taken
  | assign | await | finish => cases taken; cases left
  | announce | enter | assigned | present | initialized | awaiting | produce | finished =>
      cases taken
      rw [failure?_told quiet] at left
      cases left

theorem Step.record_kept (taken : s.Step x s') (ending : s.point.isEnding = true) :
    s'.callers = s.callers ∧ s'.cache = s.cache := by
  obtain ⟨root, bound, started, now, cache, callers, point⟩ := s
  cases point with
  | log n p => cases taken; exact ⟨rfl, rfl⟩
  | halt outcome => cases taken
  | _ => cases ending

end Session

/-! ## The rest of the session -/

namespace Play

variable [Keyed G] {h : Host W G V E} {c : Play W G V E}

theorem raised_of_failure? (whole : c.session.point.failure? = none)
    (keys : ∀ n g, (c.after h n).session.point = .request g → Keyed.isKey g = true) {n : Nat}
    {failure : Failure} (left : (c.after h n).session.point.failure? = some failure) :
    ∃ m x, c.exchange? h m = some x ∧ x.raised? = some failure := by
  induction n with
  | zero =>
      rw [after, whole] at left
      cases left
  | succ n ih =>
      cases halted : (c.after h n).session.outcome? with
      | some outcome =>
          rw [after, advance_of_over (by rw [halted]; rfl)] at left
          exact ih left
      | none =>
          obtain ⟨x, s, w, met, taken, next⟩ := exists_advance h halted
          rw [after, next] at left
          cases raised : x.raised? with
          | none => exact ih (taken.failure? (keys n) raised left)
          | some other =>
              obtain ⟨now, rfl⟩ := taken.escapes raised
              rw [Session.failure?_escape] at left
              exact ⟨n, x, by rw [exchange?, met]; rfl, raised.trans left⟩

/-- A session that has only log records left to write calls nobody and leaves the record alone. -/
theorem record_after (ending : c.session.point.isEnding = true) (n : Nat) :
    (c.after h n).session.point.isEnding = true ∧
      (c.after h n).session.callers = c.session.callers ∧
      (c.after h n).session.cache = c.session.cache := by
  apply Play.invariant (I := fun s => s.point.isEnding = true ∧ s.callers = c.session.callers ∧
    s.cache = c.session.cache) _ ⟨ending, rfl, rfl⟩ n
  rintro s x s' ⟨ending, callers, cache⟩ taken
  obtain ⟨sameCallers, sameCache⟩ := taken.record_kept ending
  exact ⟨Session.isEnding_step ending taken, sameCallers.trans callers, sameCache.trans cache⟩

/-- Nothing but a log record is written before a failure has left the session. -/
theorem after_escape {s : Session G V E} {failure : Failure}
    (escapes : c.session = s.escape failure) :
    (c.after h 1).session.outcome? = some failure.verdict ∧
      ((c.after h 1).world = c.world ∨ ∃ entry, (c.after h 1).world = h.record entry c.world) := by
  obtain ⟨past, session, w⟩ := c
  obtain rfl : session = s.escape failure := escapes
  cases failure with
  | interrupt i => exact ⟨rfl, .inl rfl⟩
  | fault f =>
      simp only [Failure.verdict, Session.escape]
      split
      · exact ⟨rfl, .inr ⟨_, rfl⟩⟩
      · exact ⟨rfl, .inl rfl⟩

theorem not_concluded_of_waiting [EquivBEq G] (coherent : c.session.Coherent)
    (reports : c.session.point.Reports) (begins : c.past = []) {g : G} {n : Nat}
    (waits : (c.after h n).session.cache.find? g = some ⟨.awaiting, none⟩) :
    (c.after h n).past.countP (·.marks g .concluded) = 0 := by
  have passed := countP_marks_after (h := h) coherent reports begins g .concluded n
  have stage := Session.stage_le_entry (coherent_after (h := h) coherent n) g
  rw [waits] at stage
  have early : ¬ Milestone.concluded.stage < (c.after h n).session.stage g :=
    Nat.not_lt.mpr (Nat.le_succ_of_le stage)
  rw [if_neg early] at passed
  exact Nat.le_zero.mp passed

end Play

/-! ## Who raises it -/

/-- Of several recipients, the first one that interrupts is the last one that is told. -/
theorem deliver_eq_some_iff {hear : L → Attempt W Unit} {record : L → Fault → W → W}
    {targets : List L} {w w' : W} {i : Interrupt} :
    deliver hear record targets w = (some i, w') ↔
      ∃ told l untold w₁, targets = told ++ l :: untold ∧
        deliver hear record told w = (none, w₁) ∧
        (hear l).perform w₁ = (.error (.interrupt i), w') := by
  constructor
  · intro delivered
    induction targets generalizing w with
    | nil => cases delivered
    | cons l rest ih =>
        rw [deliver] at delivered
        split at delivered
        · rename_i w₁ heard
          obtain ⟨told, k, untold, w₂, rfl, quiet, interrupts⟩ := ih delivered
          refine ⟨l :: told, k, untold, w₂, rfl, ?_, interrupts⟩
          rw [deliver, heard]
          exact quiet
        · rename_i f w₁ heard
          obtain ⟨told, k, untold, w₂, rfl, quiet, interrupts⟩ := ih delivered
          refine ⟨l :: told, k, untold, w₂, rfl, ?_, interrupts⟩
          rw [deliver, heard]
          exact quiet
        · rename_i j w₁ heard
          cases delivered
          exact ⟨[], l, rest, w, rfl, rfl, heard⟩
  · rintro ⟨told, l, untold, w₁, rfl, quiet, interrupts⟩
    rw [deliver_append, quiet]
    simp only [deliver, interrupts]

namespace Services

variable {σ : Type} [BEq L]

/-- A failure is raised while a demand is met, and leaves a world behind: pruner, factory, evaluator
or a listener interrupts, or the goals for which an evaluator asks cannot be gone through. Listeners
after the one that interrupts are not told. -/
inductive Raises (p : Services W F β K L) (create : Goal → Attempt W (Option Product))
    (pruner : Pruner K) (extras : List L) (w : W) :
    Demand Goal Value Product σ → Failure → W → Prop where
  | pruner {elapsed k i w'}
      (interrupts :
        (pruner.shouldStop p.askPruner elapsed).perform w = (.error (.interrupt i), w')) :
      Raises p create pruner extras w (.check elapsed k) (.interrupt i) w'
  | factory {g k i w'} (interrupts : (create g).perform w = (.error (.interrupt i), w')) :
      Raises p create pruner extras w (.create g k) (.interrupt i) w'
  | init {e k i w'} (interrupts : (p.initProduct e).perform w = (.error (.interrupt i), w')) :
      Raises p create pruner extras w (.init (.evaluator e) k) (.interrupt i) w'
  | resume {e answers k i w'}
      (interrupts : (p.resumeProduct e answers).perform w = (.error (.interrupt i), w')) :
      Raises p create pruner extras w (.resume (.evaluator e) answers k) (.interrupt i) w'
  | goals {e answers k failure w'}
      (fails : (p.resumeProduct e answers).perform w = (.ok (.more (.error failure)), w')) :
      Raises p create pruner extras w (.resume (.evaluator e) answers k) failure w'
  | listener {event k told l untold i w₁ w'}
      (targets : (p.listeners w).targets extras = told ++ l :: untold)
      (quiet : deliver (fun l => p.hear l event) (fun l f => p.record (.listener l event.name f))
        told w = (none, w₁))
      (interrupts : (p.hear l event).perform w₁ = (.error (.interrupt i), w')) :
      Raises p create pruner extras w (.emit event k) (.interrupt i) w'

variable {p : Services W F β K L} {create : Goal → Attempt W (Option Product)} {pruner : Pruner K}
  {extras : List L} {w w' : W} {d : Demand Goal Value Product σ} {failure : Failure}

theorem raises_of_meet {x : Exchange Goal Value Product} {s : σ}
    (met : (p.host create pruner extras).meet w d = some (x, s, w'))
    (raised : x.raised? = some failure) : p.Raises create pruner extras w d failure w' := by
  have meets := Host.meets_of_meet met
  have gives := Host.gives_of_meet met
  obtain rfl := Host.world_of_meet met
  unfold Exchange.raised? at raised
  split at raised
  all_goals cases raised
  · cases meets
    exact .pruner (Prod.ext gives.1.symm rfl)
  · cases meets
    exact .factory (Prod.ext gives.1.symm rfl)
  · cases meets
    rename_i evaluator _ _ _
    cases evaluator with
    | nullEvaluator g => cases gives.1
    | evaluator e => exact .init (Prod.ext gives.1.symm rfl)
  · cases meets
    rename_i evaluator _ _ _ _
    cases evaluator with
    | nullEvaluator g => cases gives.1
    | evaluator e => exact .resume (Prod.ext gives.1.symm rfl)
  · cases meets
    rename_i evaluator _ _ _
    cases evaluator with
    | nullEvaluator g => cases gives.1
    | evaluator e => exact .goals (Prod.ext gives.1.symm rfl)
  · cases meets
    obtain ⟨told, l, untold, w₁, targets, quiet, interrupts⟩ :=
      deliver_eq_some_iff.mp (Prod.ext gives.1.symm rfl)
    exact .listener targets quiet interrupts

theorem Raises.meet (raises : p.Raises create pruner extras w d failure w') :
    ∃ x s, (p.host create pruner extras).meet w d = some (x, s, w') ∧
      x.raised? = some failure := by
  cases raises with
  | pruner interrupts | factory interrupts | init interrupts | resume interrupts
  | goals interrupts =>
      simp only [Host.meet, host, Host.initEvaluator, Host.resumeEvaluator, interrupts]
      exact ⟨_, _, rfl, rfl⟩
  | listener targets quiet interrupts =>
      have told := deliver_eq_some_iff.mpr ⟨_, _, _, _, targets, quiet, interrupts⟩
      simp only [Host.meet, host, emit, told]
      exact ⟨_, _, rfl, rfl⟩

end Services

/-- As long as the goals that are requested can be looked up, no failure leaves a session that was
not raised in it, by an interrupt of whoever is called or in going through the goals for which an
evaluator asks. From then on nobody is called, and path and active goals are empty. The goals on the
path, other than the last one, wait forever, and listeners are never told that they are done. The
session itself ends with the failure, or without an answer if the stack ran out. -/
theorem failures_leave_as_raised [BEq L] (p : Services W F β K L)
    (create : Goal → Attempt W (Option Product)) (settings : Settings) (stackLimit : Int)
    (pruner : Option (Pruner K)) (extras : List L) (root : Goal) (w : W) :
    let h := p.host create (pruner.getD .never) extras
    let c := Play.opening h settings stackLimit root w
    ((∀ n g, (c.after h n).session.point = .request g → Keyed.isKey g = true) →
      ∀ n failure, (c.after h n).session.point.failure? = some failure →
        ∃ m w', p.Raises create (pruner.getD .never) extras (c.after h m).world
          (c.after h m).session.next failure w') ∧
    ∀ n failure w', p.Raises create (pruner.getD .never) extras (c.after h n).world
        (c.after h n).session.next failure w' →
      (c.after h (n + 1)).session.point.failure? = some failure ∧
      (∀ m, n < m → (c.after h m).session.next.isCall = false ∧
        c.trail h m = ⟨[], fun _ => false⟩) ∧
      (∀ g ∈ (c.trail h n).path.dropLast,
        (∀ m, n ≤ m → (c.after h m).session.cache.find? g = some ⟨.awaiting, none⟩) ∧
        ∀ m, (c.after h m).past.countP (·.marks g .concluded) = 0) ∧
      ∃ w'', (w'' = w' ∨ ∃ log, w'' = p.record (.session log (pruner.getD .never)) w') ∧
        ∀ fuel, n + 3 ≤ fuel →
          p.resolve create settings stackLimit fuel pruner extras root w =
            (some failure.verdict, w'') := by
  intro h c
  have start : c.session.Kept := .start root _ _ _
  have opens : c.session.path = [] ∧ c.session.point.failure? = none ∧
      c.session.point.Reports := by
    unfold c Play.opening Session.start
    split <;> exact ⟨rfl, rfl, trivial⟩
  refine ⟨?_, ?_⟩
  · intro keys n failure left
    obtain ⟨m, x, met, raised⟩ := Play.raised_of_failure? opens.2.1 keys left
    obtain ⟨s, w', met, -, -⟩ := Play.step_of_exchange? met
    exact ⟨m, w', Services.raises_of_meet met raised⟩
  · intro n failure w' raises
    obtain ⟨x, s, met, raised⟩ := raises.meet
    have next : c.after h (n + 1) =
        ⟨(c.after h n).past ++ [⟨(c.after h n).session, x⟩], s, w'⟩ := by
      rw [Play.after, Play.advance, met]
    have taken : (c.after h n).session.Step x s := Host.meets_of_meet met
    obtain ⟨now, rfl⟩ := taken.escapes raised
    have rest : ∀ m, n < m → (c.after h m).session.point.isEnding = true ∧
        (c.after h m).session.callers = [] ∧
        (c.after h m).session.cache = (c.after h n).session.cache := by
      intro m later
      obtain ⟨k, rfl⟩ := Nat.exists_eq_add_of_lt later
      rw [Nat.add_right_comm, Play.after_add, next]
      exact Play.record_after (c := ⟨_, _, _⟩) (Session.escape_isEnding _ failure) k
    have waiting : ∀ g ∈ (c.trail h n).path.dropLast, ∀ m, n ≤ m →
        (c.after h m).session.cache.find? g = some ⟨.awaiting, none⟩ := by
      intro g member m late
      have waits : (c.after h n).session.cache.find? g = some ⟨.awaiting, none⟩ := by
        rw [Play.trail_eq_of_path start opens.1, Trail.of, List.dropLast_reverse,
          List.mem_reverse] at member
        exact (Play.kept_after start n).awaits member
      obtain rfl | later := Nat.eq_or_lt_of_le late
      · exact waits
      · rw [(rest m later).2.2, waits]
    refine ⟨?_, ?_, ?_, ?_⟩
    · rw [next]
      exact Session.failure?_escape _ failure
    · intro m later
      obtain ⟨ending, callers, -⟩ := rest m later
      refine ⟨Session.isCall_of_isEnding ending, ?_⟩
      have path : (c.after h m).session.path = [] := by
        rw [Session.path_of_held?_eq_none (Point.held?_of_isEnding ending), callers]
        rfl
      rw [Play.trail_eq_of_path start opens.1, path]
      rfl
    · intro g member
      refine ⟨waiting g member, fun m => ?_⟩
      have never := Play.not_concluded_of_waiting start.coherent opens.2.2 rfl
        (waiting g member (n + m) (Nat.le_add_right n m))
      have grown : (c.after h m).past <+: (c.after h (n + m)).past := by
        rw [Nat.add_comm, Play.after_add]
        exact Play.past_prefix _ n
      exact Nat.le_zero.mp (never ▸ grown.sublist.countP_le)
    · obtain ⟨outcome, world⟩ := Play.after_escape (h := h) (c := c.after h (n + 1)) (by rw [next])
      have left : (c.after h (n + 1)).world = w' := by rw [next]
      rw [← Play.after_add] at outcome
      rw [← Play.after_add, left] at world
      exact ⟨_, world, fun fuel enough =>
        evaluate_eq_of_over h settings stackLimit root w outcome fuel enough⟩

/-- Each goal but the last needs the next one. -/
def chainedNeeds (g : Goal) : List Goal :=
  if g == numberedGoal 0 then [numberedGoal 1]
  else if g == numberedGoal 1 then [numberedGoal 2] else []

/-- Services with one listener, which interrupts at its fifteenth event. Its world is the number
of events. -/
def wearyServices : Services Nat Empty Empty Empty Unit :=
  { Services.hosting (fun g => pure (chainedNeeds g)) (fun _ _ => pure (.done none)) with
    listeners := fun _ => [()]
    hear := fun _ _ => .ofFunction fun heard =>
      (if heard = 14 then .error (.interrupt (.keyboard "enough")) else .ok (), heard + 1)
    record := fun _ heard => heard }

theorem wearyServices_interrupted :
    let h := wearyServices.host hostedFactory .never []
    let c := Play.opening h .standard 1000 (numberedGoal 0) 0
    (∀ fuel, 38 ≤ fuel → wearyServices.resolve hostedFactory .standard 1000 fuel none []
      (numberedGoal 0) 0 = (some (.error (.interrupt (.keyboard "enough"))), 15)) ∧
    (∀ n failure, (c.after h n).session.point.failure? = some failure →
      ∃ m heard, wearyServices.Raises hostedFactory .never [] (c.after h m).world
        (c.after h m).session.next failure heard) ∧
    ((c.trail h 35).path == [numberedGoal 0, numberedGoal 1, numberedGoal 2]) = true ∧
    ∀ g ∈ (c.trail h 35).path.dropLast,
      (∀ m, 35 ≤ m → (c.after h m).session.cache.find? g = some ⟨.awaiting, none⟩) ∧
        ∀ m, (c.after h m).past.countP (·.marks g .concluded) = 0 := by
  intro h c
  obtain ⟨leaves, raised⟩ := failures_leave_as_raised wearyServices hostedFactory .standard 1000
    none [] (numberedGoal 0) 0
  have halted : (c.after h 36).session.outcome?.isSome ∧ (c.after h 36).world = 15 := by
    decide +kernel
  have keys : ∀ n g, (c.after h n).session.point = .request g → Keyed.isKey g = true := by
    apply Play.keys_of_over halted.1
    decide +kernel
  obtain ⟨x, met, interrupts⟩ : ∃ x, c.exchange? h 35 = some x ∧
      x.raised? = some (.interrupt (.keyboard "enough")) := by
    apply Option.bind_eq_some_iff.mp
    decide +kernel
  obtain ⟨s, heard, met, -, next⟩ := Play.step_of_exchange? met
  obtain rfl : heard = 15 := by rw [← halted.2, next]
  obtain ⟨-, -, waiting, heard, same, resolves⟩ :=
    raised 35 _ 15 (Services.raises_of_meet met interrupts)
  obtain rfl : heard = 15 := by
    obtain same | ⟨log, same⟩ := same <;> exact same
  exact ⟨resolves, leaves keys, by decide +kernel, waiting⟩

end Pursuit

import Pursuit.Proofs.Session.Hosting
import Pursuit.Proofs.Session.Termination

/-! # Faults stay with their goals

When a part of the host fails by a fault, the goal for which it was asked is given up: it is
answered without a result, nothing else on record changes, and the goal that waits for it goes on.
There are two faults of which this is not true, those that spill over. The main result says that
nothing but them, and a goal that is resumed for ever, keeps a session from ending with an answer.
-/

namespace Pursuit

variable {W G V E : Type}

/-- The attempt may fail, but never by an interrupt. -/
def Attempt.Tame {α : Type} (a : Attempt W α) : Prop :=
  ∀ w i, (a.perform w).1 ≠ .error (.interrupt i)

namespace Attempt.Tame

variable {α γ : Type}

theorem pure (a : α) : Tame (Pure.pure a : Attempt W α) :=
  fun _ _ failed => by cases failed

theorem fault (f : Fault) : Tame (.fault f : Attempt W α) :=
  fun _ _ failed => by cases failed

theorem ofExcept (reply : Except Fault α) : Tame (.ofExcept reply : Attempt W α) := by
  cases reply with
  | ok a => exact .pure a
  | error f => exact .fault f

theorem modify (f : W → W) : Tame (modifyGet fun w => ((), f w) : Attempt W Unit) :=
  fun _ _ failed => by cases failed

theorem bind {a : Attempt W α} {k : α → Attempt W γ} (first : a.Tame) (next : ∀ x, (k x).Tame) :
    (a >>= k).Tame := by
  intro w i
  cases met : (a.perform w).1 with
  | ok x =>
      rw [perform_bind_of_ok met]
      exact next x _ i
  | error failure =>
      rw [perform_bind_of_error met]
      rintro ⟨⟩
      exact first w i met

end Attempt.Tame

/-- An evaluator does not interrupt, whatever it is handed. -/
def Host.TameEvaluator (h : Host W G V E) (evaluator : GoalEvaluator G E) : Prop :=
  (h.initEvaluator evaluator).Tame ∧ ∀ answers, (h.resumeEvaluator evaluator answers).Tame

/-- No part of the host interrupts, as far as sessions have to do with it. -/
structure Host.Tame (h : Host W G V E) : Prop where
  check : ∀ elapsed, (h.check elapsed).Tame
  create : ∀ g, (h.create g).Tame
  evaluator : ∀ g w e, ((h.create g).perform w).1 = .ok (some e) → h.TameEvaluator (.evaluator e)
  emit : ∀ event w, (h.emit event w).1 = none

/-- A fault comes back, or is met in what comes back. -/
inductive Exchange.Fails : Exchange G V E → Prop where
  | check (elapsed now : Float) (f : Fault) : Fails (.check elapsed now (.error (.fault f)))
  | create (g : G) (now : Float) (f : Fault) : Fails (.create g now (.error (.fault f)))
  | init (evaluator : GoalEvaluator G E) (now : Float) (f : Fault) :
      Fails (.init evaluator now (.error (.fault f)))
  | resume (evaluator : GoalEvaluator G E) (answers : Ledger G (Option V)) (now : Float)
      (f : Fault) :
      Fails (.resume evaluator answers now (.error (.fault f)))
  | more (evaluator : GoalEvaluator G E) (answers : Ledger G (Option V)) (now : Float) (f : Fault) :
      Fails (.resume evaluator answers now (.ok (.more (.error (.fault f)))))

/-- A null evaluator asks for nothing and finds nothing. -/
def Exchange.StandsIn : Exchange G V E → Prop
  | .init (.nullEvaluator _) _ reply => reply = .ok []
  | .resume (.nullEvaluator _) _ _ reply => reply = .ok (.done none)
  | _ => True

/-- A goal can only be given up from such a point on. -/
inductive Point.Dooms (g : G) : Point G V E → Prop where
  | finish (held : Bool) : Dooms g (.finish g none held)
  | nullEvaluator : Dooms g (.assign g (.nullEvaluator g))
  | log (n : SessionRecord G E) {p : Point G V E} (dooms : Dooms g p) : Dooms g (.log n p)

theorem Host.standsIn {h : Host W G V E} {σ : Type} {d : Demand G V E σ} {x : Exchange G V E}
    {s : σ} {w w' : W} (met : h.meet w d = some (x, s, w')) : x.StandsIn := by
  cases d with
  | halt => cases met
  | init evaluator => cases met; cases evaluator <;> trivial
  | resume evaluator answers => cases met; cases evaluator <;> trivial
  | _ => cases met; trivial

theorem Host.Tame.ofReply {h : Host W G V E} (tame : h.Tame) (g : G) (w : W) :
    h.TameEvaluator (.ofReply g ((h.create g).perform w).1) :=
  GoalEvaluator.ofReply_cases ⟨.pure _, fun _ => .pure _⟩ (tame.evaluator g w)

theorem Host.Tame.uninterrupted [Keyed G] {h : Host W G V E} (tame : h.Tame) (settings : Settings)
    (stackLimit : Int) (root : G) (w : W) :
    (Play.opening h settings stackLimit root w).Always h fun _ x => x.Uninterrupted := by
  intro n x s w' met
  have assigns : ((Play.opening h settings stackLimit root w).after h n).session.Assigns
      fun _ evaluator => h.TameEvaluator evaluator := Play.assigns_after tame.ofReply n
  generalize (Play.opening h settings stackLimit root w).after h n = c at met assigns
  cases x with
  | check elapsed now reply =>
      rw [Play.reply_of_check met]
      exact tame.check elapsed c.world
  | create g now reply =>
      rw [Play.reply_of_create met]
      exact tame.create g c.world
  | init evaluator now reply =>
      obtain ⟨g, t, standing⟩ := Play.standing_of_init met
      rw [Play.reply_of_init met standing]
      exact (assigns.stands g evaluator (standing ▸ rfl)).1 c.world
  | resume evaluator answers now reply =>
      obtain ⟨f, standing⟩ := Play.standing_of_resume met
      obtain ⟨rfl, replied⟩ := Play.reply_of_resume met standing
      rw [replied]
      exact (assigns.stands f.goal f.evaluator (standing ▸ rfl)).2 f.answers c.world
  | emit event now reply =>
      rw [Play.reply_of_emit met]
      exact tame.emit event c.world
  | proceed | record => trivial

section Steps

variable [Keyed G] {s s' : Session G V E} {x : Exchange G V E}

/-- Where a fault leads that does not spill over. -/
theorem Session.Step.dooms (taken : s.Step x s') (fails : x.Fails) (dry : ¬ s.Spills x) :
    ∃ g now p, s.point.subject? = some g ∧ p.Dooms g ∧ s' = (s.after now).goTo p := by
  obtain ⟨root, bound, started, now, k, C, point⟩ := s
  cases point with
  | gate g =>
      cases taken with
      | check now' reply =>
          cases fails
          exact ⟨g, now', _, rfl, .log _ (.log _ (.finish false)), rfl⟩
  | create g =>
      cases taken with
      | create now' reply =>
          cases fails
          exact ⟨g, now', _, rfl, .log _ (.log _ .nullEvaluator), rfl⟩
  | init g evaluator t =>
      cases taken with
      | init now' reply =>
          cases fails
          exact ⟨g, now', _, rfl, .log _ (.finish true), rfl⟩
  | round f =>
      cases taken with
      | check now' reply =>
          cases fails
          exact ⟨f.goal, now', _, rfl, .log _ (.log _ (.finish true)), rfl⟩
  | recheck f =>
      cases taken with
      | check now' reply =>
          cases fails
          exact ⟨f.goal, now', _, rfl, .log _ (.log _ (.finish true)), rfl⟩
  | resume f =>
      cases taken with
      | resume now' reply =>
          cases fails with
          | resume => exact ⟨f.goal, now', _, rfl, .log _ (.finish true), rfl⟩
          | more _ _ _ e => exact absurd (.more f.evaluator f.answers now' (.fault e)) dry
  | report events p => cases events <;> cases taken <;> cases fails
  | halt => cases taken
  | _ => cases taken; cases fails

theorem Session.Step.isOver (taken : s.Step x s') (halted : s.point.isOver = true) :
    s'.point.isOver = true := by
  obtain ⟨root, bound, started, now, k, C, point⟩ := s
  cases point with
  | log n p => cases taken; exact halted
  | report events p =>
      cases events with
      | nil => cases taken; exact halted
      | cons event rest =>
          cases taken with
          | emit now' reply =>
              cases reply with
              | none => exact halted
              | some i => rfl
  | halt => cases taken
  | _ => cases halted

end Steps

namespace Play

variable [Keyed G] {h : Host W G V E} {c : Play W G V E}

/-- A goal is answered without a result above the goals that wait, and nothing else on record is
touched. -/
structure GivesUp (b : Nat) (k : Ledger G (Entry V)) (C : List (Frame G V E)) (g : G)
    (d : Play W G V E) : Prop where
  answering : d.At b C (.answer none)
  concluded : Concluded g none k d.session.cache

/-- A fault stays with the goal at which the session stands. -/
def Contains (h : Host W G V E) (c : Play W G V E) (x : Exchange G V E) : Prop :=
  x.Fails → ∃ g, c.session.point.subject? = some g ∧
    c.Arrives h (GivesUp c.session.bound c.session.cache c.session.callers g)

section Doomed

variable [EquivBEq G] {b : Nat} {k : Ledger G (Entry V)} {C : List (Frame G V E)} {g : G}
  {p q : Point G V E} {L : List (G × Ledger G (Option V))}

theorem Stands.givesUp {held : Bool} (stands : c.Stands b k C (.finish g none held) L)
    (always : c.Always h Orderly) : c.Arrives h (GivesUp b k C g) := by
  refine (stands.finishes quiet_of_orderly always).trans fun n answered => .here ?_
  obtain ⟨k', concluded, answering⟩ := answered
  refine ⟨answering.at, ?_⟩
  obtain ⟨⟨_, _, _, session⟩, -⟩ := answering
  rwa [session]

theorem Stands.asks (stands : c.Stands b k C p L) (always : c.Always h Orderly) (held : Bool)
    (next : ∀ root started now,
      Session.next ⟨root, b, started, now, k, C, p⟩ =
        .check (Session.elapsed ⟨root, b, started, now, k, C, p⟩)
          (Session.checked ⟨root, b, started, now, k, C, p⟩ g held q)) :
    (c.after h 1).Stands b k C q L ∨ c.Arrives h (GivesUp b k C g) := by
  obtain ⟨root, started, now, x, s, taken, orderly, session, log⟩ :=
    stands.turn (by simp [next]) always
  rw [Session.Step, next] at taken
  cases taken with
  | check now' reply =>
      have unlogged : (c.after h 1).resumptions = L := log.trans (List.append_nil L)
      cases reply with
      | ok stops =>
          cases stops with
          | false => exact .inl ⟨⟨root, started, now', session⟩, unlogged⟩
          | true =>
              have logged : (c.after h 1).Stands b k C
                  (.log (.pruned g (now' - started)) (.finish g none held)) L :=
                ⟨⟨root, started, now', session⟩, unlogged⟩
              exact .inr (.later (.later (logged.log.givesUp ((always.after 1).after 1))))
      | error failure =>
          cases failure with
          | fault f =>
              have logged : (c.after h 1).Stands b k C (.log (.prunerFailed f)
                  (.log (.pruned g (now' - started)) (.finish g none held))) L :=
                ⟨⟨root, started, now', session⟩, unlogged⟩
              have again := (logged.log (h := h)).log (h := h)
              exact .inr (.later (.later (.later (again.givesUp (always.after 3)))))
          | interrupt i => exact absurd rfl (orderly.1 i)

omit [EquivBEq G] in
theorem standsIn (h : Host W G V E) (c : Play W G V E) : c.Always h fun _ x => x.StandsIn :=
  fun _ _ _ _ met => Host.standsIn met

/-- A null evaluator is handed no answers but those to its empty batch, and is finished then. -/
theorem Stands.standsIn_finishes {t : Float}
    (stands : c.Stands b k C (.dispatch (.begin g (.nullEvaluator g) t [])) L)
    (always : c.Always h Orderly) : c.Arrives h (GivesUp b k C g) := by
  have resuming : (c.after h 1).Stands b k C (.resume (.begin g (.nullEvaluator g) t [])) L :=
    stands.proceed fun _ _ _ => rfl
  have reporting := resuming.resumed (o := .done none) (standsIn h _)
    (fun _ _ replied => replied) fun _ _ => rfl
  refine .later (.later ((reporting.reports quiet_of_orderly (always.after 2)).trans
    fun n producing => ?_))
  have finishing := producing.tell quiet_of_orderly ((always.after 2).after n)
    fun _ _ _ => ⟨_, rfl⟩
  exact .later (finishing.givesUp (((always.after 2).after n).after 1))

theorem Stands.standsIn (stands : c.Stands b k C (.assign g (.nullEvaluator g)) L)
    (always : c.Always h Orderly) : c.Arrives h (GivesUp b k C g) := by
  have assigned : (c.after h 1).Stands b (k.put g ⟨.assigned, none⟩) C
      (.assigned g (.nullEvaluator g))
      L := stands.proceed fun _ _ _ => rfl
  have presenting : (c.after h 2).Stands b (k.put g ⟨.assigned, none⟩) C
      (.present g (.nullEvaluator g))
      L := assigned.tell quiet_of_orderly (always.after 1) fun _ _ _ => ⟨_, rfl⟩
  obtain ⟨t, beginning⟩ := presenting.presented quiet_of_orderly (always.after 2)
  obtain ⟨batch, elapsed, rfl, initialized⟩ := beginning.begun (R := (· = [])) (Play.standsIn h _)
    fun _ _ replied => ⟨[], replied, rfl⟩
  have round : (c.after h 5).Stands b (k.put g ⟨.assigned, none⟩) C
      (.round (.begin g (.nullEvaluator g) t [])) L :=
    initialized.tell quiet_of_orderly (always.after 4) fun _ _ _ => ⟨_, rfl⟩
  -- The batch is empty, so the pruner is asked this once only.
  have gone : (c.after h 5).Arrives h (GivesUp b (k.put g ⟨.assigned, none⟩) C g) := by
    obtain dispatching | gone := round.asks (always.after 5) (q := .dispatch _) true
      fun _ _ _ => rfl
    · exact .later (dispatching.standsIn_finishes ((always.after 5).after 1))
    · exact gone
  obtain ⟨n, answering, concluded⟩ := gone
  refine ⟨5 + n, ?_⟩
  rw [after_add]
  exact ⟨answering, (Undertaken.put g k (by decide)).concluded concluded⟩

theorem givesUp_of_dooms (dooms : p.Dooms g) (stands : c.Stands b k C p L)
    (always : c.Always h Orderly) : c.Arrives h (GivesUp b k C g) := by
  induction dooms generalizing c with
  | finish held => exact stands.givesUp always
  | nullEvaluator => exact stands.standsIn always
  | log n _ ih => exact .later (ih stands.log (always.after 1))

/-- In a session that stays on its course faults stay with their goals. -/
theorem contains_of_orderly (always : c.Always h Orderly) : c.Always h (Contains h) := by
  intro n x s w met fails
  obtain ⟨-, dry⟩ := always n x s w met
  have taken : (c.after h n).session.Step x s := Host.meets_of_meet met
  obtain ⟨g, now, p, subject, dooms, rfl⟩ := taken.dooms fails dry
  have stands : ((c.after h n).after h 1).Stands _ _ _ p _ :=
    ⟨⟨_, _, _, session_of_meet met⟩, rfl⟩
  exact ⟨g, subject, .later (givesUp_of_dooms dooms stands ((always.after n).after 1))⟩

end Doomed

section Spilled

theorem unanswered_of_isOver (halted : c.session.point.isOver = true) (n : Nat) (v : Option V) :
    (c.after h n).session.point ≠ .answer v := by
  have still : (c.after h n).session.point.isOver = true :=
    invariant (I := fun s => s.point.isOver = true) (fun _ _ _ halted taken => taken.isOver halted)
      halted n
  intro answering
  rw [answering] at still
  cases still

theorem outcome_of_unfit {g : G} (standing : c.session.point = .request g)
    (unfit : Keyed.isKey g = false) :
    (c.after h 1).session.outcome? = some (.error (.fault .badType)) := by
  have next : c.session.next = .proceed (c.session.escape (.fault .badType)) := by
    rw [Session.next, standing]
    simp only [Session.lookUp, unfit, Bool.false_eq_true, if_false]
  have met : h.meet c.world c.session.next =
      some (.proceed, c.session.escape (.fault .badType), c.world) := by
    rw [next]
    rfl
  rw [session_of_meet met]
  rfl

theorem escapes_of_more {evaluator : GoalEvaluator G E} {answers : Ledger G (Option V)}
    {now : Float}
    {failure : Failure} {s : Session G V E} {w : W}
    (met : h.meet c.world c.session.next =
      some (.resume evaluator answers now (.ok (.more (.error failure))), s, w)) :
    c.session.point.subject?.isSome ∧
      (c.after h 1).session = (c.session.after now).escape failure := by
  obtain ⟨f, standing⟩ := standing_of_resume met
  have taken := Host.meets_of_meet met
  rw [session_of_meet met, standing]
  rw [Session.next, standing] at taken
  cases taken
  exact ⟨rfl, rfl⟩

/-- A failure that spills over either ends the session with it, or is a fault that no goal takes
upon itself. -/
theorem spilled {x : Exchange G V E} {s : Session G V E} {w : W}
    (met : h.meet c.world c.session.next = some (x, s, w)) (spills : c.session.Spills x) :
    (∃ failure, (c.after h 1).session.outcome? = some (.error failure)) ∨ ¬ Contains h c x := by
  cases spills with
  | request g standing unfit => exact .inl ⟨_, outcome_of_unfit standing unfit⟩
  | more evaluator answers now failure =>
      obtain ⟨subject, session⟩ := escapes_of_more met
      cases failure with
      | interrupt i =>
          refine .inl ⟨.interrupt i, ?_⟩
          rw [session]
          rfl
      | fault f =>
          -- It is not answered here, where it is resumed, nor later, when the session is over.
          refine .inr fun contains => ?_
          obtain ⟨g, -, n, ⟨-, -, answering⟩, -⟩ := contains (.more evaluator answers now f)
          cases n with
          | zero =>
              have here : c.session.point = .answer none := answering
              rw [here] at subject
              cases subject
          | succ n =>
              rw [Nat.add_comm, after_add] at answering
              refine unanswered_of_isOver ?_ n none answering
              rw [session]
              exact Session.escape_isOver _ _

theorem finite_of_over {n : Nat} (halted : (c.after h n).session.outcome?.isSome) : Finite h c := by
  intro g
  refine ⟨(handed (c.after h n).resumptions g).length, fun m => ?_⟩
  by_cases early : m ≤ n
  · obtain ⟨k, rfl⟩ := Nat.exists_eq_add_of_le early
    rw [after_add]
    exact handed_le _ k g
  · obtain ⟨k, rfl⟩ := Nat.exists_eq_add_of_le (Nat.le_of_not_le early)
    refine Nat.le_of_eq ?_
    rw [after_add, after_of_over halted]

/-- A session without interrupts ends with an answer, and faults stay with their goals, as long as
no failure spills over and no goal is resumed for ever. -/
theorem answers_and_contains_iff [EquivBEq G] (tame : h.Tame) {settings : Settings}
    {stackLimit : Int} {root : G} {w : W} :
    ((opening h settings stackLimit root w).Arrives h
          (fun d => ∃ v, d.session.outcome? = some (.ok v)) ∧
        (opening h settings stackLimit root w).Always h (Contains h)) ↔
      (opening h settings stackLimit root w).Always h (fun c x => ¬ c.session.Spills x) ∧
        Finite h (opening h settings stackLimit root w) := by
  constructor
  · rintro ⟨⟨n, v, halted⟩, contains⟩
    refine ⟨fun m x s w' met spills => ?_, finite_of_over (n := n) (by rw [halted]; rfl)⟩
    obtain ⟨failure, failed⟩ | spread := spilled met spills
    · cases outcome_unique (m := n) (n := m + 1) halted failed
    · exact spread (contains m x s w' met)
  · rintro ⟨dry, finite⟩
    have always : (opening h settings stackLimit root w).Always h Orderly :=
      fun n x s w' met => ⟨tame.uninterrupted _ _ _ _ n x s w' met, dry n x s w' met⟩
    exact ⟨opening_answers always finite, contains_of_orderly always⟩

end Spilled

end Play

section Services

variable {F β K L : Type}

/-- No service interrupts a session: neither the factory, the evaluators that it hands
out and the pruner, nor any listener. All of them may fail by faults. -/
structure Services.Tame (p : Services W F β K L) (create : Goal → Attempt W (Option Product))
    (pruner : Pruner K) : Prop where
  factory : ∀ g, (create g).Tame
  init : ∀ g w e, ((create g).perform w).1 = .ok (some e) → (p.initProduct e).Tame
  resume : ∀ g w e, ((create g).perform w).1 = .ok (some e) →
    ∀ answers, (p.resumeProduct e answers).Tame
  shouldStop : ∀ elapsed, (pruner.shouldStop p.askPruner elapsed).Tame
  hear : ∀ l event, (p.hear l event).Tame

theorem deliver_eq_none {hear : L → Attempt W Unit} {record : L → Fault → W → W}
    (tame : ∀ l, (hear l).Tame) (targets : List L) (w : W) :
    (deliver hear record targets w).1 = none := by
  induction targets generalizing w with
  | nil => rfl
  | cons l rest ih =>
      rw [deliver]
      split
      · exact ih _
      · exact ih _
      · rename_i i w' failed
        exact absurd (congrArg Prod.fst failed) (tame l w i)

theorem Services.Tame.host [BEq L] {p : Services W F β K L}
    {create : Goal → Attempt W (Option Product)} {pruner : Pruner K}
    (tame : p.Tame create pruner) (extras : List L) : (p.host create pruner extras).Tame where
  check := tame.shouldStop
  create := tame.factory
  evaluator g w e created := ⟨tame.init g w e created, tame.resume g w e created⟩
  emit event w := deliver_eq_none (fun l => tame.hear l event) _ w

theorem hosting_tame {first : Goal → Attempt W (List Goal)}
    {further : Goal → Ledger Goal (Option Value) → Attempt W (Outcome Goal Value)}
    (init : ∀ g, (first g).Tame) (resume : ∀ g answers, (further g answers).Tame) :
    (Services.hosting first further).Tame hostedFactory .never where
  factory _ := .pure _
  init g w e created := by
    cases created
    exact init g
  resume g w e created answers := by
    cases created
    exact resume g answers
  shouldStop _ := .pure false
  hear l := l.elim

/-- A session without interrupts ends with an answer and keeps each fault with its goal, if and only
if no failure spills over and no goal is resumed for ever. -/
theorem resolve_contains_faults_iff [BEq L] (p : Services W F β K L)
    (create : Goal → Attempt W (Option Product)) (settings : Settings) (stackLimit : Int)
    (pruner : Option (Pruner K)) (extras : List L) (root : Goal) (w : W)
    (tame : p.Tame create (pruner.getD .never)) :
    ((∃ v enough, ∀ n, enough ≤ n →
          (p.resolve create settings stackLimit n pruner extras root w).1 = some (.ok v)) ∧
        (Play.opening (p.host create (pruner.getD .never) extras) settings stackLimit root w).Always
          (p.host create (pruner.getD .never) extras)
          (Play.Contains (p.host create (pruner.getD .never) extras))) ↔
      (Play.opening (p.host create (pruner.getD .never) extras) settings stackLimit root w).Always
          (p.host create (pruner.getD .never) extras) (fun c x => ¬ c.session.Spills x) ∧
        Play.Finite (p.host create (pruner.getD .never) extras)
          (Play.opening (p.host create (pruner.getD .never) extras) settings stackLimit root
            w) := by
  rw [← Play.answers_and_contains_iff (tame.host extras)]
  refine and_congr_left fun _ => ?_
  simp only [Services.resolve, exists_evaluate_iff]
  exact exists_comm

/-- The first goal asks for two others, one of them twice. The one cannot tell what it needs, and
the other fails over its answers. -/
def faultyServices : Services Unit Empty Empty Empty Empty :=
  .hosting
    (fun g =>
      if g == numberedGoal 0 then pure [numberedGoal 1, numberedGoal 2, numberedGoal 1]
      else if g == numberedGoal 1 then .fault (.badValue "no source")
      else pure [])
    fun g _ =>
      if g == numberedGoal 2 then .fault (.broken "no answer")
      else pure (.done (some (.simpleType "int")))

theorem faultyServices_tame : faultyServices.Tame hostedFactory .never := by
  refine hosting_tame (fun g => ?_) fun g answers => ?_
  · split
    · exact .pure _
    · split
      · exact .fault _
      · exact .pure _
  · split
    · exact .fault _
    · exact .pure _

theorem faultyServices_resolved :
    (∃ v enough, ∀ n, enough ≤ n →
        (faultyServices.resolve hostedFactory .standard 1000 n none [] (numberedGoal 0) ()).1 =
          some (.ok v)) ∧
      (Play.opening (faultyServices.host hostedFactory .never []) .standard 1000 (numberedGoal 0)
          ()).Always (faultyServices.host hostedFactory .never [])
        (Play.Contains (faultyServices.host hostedFactory .never [])) := by
  have halted : ((Play.opening (faultyServices.host hostedFactory .never []) .standard 1000
      (numberedGoal 0) ()).after (faultyServices.host hostedFactory .never [])
        60).session.outcome?.isSome := by decide +kernel
  have dry : ∀ m ∈ ((Play.opening (faultyServices.host hostedFactory .never []) .standard 1000
      (numberedGoal 0) ()).after (faultyServices.host hostedFactory .never []) 60).past,
        ¬ m.session.Spills m.exchange := by decide +kernel
  exact (resolve_contains_faults_iff faultyServices hostedFactory .standard 1000 none []
    (numberedGoal 0) () faultyServices_tame).mpr
      ⟨Play.always_of_past (Q := fun s x => ¬ s.Spills x) halted dry, Play.finite_of_over halted⟩

/-- A fault in going through the goals that an evaluator asks for ends the whole session. -/
example :
    ((Services.hosting (fun _ => pure [])
        fun _ _ => pure (.more (.error (.fault (.badValue "no more"))))).resolve hostedFactory
      .standard 1000 20 none [] (numberedGoal 0) ()).1.map
        (fun | .error f => some f | .ok _ => none) =
      some (some (.fault (.badValue "no more"))) := by
  decide +kernel

end Services

end Pursuit

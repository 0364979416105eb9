import Pursuit.Proofs.Session.Fate
import Pursuit.Proofs.Session.Formation

/-! # Why a goal has no result

A goal is answered because its evaluator came to a result, of which listeners are told, or because
it was given up, and then a log record says why. Each goal that is answered has one or the other,
and that once. A request that closes a cycle is answered apart from this, and has a log record of
its own.
-/

namespace Pursuit

variable {W G V E : Type}

/-- The log record says why a goal is left without a result: it was pruned, lies too deep, or its
evaluator failed. -/
def SessionRecord.isExplanation : SessionRecord G E → Bool
  | .pruned .. | .tooDeep .. | .initFailed .. | .resumeFailed .. | .strayOutcome .. => true
  | _ => false

theorem SessionRecord.Explains.isExplanation {evaluators : GoalEvaluator G E → Prop} {g : G}
    {n : SessionRecord G E}
    (explanations : n.Explains evaluators g) : n.isExplanation = true := by
  cases n with
  | pruned | tooDeep | initFailed | resumeFailed | strayOutcome => rfl
  | _ => cases explanations

namespace Moment

/-- The goal for which a log record is written that says why it has no result. -/
def explained? (m : Moment G V E) : Option G :=
  match m.exchange with
  | .record n => if n.isExplanation then m.session.point.subject? else none
  | _ => none

/-- The goal of whose result listeners are told. -/
def produced? (m : Moment G V E) : Option G :=
  match m.exchange with
  | .emit (.produced ..) _ _ => m.session.point.subject?
  | _ => none

theorem produced?_of_explained? {m : Moment G V E} {g : G} (explained : m.explained? = some g) :
    m.produced? = none := by
  obtain ⟨s, x⟩ := m
  cases x with
  | record n => rfl
  | _ => cases explained

end Moment

/-- The goal whose answer is put on record next. -/
def Point.finishing? : Point G V E → Option G
  | .finish g _ _ => some g
  | _ => none

theorem Point.finishing?_eq_some {p : Point G V E} {g : G} :
    p.finishing? = some g ↔ ∃ v held, p = .finish g v held := by
  cases p <;> simp [finishing?]

namespace Point.Formed

variable {suits : G → GoalEvaluator G E → Prop} {n : SessionRecord G E} {p : Point G V E}

theorem finish_of_explanation (formed : Formed suits (.log n p))
    (explanation : n.isExplanation = true) :
    ∃ g held, p = .finish g none held ∧ n.Explains (suits g) g := by
  cases formed with
  | bare single => cases single
  | @explanation _ g held explanations => exact ⟨g, held, rfl, explanations⟩
  | _ => cases explanation

theorem finishing? (formed : Formed suits (.log n p)) :
    p.finishing? = if n.isExplanation then p.subject? else none := by
  cases explanation : n.isExplanation with
  | true =>
      obtain ⟨g, held, rfl, -⟩ := formed.finish_of_explanation explanation
      rfl
  | false =>
      cases formed with
      | bare single => cases single
      | explanation explanations => cases explanation.symm.trans explanations.isExplanation
      | _ => rfl

end Point.Formed

namespace Session

/-- The answer to the goal is on record. -/
def isDone [BEq G] (s : Session G V E) (g : G) : Bool :=
  (s.cache.find? g).any (·.state == .done)

/-- The answer to the goal is on record, or it is put there next. -/
def isSettled [BEq G] (s : Session G V E) (g : G) : Bool :=
  s.point.finishing?.any (· == g) || s.isDone g

theorem isDone_iff [BEq G] {s : Session G V E} {g : G} :
    s.isDone g = true ↔ ∃ v, s.cache.find? g = some ⟨.done, v⟩ := by
  unfold isDone
  cases found : s.cache.find? g with
  | none => simp
  | some e =>
      obtain ⟨state, v⟩ := e
      simp

variable {suits : G → GoalEvaluator G E → Prop} {s s' : Session G V E} {x : Exchange G V E}

theorem finishing?_of_onward {p : Point G V E} (onward : s.point.Onward x p)
    (formed : s.point.Formed suits) (reports : s.point.Reports) :
    p.finishing? = (Moment.explained? ⟨s, x⟩).or (Moment.produced? ⟨s, x⟩) := by
  obtain ⟨root, bound, started, now, cache, callers, here⟩ := s
  cases onward with
  | report event rest p =>
      obtain ⟨_, _, _, _, rfl⟩ := reports.1 event (.head _)
      rfl
  | reported p =>
      cases formed with
      | bare single => cases single
      | result | further => rfl
  | log n p => exact formed.finishing?.trans Option.or_none.symm
  | _ => rfl

variable [Keyed G]

theorem Turn.finishing? (turn : s.Turn x s') (formed : s.point.Formed suits)
    (reports : s.point.Reports) (running : s'.point.isOver = false) :
    s'.point.finishing? = (Moment.explained? ⟨s, x⟩).or (Moment.produced? ⟨s, x⟩) := by
  cases turn with
  | stay now onward => exact finishing?_of_onward onward formed reports
  | escape now failure =>
      rw [escape_isOver] at running
      cases running
  | _ => rfl

/-- What is written at a step is the log record that stands before the next point. -/
theorem Step.point_of_record {n : SessionRecord G E} (taken : s.Step (.record n) s') :
    s.point = .log n s'.point := by
  obtain ⟨root, bound, started, now, cache, callers, here⟩ := s
  cases here with
  | report events p => cases events <;> cases taken
  | log n p => cases taken; rfl
  | _ => cases taken

section Settled

variable [EquivBEq G] {g : G}

theorem Step.find?_of_finish {v : Option V} {held : Bool} (taken : s.Step x s')
    (standing : s.point = .finish g v held) : s'.cache.find? g = some ⟨.done, v⟩ := by
  obtain ⟨root, bound, started, now, cache, callers, here⟩ := s
  cases standing
  cases taken
  exact Ledger.find?_put_self _ _ _

theorem Step.isDone (taken : s.Step x s') (coherent : s.Coherent) :
    s'.isDone g = s.isSettled g := by
  rw [Bool.eq_iff_iff, isSettled, Bool.or_eq_true]
  constructor
  · intro done
    obtain ⟨v, done⟩ := isDone_iff.mp done
    obtain before | ⟨k, brought, same⟩ := (Turn.of_step coherent taken).done_cases done
    · exact .inr (isDone_iff.mpr ⟨v, before⟩)
    · left
      unfold Moment.brings? at brought
      split at brought <;> simp_all [Point.finishing?]
  · rintro (finishing | done)
    · obtain ⟨k, standing, same⟩ := (Option.any_eq_true _ _).mp finishing
      obtain ⟨v, held, standing⟩ := Point.finishing?_eq_some.mp standing
      refine isDone_iff.mpr ⟨v, ?_⟩
      rw [← Ledger.find?_congr same]
      exact taken.find?_of_finish standing
    · obtain ⟨v, done⟩ := isDone_iff.mp done
      exact isDone_iff.mpr ⟨v, (Effect.of_step coherent taken).done done⟩

theorem Coherent.not_isDone (coherent : s.Coherent)
    (finishing : s.point.finishing?.any (· == g) = true) : s.isDone g = false := by
  obtain ⟨k, standing, same⟩ := (Option.any_eq_true _ _).mp finishing
  obtain ⟨v, held, standing⟩ := Point.finishing?_eq_some.mp standing
  have expects := (coherent.stands k (by rw [standing]; rfl)).2
  rw [standing] at expects
  obtain ⟨state, undone, found⟩ := expects
  rw [Session.isDone, ← Ledger.find?_congr same, found]
  simpa using undone

/-- A goal gets settled when a log record or an event says why, and it stays settled. -/
theorem Step.settles (taken : s.Step x s') (coherent : s.Coherent)
    (formed : s.point.Formed suits) (reports : s.point.Reports)
    (running : s'.point.isOver = false) :
    ((Moment.explained? ⟨s, x⟩).any (· == g)).toNat +
    ((Moment.produced? ⟨s, x⟩).any (· == g)).toNat +
      (s.isSettled g).toNat = (s'.isSettled g).toNat := by
  have finishing := (Turn.of_step coherent taken).finishing? formed reports running
  have apart := (coherent.step taken).not_isDone (g := g)
  rw [taken.isDone coherent] at apart
  have after : s'.isSettled g = (s'.point.finishing?.any (· == g) || s.isSettled g) := by
    rw [← taken.isDone coherent]
    rfl
  rw [after]
  cases explained : Moment.explained? ⟨s, x⟩ with
  | some k =>
      rw [explained, Option.some_or] at finishing
      rw [finishing] at apart ⊢
      rw [Moment.produced?_of_explained? explained]
      cases same : k == g <;> simp_all
  | none =>
      rw [explained, Option.none_or] at finishing
      rw [finishing] at apart ⊢
      cases told : (Moment.produced? ⟨s, x⟩).any (· == g) <;> simp_all

end Settled

theorem Step.point_ne_log (taken : s.Step x s') (formed : s.point.Formed suits) {v : Option V}
    (answering : s.point.stance = .answering v) (g : G) :
    s'.point ≠ .log (.cycleClosed g) (.answer none) := by
  intro point
  obtain ⟨root, bound, started, now, cache, callers, here⟩ := s
  cases here with
  | answer v =>
      cases taken
      unfold deliver at point
      split at point <;> cases point
  | log n p =>
      cases taken
      cases point
      cases formed with
      | bare single => cases single
  | report events p =>
      cases formed with
      | bare single => cases single
      | result => cases answering
      | further => cases answering
  | _ => cases answering

theorem Step.closes [EquivBEq G] (taken : s.Step x s') (coherent : s.Coherent)
    (formed : s.point.Formed suits) {g : G}
    (point : s'.point = .log (.cycleClosed g) (.answer none)) :
    s.point = .request g ∧ s.path.any (· == g) = true := by
  cases Turn.of_step coherent taken with
  | close before active =>
      cases point
      exact ⟨before, active⟩
  | @stay _ p now onward =>
      have here : p = .log (.cycleClosed g) (.answer none) := point
      have stance := onward.stance
      rw [here] at stance
      exact absurd point (taken.point_ne_log formed stance.symm g)
  | escape now failure =>
      have ending := escape_isEnding (s.after now) failure
      rw [point] at ending
      cases ending
  | _ => cases point

/-- A request for a goal in progress closes a cycle, unless it breaks the session off. -/
theorem Step.point_of_request [EquivBEq G] (taken : s.Step x s') (coherent : s.Coherent)
    (running : s'.point.isOver = false) {g : G} (standing : s.point = .request g)
    (active : s.path.any (· == g) = true) :
    s'.point = .log (.cycleClosed g) (.answer none) := by
  have waits := coherent.find?_of_active standing active
  obtain ⟨root, bound, started, now, cache, callers, here⟩ := s
  cases standing
  cases taken
  unfold lookUp at running ⊢
  split at running
  · rename_i key
    rw [if_pos key, waits]
    simp only [active, if_true]
    rfl
  · cases running

/-- The root is answered, and at most a log record about this is left to write. -/
def Concluded (s : Session G V E) : Prop :=
  s.answer?.isSome = true ∨
    (∃ root t goals outcome, s.point = .log (.evaluated root t goals) (.halt outcome)) ∨
    ∃ outcome, s.point = .halt outcome

omit [Keyed G] in
theorem not_concluded_of_request {g : G} (standing : s.point = .request g) : ¬s.Concluded := by
  simp [Concluded, answer?, standing]

omit [Keyed G] in
theorem not_concluded_of_explanation {n : SessionRecord G E} {p : Point G V E}
    (standing : s.point = .log n p)
    (explanation : n.isExplanation = true) : ¬s.Concluded := by
  rintro (answers | ⟨_, _, _, _, evaluated⟩ | ⟨_, halted⟩)
  · rw [answer?, standing] at answers
    cases answers
  · cases standing.symm.trans evaluated
    cases explanation
  · cases standing.symm.trans halted

theorem Step.concluded (taken : s.Step x s') (concluded : s.Concluded) :
    s'.Concluded ∧ s'.cache = s.cache ∧
      (x = .proceed ∨ ∃ root t goals, x = .record (.evaluated root t goals)) := by
  obtain ⟨root, bound, started, now, cache, callers, here⟩ := s
  obtain answers | ⟨_, _, _, outcome, standing⟩ | ⟨outcome, standing⟩ := concluded
  · obtain ⟨v, answers⟩ := Option.isSome_iff_exists.mp answers
    obtain ⟨standing, alone⟩ := (answer?_eq_some_iff _ v).mp answers
    cases standing
    cases alone
    cases taken
    exact ⟨.inr (.inl ⟨_, _, _, _, rfl⟩), rfl, .inl rfl⟩
  · cases standing
    cases taken
    exact ⟨.inr (.inr ⟨outcome, rfl⟩), rfl, .inr ⟨_, _, _, rfl⟩⟩
  · cases standing
    cases taken

end Session

namespace Play

variable [Keyed G] {h : Host W G V E} {c : Play W G V E}

/-- How often a log record said why the goal has no result. -/
def explanations (c : Play W G V E) (g : G) : Nat :=
  c.past.countP (·.explained?.any (· == g))

/-- How often listeners were told of a result of the goal. -/
def results (c : Play W G V E) (g : G) : Nat :=
  c.past.countP (·.produced?.any (· == g))

theorem concluded_after (concluded : c.session.Concluded) (n : Nat) :
    (c.after h n).session.Concluded ∧ (c.after h n).session.cache = c.session.cache ∧
      ∀ g, (c.after h n).explanations g = c.explanations g ∧
        (c.after h n).results g = c.results g := by
  refine along (I := fun d => d.session.Concluded ∧ d.session.cache = c.session.cache ∧
    ∀ g, d.explanations g = c.explanations g ∧ d.results g = c.results g)
    ⟨concluded, rfl, fun _ => ⟨rfl, rfl⟩⟩ ?_ n
  rintro n x s w ⟨before, cache, counts⟩ - taken
  obtain ⟨after, kept, quiet⟩ := taken.concluded before
  refine ⟨after, kept.trans cache, fun g => ?_⟩
  rw [← (counts g).1, ← (counts g).2]
  obtain rfl | ⟨_, _, _, rfl⟩ := quiet
  · simp [explanations, results, Moment.explained?, Moment.produced?]
  · simp [explanations, results, Moment.explained?, Moment.produced?, SessionRecord.isExplanation]

/-- Each goal is answered for one reason that is told or written, and that once. -/
theorem explanations_add_results [EquivBEq G] {suits : G → GoalEvaluator G E → Prop}
    (coherent : c.session.Coherent) (reports : c.session.point.Reports)
    (formed : ∀ k, (c.after h k).session.point.Formed suits) (begins : c.past = [])
    (empty : ∀ g, c.session.isSettled g = false) {n : Nat}
    (running : ∀ k, k ≤ n → (c.after h k).session.point.isOver = false) (g : G) :
    (c.after h n).explanations g + (c.after h n).results g =
      ((c.after h n).session.isSettled g).toNat := by
  refine (along_running (I := fun _ d => d.session.Coherent ∧ d.session.point.Reports ∧
    d.explanations g + d.results g = (d.session.isSettled g).toNat) running
    ⟨coherent, reports, ?_⟩ ?_).2.2
  · simp [explanations, results, begins, empty g]
  · rintro k x s w - ⟨coherent, reports, counts⟩ - taken further
    refine ⟨coherent.step taken, Session.reports_step reports taken, ?_⟩
    have settled := taken.settles (g := g) coherent (formed k) reports further
    have one : ∀ b : Bool, (if b = true then 1 else 0) = b.toNat := fun b => by cases b <;> rfl
    simp only [explanations, results, List.countP_append, List.countP_singleton, one] at counts ⊢
    omega

theorem lt_of_not_concluded {n m : Nat} (concluded : (c.after h n).session.Concluded)
    (ongoing : ¬(c.after h m).session.Concluded) : m < n := by
  by_contra late
  obtain ⟨k, rfl⟩ := Nat.exists_eq_add_of_le (Nat.le_of_not_lt late)
  rw [after_add] at ongoing
  exact ongoing (concluded_after concluded k).1

theorem point_of_record {n : Nat} {entry : SessionRecord G E}
    (met : c.exchange? h n = some (.record entry)) :
    (c.after h n).session.point = .log entry (c.after h (n + 1)).session.point := by
  obtain ⟨s, w, -, taken, next⟩ := step_of_exchange? met
  rw [next]
  exact taken.point_of_record

theorem record_of_point {n : Nat} {entry : SessionRecord G E} {p : Point G V E}
    (standing : (c.after h n).session.point = .log entry p) :
    c.exchange? h n = some (.record entry) := by
  rw [exchange?, Session.next, standing]
  rfl

section Requests

variable [EquivBEq G] {g : G}

theorem find?_of_finish (coherent : ∀ k, (c.after h k).session.Coherent) {n m : Nat}
    {v : Option V} {held : Bool} (standing : (c.after h n).session.point = .finish g v held)
    (later : n < m) : (c.after h m).session.cache.find? g = some ⟨.done, v⟩ := by
  have running : (c.after h n).session.outcome? = none := by rw [Session.outcome?, standing]
  obtain ⟨x, -, taken⟩ := exists_exchange running
  obtain ⟨k, rfl⟩ := Nat.exists_eq_add_of_lt later
  rw [Nat.add_right_comm, after_add]
  exact find?_done_after (coherent (n + 1)) (taken.find?_of_finish standing) k

theorem record_of_request (coherent : ∀ k, (c.after h k).session.Coherent) {n : Nat}
    (running : (c.after h (n + 1)).session.point.isOver = false)
    (standing : (c.after h n).session.point = .request g)
    (active : (c.after h n).session.path.any (· == g) = true) :
    c.exchange? h (n + 1) = some (.record (.cycleClosed g)) ∧
      (c.after h (n + 2)).session.point = .answer none := by
  have ongoing : (c.after h n).session.outcome? = none := by rw [Session.outcome?, standing]
  obtain ⟨x, -, taken⟩ := exists_exchange ongoing
  have logged := taken.point_of_request (coherent n) running standing active
  have written := record_of_point logged
  rw [point_of_record written] at logged
  exact ⟨written, (Point.log.inj logged).2⟩

theorem request_of_record {suits : G → GoalEvaluator G E → Prop}
    (coherent : ∀ k, (c.after h k).session.Coherent)
    (formed : ∀ k, (c.after h k).session.point.Formed suits)
    (fresh : ∀ p, c.session.point ≠ .log (.cycleClosed g) p) {n : Nat}
    (met : c.exchange? h n = some (.record (.cycleClosed g))) :
    ∃ k, n = k + 1 ∧ (c.after h k).session.point = .request g ∧
      (c.after h k).session.path.any (· == g) = true := by
  have logged := point_of_record met
  cases n with
  | zero => exact absurd logged (fresh _)
  | succ k =>
      have answers : (c.after h (k + 2)).session.point = .answer none := by
        have shape := formed (k + 1)
        rw [logged] at shape
        generalize (c.after h (k + 2)).session.point = p at shape ⊢
        cases shape with
        | bare single => cases single
        | explanation explanations => cases explanations
        | cycle => rfl
      rw [answers] at logged
      refine ⟨k, rfl, ?_⟩
      have running : (c.after h (k + 1)).session.outcome? = none := by
        rw [Session.outcome?, logged]
      obtain ⟨x, -, taken⟩ := exists_exchange (running_before running)
      exact taken.closes (coherent k) (formed k) logged

end Requests

end Play

/-- In every session that answers its root, whoever its host is. Each goal that is answered was
explained by a log record or had its result told, one of these and once, and no other goal had
either. The log record names the goal or an evaluator that was assigned for it, and the answer is
then none. A request for a goal in progress is answered with none after a log record of its own,
and such a log record is written for no other request. -/
theorem silent_answers_are_explained (h : Host W Goal V E) (settings : Settings)
    (stackLimit : Int) (root : Goal) (w : W) (n : Nat) (v : Option V)
    (answers : ((Play.opening h settings stackLimit root w).after h n).session.answer? = some v) :
    let c := Play.opening h settings stackLimit root w
    (∀ m g, n ≤ m → (c.after h m).explanations g + (c.after h m).results g =
      ((c.after h m).session.isDone g).toNat) ∧
    (∀ m entry, c.exchange? h m = some (.record entry) → entry.isExplanation = true →
      ∃ g, (c.after h m).session.point.subject? = some g ∧ entry.Explains (c.Assigned h g) g ∧
        (c.after h n).session.cache.find? g = some ⟨.done, none⟩) ∧
    (∀ m g, (c.after h m).session.point = .request g →
      (c.after h m).session.path.any (· == g) = true →
      c.exchange? h (m + 1) = some (.record (.cycleClosed g)) ∧
        (c.after h (m + 2)).session.point = .answer none) ∧
    ∀ m g, c.exchange? h m = some (.record (.cycleClosed g)) →
      ∃ k, m = k + 1 ∧ (c.after h k).session.point = .request g ∧
        (c.after h k).session.path.any (· == g) = true := by
  intro c
  have kept : c.session.Kept := .start root _ _ _
  have coherent : ∀ k, (c.after h k).session.Coherent := Play.coherent_after kept.coherent
  have formed : ∀ k, (c.after h k).session.point.Formed (c.Assigned h) := fun k =>
    (Play.opening_formed h settings stackLimit root w k).2
  have running : ∀ k, k ≤ n → (c.after h k).session.point.isOver = false := fun k =>
    Play.running_of_answer kept answers
  have answered := ((Session.answer?_eq_some_iff _ v).mp answers).1
  have concluded : (c.after h n).session.Concluded := .inl (by rw [answers]; rfl)
  have opens : c.session.point.Reports ∧ (∀ g, c.session.isSettled g = false) ∧
      ∀ g p, c.session.point ≠ .log (.cycleClosed g) p := by
    unfold c Play.opening Session.start
    split <;> exact ⟨trivial, fun _ => rfl, by simp⟩
  refine ⟨?_, ?_, ?_, ?_⟩
  · intro m g late
    obtain ⟨k, rfl⟩ := Nat.exists_eq_add_of_le late
    obtain ⟨-, cache, counts⟩ := Play.concluded_after (h := h) concluded k
    rw [Play.after_add, (counts g).1, (counts g).2, Session.isDone, cache]
    have settled :=
      Play.explanations_add_results kept.coherent opens.1 formed rfl opens.2.1 running g
    rw [settled, Session.isSettled, answered]
    rfl
  · intro m entry met explanation
    have logged := Play.point_of_record met
    have shape := formed m
    rw [logged] at shape
    obtain ⟨g, held, finishing, explanations⟩ := shape.finish_of_explanation explanation
    refine ⟨g, by rw [logged, finishing]; rfl, explanations, ?_⟩
    refine Play.find?_of_finish coherent finishing (Nat.lt_of_le_of_ne ?_ ?_)
    · exact Play.lt_of_not_concluded concluded
        (Session.not_concluded_of_explanation logged explanation)
    · rintro rfl
      cases finishing.symm.trans answered
  · intro m g standing active
    have early := Play.lt_of_not_concluded concluded (Session.not_concluded_of_request standing)
    exact Play.record_of_request coherent (running (m + 1) early) standing active
  · intro m g met
    exact Play.request_of_record coherent formed (opens.2.2 g) met

/-- A host in whose session goals stay without a result for every reason there is: one fails at
once, one when it is resumed, one answers with something stray, one lies too deep for a small stack,
and one is pruned. The world is the number of checks. -/
def troubledHost : Host Nat Goal Unit Goal where
  clock _ := 0.0
  check _ := .ofFunction fun checks => (.ok (decide (checks = 11)), checks + 1)
  create g := pure (some g)
  init g := .ofFunction fun checks =>
    (if g == numberedGoal 0 then .ok ([1, 2, 3, 0, 4, 6].map numberedGoal)
      else if g == numberedGoal 1 then .error (.fault .badType)
      else if g == numberedGoal 4 then .ok [numberedGoal 5] else .ok [], checks)
  resume g _ := .ofFunction fun checks =>
    (if g == numberedGoal 2 then .error (.fault .badType)
      else if g == numberedGoal 3 then .ok (.stray "int" "3") else .ok (.done (some ())), checks)
  emit _ checks := (none, checks)
  record _ checks := checks

theorem troubledHost_explained :
    let c := Play.opening troubledHost .standard 206 (numberedGoal 0) 0
    (c.after troubledHost 116).session.answer? = some (some ()) ∧
    (∀ g ∈ [1, 2, 3, 5, 6].map numberedGoal,
      (c.after troubledHost 116).results g = 0 ∧ (c.after troubledHost 116).explanations g = 1) ∧
    (∀ g ∈ [0, 4].map numberedGoal,
      (c.after troubledHost 116).results g = 1 ∧ (c.after troubledHost 116).explanations g = 0) ∧
    ∃ m g, (g == numberedGoal 0) = true ∧ (c.after troubledHost m).session.point = .request g ∧
      c.exchange? troubledHost (m + 1) = some (.record (.cycleClosed g)) ∧
      (c.after troubledHost (m + 2)).session.point = .answer none := by
  -- with a name for the play nothing but the facts below has to be computed
  obtain ⟨c, play⟩ : ∃ c, c = Play.opening troubledHost .standard 206 (numberedGoal 0) 0 :=
    ⟨_, rfl⟩
  have explained := silent_answers_are_explained troubledHost .standard 206 (numberedGoal 0) 0 116
    (some ())
  rw [← play] at explained ⊢
  have answers : (c.after troubledHost 116).session.answer? = some (some ()) := by
    subst play
    decide +kernel
  have untold : ∀ g ∈ [1, 2, 3, 5, 6].map numberedGoal,
      (c.after troubledHost 116).session.isDone g = true ∧
        (c.after troubledHost 116).results g = 0 := by
    subst play
    decide +kernel
  have told : ∀ g ∈ [0, 4].map numberedGoal,
      (c.after troubledHost 116).session.isDone g = true ∧
        (c.after troubledHost 116).results g = 1 := by
    subst play
    decide +kernel
  have again : (c.after troubledHost 62).session.point.requested?.any (· == numberedGoal 0) = true ∧
      (c.after troubledHost 62).session.path.any (· == numberedGoal 0) = true := by
    subst play
    decide +kernel
  obtain ⟨once, -, cycles, -⟩ := explained answers
  refine ⟨answers, ?_, ?_, ?_⟩
  · intro g member
    obtain ⟨done, none⟩ := untold g member
    have sum := once 116 g (Nat.le_refl _)
    rw [done, none, Bool.toNat_true, Nat.add_zero] at sum
    exact ⟨none, sum⟩
  · intro g member
    obtain ⟨done, one⟩ := told g member
    have sum := once 116 g (Nat.le_refl _)
    rw [done, one, Bool.toNat_true, Nat.add_eq_right] at sum
    exact ⟨one, sum⟩
  · obtain ⟨g, requested, same⟩ := Point.exists_request again.1
    have active : (c.after troubledHost 62).session.path.any (· == g) = true := by
      rw [any_congr same]
      exact again.2
    obtain ⟨written, answered⟩ := cycles 62 g requested active
    exact ⟨62, g, same, requested, written, answered⟩

end Pursuit

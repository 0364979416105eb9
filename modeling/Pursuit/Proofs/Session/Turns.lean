import Mathlib.Data.List.Basic
import Pursuit.Proofs.Session.Once

/-! # The turns of a session

A session has some twenty kinds of points, but few of its steps touch the goals under way. A goal is
requested and is known or new, it is let onto the path, it requests a subgoal and takes in the
answer, it leaves the path, and in the end the root is answered or a failure breaks the session off.
`Turn` lists these, and puts all that happens to one goal in between into a single case, whose moves
are those of `Onward`.
-/

namespace Pursuit

variable {W G V E : Type}

/-- What a session is about at a point. -/
inductive Stance (G V : Type) where
  | opening
  | requesting (goal : G)
  | working (goal : G)
  | answering (value : Option V)
  | ended

namespace Point

def stance : Point G V E → Stance G V
  | .announce => .opening
  | .request g => .requesting g
  | .answer v => .answering v
  | .enter g | .gate g | .create g | .assign g _ | .assigned g _ | .present g _ => .working g
  | .init g _ _ | .finish g _ _ | .finished g _ _ _ => .working g
  | .initialized f _ | .round f | .await f | .awaiting f => .working f.goal
  | .dispatch f | .recheck f | .resume f | .produce f _ => .working f.goal
  | .report _ p | .log _ p => p.stance
  | .halt _ => .ended

/-- A batch is through before its answers are handed over. -/
def Ready : Point G V E → Prop
  | .recheck f | .resume f => f.waiting = []
  | .report _ p | .log _ p => p.Ready
  | _ => True

theorem stance_eq_working_iff (p : Point G V E) (g : G) :
    p.stance = .working g ↔ p.subject? = some g := by
  induction p with
  | report _ _ ih => exact ih
  | log _ _ ih => exact ih
  | _ => simp [stance, subject?]

theorem stance_eq_ended_iff (p : Point G V E) : p.stance = .ended ↔ p.isOver = true := by
  induction p with
  | report _ _ ih => exact ih
  | log _ _ ih => exact ih
  | _ => simp [stance, isOver]

theorem subject?_of_held? {p : Point G V E} {g : G} (held : p.held? = some g) :
    p.subject? = some g := by
  induction p with
  | report _ _ ih => exact ih held
  | log _ _ ih => exact ih held
  | finish k v h => cases h <;> simp_all [held?, subject?]
  | finished k v old h => cases h <;> simp_all [held?, subject?]
  | announce | request | answer | enter | gate | halt => simp [held?] at held
  | _ => exact held

theorem held?_of_isOver {p : Point G V E} (halted : p.isOver = true) : p.held? = none := by
  cases held : p.held? with
  | none => rfl
  | some g =>
      have standing := subject?_of_held? held
      rw [subject?_of_isOver halted] at standing
      cases standing

theorem ready_of_isOver {p : Point G V E} (halted : p.isOver = true) : p.Ready := by
  induction p with
  | report _ _ ih => exact ih halted
  | log _ _ ih => exact ih halted
  | halt => trivial
  | _ => cases halted

end Point

theorem Frame.receive_goal [BEq G] (f : Frame G V E) (value : Option V) (now : Float) :
    (f.receive value now).goal = f.goal := by
  unfold Frame.receive
  split <;> rfl

/-- The goal whose evaluator asked for goals at a moment, and these goals. -/
def Moment.request? (m : Moment G V E) : Option (G × List G) :=
  match m.exchange, m.session.point with
  | .init _ _ (.ok goals), .init g _ _ => some (g, goals)
  | .resume _ _ _ (.ok (.more (.ok goals))), .resume f => some (f.goal, goals)
  | _, _ => none

theorem Moment.subject?_of_request? {m : Moment G V E} {g : G} {goals : List G}
    (asked : m.request? = some (g, goals)) : m.session.point.subject? = some g := by
  unfold Moment.request? at asked
  split at asked
  · rename_i standing
    cases asked
    rw [standing]
    rfl
  · rename_i f _ standing
    cases asked
    rw [standing]
    rfl
  · cases asked

/-! ## Moves within a goal -/

namespace Point

/-- The goal for which the pruner is asked, and whether it stands on the path. -/
def checks? : Point G V E → Option (G × Bool)
  | .gate g => some (g, false)
  | .round f | .recheck f => some (f.goal, true)
  | _ => none

/-- How a session goes on with what it is about, as long as nothing is put on record: from a point,
by an exchange, to the next point. -/
inductive Onward : Point G V E → Exchange G V E → Point G V E → Prop where
  | enter (g : G) (now : Float) :
      Onward (.enter g) (.emit (.stateChanged g .pending none) now none) (.gate g)
  | create (g : G) (now : Float) (e : E) :
      Onward (.create g) (.create g now (.ok (some e))) (.assign g (.evaluator e))
  | noEvaluator (g : G) (now : Float) :
      Onward (.create g) (.create g now (.ok none)) (Session.withoutEvaluator g)
  | factoryFailed (g : G) (now : Float) (f : Fault) :
      Onward (.create g) (.create g now (.error (.fault f)))
        (.log (.factoryFailed g f) (Session.withoutEvaluator g))
  | assigned (g : G) (evaluator : GoalEvaluator G E) (now : Float) :
      Onward (.assigned g evaluator) (.emit (.stateChanged g .assigned (some .pending)) now none)
        (.present g evaluator)
  | present (g : G) (evaluator : GoalEvaluator G E) (now : Float) :
      Onward (.present g evaluator) (.emit (.evaluatorAssigned g evaluator) now none)
        (.init g evaluator now)
  | init (g : G) (evaluator : GoalEvaluator G E) (assignedAt now elapsed : Float) (batch : List G) :
      Onward (.init g evaluator assignedAt) (.init evaluator now (.ok batch))
        (.initialized (.begin g evaluator assignedAt batch) elapsed)
  | initFailed (g : G) (evaluator : GoalEvaluator G E) (assignedAt now : Float) (f : Fault) :
      Onward (.init g evaluator assignedAt) (.init evaluator now (.error (.fault f)))
        (.log (.initFailed evaluator f) (.finish g none true))
  | initialized (f : Frame G V E) (elapsed now : Float) :
      Onward (.initialized f elapsed)
        (.emit (.initialized f.evaluator f.batch elapsed) now none) (.round f)
  | round (f : Frame G V E) (elapsed now : Float) :
      Onward (.round f) (.check elapsed now (.ok false)) (.dispatch f)
  /-- A goal that waits for the first time is to be put on record as such. -/
  | firstRound (f : Frame G V E) (elapsed now : Float) :
      Onward (.round f) (.check elapsed now (.ok false)) (.await f)
  | awaiting (f : Frame G V E) (now : Float) :
      Onward (.awaiting f) (.emit (.stateChanged f.goal .awaiting (some .assigned)) now none)
        (.dispatch f)
  | noBatch (f : Frame G V E) (through : f.waiting = []) (empty : f.batch.isEmpty = true) :
      Onward (.dispatch f) .proceed (.resume f)
  /-- A batch is through, and the pruner is asked once more. -/
  | batch (f : Frame G V E) (through : f.waiting = []) : Onward (.dispatch f) .proceed (.recheck f)
  | recheck (f : Frame G V E) (elapsed now : Float) :
      Onward (.recheck f) (.check elapsed now (.ok false)) (.resume f)
  | tooDeep (g : G) (bound : Nat) (elapsed now : Float) :
      Onward (.gate g) (.check elapsed now (.ok false))
        (.log (.tooDeep bound g) (.finish g none false))
  | pruned {p : Point G V E} {g : G} {held : Bool} (asked : p.checks? = some (g, held))
      (elapsed now spent : Float) :
      Onward p (.check elapsed now (.ok true)) (.log (.pruned g spent) (.finish g none held))
  | prunerFailed {p : Point G V E} {g : G} {held : Bool} (asked : p.checks? = some (g, held))
      (elapsed now spent : Float) (f : Fault) :
      Onward p (.check elapsed now (.error (.fault f)))
        (.log (.prunerFailed f) (.log (.pruned g spent) (.finish g none held)))
  | result (f : Frame G V E) (now : Float) (value : Option V) :
      Onward (.resume f) (.resume f.evaluator f.answers now (.ok (.done value)))
        (.report (f.receivedEvents none) (.produce f value))
  | further (f : Frame G V E) (now : Float) (batch : List G) :
      Onward (.resume f) (.resume f.evaluator f.answers now (.ok (.more (.ok batch))))
        (.report (f.receivedEvents (some batch))
          (.round (.begin f.goal f.evaluator f.assignedAt batch)))
  | stray (f : Frame G V E) (now : Float) (className shown : String) :
      Onward (.resume f) (.resume f.evaluator f.answers now (.ok (.stray className shown)))
        (.log (.strayOutcome f.evaluator shown) (.finish f.goal none true))
  | resumeFailed (f : Frame G V E) (now : Float) (fault : Fault) :
      Onward (.resume f) (.resume f.evaluator f.answers now (.error (.fault fault)))
        (.log (.resumeFailed f.evaluator fault) (.finish f.goal none true))
  | produce (f : Frame G V E) (value : Option V) (elapsed now : Float) :
      Onward (.produce f value) (.emit (.produced f.evaluator value elapsed) now none)
        (.finish f.goal value true)
  | report (event : Event G V E) (rest : List (Event G V E)) (p : Point G V E) (now : Float) :
      Onward (.report (event :: rest) p) (.emit event now none) (.report rest p)
  | reported (p : Point G V E) : Onward (.report [] p) .proceed p
  | log (n : SessionRecord G E) (p : Point G V E) : Onward (.log n p) (.record n) p

namespace Onward

variable {p q : Point G V E} {x : Exchange G V E}

theorem stance (onward : p.Onward x q) : q.stance = p.stance := by
  cases onward with
  | pruned asked | prunerFailed asked =>
      cases p with
      | gate | round | recheck => cases asked; rfl
      | _ => cases asked
  | _ => rfl

theorem held? (onward : p.Onward x q) : q.held? = p.held? := by
  cases onward with
  | pruned asked | prunerFailed asked =>
      cases p with
      | gate | round | recheck => cases asked; rfl
      | _ => cases asked
  | _ => rfl

theorem ready (onward : p.Onward x q) (ready : p.Ready) : q.Ready := by
  cases onward with
  | noBatch f through | batch f through => exact through
  | recheck | report | reported | log => exact ready
  | _ => trivial

end Onward

end Point

namespace Session

variable [Keyed G]

/-- A frame belongs to the point, or its batch has just been asked for. -/
def Supplies (s : Session G V E) (x : Exchange G V E) (f : Frame G V E) : Prop :=
  s.point.frame? = some f ∧ Moment.request? ⟨s, x⟩ = none ∨
    ∃ g evaluator assignedAt batch, f = .begin g evaluator assignedAt batch ∧
      Moment.request? ⟨s, x⟩ = some (g, batch)

omit [Keyed G] in
theorem supplies_of_onward {s : Session G V E} {x : Exchange G V E} {p : Point G V E}
    (onward : s.point.Onward x p) {f : Frame G V E} (inside : p.frame? = some f) :
    s.Supplies x f := by
  obtain ⟨root, bound, started, now, cache, callers, point⟩ := s
  cases onward with
  | init | further =>
      cases inside
      exact .inr ⟨_, _, _, _, rfl, rfl⟩
  | initialized | awaiting | recheck | result | report | reported | log => exact .inl ⟨inside, rfl⟩
  | round | firstRound | noBatch | batch => exact .inl ⟨inside, rfl⟩
  | _ => cases inside

/-! ## Turns -/

/-- What a step does to the goals under way. -/
inductive Turn (s : Session G V E) : Exchange G V E → Session G V E → Prop where
  /-- The session goes on with what it is about. -/
  | stay {x p} (now : Float) (onward : s.point.Onward x p) : Turn s x ((s.after now).goTo p)
  /-- The root is requested. -/
  | start (now : Float) (before : s.point = .announce) :
      Turn s (.emit (.evaluationStarted s.root) now none) ((s.after now).goTo (.request s.root))
  /-- A goal that is requested has an answer. -/
  | known {g v} (before : s.point = .request g) (done : s.cache.find? g = some ⟨.done, v⟩) :
      Turn s .proceed (s.goTo (.answer v))
  /-- A goal that is requested is under way. -/
  | close {g} (before : s.point = .request g) (active : s.path.any (· == g) = true) :
      Turn s .proceed (s.goTo (.log (.cycleClosed g) (.answer none)))
  /-- A goal that is requested is new. -/
  | begin {g} (before : s.point = .request g) (fresh : s.cache.find? g = none) :
      Turn s .proceed ((s.setState g .pending).goTo (.enter g))
  /-- A new goal is let onto the path. -/
  | enter {g} (elapsed now : Float) (before : s.point = .gate g) (room : s.path.length < s.bound) :
      Turn s (.check elapsed now (.ok false)) ((s.after now).goTo (.create g))
  /-- It is put on record that a goal has an evaluator. -/
  | assign {g w} (before : s.point = .assign g w) :
      Turn s .proceed ((s.setState g .assigned).goTo (.assigned g w))
  /-- It is put on record that a goal waits. -/
  | await {f} (before : s.point = .await f) :
      Turn s .proceed ((s.setState f.goal .awaiting).goTo (.awaiting f))
  /-- The answer to a goal is put on record. -/
  | finish {g v held} (before : s.point = .finish g v held) :
      Turn s .proceed
        { s with
          cache := s.cache.put g ⟨.done, v⟩
          point := .finished g v (s.stateOf g) held }
  /-- A goal that is answered leaves. -/
  | leave {g v old held} (now : Float) (before : s.point = .finished g v old held) :
      Turn s (.emit (.stateChanged g .done (some old)) now none) ((s.after now).goTo (.answer v))
  /-- The next subgoal of a batch is requested. -/
  | call {f g rest} (before : s.point = .dispatch f) (waiting : f.waiting = g :: rest) :
      Turn s .proceed
        { s with callers := { f with requestedAt := s.now } :: s.callers, point := .request g }
  /-- The innermost goal that waits takes in an answer. -/
  | back {f C v} (before : s.point = .answer v) (callers : s.callers = f :: C) :
      Turn s .proceed { s with callers := C, point := .dispatch (f.receive v s.now) }
  /-- The root is answered. -/
  | conclude {v} (before : s.point = .answer v) (alone : s.callers = []) :
      Turn s .proceed
        (s.goTo (.log (.evaluated s.root s.elapsed s.cache.length) (.halt (.ok v))))
  /-- A failure leaves the session. -/
  | escape {x} (now : Float) (failure : Failure) : Turn s x ((s.after now).escape failure)

theorem Coherent.find?_eq_none {s : Session G V E} (coherent : s.Coherent) {g : G}
    (before : s.point = .request g) (undone : ∀ v, s.cache.find? g ≠ some ⟨.done, v⟩)
    (absent : ¬ s.path.any (· == g) = true) : s.cache.find? g = none := by
  cases found : s.cache.find? g with
  | none => rfl
  | some e =>
      obtain ⟨state, result⟩ := e
      have unanswered : state ≠ .done := by
        rintro rfl
        exact undone result found
      -- a goal on record that has no answer would wait, and so be on the path
      obtain ⟨f, waits, same⟩ | ⟨k, standing, -⟩ :=
        coherent.settled (by rw [before]; rfl) g _ found unanswered
      · apply absurd _ absent
        rw [List.any_eq_true]
        exact ⟨f.goal, List.mem_append_right _ (List.mem_map_of_mem waits), same⟩
      · rw [before] at standing
        cases standing

theorem Coherent.find?_of_active [EquivBEq G] {s : Session G V E} (coherent : s.Coherent) {g : G}
    (before : s.point = .request g) (active : s.path.any (· == g) = true) :
    s.cache.find? g = some ⟨.awaiting, none⟩ := by
  obtain ⟨a, member, same⟩ := List.any_eq_true.mp active
  rw [path, before] at member
  obtain ⟨f, waits, rfl⟩ := List.mem_map.mp member
  rw [← Ledger.find?_congr same]
  exact coherent.waits f waits

namespace Turn

variable {s s' : Session G V E} {x : Exchange G V E}

theorem told {event : Event G V E} {now : Float} {p : Point G V E}
    (onward : s.point.Onward (.emit event now none) p) (reply : Option Interrupt) :
    Turn s (.emit event now reply) (s.told p now reply) := by
  cases reply with
  | none => exact .stay now onward
  | some i => exact .escape now (.interrupt i)

theorem checked {g : G} {held : Bool} (asked : s.point.checks? = some (g, held))
    (elapsed now : Float) (reply : Except Failure Bool) {pass : Point G V E}
    (passes : Turn s (.check elapsed now (.ok false)) ((s.after now).goTo pass)) :
    Turn s (.check elapsed now reply) (s.checked g held pass now reply) := by
  match reply with
  | .ok false => exact passes
  | .ok true => exact .stay now (.pruned asked ..)
  | .error (.fault f) => exact .stay now (.prunerFailed asked ..)
  | .error (.interrupt i) => exact .escape now (.interrupt i)

theorem created {g : G} (now : Float) (reply : Except Failure (Option E))
    (before : s.point = .create g) : Turn s (.create g now reply) (s.created g now reply) := by
  match reply with
  | .ok (some e) => exact .stay now (before ▸ .create ..)
  | .ok none => exact .stay now (before ▸ .noEvaluator ..)
  | .error (.fault f) => exact .stay now (before ▸ .factoryFailed ..)
  | .error (.interrupt i) => exact .escape now (.interrupt i)

theorem begun {g : G} {w : GoalEvaluator G E} {t : Float} (now : Float)
    (reply : Except Failure (List G))
    (before : s.point = .init g w t) : Turn s (.init w now reply) (s.begun g w t now reply) := by
  match reply with
  | .ok goals => exact .stay now (before ▸ .init ..)
  | .error (.fault f) => exact .stay now (before ▸ .initFailed ..)
  | .error (.interrupt i) => exact .escape now (.interrupt i)

theorem resumed {f : Frame G V E} (now : Float) (reply : Except Failure (Outcome G V))
    (before : s.point = .resume f) :
    Turn s (.resume f.evaluator f.answers now reply) (s.resumed f now reply) := by
  match reply with
  | .ok (.done v) => exact .stay now (before ▸ .result ..)
  | .ok (.more (.ok goals)) => exact .stay now (before ▸ .further ..)
  | .ok (.more (.error failure)) => exact .escape now failure
  | .ok (.stray _ shown) => exact .stay now (before ▸ .stray ..)
  | .error (.fault e) => exact .stay now (before ▸ .resumeFailed ..)
  | .error (.interrupt i) => exact .escape now (.interrupt i)

theorem lookUp [EquivBEq G] (coherent : s.Coherent) {g : G} (before : s.point = .request g) :
    Turn s .proceed (s.lookUp g) := by
  cases key : Keyed.isKey g with
  | false =>
      have escaped : s.lookUp g = s.escape (.fault .badType) := by simp [Session.lookUp, key]
      rw [escaped]
      exact .escape s.now (.fault .badType)
  | true =>
      simp only [Session.lookUp, key, if_true]
      split
      · rename_i v done
        exact .known before done
      · rename_i undone
        split
        · rename_i active
          exact .close before active
        · rename_i absent
          exact .begin before (coherent.find?_eq_none before undone absent)

theorem dispatch {f : Frame G V E} (before : s.point = .dispatch f) :
    Turn s .proceed (s.dispatch f) := by
  unfold Session.dispatch
  split
  · rename_i g rest waiting
    exact .call before waiting
  · rename_i through
    split
    · rename_i empty
      exact .stay s.now (before ▸ .noBatch f through empty)
    · exact .stay s.now (before ▸ .batch f through)

theorem deliver {v : Option V} (before : s.point = .answer v) :
    Turn s .proceed (s.deliver v) := by
  unfold Session.deliver
  split
  · rename_i alone
    exact .conclude before alone
  · rename_i f C callers
    exact .back before callers

theorem of_step [EquivBEq G] (coherent : s.Coherent) (taken : s.Step x s') : Turn s x s' := by
  obtain ⟨root, bound, started, now, cache, callers, point⟩ := s
  cases point with
  | announce =>
      cases taken with
      | emit now' reply =>
          cases reply with
          | none => exact .start now' rfl
          | some i => exact .escape now' (.interrupt i)
  | request g => cases taken; exact lookUp coherent rfl
  | answer v => cases taken; exact deliver rfl
  | dispatch f => cases taken; exact dispatch rfl
  | gate g =>
      cases taken with
      | check now' reply =>
          apply checked rfl
          split
          · exact .stay now' (.tooDeep ..)
          · rename_i short
            exact .enter _ now' rfl (Nat.lt_of_not_le short)
  | round f =>
      cases taken with
      | check now' reply =>
          apply checked rfl
          split
          · exact .stay now' (.firstRound ..)
          · exact .stay now' (.round ..)
  | recheck f =>
      cases taken with
      | check now' reply => exact checked rfl _ now' reply (.stay now' (.recheck ..))
  | create g => cases taken with | create now' reply => exact created now' reply rfl
  | init g w t => cases taken with | init now' reply => exact begun now' reply rfl
  | resume f => cases taken with | resume now' reply => exact resumed now' reply rfl
  | finished g v old held =>
      cases taken with
      | emit now' reply =>
          cases reply with
          | none => exact .leave now' rfl
          | some i => exact .escape now' (.interrupt i)
  | report events p =>
      cases events with
      | nil => cases taken; exact .stay now (.reported p)
      | cons event rest => cases taken; exact told (.report ..) _
  | log n p => cases taken; exact .stay now (.log n p)
  | assign g w => cases taken; exact .assign rfl
  | await f => cases taken; exact .await rfl
  | finish g v held => cases taken; exact .finish rfl
  | halt outcome => cases taken
  | produce f v => cases taken; exact told (.produce ..) _
  | initialized f elapsed => cases taken; exact told (.initialized ..) _
  | awaiting f => cases taken; exact told (.awaiting ..) _
  | enter g => cases taken; exact told (.enter ..) _
  | assigned g evaluator => cases taken; exact told (.assigned ..) _
  | present g evaluator => cases taken; exact told (.present ..) _

end Turn

end Session

end Pursuit

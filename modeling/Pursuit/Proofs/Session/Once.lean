import Mathlib.Data.List.Basic
import Pursuit.Proofs.Equality
import Pursuit.Proofs.Session.Coherence

/-! # Every goal is evaluated once

A goal goes through the stages of a session in one direction. It is announced, its evaluator is
asked for and begins, and it is answered, each at a stage of its own that is left for good. This
holds of sessions that break off, too: a goal that was under way then is never taken up again.
-/

namespace Pursuit

variable {W G V E : Type}

/-- What becomes of a goal in a session at most once. -/
inductive Milestone where
  /-- Listeners are told that the goal is pending. -/
  | announced
  /-- The factory is asked for its evaluator. -/
  | created
  /-- Its evaluator is asked for first subgoals. -/
  | begun
  /-- Listeners are told that the goal is done. -/
  | concluded
deriving DecidableEq

namespace Moment

def marks [BEq G] (m : Moment G V E) (g : G) : Milestone → Bool
  | .announced => match m.exchange with
    | .emit (.stateChanged k .pending _) _ _ => k == g
    | _ => false
  | .created => match m.exchange with
    | .create k _ _ => k == g
    | _ => false
  | .begun => match m.exchange with
    | .init _ _ _ => m.session.point.subject?.any (· == g)
    | _ => false
  | .concluded => match m.exchange with
    | .emit (.stateChanged k .done _) _ _ => k == g
    | _ => false

end Moment

def Milestone.stage : Milestone → Nat
  | .announced => 1
  | .created => 3
  | .begun => 5
  | .concluded => 7

namespace Point

/-- How far the goal at which a point stands has come. -/
def stage : Point G V E → Nat
  | .enter _ => 1
  | .gate _ => 2
  | .create _ => 3
  | .assign _ _ | .assigned _ _ | .present _ _ => 4
  | .init _ _ _ => 5
  | .initialized _ _ | .round _ | .await _ | .awaiting _ | .dispatch _ | .recheck _ => 6
  | .resume _ | .produce _ _ | .finish _ _ _ => 6
  | .finished _ _ _ _ => 7
  | .report _ p | .log _ p => p.stage
  | .announce | .request _ | .answer _ | .halt _ => 0

/-- What is left to tell at a point of reports are answers that an evaluator took in. -/
def Reports : Point G V E → Prop
  | .report events p =>
      (∀ event ∈ events, ∃ evaluator finished requested elapsed,
        event = .received evaluator finished requested elapsed) ∧ p.Reports
  | .log _ p => p.Reports
  | _ => True

end Point

/-- How far a goal has come by its record, when the session does not stand at it. -/
def Entry.stage : Option (Entry V) → Nat
  | none => 0
  | some ⟨.done, _⟩ => 8
  | some _ => 6

/-- Milestones lie at odd stages, records at even ones. -/
theorem Milestone.stage_ne (m : Milestone) (e : Option (Entry V)) : m.stage ≠ Entry.stage e := by
  unfold Entry.stage
  cases m <;> split <;> decide

namespace Session

/-- How far a goal has come. -/
def stage [BEq G] (s : Session G V E) (g : G) : Nat :=
  if s.point.subject?.any (· == g) then s.point.stage else Entry.stage (s.cache.find? g)

/-- What a step does to the cache and to the goal at which the session stands. -/
inductive Effect [Keyed G] (s s' : Session G V E) : Prop where
  /-- The session stays at its goal. -/
  | stay (cache : s'.cache = s.cache) (subject : s'.point.subject? = s.point.subject?)
      (stage : s.point.stage ≤ s'.point.stage)
  /-- The session leaves its goal, if it stands at one. -/
  | leave (cache : s'.cache = s.cache) (subject : s'.point.subject? = none)
  /-- The record of the goal at which the session stands is brought up to date. -/
  | write (g : G) (e : Entry V) (before : s.point.subject? = some g)
      (after : s'.point.subject? = some g) (cache : s'.cache = s.cache.put g e)
      (undone : ∀ v, s.cache.find? g ≠ some ⟨.done, v⟩) (stage : s.point.stage ≤ s'.point.stage)
  /-- A goal is taken up that was never requested before. -/
  | begin (g : G) (before : s.point.subject? = none) (fresh : s.cache.find? g = none)
      (cache : s'.cache = s.cache.put g ⟨.pending, none⟩) (after : s'.point = .enter g)
  /-- The session comes back to a goal that waits. -/
  | back (g : G) (before : s.point.subject? = none) (cache : s'.cache = s.cache)
      (waits : s.cache.find? g = some ⟨.awaiting, none⟩) (after : s'.point.subject? = some g)
      (stage : s'.point.stage = 6)

namespace Effect

variable [Keyed G] {s : Session G V E}

theorem escape (s : Session G V E) (now : Float) (failure : Failure) :
    Effect s ((s.after now).escape failure) :=
  .leave rfl (Point.subject?_of_isOver (escape_isOver _ failure))

theorem told (s : Session G V E) (now : Float) (reply : Option Interrupt) {p : Point G V E}
    (subject : p.subject? = s.point.subject?) (stage : s.point.stage ≤ p.stage) :
    Effect s (s.told p now reply) := by
  cases reply with
  | none => exact .stay rfl subject stage
  | some i => exact escape s now (.interrupt i)

theorem checked {g : G} {held : Bool} (now : Float) (reply : Except Failure Bool)
    {pass : Point G V E} (standing : s.point.subject? = some g) (stage : s.point.stage ≤ 6)
    (subject : pass.subject? = s.point.subject?) (further : s.point.stage ≤ pass.stage) :
    Effect s (s.checked g held pass now reply) := by
  match reply with
  | .ok false => exact .stay rfl subject further
  | .ok true => exact .stay rfl standing.symm stage
  | .error (.fault f) => exact .stay rfl standing.symm stage
  | .error (.interrupt i) => exact escape s now (.interrupt i)

theorem lookUp [EquivBEq G] (coherent : s.Coherent) {g : G} (standing : s.point = .request g) :
    Effect s (s.lookUp g) := by
  have between : s.point.subject? = none := by rw [standing]; rfl
  unfold Session.lookUp
  split
  · split
    · exact .leave rfl rfl
    · rename_i undone
      split
      · exact .leave rfl rfl
      · rename_i absent
        refine .begin g between ?_ rfl rfl
        cases found : s.cache.find? g with
        | none => rfl
        | some e =>
            have unanswered : e.state ≠ .done := by
              intro done
              obtain ⟨state, result⟩ := e
              exact undone result (by rw [found, ← done])
            have running : s.point.isOver = false := by rw [standing]; rfl
            rcases coherent.settled running g e found unanswered with
              ⟨f, waiting, same⟩ | ⟨k, at_, -⟩
            · refine absurd (List.any_eq_true.mpr ⟨f.goal, ?_, same⟩) absent
              exact List.mem_append_right _ (List.mem_map_of_mem waiting)
            · rw [between] at at_
              cases at_
  · exact .leave rfl rfl

theorem deliver (coherent : s.Coherent) {value : Option V} (standing : s.point = .answer value) :
    Effect s (s.deliver value) := by
  have between : s.point.subject? = none := by rw [standing]; rfl
  unfold Session.deliver
  split
  · exact .leave rfl rfl
  · rename_i f rest stack
    have waits := coherent.waits f (by rw [stack]; exact List.mem_cons_self)
    have goal : (f.receive value s.now).goal = f.goal := by
      unfold Frame.receive
      split <;> rfl
    exact .back f.goal between rfl waits (congrArg some goal) rfl

theorem of_step [EquivBEq G] (coherent : s.Coherent) {x : Exchange G V E} {s' : Session G V E}
    (taken : s.Step x s') : Effect s s' := by
  have recorded := coherent.stands
  obtain ⟨root, bound, started, now, cache, callers, point⟩ := s
  cases point with
  | announce => cases taken with | emit now reply => exact told _ now reply rfl (Nat.zero_le _)
  | request g => cases taken; exact lookUp coherent rfl
  | answer value => cases taken; exact deliver coherent rfl
  | enter g =>
      cases taken with
      | emit now reply => exact told _ now reply rfl (Nat.le_of_ble_eq_true rfl)
  | gate g =>
      cases taken with
      | check now reply =>
          refine checked now reply rfl (Nat.le_of_ble_eq_true rfl) ?_ ?_
          · split <;> rfl
          · split <;> exact Nat.le_of_ble_eq_true rfl
  | create g =>
      cases taken with
      | create now reply =>
          match reply with
          | .ok (some e) => exact .stay rfl rfl (Nat.le_of_ble_eq_true rfl)
          | .ok none => exact .stay rfl rfl (Nat.le_of_ble_eq_true rfl)
          | .error (.fault f) => exact .stay rfl rfl (Nat.le_of_ble_eq_true rfl)
          | .error (.interrupt i) => exact escape _ now (.interrupt i)
  | assign g w =>
      cases taken
      refine .write g _ rfl rfl rfl ?_ (Nat.le_of_ble_eq_true rfl)
      intro v done
      have pending := (recorded g rfl).2
      simp only [Point.Expects] at pending
      cases done.symm.trans pending
  | assigned g w =>
      cases taken with
      | emit now reply => exact told _ now reply rfl (Nat.le_of_ble_eq_true rfl)
  | present g w =>
      cases taken with
      | emit now reply => exact told _ now reply rfl (Nat.le_of_ble_eq_true rfl)
  | init g w assignedAt =>
      cases taken with
      | init now reply =>
          match reply with
          | .ok subgoals => exact .stay rfl rfl (Nat.le_of_ble_eq_true rfl)
          | .error (.fault f) => exact .stay rfl rfl (Nat.le_of_ble_eq_true rfl)
          | .error (.interrupt i) => exact escape _ now (.interrupt i)
  | initialized f elapsed =>
      cases taken with
      | emit now reply => exact told _ now reply rfl (Nat.le_of_ble_eq_true rfl)
  | round f =>
      cases taken with
      | check now reply =>
          refine checked now reply rfl (Nat.le_of_ble_eq_true rfl) ?_ ?_
          · split <;> rfl
          · split <;> exact Nat.le_of_ble_eq_true rfl
  | await f =>
      cases taken
      refine .write f.goal _ rfl rfl rfl ?_ (Nat.le_of_ble_eq_true rfl)
      intro v done
      have assigned := (recorded f.goal rfl).2
      simp only [Point.Expects] at assigned
      cases done.symm.trans assigned
  | awaiting f =>
      cases taken with
      | emit now reply => exact told _ now reply rfl (Nat.le_of_ble_eq_true rfl)
  | dispatch f =>
      cases taken
      unfold Session.dispatch
      split
      · exact .leave rfl rfl
      · refine .stay rfl ?_ ?_
        · simp only [Session.goTo]
          split <;> rfl
        · simp only [Session.goTo]
          split <;> exact Nat.le_of_ble_eq_true rfl
  | recheck f =>
      cases taken with
      | check now reply =>
          exact checked now reply rfl (Nat.le_of_ble_eq_true rfl) rfl (Nat.le_of_ble_eq_true rfl)
  | resume f =>
      cases taken with
      | resume now reply =>
          match reply with
          | .ok (.done value) => exact .stay rfl rfl (Nat.le_of_ble_eq_true rfl)
          | .ok (.more (.ok goals)) => exact .stay rfl rfl (Nat.le_of_ble_eq_true rfl)
          | .ok (.more (.error failure)) => exact escape _ now failure
          | .ok (.stray _ shown) => exact .stay rfl rfl (Nat.le_of_ble_eq_true rfl)
          | .error (.fault e) => exact .stay rfl rfl (Nat.le_of_ble_eq_true rfl)
          | .error (.interrupt i) => exact escape _ now (.interrupt i)
  | report events p =>
      cases events with
      | nil => cases taken; exact .stay rfl rfl (Nat.le_refl _)
      | cons event rest =>
          cases taken with
          | emit now reply => exact told _ now reply rfl (Nat.le_refl _)
  | produce f value =>
      cases taken with
      | emit now reply => exact told _ now reply rfl (Nat.le_of_ble_eq_true rfl)
  | finish g value held =>
      cases taken
      refine .write g _ rfl rfl rfl ?_ (Nat.le_of_ble_eq_true rfl)
      intro v done
      obtain ⟨state, undone, entry⟩ := (recorded g rfl).2
      cases done.symm.trans entry
      exact undone rfl
  | finished g value old held =>
      cases taken with
      | emit now reply =>
          cases reply with
          | none => exact .leave rfl rfl
          | some i => exact escape _ now (.interrupt i)
  | log n p => cases taken; exact .stay rfl rfl (Nat.le_refl _)
  | halt outcome => cases taken

end Effect

section Stage

variable [Keyed G] [EquivBEq G] {s s' : Session G V E}

omit [Keyed G] [EquivBEq G] in
theorem stage_le_of_expects {p : Point G V E} {k : G} {e : Option (Entry V)}
    (standing : p.subject? = some k) (recorded : p.Expects e) : p.stage ≤ Entry.stage e := by
  induction p with
  | report _ _ ih => exact ih standing recorded
  | log _ _ ih => exact ih standing recorded
  | announce => cases standing
  | request => cases standing
  | answer => cases standing
  | halt => cases standing
  | finish =>
      obtain ⟨state, undone, rfl⟩ := recorded
      cases state <;> simp_all [Point.stage, Entry.stage]
  | round => rcases recorded with rfl | rfl <;> simp [Point.stage, Entry.stage]
  | dispatch => rcases recorded with ⟨rfl, -⟩ | rfl <;> simp [Point.stage, Entry.stage]
  | recheck => rcases recorded with ⟨rfl, -⟩ | rfl <;> simp [Point.stage, Entry.stage]
  | resume => rcases recorded with ⟨rfl, -⟩ | rfl <;> simp [Point.stage, Entry.stage]
  | produce => rcases recorded with ⟨rfl, -⟩ | rfl <;> simp [Point.stage, Entry.stage]
  | _ =>
      simp only [Point.Expects] at recorded
      simp [recorded, Point.stage, Entry.stage]

omit [EquivBEq G] in
theorem stage_of_none (between : s.point.subject? = none) (g : G) :
    s.stage g = Entry.stage (s.cache.find? g) := by
  simp [stage, between]

omit [EquivBEq G] in
theorem stage_of_subject {k g : G} (standing : s.point.subject? = some k) (same : k == g) :
    s.stage g = s.point.stage := by
  simp [stage, standing, same]

omit [EquivBEq G] in
theorem stage_of_other {k g : G} (standing : s.point.subject? = some k)
    (apart : (k == g) = false) : s.stage g = Entry.stage (s.cache.find? g) := by
  simp [stage, standing, apart]

theorem stage_le_entry (coherent : s.Coherent) (g : G) :
    s.stage g ≤ Entry.stage (s.cache.find? g) := by
  cases standing : s.point.subject? with
  | none => exact Nat.le_of_eq (stage_of_none standing g)
  | some k =>
      cases same : k == g with
      | false => exact Nat.le_of_eq (stage_of_other standing same)
      | true =>
          rw [stage_of_subject standing same, ← Ledger.find?_congr same]
          exact stage_le_of_expects standing (coherent.stands k standing).2

theorem Effect.stage_le (coherent : s.Coherent) (effect : Effect s s') (g : G) :
    s.stage g ≤ s'.stage g := by
  cases effect with
  | stay cache subject further =>
      unfold stage
      rw [subject, cache]
      split
      · exact further
      · exact Nat.le_refl _
  | leave cache subject =>
      rw [stage_of_none subject, cache]
      exact stage_le_entry coherent g
  | write k e before after cache undone further =>
      cases same : k == g with
      | true => rwa [stage_of_subject before same, stage_of_subject after same]
      | false =>
          refine Nat.le_of_eq ?_
          rw [stage_of_other before same, stage_of_other after same, cache,
            Ledger.find?_put_of_ne _ e same]
  | begin k before fresh cache after =>
      rw [stage_of_none before]
      cases same : k == g with
      | true =>
          rw [← Ledger.find?_congr same, fresh]
          exact Nat.zero_le _
      | false =>
          refine Nat.le_of_eq ?_
          rw [stage_of_other (by rw [after]; rfl) same, cache, Ledger.find?_put_of_ne _ _ same]
  | back k before cache waits after further =>
      rw [stage_of_none before]
      cases same : k == g with
      | true =>
          rw [stage_of_subject after same, further, ← Ledger.find?_congr same, waits]
          exact Nat.le_refl 6
      | false =>
          refine Nat.le_of_eq ?_
          rw [stage_of_other after same, cache]

theorem Effect.done (effect : Effect s s') {g : G} {v : Option V}
    (done : s.cache.find? g = some ⟨.done, v⟩) : s'.cache.find? g = some ⟨.done, v⟩ := by
  cases effect with
  | stay cache => rwa [cache]
  | leave cache => rwa [cache]
  | write k e before after cache undone =>
      cases same : k == g with
      | true => exact absurd ((Ledger.find?_congr same s.cache).trans done) (undone v)
      | false => rwa [cache, Ledger.find?_put_of_ne _ e same]
  | begin k before fresh cache =>
      cases same : k == g with
      | true =>
          rw [← Ledger.find?_congr same, fresh] at done
          cases done
      | false => rwa [cache, Ledger.find?_put_of_ne _ _ same]
  | back k before cache => rwa [cache]

end Stage

section Reports

theorem reports_escape (s : Session G V E) (failure : Failure) :
    (s.escape failure).point.Reports := by
  unfold escape
  split
  · split <;> trivial
  · trivial

theorem reports_told (s : Session G V E) (now : Float) (reply : Option Interrupt)
    {p : Point G V E} (reports : p.Reports) : (s.told p now reply).point.Reports := by
  cases reply with
  | none => exact reports
  | some i => exact reports_escape _ (.interrupt i)

theorem reports_checked (s : Session G V E) (g : G) (held : Bool) (now : Float)
    (reply : Except Failure Bool) {pass : Point G V E} (reports : pass.Reports) :
    (s.checked g held pass now reply).point.Reports := by
  match reply with
  | .ok false => exact reports
  | .ok true => trivial
  | .error (.fault f) => trivial
  | .error (.interrupt i) => exact reports_escape _ (.interrupt i)

theorem received_of_mem_receivedEvents {f : Frame G V E} {requested : Option (List G)}
    {event : Event G V E} (member : event ∈ f.receivedEvents requested) :
    ∃ evaluator finished requested elapsed,
      event = .received evaluator finished requested elapsed := by
  unfold Frame.receivedEvents at member
  generalize f.batch.zip f.timings = pairs at member
  fun_induction Frame.receivedEvents.go f requested pairs with
  | case1 => exact ⟨_, _, _, _, List.mem_singleton.mp member⟩
  | case2 => exact ⟨_, _, _, _, List.mem_singleton.mp member⟩
  | case3 g elapsed rest _ ih =>
      rcases List.mem_cons.mp member with rfl | member
      · exact ⟨_, _, _, _, rfl⟩
      · exact ih member

theorem reports_step [Keyed G] {s s' : Session G V E} {x : Exchange G V E}
    (reports : s.point.Reports) (taken : s.Step x s') : s'.point.Reports := by
  obtain ⟨root, bound, started, now, cache, callers, point⟩ := s
  cases point with
  | request g =>
      cases taken
      simp only [lookUp]
      split
      · split
        · trivial
        · split <;> trivial
      · exact reports_escape _ _
  | answer value =>
      cases taken
      simp only [deliver]
      split <;> trivial
  | dispatch f =>
      cases taken
      simp only [dispatch]
      split
      · trivial
      · simp only [goTo]
        split <;> trivial
  | gate g =>
      cases taken with
      | check now reply => exact reports_checked _ g false now reply (by split <;> trivial)
  | round f =>
      cases taken with
      | check now reply => exact reports_checked _ f.goal true now reply (by split <;> trivial)
  | recheck f =>
      cases taken with
      | check now reply => exact reports_checked _ f.goal true now reply trivial
  | create g =>
      cases taken with
      | create now reply =>
          match reply with
          | .ok (some e) | .ok none | .error (.fault f) => trivial
          | .error (.interrupt i) => exact reports_escape _ (.interrupt i)
  | init g w assignedAt =>
      cases taken with
      | init now reply =>
          match reply with
          | .ok subgoals | .error (.fault f) => trivial
          | .error (.interrupt i) => exact reports_escape _ (.interrupt i)
  | resume f =>
      cases taken with
      | resume now reply =>
          match reply with
          | .ok (.done value) | .ok (.more (.ok goals)) =>
              exact ⟨fun event => received_of_mem_receivedEvents, trivial⟩
          | .ok (.more (.error failure)) => exact reports_escape _ failure
          | .ok (.stray _ shown) | .error (.fault e) => trivial
          | .error (.interrupt i) => exact reports_escape _ (.interrupt i)
  | report events p =>
      cases events with
      | nil => cases taken; exact reports.2
      | cons event rest =>
          cases taken with
          | emit now reply =>
              refine reports_told _ now reply ⟨fun event member => ?_, reports.2⟩
              exact reports.1 event (List.mem_cons_of_mem _ member)
  | log n p => cases taken; exact reports
  | assign g w => cases taken; trivial
  | await f => cases taken; trivial
  | finish g value held => cases taken; trivial
  | halt outcome => cases taken
  | _ => cases taken with | emit now reply => exact reports_told _ now reply trivial

end Reports

section Milestones

variable [Keyed G] {s s' : Session G V E} {x : Exchange G V E}

/-- A milestone is passed at its stage, and the session does not stay there. -/
theorem passes (reports : s.point.Reports) (taken : s.Step x s') {g : G} {m : Milestone}
    (marked : (⟨s, x⟩ : Moment G V E).marks g m = true) :
    ∃ k, s.point.subject? = some k ∧ (k == g) = true ∧ s.point.stage = m.stage ∧
      s'.cache = s.cache ∧ (s'.point.subject? = none ∨
        s'.point.subject? = some k ∧ m.stage < s'.point.stage) := by
  have broken : ∀ (t : Session G V E) (failure : Failure),
      (t.escape failure).point.subject? = none :=
    fun t failure => Point.subject?_of_isOver (escape_isOver t failure)
  obtain ⟨root, bound, started, now, cache, callers, point⟩ := s
  cases point with
  | enter k =>
      cases taken with
      | emit now reply =>
          cases m <;> simp [Moment.marks] at marked
          refine ⟨k, rfl, marked, rfl, ?_⟩
          cases reply with
          | none => exact ⟨rfl, .inr ⟨rfl, Nat.le_of_ble_eq_true rfl⟩⟩
          | some i => exact ⟨rfl, .inl (broken _ (.interrupt i))⟩
  | create k =>
      cases taken with
      | create now reply =>
          cases m <;> simp [Moment.marks] at marked
          refine ⟨k, rfl, marked, rfl, ?_⟩
          cases reply with
          | ok evaluator =>
              cases evaluator <;> exact ⟨rfl, .inr ⟨rfl, Nat.le_of_ble_eq_true rfl⟩⟩
          | error failure =>
              cases failure with
              | fault f => exact ⟨rfl, .inr ⟨rfl, Nat.le_of_ble_eq_true rfl⟩⟩
              | interrupt i => exact ⟨rfl, .inl (broken _ (.interrupt i))⟩
  | init k w assignedAt =>
      cases taken with
      | init now reply =>
          cases m <;> simp [Moment.marks, Point.subject?] at marked
          refine ⟨k, rfl, marked, rfl, ?_⟩
          cases reply with
          | ok subgoals => exact ⟨rfl, .inr ⟨rfl, Nat.le_of_ble_eq_true rfl⟩⟩
          | error failure =>
              cases failure with
              | fault f => exact ⟨rfl, .inr ⟨rfl, Nat.le_of_ble_eq_true rfl⟩⟩
              | interrupt i => exact ⟨rfl, .inl (broken _ (.interrupt i))⟩
  | finished k value old held =>
      cases taken with
      | emit now reply =>
          cases m <;> simp [Moment.marks] at marked
          refine ⟨k, rfl, marked, rfl, ?_⟩
          cases reply with
          | none => exact ⟨rfl, .inl rfl⟩
          | some i => exact ⟨rfl, .inl (broken _ (.interrupt i))⟩
  | report events p =>
      cases events with
      | nil => cases taken; cases m <;> simp [Moment.marks] at marked
      | cons event rest =>
          cases taken with
          | emit now reply =>
              obtain ⟨_, _, _, _, rfl⟩ := reports.1 event List.mem_cons_self
              cases m <;> simp [Moment.marks] at marked
  | _ => cases taken <;> cases m <;> simp [Moment.marks] at marked

theorem stage_lt_of_marks [EquivBEq G] (coherent : s.Coherent) (reports : s.point.Reports)
    (taken : s.Step x s') {g : G} {m : Milestone}
    (marked : (⟨s, x⟩ : Moment G V E).marks g m = true) :
    s.stage g = m.stage ∧ m.stage < s'.stage g := by
  obtain ⟨k, standing, same, stage, cache, next⟩ := passes reports taken marked
  refine ⟨(stage_of_subject standing same).trans stage, ?_⟩
  rcases next with left | ⟨standing', further⟩
  · have least : m.stage ≤ Entry.stage (s.cache.find? k) :=
      stage ▸ stage_le_of_expects standing (coherent.stands k standing).2
    rw [stage_of_none left, cache, ← Ledger.find?_congr same]
    exact Nat.lt_of_le_of_ne least (Milestone.stage_ne m _)
  · rwa [stage_of_subject standing' same]

end Milestones

end Session

namespace Play

variable [Keyed G] [EquivBEq G] {h : Host W G V E} {c : Play W G V E}

theorem coherent_after (coherent : c.session.Coherent) (n : Nat) :
    (c.after h n).session.Coherent :=
  invariant (fun _ _ _ coherent taken => coherent.step taken) coherent n

theorem find?_done_after (coherent : c.session.Coherent) {g : G} {v : Option V}
    (done : c.session.cache.find? g = some ⟨.done, v⟩) (n : Nat) :
    (c.after h n).session.cache.find? g = some ⟨.done, v⟩ := by
  refine (invariant (I := fun s => s.Coherent ∧ s.cache.find? g = some ⟨.done, v⟩) ?_
    ⟨coherent, done⟩ n).2
  rintro s x s' ⟨coherent, done⟩ taken
  exact ⟨coherent.step taken, (Session.Effect.of_step coherent taken).done done⟩

theorem countP_marks_after (coherent : c.session.Coherent) (reports : c.session.point.Reports)
    (begins : c.past = []) (g : G) (m : Milestone) (n : Nat) :
    (c.after h n).past.countP (·.marks g m) ≤
      if m.stage < (c.after h n).session.stage g then 1 else 0 := by
  induction n with
  | zero => simp [after, begins]
  | succ n ih =>
      have coherent := coherent_after (h := h) coherent n
      have reports : (c.after h n).session.point.Reports :=
        invariant (fun _ _ _ => Session.reports_step) reports n
      cases halted : (c.after h n).session.outcome? with
      | some outcome => rwa [after, advance_of_over (by rw [halted]; rfl)]
      | none =>
          obtain ⟨x, s, w, -, taken, next⟩ := exists_advance h halted
          have further := (Session.Effect.of_step coherent taken).stage_le coherent g
          rw [after, next]
          simp only [List.countP_append, List.countP_singleton]
          split
          · -- The milestone is passed now, so it did not lie behind before.
            rename_i marked
            obtain ⟨stage, beyond⟩ := Session.stage_lt_of_marks coherent reports taken marked
            rw [if_neg (by omega)] at ih
            rw [if_pos beyond]
            omega
          · split at ih <;> split <;> omega

end Play

/-- In every session, whatever host, settings and goals, each goal is announced as pending, has its
    evaluator asked for and initialised, and is announced as done at most once, where equal goals
    count as one. Once it is answered, its record stays as it is. -/
theorem milestones_at_most_once (h : Host W Goal V E) (settings : Settings) (stackLimit : Int)
    (root : Goal) (w : W) (n : Nat) (g : Goal) :
    let c := (Play.opening h settings stackLimit root w).after h n
    (∀ m, c.past.countP (·.marks g m) ≤ 1) ∧
      ∀ v, c.session.cache.find? g = some ⟨.done, v⟩ →
        ∀ k, (c.after h k).session.cache.find? g = some ⟨.done, v⟩ := by
  have coherent : (Play.opening h settings stackLimit root w).session.Coherent :=
    .start _ _ _ _
  have reports : (Play.opening h settings stackLimit root w).session.point.Reports := by
    simp only [Play.opening, Session.start]
    split <;> trivial
  refine ⟨fun m => ?_, fun v done k => ?_⟩
  · have once := Play.countP_marks_after (h := h) coherent reports rfl g m n
    split at once <;> omega
  · exact Play.find?_done_after (Play.coherent_after coherent n) done k

end Pursuit

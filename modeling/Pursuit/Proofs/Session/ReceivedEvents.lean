import Pursuit.Proofs.Session.Answers
import Pursuit.Proofs.Session.Formation

/-! # What is told of a batch

An evaluator that was handed the answers to its batch and asks for more, or is done, has taken
them in. Listeners are then told so for each subgoal of the batch, one after another, and at no
other time.
-/

namespace Pursuit

variable {W G V E : Type}

/-- What an evaluator that took in its batch asks for next: nothing when it is done. -/
def Exchange.requested? : Exchange G V E → Option (Option (List G))
  | .resume _ _ _ (.ok (.done _)) => some none
  | .resume _ _ _ (.ok (.more (.ok goals))) => some (some goals)
  | _ => none

def Exchange.isReceived : Exchange G V E → Bool
  | .emit (.received ..) _ _ => true
  | _ => false

namespace Frame

/-- How often listeners are told about the batch. -/
def span (f : Frame G V E) : Nat :=
  max f.batch.length 1

/-- What listeners are told about the subgoal at a place in the batch. Only the last time they hear
what the evaluator asks for next. -/
def receivedEvent (f : Frame G V E) (requested : Option (List G)) (i : Nat) : Event G V E :=
  .received f.evaluator f.batch[i]? (if i + 1 = f.span then requested else none)
    (f.timings[i]?.getD 0.0)

/-- There is a time for each subgoal that is answered. -/
def Timed (f : Frame G V E) : Prop :=
  f.timings.length + f.waiting.length = f.batch.length

theorem timed_begin (g : G) (evaluator : GoalEvaluator G E) (assignedAt : Float) (batch : List G) :
    (begin g evaluator assignedAt batch : Frame G V E).Timed := by
  simp [Timed, begin]

theorem Timed.receive [BEq G] {f : Frame G V E} (timed : f.Timed) (v : Option V) (now : Float) :
    (f.receive v now).Timed := by
  unfold Frame.receive
  split
  · exact timed
  · rename_i waiting
    simp only [Timed, waiting, List.length_cons, List.length_append, List.length_nil] at timed ⊢
    omega

theorem receivedEvents_go (f : Frame G V E) (requested : Option (List G))
    (answered : List (G × Float)) :
    receivedEvents.go f requested answered =
      (List.range (max answered.length 1)).map fun i =>
        .received f.evaluator (answered[i]?.map (·.1))
          (if i + 1 = max answered.length 1 then requested else none)
          ((answered[i]?.map (·.2)).getD 0.0) := by
  fun_induction receivedEvents.go f requested answered with
  | case1 => rfl
  | case2 => rfl
  | case3 g elapsed rest more ih =>
      have nonempty : 0 < rest.length := List.length_pos_iff.mpr fun none => more (none ▸ rfl)
      have here : max ((g, elapsed) :: rest).length 1 = max rest.length 1 + 1 := by
        simp only [List.length_cons]
        omega
      rw [ih, here, List.range_succ_eq_map, List.map_cons, List.map_map]
      simp

theorem receivedEvents_eq {f : Frame G V E} (timed : f.timings.length = f.batch.length)
    (requested : Option (List G)) :
    f.receivedEvents requested = (List.range f.span).map (f.receivedEvent requested) := by
  have length : (f.batch.zip f.timings).length = f.batch.length := by simp [timed]
  rw [receivedEvents, receivedEvents_go, length]
  apply List.map_congr_left
  intro i _
  have batch : (f.batch.zip f.timings)[i]?.map (·.1) = f.batch[i]? := by
    rw [← List.getElem?_map, List.map_fst_zip (Nat.le_of_eq timed.symm)]
  have times : (f.batch.zip f.timings)[i]?.map (·.2) = f.timings[i]? := by
    rw [← List.getElem?_map, List.map_snd_zip (Nat.le_of_eq timed)]
  rw [batch, times]
  rfl

theorem drop_receivedEvents {f : Frame G V E} (timed : f.timings.length = f.batch.length)
    (requested : Option (List G)) (i : Nat) :
    (f.receivedEvents requested).drop i =
      if i < f.span then
        f.receivedEvent requested i :: (f.receivedEvents requested).drop (i + 1)
      else [] := by
  rw [receivedEvents_eq timed]
  split
  · rename_i within
    rw [List.drop_eq_getElem_cons (by simpa using within)]
    simp
  · simp
    omega

end Frame

/-- All frames of goals under way are as `P` says. -/
structure Session.Frames (P : Frame G V E → Prop) (s : Session G V E) : Prop where
  callers : ∀ f ∈ s.callers, P f
  current : ∀ f, s.point.frame? = some f → P f

namespace Session.Frames

variable {P : Frame G V E → Prop} {s s' : Session G V E} {x : Exchange G V E}

theorem start (root : G) (wanted bound : Nat) (now : Float) :
    (Session.start root wanted bound now : Session G V E).Frames P := by
  unfold Session.start
  split <;> exact ⟨by simp, by simp [Point.frame?]⟩

theorem escape (s : Session G V E) (failure : Failure) : (s.escape failure).Frames P where
  callers := by simp [s.escape_callers failure]
  current := by simp [Point.frame?_of_isOver (s.escape_isOver failure)]

/-- A frame begins with a batch, and from then on subgoals are requested and answers taken in. -/
theorem turn [Keyed G]
    (begins : ∀ g evaluator assignedAt batch, P (.begin g evaluator assignedAt batch))
    (asks : ∀ f now, P f → P { f with requestedAt := now })
    (receives : ∀ f v now, P f → P (f.receive v now)) (frames : s.Frames P) (turn : s.Turn x s') :
    s'.Frames P := by
  cases turn with
  | stay now onward =>
      refine ⟨frames.callers, fun f inside => ?_⟩
      obtain ⟨old, -⟩ | ⟨g, evaluator, t, batch, rfl, -⟩ := supplies_of_onward onward inside
      · exact frames.current f old
      · exact begins g evaluator t batch
  | @await f before =>
      refine ⟨frames.callers, ?_⟩
      rintro f' ⟨⟩
      exact frames.current f (by rw [before]; rfl)
  | @call f g rest before waiting =>
      refine ⟨?_, by simp [Point.frame?]⟩
      rintro f' (_ | ⟨_, below⟩)
      · exact asks f s.now (frames.current f (by rw [before]; rfl))
      · exact frames.callers f' below
  | @back f below v before callers =>
      have waits := frames.callers
      rw [callers] at waits
      refine ⟨fun f' member => waits f' (.tail _ member), ?_⟩
      rintro f' ⟨⟩
      exact receives f v s.now (waits f (.head _))
  | escape now failure => exact escape (s.after now) failure
  | start | known | close | begin | enter | assign | finish | leave | conclude =>
      exact ⟨frames.callers, by simp [goTo, Point.frame?]⟩

end Session.Frames

namespace Session

variable {suits : G → GoalEvaluator G E → Prop} {s s' : Session G V E} {x : Exchange G V E}
  {events : List (Event G V E)} {p q : Point G V E}

theorem escape_ne_report (s : Session G V E) (failure : Failure) :
    (s.escape failure).point ≠ .report events p := by
  intro point
  have ending := escape_isEnding s failure
  rw [point] at ending
  cases ending

theorem point_of_told {now : Float} {reply : Option Interrupt}
    (point : (s.told q now reply).point = .report events p) :
    reply = none ∧ q = .report events p := by
  cases reply with
  | none => exact ⟨rfl, point⟩
  | some i => exact absurd point (escape_ne_report _ _)

theorem point_of_checked {g : G} {held : Bool} {now : Float} {reply : Except Failure Bool}
    (point : (s.checked g held q now reply).point = .report events p) : q = .report events p := by
  cases reply with
  | ok stops =>
      cases stops with
      | false => exact point
      | true => cases point
  | error failure =>
      cases failure with
      | fault f => cases point
      | interrupt i => exact absurd point (escape_ne_report _ _)

theorem resumed_eq_report_iff {f : Frame G V E} {now : Float}
    {reply : Except Failure (Outcome G V)} :
    (∃ p, (s.resumed f now reply).point = .report events p) ↔
      ∃ requested, (Exchange.resume f.evaluator f.answers now reply).requested? = some requested ∧
        events = f.receivedEvents requested := by
  cases reply with
  | ok outcome =>
      cases outcome with
      | done v => simp [resumed, goTo, Exchange.requested?, eq_comm]
      | stray className shown => simp [resumed, goTo, Exchange.requested?]
      | more goals =>
          cases goals with
          | ok goals => simp [resumed, goTo, Exchange.requested?, eq_comm]
          | error failure => simp [resumed, Exchange.requested?, escape_ne_report]
  | error failure =>
      cases failure with
      | fault e => simp [resumed, goTo, Exchange.requested?]
      | interrupt i => simp [resumed, Exchange.requested?, escape_ne_report]

variable [Keyed G]

theorem Step.report_of_isReceived (taken : s.Step x s') (receivedEvent : x.isReceived = true) :
    ∃ event rest p now reply, s.point = .report (event :: rest) p ∧ x = .emit event now reply := by
  obtain ⟨root, bound, started, now, cache, callers, here⟩ := s
  cases here with
  | report events p =>
      cases events with
      | nil => cases taken; cases receivedEvent
      | cons event rest => cases taken; exact ⟨event, rest, p, _, _, rfl, rfl⟩
  | _ => cases taken <;> cases receivedEvent

theorem Step.reporting (taken : s.Step x s') (formed : s.point.Formed suits)
    (point : s'.point = .report events p) :
    (∃ f requested, s.point = .resume f ∧ x.requested? = some requested ∧
      events = f.receivedEvents requested) ∨
    ∃ event now, s.point = .report (event :: events) p ∧ x = .emit event now none := by
  obtain ⟨root, bound, started, now, cache, callers, here⟩ := s
  cases here with
  | announce | enter | assigned | present | initialized | awaiting | produce | finished =>
      cases taken
      cases (point_of_told point).2
  | gate g | round f =>
      cases taken
      have pass := point_of_checked point
      split at pass <;> cases pass
  | recheck f => cases taken; cases point_of_checked point
  | request g =>
      cases taken
      unfold lookUp at point
      repeat' split at point
      · cases point
      · cases point
      · cases point
      · exact absurd point (escape_ne_report _ _)
  | answer v =>
      cases taken
      unfold deliver at point
      split at point <;> cases point
  | dispatch f =>
      cases taken
      unfold dispatch at point
      split at point
      · cases point
      · simp only [goTo] at point
        split at point <;> cases point
  | create g =>
      cases taken with | create now reply =>
      cases reply with
      | ok product => cases product <;> cases point
      | error failure =>
          cases failure with
          | fault f => cases point
          | interrupt i => exact absurd point (escape_ne_report _ _)
  | init g evaluator t =>
      cases taken with | init now reply =>
      cases reply with
      | ok batch => cases point
      | error failure =>
          cases failure with
          | fault f => cases point
          | interrupt i => exact absurd point (escape_ne_report _ _)
  | resume f =>
      cases taken
      obtain ⟨requested, asked, same⟩ := resumed_eq_report_iff.mp ⟨p, point⟩
      exact .inl ⟨f, requested, rfl, asked, same⟩
  | report events' q =>
      cases events' with
      | nil =>
          -- what follows the last report is no report again
          cases taken
          cases point
          cases formed with
          | bare single => cases single
      | cons event rest =>
          cases taken with | emit now reply =>
          obtain ⟨rfl, same⟩ := point_of_told point
          cases same
          exact .inr ⟨event, now, rfl, rfl⟩
  | log n q =>
      cases taken
      cases point
      cases formed with
      | bare single => cases single
  | assign | await | finish => cases taken; cases point
  | halt => cases taken

end Session

namespace Play

variable [Keyed G] {h : Host W G V E} {c : Play W G V E}

/-- At a step an evaluator takes in its batch, and says what it asks for next. -/
def TakesIn (h : Host W G V E) (c : Play W G V E) (n : Nat) (f : Frame G V E)
    (requested : Option (List G)) : Prop :=
  (c.after h n).session.point = .resume f ∧
    ∃ x, c.exchange? h n = some x ∧ x.requested? = some requested

theorem emits_report {n : Nat} {event : Event G V E} {rest : List (Event G V E)}
    {p : Point G V E} (standing : (c.after h n).session.point = .report (event :: rest) p) :
    ∃ now reply, c.exchange? h n = some (.emit event now reply) ∧
      (reply = none → (c.after h (n + 1)).session.point = .report rest p) := by
  have demand : (c.after h n).session.next =
      .emit event ((c.after h n).session.told (.report rest p)) := by
    rw [Session.next, standing]
  refine ⟨_, _, by rw [exchange?, demand]; rfl, fun silent => ?_⟩
  rw [after, advance, demand]
  simp only [Host.meet, silent]
  rfl

theorem report_after {n : Nat} {events : List (Event G V E)} {p : Point G V E}
    (standing : (c.after h n).session.point = .report events p) {i : Nat}
    (within : i ≤ events.length) :
    (c.after h (n + i)).session.point = .report (events.drop i) p ∨
      ∃ j x, j < i ∧ c.exchange? h (n + j) = some x ∧ x.Interrupts := by
  induction i with
  | zero => exact .inl standing
  | succ i ih =>
      obtain here | ⟨j, x, earlier, met, interrupts⟩ := ih (Nat.le_of_succ_le within)
      · rw [List.drop_eq_getElem_cons within] at here
        obtain ⟨now, reply, met, goes⟩ := emits_report here
        cases reply with
        | none => exact .inl (goes rfl)
        | some interrupt => exact .inr ⟨i, _, Nat.lt_succ_self i, met, .emit _ _ _⟩
      · exact .inr ⟨j, x, Nat.lt_succ_of_lt earlier, met, interrupts⟩

theorem TakesIn.reports {n : Nat} {f : Frame G V E} {requested : Option (List G)}
    (takesIn : c.TakesIn h n f requested) :
    ∃ p, (c.after h (n + 1)).session.point = .report (f.receivedEvents requested) p := by
  obtain ⟨standing, x, met, asked⟩ := takesIn
  obtain ⟨s, w, -, taken, next⟩ := step_of_exchange? met
  rw [next]
  generalize (c.after h n).session = before at standing taken
  obtain ⟨root, bound, started, now, cache, callers, here⟩ := before
  cases standing
  cases taken
  exact Session.resumed_eq_report_iff.mpr ⟨requested, asked, rfl⟩

/-- Reports that are still to be made are the last ones about a batch that was taken in. -/
theorem takesIn_of_report (formed : ∀ n, (c.after h n).session.point.Formed (c.Assigned h))
    (fresh : ∀ events p, c.session.point ≠ .report events p) {n : Nat}
    {events : List (Event G V E)} {p : Point G V E}
    (standing : (c.after h n).session.point = .report events p) :
    ∃ m f requested i, c.TakesIn h m f requested ∧ n = m + 1 + i ∧
      events = (f.receivedEvents requested).drop i := by
  induction n generalizing events with
  | zero => exact absurd standing (fresh events p)
  | succ n ih =>
      have running : (c.after h (n + 1)).session.outcome? = none := by
        rw [Session.outcome?, standing]
      obtain ⟨x, met, taken⟩ := exists_exchange (running_before running)
      obtain ⟨f, requested, before, asked, rfl⟩ | ⟨event, now, before, rfl⟩ :=
        taken.reporting (formed n) standing
      · exact ⟨n, f, requested, 0, ⟨before, x, met, asked⟩, rfl, rfl⟩
      · obtain ⟨m, f, requested, i, takesIn, rfl, rest⟩ := ih before
        refine ⟨m, f, requested, i + 1, takesIn, rfl, ?_⟩
        rw [← List.tail_drop, ← rest]
        rfl

/-- An interrupt is the last that is heard of anyone. -/
theorem quiet_of_interrupts {n : Nat} {x : Exchange G V E} (met : c.exchange? h n = some x)
    (interrupts : x.Interrupts) {m : Nat} (later : n < m) :
    (c.after h m).session.next.isCall = false := by
  obtain ⟨s, w, -, taken, next⟩ := step_of_exchange? met
  have ending : (c.after h (n + 1)).session.point.isEnding = true := by
    rw [next]
    exact Session.isEnding_of_interrupts taken interrupts
  obtain ⟨k, rfl⟩ := Nat.exists_eq_add_of_lt later
  rw [Nat.add_right_comm, after_add]
  exact Session.isCall_of_isEnding (invariant (fun _ _ _ => Session.isEnding_step) ending k)

end Play

/-- In every session and whoever its host is. An evaluator is handed answers when all of its last
request is answered, and there is a time for each of them. When it has taken them in and is done or
asks for more, listeners are told of each subgoal of the batch in its place, and once when there is
none; only the last time they hear what is asked for next. Nothing else is done in between, and this
stops short only where a listener interrupts, after which nobody is called any more. Listeners are
told of no batch that was not taken in, be it given up, failed on or answered with something
stray. -/
theorem batches_are_reported (h : Host W Goal V E) (settings : Settings) (stackLimit : Int)
    (root : Goal) (w : W) :
    let c := Play.opening h settings stackLimit root w
    (∀ n f, (c.after h n).session.point = .resume f →
      lastRequest? (c.after h n).past f.goal = some f.batch ∧
        f.timings.length = f.batch.length) ∧
    (∀ n f requested, c.TakesIn h n f requested → ∀ i, i ≤ f.span →
      (∃ j x, j < i ∧ c.exchange? h (n + 1 + j) = some x ∧ x.Interrupts) ∨
      if i < f.span then
        ∃ now reply, c.exchange? h (n + 1 + i) =
          some (.emit (f.receivedEvent requested i) now reply)
      else c.exchange? h (n + 1 + i) = some .proceed) ∧
    (∀ n x, c.exchange? h n = some x → x.Interrupts → ∀ m, n < m →
      (c.after h m).session.next.isCall = false) ∧
    ∀ m x, c.exchange? h m = some x → x.isReceived = true →
      ∃ n f requested i, c.TakesIn h n f requested ∧ i < f.span ∧ m = n + 1 + i ∧
        ∃ now reply, x = .emit (f.receivedEvent requested i) now reply := by
  intro c
  have informed : ∀ n, (c.after h n).Informed :=
    (Play.Informed.opening h settings stackLimit root w).after
  have timed : ∀ n f, (c.after h n).session.point = .resume f →
      f.timings.length = f.batch.length := by
    intro n f standing
    have ready := (informed n).told.ready
    rw [standing] at ready
    have frames : (c.after h n).session.Coherent ∧ (c.after h n).session.Frames Frame.Timed := by
      refine Play.invariant (I := fun s => s.Coherent ∧ s.Frames Frame.Timed) ?_
        ⟨.start .., .start ..⟩ n
      rintro s x s' ⟨coherent, frames⟩ taken
      exact ⟨coherent.step taken, frames.turn Frame.timed_begin (fun _ _ timed => timed)
        (fun _ v now timed => timed.receive v now) (.of_step coherent taken)⟩
    have current := frames.2.current f (by rw [standing]; rfl)
    rw [Frame.Timed, show f.waiting = [] from ready] at current
    exact current
  have fresh : ∀ events p, c.session.point ≠ .report events p := by
    intro events p
    unfold c Play.opening Session.start
    split <;> simp
  refine ⟨fun n f standing => ⟨?_, timed n f standing⟩, ?_, ?_, ?_⟩
  · exact (informed n).batches f (.inr (by rw [standing]; rfl))
  · intro n f requested takesIn i within
    obtain ⟨p, reporting⟩ := takesIn.reports
    have length : (f.receivedEvents requested).length = f.span := by
      rw [Frame.receivedEvents_eq (timed n f takesIn.1), List.length_map, List.length_range]
    obtain here | interrupted := Play.report_after reporting (length ▸ within)
    · right
      rw [Frame.drop_receivedEvents (timed n f takesIn.1)] at here
      split
      · rename_i inside
        rw [if_pos inside] at here
        obtain ⟨now, reply, met, -⟩ := Play.emits_report here
        exact ⟨now, reply, met⟩
      · rename_i through
        rw [if_neg through] at here
        rw [Play.exchange?, Session.next, here]
        rfl
    · exact .inl interrupted
  · exact fun n x met interrupts m later => Play.quiet_of_interrupts met interrupts later
  · intro m x met receivedEvent
    obtain ⟨s, w', -, taken, -⟩ := Play.step_of_exchange? met
    obtain ⟨event, rest, p, now, reply, standing, rfl⟩ := taken.report_of_isReceived receivedEvent
    obtain ⟨n, f, requested, i, takesIn, rfl, left⟩ := Play.takesIn_of_report
      (fun n => (Play.opening_formed h settings stackLimit root w n).2) fresh standing
    rw [Frame.drop_receivedEvents (timed n f takesIn.1)] at left
    split at left
    · rename_i within
      cases left
      exact ⟨n, f, requested, i, takesIn, within, rfl, now, reply, rfl⟩
    · cases left

/-- A host of goals that need themselves twice, with a listener that interrupts as soon as it hears
of a batch. -/
def abruptHost : Host Unit Goal Unit Goal where
  clock _ := 0.0
  check _ := pure false
  create g := pure (some g)
  init g := pure [g, g]
  resume _ _ := pure (.done none)
  emit event w :=
    match event with
    | .received .. => (some (.keyboard "enough"), w)
    | _ => (none, w)
  record _ w := w

/-- A batch of two is taken in, but listeners are told of one subgoal only. -/
theorem abruptHost_reports_once :
    let c := Play.opening abruptHost .standard 1000 (numberedGoal 0) ()
    ∃ n f last, c.TakesIn abruptHost n f none ∧ f.batch.length = 2 ∧
      (c.after abruptHost last).session.outcome?.isSome = true ∧
      (c.after abruptHost last).past.countP (·.exchange.isReceived) = 1 := by
  intro c
  have handing : (c.after abruptHost 23).session.handing?.isSome = true := by decide +kernel
  obtain ⟨⟨g, answers⟩, handing⟩ := Option.isSome_iff_exists.mp handing
  obtain ⟨f, standing, -, -⟩ := Session.frame_of_handing handing
  have twice : (c.after abruptHost 23).session.point.frame?.map (·.batch.length) = some 2 := by
    decide +kernel
  obtain ⟨x, met, done⟩ : ∃ x, c.exchange? abruptHost 23 = some x ∧
      x.requested?.map Option.isNone = some true := by
    apply Option.bind_eq_some_iff.mp
    decide +kernel
  obtain ⟨requested, asked, none⟩ := Option.map_eq_some_iff.mp done
  rw [standing] at twice
  rw [Option.isNone_iff_eq_none.mp none] at asked
  exact ⟨23, f, 25, ⟨standing, x, met, asked⟩, Option.some.inj twice, by decide +kernel,
    by decide +kernel⟩

end Pursuit

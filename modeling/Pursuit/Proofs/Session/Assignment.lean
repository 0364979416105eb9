import Pursuit.Proofs.Session.Coherence

/-! # Who works on a goal

An evaluator stays with the goal for which it was assigned. So a promise that a factory keeps for
the evaluator of each goal holds wherever a session asks an evaluator anything about that goal.
-/

namespace Pursuit

variable {W G V E : Type}

/-- Who works on a goal after the factory was asked. -/
def GoalEvaluator.ofReply (g : G) : Except Failure (Option E) → GoalEvaluator G E
  | .ok (some e) => .evaluator e
  | .ok none | .error _ => .nullEvaluator g

theorem GoalEvaluator.ofReply_cases {P : GoalEvaluator G E → Prop} {g : G}
    {reply : Except Failure (Option E)}
    (nullEvaluator : P (.nullEvaluator g))
    (evaluator : ∀ e, reply = .ok (some e) → P (.evaluator e)) :
    P (.ofReply g reply) := by
  match reply with
  | .ok (some e) => exact evaluator e rfl
  | .ok none | .error _ => exact nullEvaluator

namespace Point

/-- The goal at which a point stands, with its evaluator if it has one. -/
def assignment? : Point G V E → Option (G × GoalEvaluator G E)
  | .assign g w | .assigned g w | .present g w | .init g w _ => some (g, w)
  | .initialized f _ | .round f | .await f | .awaiting f => some (f.goal, f.evaluator)
  | .dispatch f | .recheck f | .resume f | .produce f _ => some (f.goal, f.evaluator)
  | .report _ p | .log _ p => p.assignment?
  | _ => none

theorem assignment?_of_isOver {p : Point G V E} (halted : p.isOver = true) :
    p.assignment? = none := by
  induction p with
  | report _ _ ih => exact ih halted
  | log _ _ ih => exact ih halted
  | halt => rfl
  | _ => cases halted

end Point

/-- Each goal has an evaluator that suits it. -/
structure Session.Assigns (suits : G → GoalEvaluator G E → Prop) (s : Session G V E) : Prop where
  stands : ∀ g w, s.point.assignment? = some (g, w) → suits g w
  waits : ∀ f ∈ s.callers, suits f.goal f.evaluator

namespace Session.Assigns

variable {suits : G → GoalEvaluator G E → Prop} {s : Session G V E}

theorem escape (s : Session G V E) (failure : Failure) : (s.escape failure).Assigns suits where
  stands := by simp [Point.assignment?_of_isOver (s.escape_isOver failure)]
  waits := by simp [s.escape_callers failure]

theorem goTo (assigns : s.Assigns suits) (now : Float) {p : Point G V E}
    (assignment : p.assignment? = none ∨ p.assignment? = s.point.assignment?) :
    ((s.after now).goTo p).Assigns suits := by
  refine ⟨fun g w standing => ?_, assigns.waits⟩
  rcases assignment with none | same
  · rw [Session.goTo, none] at standing
    cases standing
  · exact assigns.stands g w (same ▸ standing)

theorem told (assigns : s.Assigns suits) (now : Float) (reply : Option Interrupt) {p : Point G V E}
    (assignment : p.assignment? = none ∨ p.assignment? = s.point.assignment?) :
    (s.told p now reply).Assigns suits := by
  cases reply with
  | none => exact assigns.goTo now assignment
  | some i => exact escape (s.after now) (.interrupt i)

theorem checked (assigns : s.Assigns suits) (now : Float) (reply : Except Failure Bool) (g : G)
    (held : Bool) {pass : Point G V E}
    (assignment : pass.assignment? = none ∨ pass.assignment? = s.point.assignment?) :
    (s.checked g held pass now reply).Assigns suits := by
  match reply with
  | .ok false => exact assigns.goTo now assignment
  | .ok true => exact assigns.goTo now (.inl rfl)
  | .error (.fault f) => exact assigns.goTo now (.inl rfl)
  | .error (.interrupt i) => exact escape (s.after now) (.interrupt i)

theorem created (assigns : s.Assigns suits) (g : G) (now : Float)
    (reply : Except Failure (Option E))
    (fit : suits g (.ofReply g reply)) : (s.created g now reply).Assigns suits := by
  match reply with
  | .ok (some e) =>
      refine ⟨fun g w standing => ?_, assigns.waits⟩
      cases standing
      exact fit
  | .ok none =>
      refine ⟨fun g w standing => ?_, assigns.waits⟩
      cases standing
      exact fit
  | .error (.fault f) =>
      refine ⟨fun g w standing => ?_, assigns.waits⟩
      cases standing
      exact fit
  | .error (.interrupt i) => exact escape (s.after now) (.interrupt i)

theorem resumed (assigns : s.Assigns suits) {f : Frame G V E} (standing : s.point = .resume f)
    (now : Float) (reply : Except Failure (Outcome G V)) :
    (s.resumed f now reply).Assigns suits := by
  match reply with
  | .ok (.done value) => exact assigns.goTo now (.inr (standing ▸ rfl))
  | .ok (.more (.ok goals)) => exact assigns.goTo now (.inr (standing ▸ rfl))
  | .ok (.more (.error failure)) => exact escape (s.after now) failure
  | .ok (.stray _ shown) => exact assigns.goTo now (.inl rfl)
  | .error (.fault e) => exact assigns.goTo now (.inl rfl)
  | .error (.interrupt i) => exact escape (s.after now) (.interrupt i)

theorem start (root : G) (wanted bound : Nat) (now : Float) :
    (Session.start root wanted bound now : Session G V E).Assigns suits := by
  unfold Session.start
  split <;> exact ⟨by simp [Point.assignment?], by simp⟩

theorem dispatch (assigns : s.Assigns suits) {f : Frame G V E} (standing : s.point = .dispatch f) :
    (s.dispatch f).Assigns suits := by
  unfold Session.dispatch
  split
  · refine ⟨by simp [Point.assignment?], fun f' member => ?_⟩
    cases member with
    | head => exact assigns.stands f.goal f.evaluator (standing ▸ rfl)
    | tail _ below => exact assigns.waits f' below
  · refine assigns.goTo s.now (.inr ?_)
    rw [standing]
    split <;> rfl

variable [Keyed G]

theorem lookUp (assigns : s.Assigns suits) (g : G) : (s.lookUp g).Assigns suits := by
  unfold Session.lookUp
  split
  · split
    · exact assigns.goTo s.now (.inl rfl)
    · split
      · exact assigns.goTo s.now (.inl rfl)
      · exact ⟨by simp [Session.goTo, Point.assignment?], assigns.waits⟩
  · exact escape s (.fault .badType)

theorem deliver (assigns : s.Assigns suits) (value : Option V) :
    (s.deliver value).Assigns suits := by
  unfold Session.deliver
  split
  · exact assigns.goTo s.now (.inl rfl)
  · rename_i f rest callers
    have fit : suits f.goal f.evaluator := assigns.waits f (by simp [callers])
    refine ⟨fun g w standing => ?_, fun f' member => assigns.waits f' (by simp [callers, member])⟩
    have kept : ∀ now,
        (f.receive value now).goal = f.goal ∧ (f.receive value now).evaluator = f.evaluator := by
      intro now
      unfold Frame.receive
      split <;> exact ⟨rfl, rfl⟩
    simp only [Point.assignment?, kept s.now, Option.some.injEq, Prod.mk.injEq] at standing
    obtain ⟨rfl, rfl⟩ := standing
    exact fit

theorem step {x : Exchange G V E} {s' : Session G V E} (assigns : s.Assigns suits)
    (fit : ∀ g now reply, x = .create g now reply → suits g (.ofReply g reply))
    (taken : s.Step x s') :
    s'.Assigns suits := by
  obtain ⟨root, bound, started, now, cache, callers, point⟩ := s
  cases point with
  | request g => cases taken; exact assigns.lookUp g
  | answer value => cases taken; exact assigns.deliver value
  | dispatch f => cases taken; exact assigns.dispatch rfl
  | gate g =>
      cases taken with
      | check now' reply =>
          refine assigns.checked now' reply g false (.inl ?_)
          split <;> rfl
  | round f =>
      cases taken with
      | check now' reply =>
          refine assigns.checked now' reply f.goal true (.inr ?_)
          split <;> rfl
  | recheck f =>
      cases taken with
      | check now' reply => exact assigns.checked now' reply f.goal true (.inr rfl)
  | create g =>
      cases taken with
      | create now' reply =>
          exact assigns.created g now' reply (fit g now' reply rfl)
  | init g w t =>
      cases taken with
      | init now' reply =>
          match reply with
          | .ok subgoals => exact assigns.goTo now' (.inr rfl)
          | .error (.fault f) => exact assigns.goTo now' (.inl rfl)
          | .error (.interrupt i) => exact escape _ (.interrupt i)
  | resume f =>
      cases taken with
      | resume now' reply => exact assigns.resumed rfl now' reply
  | report events p =>
      cases events with
      | nil => cases taken; exact assigns.goTo now (.inr rfl)
      | cons event rest =>
          cases taken with | emit now' reply => exact assigns.told now' reply (.inr rfl)
  | log n p => cases taken; exact assigns.goTo now (.inr rfl)
  | assign g w => cases taken; exact ⟨assigns.stands, assigns.waits⟩
  | await f => cases taken; exact ⟨assigns.stands, assigns.waits⟩
  | finish g value held => cases taken; exact ⟨by simp [Point.assignment?], assigns.waits⟩
  | halt outcome => cases taken
  | announce | enter | finished | produce =>
      cases taken with | emit now' reply => exact assigns.told now' reply (.inl rfl)
  | assigned | present | initialized | awaiting =>
      cases taken with | emit now' reply => exact assigns.told now' reply (.inr rfl)

end Session.Assigns

theorem Session.next_eq_init [Keyed G] {s : Session G V E} {evaluator : GoalEvaluator G E}
    {next : Float → Except Failure (List G) → Session G V E}
    (demand : s.next = .init evaluator next) : ∃ g t, s.point = .init g evaluator t := by
  obtain ⟨root, bound, started, now, cache, callers, point⟩ := s
  cases point with
  | init g w t =>
      simp only [Session.next, Demand.init.injEq] at demand
      exact ⟨g, t, demand.1 ▸ rfl⟩
  | report events p => cases events <;> cases demand
  | _ => cases demand

theorem Session.next_eq_resume [Keyed G] {s : Session G V E} {evaluator : GoalEvaluator G E}
    {answers : Ledger G (Option V)} {next : Float → Except Failure (Outcome G V) → Session G V E}
    (demand : s.next = .resume evaluator answers next) :
    ∃ f, s.point = .resume f ∧ f.evaluator = evaluator ∧ f.answers = answers := by
  obtain ⟨root, bound, started, now, cache, callers, point⟩ := s
  cases point with
  | resume f =>
      simp only [Session.next, Demand.resume.injEq] at demand
      exact ⟨f, rfl, demand.1, demand.2.1⟩
  | report events p => cases events <;> cases demand
  | _ => cases demand

namespace Play

variable [Keyed G] {h : Host W G V E} {suits : G → GoalEvaluator G E → Prop} {settings : Settings}
  {stackLimit : Int} {root : G} {w : W}

variable {c : Play W G V E} {s : Session G V E} {w' : W} {now : Float}

theorem standing_of_init {evaluator : GoalEvaluator G E} {reply : Except Failure (List G)}
    (met : h.meet c.world c.session.next = some (.init evaluator now reply, s, w')) :
    ∃ g t, c.session.point = .init g evaluator t := by
  have taken := Host.meets_of_meet met
  generalize demand : c.session.next = d at taken
  cases taken
  exact Session.next_eq_init demand

theorem standing_of_resume {evaluator : GoalEvaluator G E} {answers : Ledger G (Option V)}
    {reply : Except Failure (Outcome G V)}
    (met : h.meet c.world c.session.next = some (.resume evaluator answers now reply, s, w')) :
    ∃ f, c.session.point = .resume f := by
  have taken := Host.meets_of_meet met
  generalize demand : c.session.next = d at taken
  cases taken
  obtain ⟨f, standing, -⟩ := Session.next_eq_resume demand
  exact ⟨f, standing⟩

theorem reply_of_init {evaluator evaluator' : GoalEvaluator G E} {g : G} {t : Float}
    {reply : Except Failure (List G)}
    (met : h.meet c.world c.session.next = some (.init evaluator now reply, s, w'))
    (standing : c.session.point = .init g evaluator' t) :
    reply = ((h.initEvaluator evaluator').perform c.world).1 := by
  rw [Session.next, standing] at met
  simp only [Host.meet, Option.some.injEq, Prod.mk.injEq, Exchange.init.injEq] at met
  exact met.1.2.2.symm

theorem reply_of_resume {evaluator : GoalEvaluator G E} {answers : Ledger G (Option V)}
    {f : Frame G V E}
    {reply : Except Failure (Outcome G V)}
    (met : h.meet c.world c.session.next = some (.resume evaluator answers now reply, s, w'))
    (standing : c.session.point = .resume f) :
    answers = f.answers ∧
      reply = ((h.resumeEvaluator f.evaluator f.answers).perform c.world).1 := by
  rw [Session.next, standing] at met
  simp only [Host.meet, Option.some.injEq, Prod.mk.injEq, Exchange.resume.injEq] at met
  exact ⟨met.1.2.1.symm, met.1.2.2.2.symm⟩

theorem suits_of_init {evaluator : GoalEvaluator G E} {reply : Except Failure (List G)}
    (assigns : c.session.Assigns suits)
    (met : h.meet c.world c.session.next = some (.init evaluator now reply, s, w')) :
    ∃ g, suits g evaluator := by
  obtain ⟨g, t, standing⟩ := standing_of_init met
  exact ⟨g, assigns.stands g evaluator (by rw [standing]; rfl)⟩

theorem suits_of_resume {evaluator : GoalEvaluator G E} {answers : Ledger G (Option V)}
    {reply : Except Failure (Outcome G V)} (assigns : c.session.Assigns suits)
    (met : h.meet c.world c.session.next = some (.resume evaluator answers now reply, s, w')) :
    ∃ g, suits g evaluator := by
  have taken := Host.meets_of_meet met
  generalize demand : c.session.next = d at taken
  cases taken
  obtain ⟨f, standing, rfl, -⟩ := Session.next_eq_resume demand
  exact ⟨f.goal, assigns.stands f.goal f.evaluator (by rw [standing]; rfl)⟩

theorem reply_of_create {g : G} {reply : Except Failure (Option E)}
    (met : h.meet c.world c.session.next = some (.create g now reply, s, w')) :
    reply = ((h.create g).perform c.world).1 :=
  (Host.gives_of_meet met).1

theorem reply_of_emit {event : Event G V E} {reply : Option Interrupt}
    (met : h.meet c.world c.session.next = some (.emit event now reply, s, w')) :
    reply = (h.emit event c.world).1 :=
  (Host.gives_of_meet met).1

theorem reply_of_check {elapsed : Float} {reply : Except Failure Bool}
    (met : h.meet c.world c.session.next = some (.check elapsed now reply, s, w')) :
    reply = ((h.check elapsed).perform c.world).1 :=
  (Host.gives_of_meet met).1

theorem assigns_advance (fit : ∀ g w, suits g (.ofReply g ((h.create g).perform w).1))
    (assigns : c.session.Assigns suits) : (c.advance h).session.Assigns suits := by
  cases halted : c.session.outcome? with
  | some outcome => rwa [advance_of_over (by rw [halted]; rfl)]
  | none =>
      obtain ⟨x, s, w', met, taken, next⟩ := exists_advance h halted
      rw [next]
      refine assigns.step (fun g now reply same => ?_) taken
      subst same
      rw [reply_of_create met]
      exact fit g c.world

/-- Throughout a session each goal has an evaluator that suits it, if the factory provides for
that. -/
theorem assigns_after (fit : ∀ g w, suits g (.ofReply g ((h.create g).perform w).1)) (n : Nat) :
    ((opening h settings stackLimit root w).after h n).session.Assigns suits := by
  induction n with
  | zero => exact .start root _ _ _
  | succ n ih => exact assigns_advance fit ih

end Play

end Pursuit

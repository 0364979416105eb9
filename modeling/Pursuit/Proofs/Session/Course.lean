import Mathlib.Data.List.Basic
import Pursuit.Session.Run

/-! # The course of a session

`Session.run` keeps nothing of what passes between a session and its host. A `Play` does: it holds
the session and its world as they stand, and before them every demand that was met, with its reply.
`evaluate_eq_after` says that both are one and the same course.
-/

namespace Pursuit

/-- What passes between a session and its host at one demand. -/
inductive Exchange (G V E : Type) where
  /-- The session went on by itself. -/
  | proceed
  | record (n : SessionRecord G E)
  | check (elapsed now : Float) (reply : Except Failure Bool)
  | create (goal : G) (now : Float) (reply : Except Failure (Option E))
  | init (evaluator : GoalEvaluator G E) (now : Float) (reply : Except Failure (List G))
  | resume (evaluator : GoalEvaluator G E) (answers : Ledger G (Option V)) (now : Float)
    (reply : Except Failure (Outcome G V))
  | emit (event : Event G V E) (now : Float) (reply : Option Interrupt)

/-- An exchange, and the session that asked for it. -/
structure Moment (G V E : Type) where
  session : Session G V E
  exchange : Exchange G V E

/-- A session under way: the moments that lie behind it, where it stands, and its world. -/
structure Play (W G V E : Type) where
  past : List (Moment G V E)
  session : Session G V E
  world : W

/-- An exchange meets a demand and leaves the session in a state. Nothing meets the last demand. -/
inductive Demand.Meets {G V E σ : Type} : Demand G V E σ → Exchange G V E → σ → Prop where
  | proceed {s} : Meets (.proceed s) .proceed s
  | record {n s} : Meets (.record n s) (.record n) s
  | check {elapsed k} (now reply) :
      Meets (.check elapsed k) (.check elapsed now reply) (k now reply)
  | create {goal k} (now reply) : Meets (.create goal k) (.create goal now reply) (k now reply)
  | init {evaluator k} (now reply) : Meets (.init evaluator k) (.init evaluator now reply)
      (k now reply)
  | resume {evaluator answers k} (now reply) :
      Meets (.resume evaluator answers k) (.resume evaluator answers now reply) (k now reply)
  | emit {event k} (now reply) : Meets (.emit event k) (.emit event now reply) (k now reply)

namespace Session

variable {G V E : Type}

/-- How a session ended, if it is over. -/
def outcome? (s : Session G V E) : Option (Except Failure (Option V)) :=
  match s.point with
  | .halt outcome => some outcome
  | _ => none

def Step [Keyed G] (s : Session G V E) (x : Exchange G V E) (s' : Session G V E) : Prop :=
  s.next.Meets x s'

end Session

/-- A reply to the attempt in a world, and the time after it. -/
def Attempt.Gives {W α : Type} (a : Attempt W α) (clock : W → Float) (w : W) (now : Float)
    (reply : Except Failure α) : Prop :=
  reply = (a.perform w).1 ∧ now = clock (a.perform w).2

namespace Host

variable {W G V E σ : Type}

/-- Meet a demand; there is nothing to be done about the last one. -/
def meet (h : Host W G V E) (w : W) : Demand G V E σ → Option (Exchange G V E × σ × W)
  | .proceed s => some (.proceed, s, w)
  | .record n s => some (.record n, s, h.record n w)
  | .check elapsed k =>
    let (reply, w) := (h.check elapsed).perform w
    some (.check elapsed (h.clock w) reply, k (h.clock w) reply, w)
  | .create goal k =>
    let (reply, w) := (h.create goal).perform w
    some (.create goal (h.clock w) reply, k (h.clock w) reply, w)
  | .init evaluator k =>
    let (reply, w) := (h.initEvaluator evaluator).perform w
    some (.init evaluator (h.clock w) reply, k (h.clock w) reply, w)
  | .resume evaluator answers k =>
    let (reply, w) := (h.resumeEvaluator evaluator answers).perform w
    some (.resume evaluator answers (h.clock w) reply, k (h.clock w) reply, w)
  | .emit event k =>
    let (reply, w) := h.emit event w
    some (.emit event (h.clock w) reply, k (h.clock w) reply, w)
  | .halt _ => none

theorem meets_of_meet {h : Host W G V E} {w w' : W} {d : Demand G V E σ} {x : Exchange G V E}
    {s : σ} (met : h.meet w d = some (x, s, w')) : d.Meets x s := by
  cases d with
  | halt => cases met
  | proceed => cases met; exact .proceed
  | record => cases met; exact .record
  | check => cases met; exact .check _ _
  | create => cases met; exact .create _ _
  | init => cases met; exact .init _ _
  | resume => cases met; exact .resume _ _
  | emit => cases met; exact .emit _ _

def world (h : Host W G V E) (w : W) : Exchange G V E → W
  | .proceed => w
  | .record n => h.record n w
  | .check elapsed _ _ => ((h.check elapsed).perform w).2
  | .create g _ _ => ((h.create g).perform w).2
  | .init evaluator _ _ => ((h.initEvaluator evaluator).perform w).2
  | .resume evaluator answers _ _ => ((h.resumeEvaluator evaluator answers).perform w).2
  | .emit event _ _ => (h.emit event w).2

theorem world_of_meet {h : Host W G V E} {w w' : W} {d : Demand G V E σ} {x : Exchange G V E}
    {s : σ} (met : h.meet w d = some (x, s, w')) : w' = h.world w x := by
  cases d with
  | halt => cases met
  | _ => cases met; rfl

/-- The exchange has the reply that the host gives in a world, and the time after it. -/
def Gives (h : Host W G V E) (w : W) : Exchange G V E → Prop
  | .proceed | .record _ => True
  | .check elapsed now reply => (h.check elapsed).Gives h.clock w now reply
  | .create g now reply => (h.create g).Gives h.clock w now reply
  | .init evaluator now reply => (h.initEvaluator evaluator).Gives h.clock w now reply
  | .resume evaluator answers now reply =>
      (h.resumeEvaluator evaluator answers).Gives h.clock w now reply
  | .emit event now reply => reply = (h.emit event w).1 ∧ now = h.clock (h.emit event w).2

theorem gives_of_meet {h : Host W G V E} {w w' : W} {d : Demand G V E σ} {x : Exchange G V E}
    {s : σ} (met : h.meet w d = some (x, s, w')) : h.Gives w x := by
  cases d with
  | halt => cases met
  | proceed | record => cases met; trivial
  | _ => cases met; exact ⟨rfl, rfl⟩

theorem meet_of_gives {h : Host W G V E} {w : W} {d : Demand G V E σ} {x : Exchange G V E} {s : σ}
    (meets : d.Meets x s) (gives : h.Gives w x) : h.meet w d = some (x, s, h.world w x) := by
  cases meets with
  | proceed | record => rfl
  | _ =>
      obtain ⟨rfl, rfl⟩ := gives
      rfl

theorem exists_meet (h : Host W G V E) (w : W) (d : Demand G V E σ) :
    (∃ outcome, d = .halt outcome ∧ h.meet w d = none) ∨
      ∃ x s w', h.meet w d = some (x, s, w') := by
  cases d with
  | halt outcome => exact .inl ⟨outcome, rfl, rfl⟩
  | _ => exact .inr ⟨_, _, _, rfl⟩

end Host

namespace Session

variable {W G V E : Type} [Keyed G]

theorem next_eq_halt_iff (s : Session G V E) (outcome : Except Failure (Option V)) :
    s.next = .halt outcome ↔ s.outcome? = some outcome := by
  obtain ⟨root, bound, started, now, cache, callers, point⟩ := s
  cases point with
  | report events p => cases events <;> simp [next, outcome?]
  | _ => simp [next, outcome?]

theorem meet_eq_none_iff (h : Host W G V E) (w : W) (s : Session G V E) :
    h.meet w s.next = none ↔ s.outcome?.isSome := by
  rcases h.exists_meet w s.next with ⟨outcome, last, none⟩ | ⟨x, s', w', met⟩
  · simp [none, (next_eq_halt_iff s outcome).mp last]
  · have running : s.outcome? = none := by
      cases halted : s.outcome? with
      | none => rfl
      | some outcome =>
          rw [(next_eq_halt_iff s outcome).mpr halted] at met
          cases met
    simp [met, running]

theorem run_succ (h : Host W G V E) (n : Nat) (s : Session G V E) (w : W) :
    run h (n + 1) s w = match h.meet w s.next with
      | none => (s.outcome?, w)
      | some (_, s', w') => run h n s' w' := by
  rw [run]
  cases demand : s.next with
  | halt outcome => simp only [Host.meet, (next_eq_halt_iff s outcome).mp demand]
  | _ => rfl

end Session

namespace Play

variable {W G V E : Type} [Keyed G]

/-- Meet the next demand. A session that is over stays as it is. -/
def advance (h : Host W G V E) (c : Play W G V E) : Play W G V E :=
  match h.meet c.world c.session.next with
  | none => c
  | some (x, s, w) => ⟨c.past ++ [⟨c.session, x⟩], s, w⟩

/-- Meet the next `n` demands. -/
def after (h : Host W G V E) (c : Play W G V E) : Nat → Play W G V E
  | 0 => c
  | n + 1 => (c.after h n).advance h

/-- The session that `evaluate` runs, before its first demand. -/
def opening (h : Host W G V E) (settings : Settings) (stackLimit : Int) (root : G) (w : W) :
    Play W G V E :=
  ⟨[], .start root settings.maxDepth (settings.depthBound stackLimit) (h.clock w), w⟩

/-- From here on every exchange is as `P` says of it and of the play that it befalls. -/
def Always (h : Host W G V E) (P : Play W G V E → Exchange G V E → Prop) (c : Play W G V E) :
    Prop :=
  ∀ n x s w, h.meet (c.after h n).world (c.after h n).session.next = some (x, s, w) →
    P (c.after h n) x

/-- Sooner or later the play is as `Q` says. -/
def Arrives (h : Host W G V E) (Q : Play W G V E → Prop) (c : Play W G V E) : Prop :=
  ∃ n, Q (c.after h n)

variable {h : Host W G V E} {c : Play W G V E}

theorem after_add (h : Host W G V E) (c : Play W G V E) (m n : Nat) :
    c.after h (m + n) = (c.after h m).after h n := by
  induction n with
  | zero => rfl
  | succ n ih => rw [← Nat.add_assoc, after, after, ih]

theorem after_succ (h : Host W G V E) (c : Play W G V E) (n : Nat) :
    c.after h (n + 1) = (c.advance h).after h n := by
  rw [Nat.add_comm, after_add]
  rfl

theorem advance_of_over (halted : c.session.outcome?.isSome) : c.advance h = c := by
  rw [advance, (Session.meet_eq_none_iff h c.world c.session).mpr halted]

theorem after_of_over (halted : c.session.outcome?.isSome) (n : Nat) : c.after h n = c := by
  induction n with
  | zero => rfl
  | succ n ih => rw [after, ih, advance_of_over halted]

theorem exists_advance (h : Host W G V E) (running : c.session.outcome? = none) :
    ∃ x s w, h.meet c.world c.session.next = some (x, s, w) ∧ c.session.Step x s ∧
      c.advance h = ⟨c.past ++ [⟨c.session, x⟩], s, w⟩ := by
  rcases h.exists_meet c.world c.session.next with ⟨outcome, last, _⟩ | ⟨x, s, w, met⟩
  · rw [Session.next_eq_halt_iff, running] at last
    cases last
  · exact ⟨x, s, w, met, Host.meets_of_meet met, by rw [advance, met]⟩

theorem session_of_meet {x : Exchange G V E} {s : Session G V E} {w : W}
    (met : h.meet c.world c.session.next = some (x, s, w)) : (c.after h 1).session = s := by
  rw [after, after, advance, met]

theorem Always.now {P : Play W G V E → Exchange G V E → Prop} (always : c.Always h P)
    {x : Exchange G V E} {s : Session G V E} {w : W}
    (met : h.meet c.world c.session.next = some (x, s, w)) : P c x :=
  always 0 x s w met

theorem Always.after {P : Play W G V E → Exchange G V E → Prop} (always : c.Always h P) (n : Nat) :
    (c.after h n).Always h P := by
  intro m x s w met
  rw [← after_add] at met ⊢
  exact always (n + m) x s w met

theorem Arrives.here {Q : Play W G V E → Prop} (there : Q c) : c.Arrives h Q :=
  ⟨0, there⟩

theorem Arrives.later {Q : Play W G V E → Prop} (further : (c.after h 1).Arrives h Q) :
    c.Arrives h Q := by
  obtain ⟨n, there⟩ := further
  exact ⟨1 + n, by rwa [after_add]⟩

theorem Arrives.trans {Q R : Play W G V E → Prop} (arrives : c.Arrives h Q)
    (goes : ∀ n, Q (c.after h n) → (c.after h n).Arrives h R) : c.Arrives h R := by
  obtain ⟨n, there⟩ := arrives
  obtain ⟨m, further⟩ := goes n there
  exact ⟨n + m, by rwa [after_add]⟩

theorem past_prefix (c : Play W G V E) (n : Nat) : c.past <+: (c.after h n).past := by
  induction n with
  | zero => exact List.prefix_refl _
  | succ n ih =>
      rw [after, advance]
      split
      · exact ih
      · exact ih.trans (List.prefix_append _ _)

/-- What is true of all moments behind a session that is over was always true of it. -/
theorem always_of_past {Q : Session G V E → Exchange G V E → Prop} {n : Nat}
    (halted : (c.after h n).session.outcome?.isSome)
    (past : ∀ m ∈ (c.after h n).past, Q m.session m.exchange) :
    c.Always h fun d x => Q d.session x := by
  intro m x s w met
  have early : m < n := by
    by_contra late
    obtain ⟨k, rfl⟩ := Nat.exists_eq_add_of_le (Nat.le_of_not_lt late)
    rw [after_add, after_of_over halted, (Session.meet_eq_none_iff h _ _).mpr halted] at met
    cases met
  obtain ⟨k, rfl⟩ := Nat.exists_eq_add_of_lt early
  have behind : ⟨(c.after h m).session, x⟩ ∈ (c.after h (m + 1)).past := by
    rw [after, advance, met]
    exact List.mem_append_right _ (List.mem_singleton.mpr rfl)
  have kept : (c.after h (m + 1)).past <+: (c.after h (m + k + 1)).past := by
    rw [Nat.add_right_comm, after_add h c (m + 1) k]
    exact past_prefix (c.after h (m + 1)) k
  exact past _ (kept.subset behind)

theorem outcome_stays {n : Nat} {o : Except Failure (Option V)}
    (halted : (c.after h n).session.outcome? = some o) (m : Nat) :
    (c.after h (n + m)).session.outcome? = some o := by
  rw [after_add, after_of_over (by rw [halted]; rfl), halted]

theorem outcome_unique {m n : Nat} {o o' : Except Failure (Option V)}
    (first : (c.after h m).session.outcome? = some o)
    (second : (c.after h n).session.outcome? = some o') : o = o' := by
  have early := outcome_stays first n
  have late := outcome_stays second m
  rw [Nat.add_comm, late] at early
  exact (Option.some.inj early).symm

theorem along {I : Play W G V E → Prop} (start : I c)
    (step : ∀ n x s w, I (c.after h n) →
      h.meet (c.after h n).world (c.after h n).session.next = some (x, s, w) →
      (c.after h n).session.Step x s → I ⟨(c.after h n).past ++ [⟨(c.after h n).session, x⟩], s, w⟩)
    (n : Nat) : I (c.after h n) := by
  induction n with
  | zero => exact start
  | succ n ih =>
      cases halted : (c.after h n).session.outcome? with
      | some outcome => rwa [after, advance_of_over (by rw [halted]; rfl)]
      | none =>
          obtain ⟨x, s, w, met, taken, next⟩ := exists_advance h halted
          rw [after, next]
          exact step n x s w ih met taken

theorem invariant {I : Session G V E → Prop}
    (step : ∀ s x s', I s → Session.Step s x s' → I s') (start : I c.session) (n : Nat) :
    I (c.after h n).session := by
  induction n with
  | zero => exact start
  | succ n ih =>
      cases halted : (c.after h n).session.outcome? with
      | some outcome => rwa [after, advance_of_over (by rw [halted]; rfl)]
      | none =>
          obtain ⟨x, s, w, -, taken, next⟩ := exists_advance h halted
          rw [after, next]
          exact step _ x s ih taken

theorem run_eq_after (h : Host W G V E) (c : Play W G V E) (n : Nat) :
    c.session.run h (n + 1) c.world =
      ((c.after h n).session.outcome?, (c.after h (n + 1)).world) := by
  induction n generalizing c with
  | zero =>
      rw [Session.run_succ]
      cases halted : c.session.outcome? with
      | some outcome =>
          have ended : c.session.outcome?.isSome := by rw [halted]; rfl
          simp only [(Session.meet_eq_none_iff h c.world c.session).mpr ended,
            after_of_over ended, halted]
      | none =>
          obtain ⟨x, s, w, met, -, next⟩ := exists_advance h halted
          simp only [met, Session.run, after, next, halted]
  | succ n ih =>
      rw [Session.run_succ]
      cases halted : c.session.outcome? with
      | some outcome =>
          have ended : c.session.outcome?.isSome := by rw [halted]; rfl
          simp only [(Session.meet_eq_none_iff h c.world c.session).mpr ended,
            after_of_over ended, halted]
      | none =>
          obtain ⟨x, s, w, met, -, next⟩ := exists_advance h halted
          have rest := ih (c.advance h)
          rw [next] at rest
          rw [met, after_succ h c n, after_succ h c (n + 1), next]
          exact rest

end Play

section Evaluate

variable {W G V E : Type} [Keyed G] (h : Host W G V E) (settings : Settings) (stackLimit : Int)
  (root : G) (w : W)

theorem evaluate_eq_after (n : Nat) :
    evaluate h settings stackLimit (n + 1) root w =
      (((Play.opening h settings stackLimit root w).after h n).session.outcome?,
        ((Play.opening h settings stackLimit root w).after h (n + 1)).world) :=
  Play.run_eq_after h (Play.opening h settings stackLimit root w) n

theorem evaluate_world (n : Nat) : (evaluate h settings stackLimit n root w).2 =
    ((Play.opening h settings stackLimit root w).after h n).world := by
  cases n with
  | zero => rfl
  | succ n => rw [evaluate_eq_after]

/-- Once the session is over, any larger number of demands gives its outcome and leaves the world as
it is. -/
theorem evaluate_eq_of_over {n : Nat} {outcome : Except Failure (Option V)}
    (halted :
      ((Play.opening h settings stackLimit root w).after h n).session.outcome? = some outcome)
    (m : Nat) (more : n < m) : evaluate h settings stackLimit m root w =
      (some outcome, ((Play.opening h settings stackLimit root w).after h n).world) := by
  have stays : ∀ k, (Play.opening h settings stackLimit root w).after h (n + k) =
      (Play.opening h settings stackLimit root w).after h n := by
    intro k
    rw [Play.after_add, Play.after_of_over (by rw [halted]; rfl)]
  obtain ⟨k, rfl⟩ := Nat.exists_eq_add_of_lt more
  rw [evaluate_eq_after, stays, Nat.add_assoc, stays, halted]

theorem evaluate_of_over {n : Nat} {outcome : Except Failure (Option V)}
    (halted :
      ((Play.opening h settings stackLimit root w).after h n).session.outcome? = some outcome)
    (m : Nat) (more : n < m) : (evaluate h settings stackLimit m root w).1 = some outcome := by
  rw [evaluate_eq_of_over h settings stackLimit root w halted m more]

theorem exists_evaluate_iff (outcome : Except Failure (Option V)) :
    (∃ enough, ∀ n, enough ≤ n →
        (evaluate h settings stackLimit n root w).1 = some outcome) ↔
      (Play.opening h settings stackLimit root w).Arrives h
        fun d => d.session.outcome? = some outcome := by
  constructor
  · rintro ⟨enough, ends⟩
    have halted := ends (enough + 1) (Nat.le_succ enough)
    rw [evaluate_eq_after] at halted
    exact ⟨enough, halted⟩
  · rintro ⟨n, halted⟩
    exact ⟨n + 1, evaluate_of_over h settings stackLimit root w halted⟩

end Evaluate

end Pursuit

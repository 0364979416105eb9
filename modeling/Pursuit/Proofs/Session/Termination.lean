import Mathlib.Order.WellFounded
import Mathlib.Tactic.Choose
import Pursuit.Proofs.Session.Progress

/-! # Sessions that come to an end

A session may go on for ever in one way only: a goal is handed answers again and again, and each
time its evaluator asks for more. Apart from that it is bounded by the depth of the path and by
the length of each batch, whatever faults there are on the way. So it ends where what evaluators
ask for is rationed, be it by the number of resumptions or by anything else that cannot get less
for ever. Two things take a session out of its course, an interrupt and a failure that spills
over: one in what an evaluator hands back when it asks for more, or a goal that cannot be looked
up.
-/

namespace Pursuit

variable {W G V E : Type}

def Exchange.Uninterrupted : Exchange G V E → Prop
  | .check _ _ reply => ∀ i, reply ≠ .error (.interrupt i)
  | .create _ _ reply => ∀ i, reply ≠ .error (.interrupt i)
  | .init _ _ reply => ∀ i, reply ≠ .error (.interrupt i)
  | .resume _ _ _ reply => ∀ i, reply ≠ .error (.interrupt i)
  | .emit _ _ reply => reply = none
  | .proceed | .record _ => True

/-- A failure that no goal takes upon itself. -/
inductive Session.Spills [Keyed G] (s : Session G V E) : Exchange G V E → Prop where
  /-- It arises in going through the goals for which an evaluator asks. -/
  | more (evaluator : GoalEvaluator G E) (answers : Ledger G (Option V)) (now : Float)
      (failure : Failure) :
      Spills s (.resume evaluator answers now (.ok (.more (.error failure))))
  /-- It arises in looking up a goal that is no key. -/
  | request (g : G) (standing : s.point = .request g) (unfit : Keyed.isKey g = false) :
      Spills s .proceed

/-- Whether a failure spills over can be seen from the exchange. -/
instance [Keyed G] (s : Session G V E) (x : Exchange G V E) : Decidable (s.Spills x) :=
  decidable_of_iff ((match x, s.point with
      | .resume _ _ _ (.ok (.more (.error _))), _ => true
      | .proceed, .request g => !Keyed.isKey g
      | _, _ => false) = true) <| by
    constructor
    · intro seen
      split at seen
      · exact .more _ _ _ _
      · rename_i g standing
        exact .request g standing (by simpa using seen)
      · cases seen
    · intro spills
      cases spills with
      | more => rfl
      | request g standing unfit => simp [standing, unfit]

namespace Play

/-- A play stands at a point, above the given goals that wait. -/
structure At (c : Play W G V E) (b : Nat) (C : List (Frame G V E)) (p : Point G V E) : Prop where
  bound : c.session.bound = b
  callers : c.session.callers = C
  point : c.session.point = p

theorem At.stands {c : Play W G V E} {b : Nat} {C : List (Frame G V E)} {p : Point G V E}
    (standing : c.At b C p) : c.Stands b c.session.cache C p c.resumptions := by
  obtain ⟨rfl, rfl, rfl⟩ := standing
  exact ⟨⟨_, _, _, rfl⟩, rfl⟩

theorem Stands.at {c : Play W G V E} {b : Nat} {k : Ledger G (Entry V)} {C : List (Frame G V E)}
    {p : Point G V E} {L : List (G × Ledger G (Option V))} (stands : c.Stands b k C p L) :
    c.At b C p := by
  obtain ⟨⟨_, _, _, session⟩, -⟩ := stands
  constructor <;> rw [session]

variable [Keyed G]

/-- The session stays on its course. -/
def Orderly (c : Play W G V E) (x : Exchange G V E) : Prop :=
  x.Uninterrupted ∧ ¬ c.session.Spills x

theorem quiet_of_orderly (c : Play W G V E) (event : Event G V E) (now : Float)
    (reply : Option Interrupt) (orderly : c.Orderly (.emit event now reply)) : reply = none :=
  orderly.1

/-- No goal is handed answers for ever. -/
def Finite (h : Host W G V E) (c : Play W G V E) : Prop :=
  ∀ g, ∃ bound, ∀ n, (handed (c.after h n).resumptions g).length ≤ bound

/-- In plays of a kind each evaluator has something left for its goal. It never grows, and
whenever the evaluator asks for more it gets less. -/
structure Rationed {α : Type} [Preorder α] (h : Host W G V E) (kind : Play W G V E → Prop)
    (left : Play W G V E → G → GoalEvaluator G E → α) : Prop where
  after : ∀ c, kind c → kind (c.after h 1)
  kept : ∀ c g evaluator, kind c → left (c.after h 1) g evaluator ≤ left c g evaluator
  spent : ∀ c f goals, kind c → c.session.point = .resume f →
    ((h.resumeEvaluator f.evaluator f.answers).perform c.world).1 = .ok (.more goals) →
    left (c.after h 1) f.goal f.evaluator < left c f.goal f.evaluator

/-- A request is answered, or a goal waits that the depth admits, in a frame of a kind. -/
inductive Rests (b : Nat) (C : List (Frame G V E)) (kind : Frame G V E → Prop) :
    Point G V E → Prop where
  | answer (v : Option V) : Rests b C kind (.answer v)
  | dispatch (f : Frame G V E) (room : C.length < b) (fits : kind f) : Rests b C kind (.dispatch f)

/-- The evaluator of a frame asked for more, and another frame goes on for it. -/
def Renews (f : Frame G V E) (reply : Except Failure (Outcome G V)) (f' : Frame G V E) : Prop :=
  f'.goal = f.goal ∧ f'.evaluator = f.evaluator ∧ ∃ goals, reply = .ok (.more goals)

/-- From a point on, an orderly play comes to one of the given points, above the same goals. -/
def Leads (h : Host W G V E) (b : Nat) (C : List (Frame G V E)) (T : Point G V E → Prop)
    (p : Point G V E) : Prop :=
  ∀ c, Always h Orderly c → c.At b C p → c.Arrives h fun d => ∃ q, T q ∧ d.At b C q

section Points

variable {h : Host W G V E} {b : Nat} {C : List (Frame G V E)} {g a : G} {p : Point G V E}
  {T : Point G V E → Prop}

theorem At.next {c : Play W G V E} (standing : c.At b C p) (running : ∀ o, p ≠ .halt o) :
    ∃ root started now k x s' w, c.session = ⟨root, b, started, now, k, C, p⟩ ∧
      h.meet c.world c.session.next = some (x, s', w) ∧
      Session.Step ⟨root, b, started, now, k, C, p⟩ x s' ∧
      c.after h 1 = ⟨c.past ++ [⟨c.session, x⟩], s', w⟩ := by
  have session : c.session = ⟨c.session.root, b, c.session.started, c.session.now,
      c.session.cache, C, p⟩ := by
    rw [← standing.bound, ← standing.callers, ← standing.point]
  have unended : c.session.outcome? = none := by
    rw [session]
    cases p with
    | halt o => exact absurd rfl (running o)
    | _ => rfl
  obtain ⟨x, s', w, met, taken, advanced⟩ := exists_advance h unended
  exact ⟨_, _, _, _, x, s', w, session, met, session ▸ taken, advanced⟩

theorem Leads.here (target : T p) : Leads h b C T p :=
  fun _ _ standing => .here ⟨p, target, standing⟩

/-- A point leads somewhere when all points do that may follow it. -/
theorem Leads.step (running : ∀ o, p ≠ .halt o)
    (next : ∀ root started now k x s', x.Uninterrupted →
      ¬ Session.Spills ⟨root, b, started, now, k, C, p⟩ x →
      Session.Step ⟨root, b, started, now, k, C, p⟩ x s' →
      s'.bound = b ∧ s'.callers = C ∧ Leads h b C T s'.point) :
    Leads h b C T p := by
  intro c always standing
  obtain ⟨root, started, now, k, x, s', w, session, met, taken, advanced⟩ :=
    standing.next (h := h) running
  obtain ⟨uninterrupted, dry⟩ := always.now met
  rw [session] at dry
  obtain ⟨bound, callers, leads⟩ := next root started now k x s' uninterrupted dry taken
  refine .later (leads _ (always.after 1) ?_)
  rw [advanced]
  exact ⟨bound, callers, rfl⟩

theorem Leads.log {n : SessionRecord G E} (leads : Leads h b C T p) : Leads h b C T (.log n p) := by
  refine .step (by simp) fun root started now k x s' _ _ taken => ?_
  cases taken
  exact ⟨rfl, rfl, leads⟩

theorem Leads.told {s : Session G V E} {q : Point G V E} {now : Float} {event : Event G V E}
    {reply : Option Interrupt} (bound : s.bound = b) (callers : s.callers = C)
    (quiet : Exchange.Uninterrupted (.emit event now reply : Exchange G V E))
    (leads : Leads h b C T q) :
    (s.told q now reply).bound = b ∧ (s.told q now reply).callers = C ∧
      Leads h b C T (s.told q now reply).point := by
  obtain rfl : reply = none := quiet
  exact ⟨bound, callers, leads⟩

theorem Leads.finish {v : Option V} {held : Bool} (answered : T (.answer v)) :
    Leads h b C T (.finish a v held) := by
  have finished : ∀ old, Leads h b C T (.finished a v old held) := by
    refine fun old => .step (by simp) fun root started now k x s' quiet _ taken => ?_
    cases taken with
    | emit now' reply => exact (Leads.here answered).told rfl rfl quiet
  refine .step (by simp) fun root started now k x s' _ _ taken => ?_
  cases taken
  exact ⟨rfl, rfl, finished _⟩

theorem Leads.checked {s : Session G V E} {pass : Point G V E} {now elapsed : Float} {held : Bool}
    {reply : Except Failure Bool} (bound : s.bound = b) (callers : s.callers = C)
    (uninterrupted : Exchange.Uninterrupted (.check elapsed now reply : Exchange G V E))
    (answered : T (.answer none)) (leads : Leads h b C T pass) :
    (s.checked a held pass now reply).bound = b ∧ (s.checked a held pass now reply).callers = C ∧
      Leads h b C T (s.checked a held pass now reply).point := by
  match reply with
  | .ok false => exact ⟨bound, callers, leads⟩
  | .ok true => exact ⟨bound, callers, .log (.finish answered)⟩
  | .error (.fault f) => exact ⟨bound, callers, .log (.log (.finish answered))⟩
  | .error (.interrupt i) => exact absurd rfl (uninterrupted i)

theorem Leads.round {f : Frame G V E} {kind : Frame G V E → Prop} (room : C.length < b)
    (fits : kind f) : Leads h b C (Rests b C kind) (.round f) := by
  have dispatch : Leads h b C (Rests b C kind) (.dispatch f) := .here (.dispatch f room fits)
  have awaiting : Leads h b C (Rests b C kind) (.awaiting f) := by
    refine .step (by simp) fun root started now k x s' quiet _ taken => ?_
    cases taken with
    | emit now' reply => exact dispatch.told rfl rfl quiet
  have await : Leads h b C (Rests b C kind) (.await f) := by
    refine .step (by simp) fun root started now k x s' _ _ taken => ?_
    cases taken
    exact ⟨rfl, rfl, awaiting⟩
  refine .step (by simp) fun root started now k x s' uninterrupted _ taken => ?_
  cases taken with
  | check now' reply =>
      refine Leads.checked rfl rfl uninterrupted (.answer none) ?_
      split
      · exact await
      · exact dispatch

theorem Leads.assign {evaluator : GoalEvaluator G E} (room : C.length < b) :
    Leads h b C (Rests b C fun _ => True) (.assign g evaluator) := by
  have initialized : ∀ batch t elapsed,
      Leads h b C (Rests b C fun _ => True)
        (.initialized (.begin g evaluator t batch) elapsed) := by
    refine fun batch t elapsed => .step (by simp) fun root started now k x s' quiet _ taken => ?_
    cases taken with
    | emit now' reply => exact (Leads.round room trivial).told rfl rfl quiet
  have init : ∀ t, Leads h b C (Rests b C fun _ => True) (.init g evaluator t) := by
    refine fun t => .step (by simp) fun root started now k x s' uninterrupted _ taken => ?_
    cases taken with
    | init now' reply =>
        match reply with
        | .ok batch => exact ⟨rfl, rfl, initialized batch t _⟩
        | .error (.fault f) => exact ⟨rfl, rfl, .log (.finish (.answer none))⟩
        | .error (.interrupt i) => exact absurd rfl (uninterrupted i)
  have present : Leads h b C (Rests b C fun _ => True) (.present g evaluator) := by
    refine .step (by simp) fun root started now k x s' quiet _ taken => ?_
    cases taken with
    | emit now' reply => exact (init now').told rfl rfl quiet
  have assigned : Leads h b C (Rests b C fun _ => True) (.assigned g evaluator) := by
    refine .step (by simp) fun root started now k x s' quiet _ taken => ?_
    cases taken with
    | emit now' reply => exact present.told rfl rfl quiet
  refine .step (by simp) fun root started now k x s' _ _ taken => ?_
  cases taken
  exact ⟨rfl, rfl, assigned⟩

theorem Leads.enter : Leads h b C (Rests b C fun _ => True) (.enter g) := by
  have create : C.length < b → Leads h b C (Rests b C fun _ => True) (.create g) := by
    refine fun room => .step (by simp) fun root started now k x s' uninterrupted _ taken => ?_
    cases taken with
    | create now' reply =>
        match reply with
        | .ok (some e) => exact ⟨rfl, rfl, .assign room⟩
        | .ok none => exact ⟨rfl, rfl, .log (.assign room)⟩
        | .error (.fault f) => exact ⟨rfl, rfl, .log (.log (.assign room))⟩
        | .error (.interrupt i) => exact absurd rfl (uninterrupted i)
  have gate : Leads h b C (Rests b C fun _ => True) (.gate g) := by
    refine .step (by simp) fun root started now k x s' uninterrupted _ taken => ?_
    cases taken with
    | check now' reply =>
        refine Leads.checked rfl rfl uninterrupted (.answer none) ?_
        split
        · exact .log (.finish (.answer none))
        · rename_i short
          exact create (by simpa [Session.path, Point.held?] using short)
  refine .step (by simp) fun root started now k x s' quiet _ taken => ?_
  cases taken with
  | emit now' reply => exact gate.told rfl rfl quiet

theorem Leads.request : Leads h b C (Rests b C fun _ => True) (.request g) := by
  refine .step (by simp) fun root started now k x s' _ dry taken => ?_
  cases taken
  cases key : Keyed.isKey g with
  | false => exact absurd (.request g rfl key) dry
  | true =>
      simp only [Session.lookUp, key, if_true]
      split
      · exact ⟨rfl, rfl, .here (.answer _)⟩
      · split
        · exact ⟨rfl, rfl, .log (.here (.answer none))⟩
        · exact ⟨rfl, rfl, .enter⟩

theorem Leads.report {events : List (Event G V E)} (leads : Leads h b C T p) :
    Leads h b C T (.report events p) := by
  induction events with
  | nil =>
      refine .step (by simp) fun root started now k x s' _ _ taken => ?_
      cases taken
      exact ⟨rfl, rfl, leads⟩
  | cons event rest ih =>
      refine .step (by simp) fun root started now k x s' quiet _ taken => ?_
      cases taken with
      | emit now' reply => exact ih.told rfl rfl quiet

/-- An evaluator that was handed its answers leaves its goal answered, or it asked for more and
the goal waits again. -/
theorem Leads.resumed {f : Frame G V E} (room : C.length < b) {s : Session G V E} {now : Float}
    {evaluator : GoalEvaluator G E} {answers : Ledger G (Option V)}
    {reply : Except Failure (Outcome G V)}
    (bound : s.bound = b) (callers : s.callers = C)
    (uninterrupted : Exchange.Uninterrupted (.resume evaluator answers now reply))
    (dry : ¬ s.Spills (.resume evaluator answers now reply)) :
    (s.resumed f now reply).bound = b ∧ (s.resumed f now reply).callers = C ∧
      Leads h b C (Rests b C (Renews f reply)) (s.resumed f now reply).point := by
  have produce : ∀ v, Leads h b C (Rests b C (Renews f reply)) (.produce f v) := by
    refine fun v => .step (by simp) fun root started now k x s' quiet _ taken => ?_
    cases taken with
    | emit now' reply => exact (Leads.finish (.answer v)).told rfl rfl quiet
  match reply with
  | .ok (.done v) => exact ⟨bound, callers, (produce v).report⟩
  | .ok (.more (.ok goals)) =>
      have again : Leads h b C (Rests b C (Renews f (.ok (.more (.ok goals)))))
          (.round (.begin f.goal f.evaluator f.assignedAt goals)) :=
        .round room ⟨rfl, rfl, _, rfl⟩
      exact ⟨bound, callers, again.report⟩
  | .ok (.more (.error failure)) => exact absurd (.more evaluator answers now failure) dry
  | .ok (.stray _ shown) => exact ⟨bound, callers, .log (.finish (.answer none))⟩
  | .error (.fault e) => exact ⟨bound, callers, .log (.finish (.answer none))⟩
  | .error (.interrupt i) => exact absurd rfl (uninterrupted i)

end Points

section Ends

variable {h : Host W G V E} {b : Nat} {C : List (Frame G V E)} {g : G} {c : Play W G V E}

theorem handed_le (c : Play W G V E) (n : Nat) (g : G) :
    (handed c.resumptions g).length ≤ (handed (c.after h n).resumptions g).length := by
  obtain ⟨later, same⟩ := c.past_prefix (h := h) n
  simp only [resumptions, ← same, List.filterMap_append, handed, List.filter_append,
    List.map_append, List.length_append]
  exact Nat.le_add_right _ _

/-- A play that hands a goal its answers comes to rest. If the goal waits again, its evaluator asked
for more. -/
theorem At.resumes {f : Frame G V E} (standing : c.At b C (.resume f))
    (always : c.Always h Orderly) (room : C.length < b) :
    (c.after h 1).Arrives h fun d => ∃ q,
      Rests b C (Renews f ((h.resumeEvaluator f.evaluator f.answers).perform c.world).1) q ∧
        d.At b C q := by
  obtain ⟨root, started, now, k, x, s', w, session, met, taken, advanced⟩ :=
    standing.next (h := h) (by simp)
  obtain ⟨uninterrupted, dry⟩ := always.now met
  rw [session] at dry
  cases taken with
  | resume now' reply =>
      rw [session] at met
      cases met
      obtain ⟨bound, callers, leads⟩ := Leads.resumed room rfl rfl uninterrupted dry
      refine leads _ (always.after 1) ?_
      rw [advanced]
      exact ⟨bound, callers, rfl⟩

theorem At.hands {f : Frame G V E} (standing : c.At b C (.dispatch f)) (served : f.waiting = [])
    (always : c.Always h Orderly) :
    c.Arrives h fun d => ∃ q, ((∃ v, q = .answer v) ∨ q = .resume f) ∧ d.At b C q := by
  have resume : Leads h b C (fun q => (∃ v, q = .answer v) ∨ q = .resume f) (.resume f) :=
    .here (.inr rfl)
  have recheck : Leads h b C (fun q => (∃ v, q = .answer v) ∨ q = .resume f) (.recheck f) := by
    refine .step (by simp) fun root started now k x s' uninterrupted _ taken => ?_
    cases taken with
    | check now' reply => exact Leads.checked rfl rfl uninterrupted (.inl ⟨none, rfl⟩) resume
  refine Leads.step (by simp) (fun root started now k x s' _ _ taken => ?_) c always standing
  cases taken
  simp only [Session.dispatch, served]
  split
  · exact ⟨rfl, rfl, resume⟩
  · exact ⟨rfl, rfl, recheck⟩

section Rations

variable {α : Type} [Preorder α] {kind : Play W G V E → Prop}
  {left : Play W G V E → G → GoalEvaluator G E → α}

theorem Rationed.belongs (rationed : Rationed h kind left) (belongs : kind c) (n : Nat) :
    kind (c.after h n) := by
  induction n with
  | zero => exact belongs
  | succ n ih => exact rationed.after _ ih

theorem Rationed.le (rationed : Rationed h kind left) (belongs : kind c) (g : G)
    (evaluator : GoalEvaluator G E) (n : Nat) :
    left (c.after h n) g evaluator ≤ left c g evaluator := by
  induction n with
  | zero => exact le_refl _
  | succ n ih => exact (rationed.kept _ g evaluator (rationed.belongs belongs n)).trans ih

/-- Every request above the given goals is answered in the end. -/
def Replies (h : Host W G V E) (kind : Play W G V E → Prop) (b : Nat) (C : List (Frame G V E)) :
    Prop :=
  ∀ c g, Always h Orderly c → kind c → c.At b C (.request g) →
    c.Arrives h fun d => ∃ v, d.At b C (.answer v)

variable (rationed : Rationed h kind left)

include rationed

theorem At.serves {f : Frame G V E} (standing : c.At b C (.dispatch f))
    (always : c.Always h Orderly) (belongs : kind c)
    (replies : ∀ f', Replies h kind b (f' :: C)) :
    c.Arrives h fun d => ∃ f' : Frame G V E, f'.goal = f.goal ∧ f'.evaluator = f.evaluator ∧
      f'.waiting = [] ∧ d.At b C (.dispatch f') := by
  induction remaining : f.waiting generalizing c f with
  | nil => exact .here ⟨f, rfl, rfl, remaining, standing⟩
  | cons s rest ih =>
      obtain ⟨t, requesting⟩ := standing.stands.requests (h := h) remaining
      have answers := replies _ _ s (always.after 1) (rationed.after _ belongs) requesting.at
      refine .later (answers.trans fun n answered => ?_)
      obtain ⟨v, answering⟩ := answered
      obtain ⟨t', dispatching⟩ := answering.stands.receives (h := h)
      have received : (Frame.receive { f with requestedAt := t } v t').goal = f.goal ∧
          (Frame.receive { f with requestedAt := t } v t').evaluator = f.evaluator ∧
          (Frame.receive { f with requestedAt := t } v t').waiting = rest := by
        simp only [Frame.receive, remaining, and_self]
      have still : kind (((c.after h 1).after h n).after h 1) := by
        rw [← after_add, ← after_add]
        exact rationed.belongs belongs _
      have further := ih dispatching.at (((always.after 1).after n).after 1) still received.2.2
      rw [received.1, received.2.1] at further
      exact .later further

/-- A goal that waits is answered, or it waits again and its evaluator has less left. -/
theorem At.cycles {f : Frame G V E} (standing : c.At b C (.dispatch f))
    (always : c.Always h Orderly) (belongs : kind c) (room : C.length < b)
    (replies : ∀ f', Replies h kind b (f' :: C)) :
    c.Arrives h fun d => (∃ v, d.At b C (.answer v)) ∨
      ∃ f' : Frame G V E, d.At b C (.dispatch f') ∧
        left d f'.goal f'.evaluator < left c f.goal f.evaluator := by
  refine (standing.serves rationed always belongs replies).trans fun n served => ?_
  obtain ⟨f', goal, evaluator, none, dispatching⟩ := served
  refine (dispatching.hands none (always.after n)).trans fun m handing => ?_
  obtain ⟨q, ⟨v, rfl⟩ | rfl, there⟩ := handing
  · exact .here (.inl ⟨v, there⟩)
  · have before : kind ((c.after h n).after h m) := rationed.belongs (rationed.belongs belongs n) m
    have rests := there.resumes ((always.after n).after m) room
    refine .later (rests.trans fun l rested => .here ?_)
    obtain ⟨q, resting, there'⟩ := rested
    cases resting with
    | answer v => exact .inl ⟨v, there'⟩
    | dispatch f'' _ renews =>
        obtain ⟨goal', evaluator', goals, more⟩ := renews
        refine .inr ⟨f'', there', ?_⟩
        rw [goal', evaluator', ← goal, ← evaluator]
        calc left ((((c.after h n).after h m).after h 1).after h l) f'.goal f'.evaluator
            ≤ left (((c.after h n).after h m).after h 1) f'.goal f'.evaluator :=
              rationed.le (rationed.after _ before) _ _ l
          _ < left ((c.after h n).after h m) f'.goal f'.evaluator :=
              rationed.spent _ f' goals before there.point more
          _ ≤ left c f'.goal f'.evaluator := by
              rw [← after_add]
              exact rationed.le belongs _ _ _

theorem At.answers [WellFoundedLT α] {f : Frame G V E} (standing : c.At b C (.dispatch f))
    (always : c.Always h Orderly) (belongs : kind c) (room : C.length < b)
    (replies : ∀ f', Replies h kind b (f' :: C)) :
    c.Arrives h fun d => ∃ v, d.At b C (.answer v) := by
  -- Each turn uses up some of what the evaluator has left.
  induction ration : left c f.goal f.evaluator using WellFoundedLT.induction generalizing c f with
  | ind ration' ih =>
      refine (standing.cycles rationed always belongs room replies).trans fun n turned => ?_
      obtain answered | ⟨f', again, less⟩ := turned
      · exact .here answered
      · exact ih _ (ration ▸ less) again (always.after n) (rationed.belongs belongs n) rfl

theorem replies [WellFoundedLT α] (b : Nat) (C : List (Frame G V E)) : Replies h kind b C := by
  obtain ⟨deeper, enough⟩ : ∃ deeper, b ≤ C.length + deeper := ⟨b, Nat.le_add_left _ _⟩
  -- A goal that waits makes the path longer, and a path at the bound admits no goal to wait.
  induction deeper generalizing C with
  | zero =>
      intro c g always belongs standing
      refine (Leads.request c always standing).trans fun n rested => .here ?_
      obtain ⟨q, resting, there⟩ := rested
      cases resting with
      | answer v => exact ⟨v, there⟩
      | dispatch f room _ => exact absurd enough (Nat.not_le.mpr room)
  | succ deeper ih =>
      intro c g always belongs standing
      refine (Leads.request c always standing).trans fun n rested => ?_
      obtain ⟨q, resting, there⟩ := rested
      cases resting with
      | answer v => exact .here ⟨v, there⟩
      | dispatch f room _ =>
          refine there.answers rationed (always.after n) (rationed.belongs belongs n) room
            fun f' => ih _ ?_
          simp only [List.length_cons]
          omega

/-- A session that stays on its course and rations what its evaluators ask for ends with an
answer. -/
theorem Rationed.opening_answers [WellFoundedLT α] {settings : Settings} {stackLimit : Int}
    {root : G} {w : W} (belongs : kind (opening h settings stackLimit root w))
    (always : (opening h settings stackLimit root w).Always h Orderly) :
    (opening h settings stackLimit root w).Arrives h fun d =>
      ∃ v, d.session.outcome? = some (.ok v) := by
  refine (opening_requests quiet_of_orderly always).trans fun n requesting => ?_
  refine (replies rationed _ [] _ root (always.after n) (rationed.belongs belongs n)
    requesting.at).trans fun m answering => ?_
  obtain ⟨v, standing⟩ := answering
  exact standing.stands.ends.trans fun l halted => .here ⟨v, halted⟩

end Rations

/-- Where the number of resumptions is limited for each goal, those that are left are a ration. -/
theorem rationed_of_handed [ReflBEq G] (most : G → Nat) :
    Rationed h (fun c => ∀ n g, (handed (c.after h n).resumptions g).length ≤ most g)
      fun c g _ => most g - (handed c.resumptions g).length where
  after c within n g := by
    rw [← after_add]
    exact within (1 + n) g
  kept c g _ _ := by
    have more := c.handed_le (h := h) 1 g
    omega
  spent c f goals within standing _ := by
    have running : c.session.outcome? = none := by
      rw [Session.outcome?, standing]
    obtain ⟨x, s, w, met, taken, next⟩ := exists_advance h running
    have added : (c.after h 1).resumptions = c.resumptions ++ [(f.goal, f.answers)] := by
      rw [Session.Step, Session.next, standing] at taken
      cases taken
      rw [after, after, next]
      simp only [resumptions, List.filterMap_append, List.filterMap_cons, List.filterMap_nil,
        Moment.resumption?, standing]
    have one : (handed (c.after h 1).resumptions f.goal).length =
        (handed c.resumptions f.goal).length + 1 := by
      rw [added, handed_append, if_pos BEq.rfl, List.length_append]
      rfl
    have atMost := within 1 f.goal
    omega

/-- A session that stays on its course and hands no goal answers for ever ends with an answer. -/
theorem opening_answers [ReflBEq G] {settings : Settings} {stackLimit : Int} {root : G} {w : W}
    (always : (opening h settings stackLimit root w).Always h Orderly)
    (finite : Finite h (opening h settings stackLimit root w)) :
    (opening h settings stackLimit root w).Arrives h fun d =>
      ∃ v, d.session.outcome? = some (.ok v) := by
  choose most within using finite
  exact (rationed_of_handed most).opening_answers (fun n g => within g n) always

end Ends

end Play

end Pursuit

import Mathlib.Data.List.Basic
import Pursuit.Proofs.Session.Turns

/-! # The path of a session

The goals in progress are read off the point and the frames that wait. They can also be kept as one
goes along: a goal is put down when it is let onto the path, and taken off when it is answered or a
failure passes through it. `Trail` keeps them so, in order and as a set. Both ways agree in every
session, the path never grows beyond its bound, and a request finds it again as it left it.
-/

namespace Pursuit

variable {W G V E : Type}

/-- The goals in progress, outermost first, and the set of them as its membership test. -/
structure Trail (G : Type) where
  path : List G
  active : G → Bool

namespace Trail

variable [BEq G]

/-- The trail of goals that are given innermost first. -/
def of (goals : List G) : Trail G :=
  ⟨goals.reverse, fun a => goals.any (· == a)⟩

/-- A goal is put at the end of the path and into the set. -/
def enter (t : Trail G) (g : G) : Trail G :=
  ⟨t.path ++ [g], fun a => g == a || t.active a⟩

/-- The end of the path is taken off, and a goal out of the set. -/
def leave (t : Trail G) (g : G) : Trail G :=
  ⟨t.path.dropLast, fun a => !(g == a) && t.active a⟩

/-- A failure passes through goals, innermost first, and each of them leaves. -/
def unwind (t : Trail G) (goals : List G) : Trail G :=
  goals.foldl leave t

def follow (t : Trail G) (s s' : Session G V E) : Trail G :=
  match s.point, s'.point with
  | .gate _, .create g => t.enter g
  | .finished g _ _ true, .answer _ => t.leave g
  | _, p => if p.isOver then t.unwind s.path else t

theorem enter_of (goals : List G) (g : G) : (of goals).enter g = of (g :: goals) := by
  simp [of, enter]

variable [EquivBEq G]

theorem leave_of {goals : List G} {g : G} (apart : ∀ a ∈ goals, (g == a) = false) :
    (of (g :: goals)).leave g = of goals := by
  simp only [of, leave, List.reverse_cons, List.dropLast_concat, List.any_cons, mk.injEq, true_and]
  funext a
  cases same : g == a with
  | false => rfl
  | true =>
      symm
      simp only [Bool.not_true, Bool.false_and, List.any_eq_false]
      intro b member equal
      have differs := apart b member
      rw [BEq.trans same (BEq.symm equal)] at differs
      cases differs

theorem unwind_of {above below : List G}
    (apart : (above ++ below).Pairwise fun a b => (a == b) = false) :
    (of (above ++ below)).unwind above = of below := by
  induction above with
  | nil => rfl
  | cons g above ih =>
      rw [List.cons_append] at apart ⊢
      obtain ⟨first, others⟩ := List.pairwise_cons.mp apart
      rw [unwind, List.foldl_cons, leave_of first]
      exact ih others

omit [EquivBEq G] in
theorem follow_of_isOver (t : Trail G) (s : Session G V E) {s' : Session G V E}
    (halted : s'.point.isOver = true) : t.follow s s' = t.unwind s.path := by
  unfold follow
  split
  · rename_i after
    rw [after] at halted
    cases halted
  · rename_i after
    rw [after] at halted
    cases halted
  · rw [if_pos halted]

omit [EquivBEq G] in
/-- As long as the goal on the path is the same, a session that is not over leaves the trail
alone. -/
theorem follow_of_held? (t : Trail G) {s s' : Session G V E} (running : s'.point.isOver = false)
    (held : s'.point.held? = s.point.held?) : t.follow s s' = t := by
  unfold follow
  split
  · rename_i before after
    rw [before, after] at held
    cases held
  · rename_i before after
    rw [before, after] at held
    cases held
  · rw [running, if_neg Bool.false_ne_true]

end Trail

namespace Point

def isEnding : Point G V E → Bool
  | .log _ p => p.isEnding
  | .halt _ => true
  | _ => false

end Point

inductive Exchange.Interrupts : Exchange G V E → Prop where
  | check (elapsed now : Float) (i : Interrupt) :
      Interrupts (.check elapsed now (.error (.interrupt i)))
  | create (g : G) (now : Float) (i : Interrupt) :
      Interrupts (.create g now (.error (.interrupt i)))
  | init (evaluator : GoalEvaluator G E) (now : Float) (i : Interrupt) :
      Interrupts (.init evaluator now (.error (.interrupt i)))
  | resume (evaluator : GoalEvaluator G E) (answers : Ledger G (Option V)) (now : Float)
      (i : Interrupt) :
      Interrupts (.resume evaluator answers now (.error (.interrupt i)))
  | emit (event : Event G V E) (now : Float) (i : Interrupt) : Interrupts (.emit event now (some i))

/-- The demand has the host call somebody: the pruner, the factory, an evaluator or a listener. -/
def Demand.isCall {σ : Type} : Demand G V E σ → Bool
  | .check .. | .create .. | .init .. | .resume .. | .emit .. => true
  | .proceed _ | .record .. | .halt _ => false

namespace Session

theorem escape_isEnding (s : Session G V E) (failure : Failure) :
    (s.escape failure).point.isEnding = true := by
  unfold escape
  split
  · split <;> rfl
  · rfl

variable [Keyed G] {s s' : Session G V E} {x : Exchange G V E}

theorem isEnding_step (ending : s.point.isEnding = true) (taken : s.Step x s') :
    s'.point.isEnding = true := by
  obtain ⟨root, bound, started, now, cache, callers, point⟩ := s
  cases point with
  | log n p => cases taken; exact ending
  | halt outcome => cases taken
  | _ => cases ending

theorem isEnding_of_interrupts (taken : s.Step x s') (interrupts : x.Interrupts) :
    s'.point.isEnding = true := by
  obtain ⟨root, bound, started, now, cache, callers, point⟩ := s
  cases point with
  | report events p => cases events <;> cases taken <;> cases interrupts; exact escape_isEnding _ _
  | _ => cases taken <;> cases interrupts <;> exact escape_isEnding _ _

theorem isCall_of_isEnding (ending : s.point.isEnding = true) : s.next.isCall = false := by
  obtain ⟨root, bound, started, now, cache, callers, point⟩ := s
  cases point with
  | log n p => rfl
  | halt outcome => rfl
  | _ => cases ending

/-- What a session keeps to besides being coherent. -/
structure Kept (s : Session G V E) : Prop where
  coherent : s.Coherent
  /-- The path is no longer than it may be. -/
  short : s.path.length ≤ s.bound
  /-- A goal that is not on the path yet is pending until it is answered. -/
  outside : ∀ g, s.point.subject? = some g → s.point.held? = none →
    ∃ e, s.cache.find? g = some e ∧ (e.state = .pending ∨ e.state = .done)
  /-- No goal waits in a session that is over. -/
  alone : s.point.isOver = true → s.callers = []
  /-- A session that is over has only log records to write. -/
  ending : s.point.isOver = true → s.point.isEnding = true

theorem Coherent.path_apart (coherent : s.Coherent) [EquivBEq G] :
    s.path.Pairwise fun a b => (a == b) = false := by
  have waiting : (s.callers.map (·.goal)).Pairwise fun a b => (a == b) = false :=
    List.pairwise_map.mpr coherent.apart
  unfold path
  cases held : s.point.held? with
  | none => exact waiting
  | some g =>
      refine List.pairwise_cons.mpr ⟨?_, waiting⟩
      intro a member
      obtain ⟨f, waits, rfl⟩ := List.mem_map.mp member
      rw [BEq.comm]
      exact (coherent.stands g (Point.subject?_of_held? held)).1 f waits

omit [Keyed G] in
theorem path_of_held?_eq_none (held : s.point.held? = none) : s.path = s.callers.map (·.goal) := by
  rw [path, held]
  rfl

/-- A goal that is let onto the path is its innermost one, one that leaves was that, and nothing
else moves the path but a failure. -/
theorem Turn.path (turn : Turn s x s') :
    s'.path = s.path ∨ (∃ g, s'.path = g :: s.path ∧ s.path.length < s.bound) ∨
      (∃ g, s.path = g :: s'.path) ∨ s'.path = [] := by
  cases turn with
  | stay now onward => exact .inl (by simp only [Session.path, goTo, after, onward.held?])
  | start now before => exact .inl (by simp only [Session.path, goTo, after, before]; rfl)
  | known before => exact .inl (by simp only [Session.path, goTo, before]; rfl)
  | close before => exact .inl (by simp only [Session.path, goTo, before]; rfl)
  | begin before => exact .inl (by simp only [Session.path, goTo, setState, before]; rfl)
  | @enter g _ now before room =>
      exact .inr (.inl ⟨g, by simp only [Session.path, goTo, after, before]; rfl, room⟩)
  | assign before => exact .inl (by simp only [Session.path, goTo, setState, before]; rfl)
  | await before => exact .inl (by simp only [Session.path, goTo, setState, before]; rfl)
  | finish before => exact .inl (by simp only [Session.path, before]; rfl)
  | @leave g v old held now before =>
      cases held with
      | false => exact .inl (by simp only [Session.path, goTo, after, before]; rfl)
      | true => exact .inr (.inr (.inl ⟨g, by simp only [Session.path, goTo, after, before]; rfl⟩))
  | call before => exact .inl (by simp only [Session.path, before]; rfl)
  | back before callers =>
      left
      simp only [Session.path, before, callers, Point.held?, Frame.receive_goal]
      rfl
  | conclude before => exact .inl (by simp only [Session.path, goTo, before]; rfl)
  | escape now failure =>
      right; right; right
      rw [Session.path, Point.held?_of_isOver (escape_isOver _ failure), escape_callers]
      rfl

theorem Turn.bound (turn : Turn s x s') : s'.bound = s.bound := by
  cases turn <;> rfl

namespace Kept

theorem start (root : G) (wanted bound : Nat) (now : Float) :
    Kept (.start root wanted bound now : Session G V E) where
  coherent := .start root wanted bound now
  short := by
    unfold Session.start
    split <;> exact Nat.zero_le _
  outside := by
    unfold Session.start
    split <;> simp [Point.subject?]
  alone := fun _ => rfl
  ending := by
    unfold Session.start
    split <;> simp [Point.isOver]

theorem step [EquivBEq G] (kept : Kept s) (taken : s.Step x s') : Kept s' := by
  have turn := Turn.of_step kept.coherent taken
  refine
    { coherent := kept.coherent.step taken
      short := ?_, outside := ?_, alone := ?_, ending := ?_ }
  · rw [turn.bound]
    have short := kept.short
    obtain same | ⟨g, more, room⟩ | ⟨g, less⟩ | gone := turn.path
    · rwa [same]
    · rw [more]
      exact room
    · rw [less, List.length_cons] at short
      omega
    · rw [gone]
      exact Nat.zero_le _
  · intro g standing held
    cases turn with
    | stay now onward =>
        apply kept.outside g _ (onward.held? ▸ held)
        rw [← Point.stance_eq_working_iff] at standing ⊢
        exact onward.stance ▸ standing
    | begin =>
        cases standing
        exact ⟨_, Ledger.find?_put_self _ g _, .inl rfl⟩
    | finish =>
        cases standing
        exact ⟨_, Ledger.find?_put_self _ g _, .inr rfl⟩
    | escape now failure =>
        rw [Point.subject?_of_isOver (escape_isOver _ failure)] at standing
        cases standing
    | start | known | close | leave | call | conclude => cases standing
    | enter | assign | await | back => cases held
  · intro halted
    cases turn with
    | stay now onward =>
        apply kept.alone
        rw [← Point.stance_eq_ended_iff] at halted ⊢
        exact onward.stance ▸ halted
    | conclude before alone => exact alone
    | escape now failure => rfl
    | _ => cases halted
  · intro halted
    cases turn with
    | stay now onward =>
        apply isEnding_step _ taken
        apply kept.ending
        rw [← Point.stance_eq_ended_iff] at halted ⊢
        exact onward.stance ▸ halted
    | conclude => rfl
    | escape now failure => exact escape_isEnding _ failure
    | _ => cases halted

theorem running (kept : Kept s) (call : s.next.isCall = true) : s.point.isOver = false := by
  cases halted : s.point.isOver with
  | false => rfl
  | true =>
      rw [isCall_of_isEnding (kept.ending halted)] at call
      cases call

end Kept

theorem Turn.follow [EquivBEq G] (kept : Kept s) (turn : Turn s x s') :
    (Trail.of s.path).follow s s' = Trail.of s'.path := by
  have apart := kept.coherent.path_apart
  cases turn with
  | @stay _ p now onward =>
      have held := onward.held?
      have path : ((s.after now).goTo p).path = s.path := by
        simp only [Session.path, goTo, after, held]
      cases halted : p.isOver with
      | false => rw [Trail.follow_of_held? _ halted held, path]
      | true =>
          have ended : s.point.isOver = true := by
            rw [← Point.stance_eq_ended_iff] at halted ⊢
            exact onward.stance ▸ halted
          have empty : s.path = [] := by
            rw [path_of_held?_eq_none (Point.held?_of_isOver ended), kept.alone ended]
            rfl
          rw [Trail.follow_of_isOver _ _ halted, path, empty]
          rfl
  | enter _ now before =>
      simp only [Trail.follow, Session.path, goTo, after, before]
      exact Trail.enter_of _ _
  | @leave g v old held now before =>
      cases held with
      | false => simp only [Trail.follow, Session.path, goTo, after, before]; rfl
      | true =>
          simp only [Session.path, before] at apart
          simp only [Trail.follow, Session.path, goTo, after, before]
          exact Trail.leave_of (List.pairwise_cons.mp apart).1
  | back before callers =>
      simp only [Trail.follow, Session.path, before, callers, Point.held?, Frame.receive_goal]
      rfl
  | conclude before alone =>
      simp only [Trail.follow, Session.path, goTo, before, alone]
      rfl
  | escape now failure =>
      rw [← List.append_nil s.path] at apart
      rw [Trail.follow_of_isOver _ _ (escape_isOver _ failure)]
      have unwound := Trail.unwind_of apart
      rw [List.append_nil] at unwound
      rw [unwound, Session.path, Point.held?_of_isOver (escape_isOver _ failure), escape_callers]
      rfl
  | start now before | known before | close before | begin before | assign before | await before
  | finish before | call before =>
      simp only [Trail.follow, Session.path, goTo, after, setState, before]
      rfl

/-- As long as a session is not over, the goals that wait go on to wait until one is
answered. -/
theorem Turn.suffix {C : List (Frame G V E)} (turn : Turn s x s') (before : C <:+ s.callers)
    (long : C.length ≤ s'.callers.length) (running : s'.point.isOver = false) :
    C <:+ s'.callers := by
  cases turn with
  | call => exact before.trans (List.suffix_cons _ _)
  | @back f rest v _ callers =>
      rw [callers, List.suffix_cons_iff] at before
      obtain rfl | below := before
      · exact absurd long (Nat.not_succ_le_self _)
      · exact below
  | escape now failure =>
      rw [escape_isOver] at running
      cases running
  | conclude => cases running
  | _ => exact before

namespace Kept

theorem awaits (kept : Kept s) {g : G} (below : g ∈ s.path.tail) :
    s.cache.find? g = some ⟨.awaiting, none⟩ := by
  have waiting : g ∈ s.callers.map (·.goal) := by
    unfold Session.path at below
    cases held : s.point.held? with
    | none =>
        rw [held] at below
        exact List.mem_of_mem_tail below
    | some k =>
        rw [held] at below
        exact below
  obtain ⟨f, waits, rfl⟩ := List.mem_map.mp waiting
  exact kept.coherent.waits f waits

/-- A goal that is not answered is on the path, or it is new and the session stands at it. -/
theorem undone [EquivBEq G] (kept : Kept s) (running : s.point.isOver = false) {g : G} {e : Entry V}
    (found : s.cache.find? g = some e) (unanswered : e.state ≠ .done) :
    s.path.any (· == g) = true ∨ e.state = .pending ∧ s.point.subject?.any (· == g) = true := by
  obtain ⟨f, waits, same⟩ | ⟨k, standing, same⟩ :=
    kept.coherent.settled running g e found unanswered
  · left
    rw [List.any_eq_true]
    exact ⟨f.goal, List.mem_append_right _ (List.mem_map_of_mem waits), same⟩
  · cases held : s.point.held? with
    | some k' =>
        obtain rfl := Option.some.inj ((Point.subject?_of_held? held).symm.trans standing)
        left
        rw [List.any_eq_true]
        exact ⟨k', by rw [path, held]; exact List.mem_cons_self, same⟩
    | none =>
        obtain ⟨e', recorded, state⟩ := kept.outside k standing held
        rw [Ledger.find?_congr same, found] at recorded
        cases recorded
        right
        exact ⟨state.resolve_right unanswered, by rw [standing]; exact same⟩

theorem settled (kept : Kept s) {v : Option V} (answered : s.point = .answer v)
    (alone : s.callers = []) {g : G} {e : Entry V} (found : s.cache.find? g = some e) :
    e.state = .done := by
  by_contra unanswered
  obtain ⟨f, waits, -⟩ | ⟨k, standing, -⟩ :=
    kept.coherent.settled (by rw [answered]; rfl) g e found unanswered
  · rw [alone] at waits
    cases waits
  · rw [answered] at standing
    cases standing

end Kept

end Session

namespace Play

variable [Keyed G] {h : Host W G V E} {c : Play W G V E}

def trail (h : Host W G V E) (c : Play W G V E) : Nat → Trail G
  | 0 => ⟨[], fun _ => false⟩
  | n + 1 => (c.trail h n).follow (c.after h n).session (c.after h (n + 1)).session

/-- The request that is made at step `n` is under way at step `m`: nothing went back to a goal that
waited when it was made, and the session is not over. -/
def Open (h : Host W G V E) (c : Play W G V E) (n m : Nat) : Prop :=
  n ≤ m ∧ ∀ i, n ≤ i → i ≤ m →
    (c.after h n).session.callers.length ≤ (c.after h i).session.callers.length ∧
      (c.after h i).session.point.isOver = false

variable [EquivBEq G]

theorem kept_after (kept : c.session.Kept) (n : Nat) : (c.after h n).session.Kept :=
  Play.invariant (fun _ _ _ before taken => before.step taken) kept n

theorem bound_after (kept : c.session.Kept) (n : Nat) :
    (c.after h n).session.bound = c.session.bound := by
  have together : (c.after h n).session.Kept ∧ (c.after h n).session.bound = c.session.bound := by
    apply Play.invariant (I := fun s => s.Kept ∧ s.bound = c.session.bound) _ ⟨kept, rfl⟩ n
    rintro s x s' ⟨before, same⟩ taken
    exact ⟨before.step taken, (Session.Turn.of_step before.coherent taken).bound.trans same⟩
  exact together.2

theorem trail_eq_of_path (kept : c.session.Kept) (empty : c.session.path = []) (n : Nat) :
    c.trail h n = .of (c.after h n).session.path := by
  induction n with
  | zero =>
      rw [after, empty]
      rfl
  | succ n ih =>
      have before := kept_after (h := h) kept n
      rw [trail, ih]
      cases halted : (c.after h n).session.outcome? with
      | none =>
          obtain ⟨x, s, w, -, taken, next⟩ := exists_advance h halted
          rw [after, next]
          exact (Session.Turn.of_step before.coherent taken).follow before
      | some outcome =>
          have ended : (c.after h n).session.point = .halt outcome := by
            unfold Session.outcome? at halted
            split at halted <;> simp_all
          have isOver : (c.after h n).session.point.isOver = true := by
            rw [ended]
            rfl
          rw [after, advance_of_over (by rw [halted]; rfl), Trail.follow_of_isOver _ _ isOver,
            Session.path_of_held?_eq_none (Point.held?_of_isOver isOver), before.alone isOver]
          rfl

theorem callers_suffix (kept : c.session.Kept) {n m : Nat} (isOpen : c.Open h n m) :
    (c.after h n).session.callers <:+ (c.after h m).session.callers := by
  obtain ⟨later, within⟩ := isOpen
  induction later with
  | refl => exact List.suffix_refl _
  | @step m later ih =>
      have before := ih fun i start upTo => within i start (Nat.le_succ_of_le upTo)
      have ⟨long, running⟩ := within (m + 1) (Nat.le_succ_of_le later) (Nat.le_refl _)
      cases halted : (c.after h m).session.outcome? with
      | some outcome => rwa [after, advance_of_over (by rw [halted]; rfl)]
      | none =>
          obtain ⟨x, s, w, -, taken, next⟩ := exists_advance h halted
          rw [after, next] at long running ⊢
          exact (Session.Turn.of_step (kept_after kept m).coherent taken).suffix before long running

/-- A request that is under way adds to the path that it found and changes nothing of it. -/
theorem path_suffix (kept : c.session.Kept) {n m : Nat} {g : G} (isOpen : c.Open h n m)
    (requested : (c.after h n).session.point = .request g) :
    (c.after h n).session.path <:+ (c.after h m).session.path := by
  have same : (c.after h n).session.path = (c.after h n).session.callers.map (·.goal) :=
    Session.path_of_held?_eq_none (by rw [requested]; rfl)
  rw [same]
  exact ((callers_suffix kept isOpen).map _).trans (List.suffix_append _ _)

theorem path_of_answer (kept : c.session.Kept) {n m : Nat} {g : G} {v : Option V}
    (isOpen : c.Open h n m) (requested : (c.after h n).session.point = .request g)
    (answered : (c.after h m).session.point = .answer v)
    (back : (c.after h m).session.callers.length = (c.after h n).session.callers.length) :
    (c.after h m).session.path = (c.after h n).session.path := by
  rw [Session.path_of_held?_eq_none (by rw [answered]; rfl),
    Session.path_of_held?_eq_none (by rw [requested]; rfl),
    (callers_suffix kept isOpen).eq_of_length back.symm]

end Play

theorem Settings.depthBound_eq (settings : Settings) (stackLimit : Int) :
    (settings.depthBound stackLimit : Int) =
      min (settings.maxDepth : Int) (max 1 ((stackLimit - 200).fdiv 3)) := by
  unfold Settings.depthBound stackBound
  omega

/-- In every session and whoever its host is. Whenever the pruner, the factory, an evaluator or a
listener is called, no goal stands twice on the path, the active goals are those on the path, the
path is within its bound, all goals on it but the last wait for subgoals, and a goal on record that
is not done is active or is the one new goal. A request leaves path and active goals as it found
them, both when it is answered and when a failure passes through it. When the root is answered the
path is empty and every goal on record is done. -/
theorem path_kept_throughout (h : Host W Goal V E) (settings : Settings) (stackLimit : Int)
    (root : Goal) (w : W) (n : Nat) :
    let c := Play.opening h settings stackLimit root w
    let s := (c.after h n).session
    let t := c.trail h n
    (s.next.isCall = true →
      t.path.Pairwise (fun a b => (a == b) = false) ∧
      (∀ g, t.active g = t.path.any (· == g)) ∧
      (t.path.length : Int) ≤ min (settings.maxDepth : Int) (max 1 ((stackLimit - 200).fdiv 3)) ∧
      (∀ g ∈ t.path.dropLast, s.cache.find? g = some ⟨.awaiting, none⟩) ∧
      ∀ g e, s.cache.find? g = some e → e.state ≠ .done →
        t.active g = true ∨ e.state = .pending ∧ s.point.subject?.any (· == g) = true) ∧
    (∀ g m, s.point = .request g → c.Open h n m →
      (∀ v, (c.after h m).session.point = .answer v →
        (c.after h m).session.callers.length = s.callers.length → c.trail h m = t) ∧
      ∃ above, (c.after h m).session.path = above ++ s.path ∧
        (c.trail h m).unwind above = t) ∧
    ∀ v, s.point = .answer v → s.callers = [] →
      t.path = [] ∧ ∀ g e, s.cache.find? g = some e → e.state = .done := by
  intro c s t
  have start : c.session.Kept := .start root _ _ _
  have kept : s.Kept := Play.kept_after start n
  have trail : ∀ i, c.trail h i = .of (c.after h i).session.path := by
    apply Play.trail_eq_of_path start
    unfold c Play.opening Session.start
    split <;> rfl
  have along : t = .of s.path := trail n
  rw [along]
  refine ⟨?_, ?_, ?_⟩
  · intro call
    refine ⟨?_, ?_, ?_, ?_, ?_⟩
    · rw [Trail.of, List.pairwise_reverse]
      exact kept.coherent.path_apart.imp fun apart => by rwa [BEq.comm]
    · intro g
      exact (List.any_reverse ..).symm
    · rw [← Settings.depthBound_eq, Trail.of, List.length_reverse]
      have short := kept.short
      rw [Play.bound_after start n] at short
      exact Int.ofNat_le.mpr short
    · intro g member
      rw [Trail.of, List.dropLast_reverse, List.mem_reverse] at member
      exact kept.awaits member
    · intro g e found unanswered
      exact kept.undone (kept.running call) found unanswered
  · intro g m requested isOpen
    constructor
    · intro v answered back
      rw [trail m, Play.path_of_answer start isOpen requested answered back]
    · obtain ⟨above, grown⟩ := Play.path_suffix start isOpen requested
      refine ⟨above, grown.symm, ?_⟩
      rw [trail m, ← grown]
      apply Trail.unwind_of
      rw [grown]
      exact (Play.kept_after start m).coherent.path_apart
  · intro v answered alone
    constructor
    · rw [Session.path_of_held?_eq_none (by rw [answered]; rfl), alone]
      rfl
    · intro g e found
      exact kept.settled answered alone found

end Pursuit

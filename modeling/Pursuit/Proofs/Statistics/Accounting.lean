import Pursuit.Proofs.Session.EventLog
import Pursuit.Proofs.Session.Isolation
import Pursuit.Proofs.Statistics.SessionCounts

/-! # The accounts of a collector

A thread holds sessions, and what is called in one of them may hold further ones. A collector that
is registered all the while counts them, the goals on their records, and the evaluators and
results of these. A result is told right before its goal is done, with no call in between, so the
sessions that lie inside of others do not disturb the matching.
-/

namespace Pursuit

variable {W T G V E F β K L : Type}

/-! ## A collector that is registered -/

section Registered

variable [BEq L]

/-- The listener is registered, and no other one is taken for it. -/
def Registered (listeners : W → Listeners L) (l : L) (w : W) : Prop :=
  ∃ before after, listeners w = before ++ l :: after ∧ ∀ l' ∈ before ++ after, (l' == l) = false

/-- The collector and its registration are as they were. -/
def Untouched (listeners : W → Listeners L) (l : L) (totals : W → Totals T) (w w' : W) : Prop :=
  totals w' = totals w ∧ (Registered listeners l w → Registered listeners l w')

/-- The listener is a collector on a thread, and neither the other listeners nor the log have to do
with it. -/
structure Services.Collects [BEq T] (p : Services W F β K L) (listeners : W → Listeners L) (l : L)
    (t : T) (totals : W → Totals T) : Prop where
  shared : p.listeners = listeners
  hears : ∀ event w, Registered listeners l w →
    totals ((p.hear l event).perform w).2 = (totals w).after Goal.kind GoalEvaluator.goal t event ∧
      Registered listeners l ((p.hear l event).perform w).2
  others : ∀ l' event w, (l' == l) = false →
    Untouched listeners l totals w ((p.hear l' event).perform w).2
  record : ∀ entry w, Untouched listeners l totals w (p.record entry w)

theorem Untouched.trans {listeners : W → Listeners L} {l : L} {totals : W → Totals T}
    {w w' w'' : W} (first : Untouched listeners l totals w w')
    (later : Untouched listeners l totals w' w'') : Untouched listeners l totals w w'' :=
  ⟨later.1.trans first.1, later.2 ∘ first.2⟩

namespace Services.Collects

variable [BEq T] {p : Services W F β K L} {listeners : W → Listeners L} {l : L} {t : T}
  {totals : W → Totals T} (collects : p.Collects listeners l t totals)

include collects

theorem deliver_untouched (event : Event Goal Value Product) {targets : List L}
    (others : ∀ l' ∈ targets, (l' == l) = false) (w : W) :
    Untouched listeners l totals w (deliver (fun l => p.hear l event)
      (fun l f => p.record (.listener l event.name f)) targets w).2 := by
  induction targets generalizing w with
  | nil => exact ⟨rfl, id⟩
  | cons l' rest ih =>
      have heard := collects.others l' event w (others l' (.head _))
      have later := ih fun l'' member => others l'' (.tail _ member)
      simp only [deliver]
      split
      · rename_i w' told
        rw [told] at heard
        exact heard.trans (later w')
      · rename_i f w' told
        rw [told] at heard
        exact heard.trans ((collects.record (.listener l' event.name f) w').trans (later _))
      · rename_i i w' told
        rw [told] at heard
        exact heard

/-- A registered collector takes each event in once, also where a session has it among its own. -/
theorem emit (extras : List L) (event : Event Goal Value Product) {w : W}
    (registered : Registered listeners l w) (quiet : (p.emit extras event w).1 = none) :
    totals (p.emit extras event w).2 = (totals w).after Goal.kind GoalEvaluator.goal t event ∧
      Registered listeners l (p.emit extras event w).2 := by
  obtain ⟨before, after, members, once⟩ := registered
  have registered : Registered listeners l w := ⟨before, after, members, once⟩
  have targets : (p.listeners w).targets extras =
      before ++ l :: (after ++ extras.filter fun l => !(p.listeners w).contains l) := by
    rw [Listeners.targets, collects.shared, members, List.append_assoc, List.cons_append]
  have first : ∀ l' ∈ before, (l' == l) = false :=
    fun l' member => once l' (List.mem_append_left after member)
  have later : ∀ l' ∈ after ++ extras.filter fun l => !(p.listeners w).contains l,
      (l' == l) = false := by
    intro l' member
    obtain further | extra := List.mem_append.mp member
    · exact once l' (List.mem_append_right before further)
    · have absent := (List.mem_filter.mp extra).2
      rw [collects.shared, members, Bool.not_eq_true', List.contains_eq_any_beq,
        List.any_eq_false] at absent
      exact Bool.eq_false_iff.mpr (absent l (by simp))
  rw [Services.emit, targets, deliver_append] at quiet ⊢
  have ahead := collects.deliver_untouched event first w
  split at quiet
  · rename_i w' told
    simp only [told] at ahead ⊢
    have heard := collects.hears event w' (ahead.2 registered)
    rw [ahead.1] at heard
    simp only [deliver] at quiet ⊢
    split at quiet
    · rename_i w'' ok
      simp only [ok] at heard ⊢
      obtain ⟨kept, still⟩ := collects.deliver_untouched event later w''
      exact ⟨kept.trans heard.1, still heard.2⟩
    · rename_i f w'' fault
      simp only [fault] at heard ⊢
      obtain ⟨kept, still⟩ := (collects.record (.listener l event.name f) w'').trans
        (collects.deliver_untouched event later _)
      exact ⟨kept.trans heard.1, still heard.2⟩
    · cases quiet
  · cases quiet

end Services.Collects

/-! ## Sessions within sessions -/

/-- What happens on a thread from one world to another: sessions whose root is answered, in which
the pruner, the factory and the evaluators may hold further sessions, and other things that do not
touch the collector. The sessions are given by their plays, up to the answer. -/
inductive Stretch [BEq T] (listeners : W → Listeners L) (l : L) (t : T) (totals : W → Totals T) :
    W → List (Play W Goal Value Product) → W → Prop where
  | idle {w w' : W} (untouched : Untouched listeners l totals w w') :
      Stretch listeners l t totals w [] w'
  | append {w w' w'' : W} {plays later : List (Play W Goal Value Product)}
      (first : Stretch listeners l t totals w plays w')
      (further : Stretch listeners l t totals w' later w'') :
      Stretch listeners l t totals w (plays ++ later) w''
  | session {F β K : Type} {p : Services W F β K L} {create : Goal → Attempt W (Option Product)}
      {settings : Settings} {stackLimit : Int} {fuel : Nat} {pruner : Option (Pruner K)}
      {extras : List L} {root : Goal} {w : W} {h : Host W Goal Value Product}
      {c : Play W Goal Value Product} {n : Nat} {v : Option Value}
      {nested : Nat → List (Play W Goal Value Product)}
      (collects : p.Collects listeners l t totals) (binds : Binds create)
      (host : h = p.host create (pruner.getD .never) extras)
      (opening : c = Play.opening h settings stackLimit root w)
      (answers : (c.after h n).session.answer? = some v) (enough : n + 3 ≤ fuel)
      (queries : ∀ k x, k < n → c.exchange? h k = some x → x.isQuery = true →
        Stretch listeners l t totals (c.after h k).world (nested k) (c.after h (k + 1)).world)
      (others : ∀ k x, k < n → c.exchange? h k = some x → x.isQuery = false → nested k = []) :
      Stretch listeners l t totals w (c.after h n :: (List.range n).flatMap nested)
        (p.resolve create settings stackLimit fuel pruner extras root w).2

/-- The counts to which sessions come together. -/
structure Sums (plays : List (Play W Goal Value Product)) (amount : Tally → Nat) : Prop where
  fated : ∀ c ∈ plays, c.Fated
  concluded : ∀ c ∈ plays, c.share .conclusion = c.session.cache.keys.length
  sessions : amount .sessions = plays.length
  assignments : amount .assignments = (plays.map (·.share .evaluator)).sum
  results : amount .results = (plays.map (·.share .result)).sum
  cutoffs : amount .results + amount .cutoffs =
    (plays.map (·.session.cache.keys.length)).sum + (plays.map (·.unkinded)).sum
  absent : amount .absentResults ≤ amount .results
  kinded : ∀ c ∈ plays, (∀ g ∈ c.session.cache.keys, g.cls ≠ .base) → c.unkinded = 0

namespace Sums

theorem nil : Sums ([] : List (Play W Goal Value Product)) fun _ => 0 :=
  ⟨nofun, nofun, rfl, rfl, rfl, rfl, Nat.le_refl _, nofun⟩

theorem append {plays later : List (Play W Goal Value Product)} {a b : Tally → Nat}
    (first : Sums plays a) (further : Sums later b) : Sums (plays ++ later) fun k => a k + b k where
  fated c member := (List.mem_append.mp member).elim (first.fated c) (further.fated c)
  concluded c member :=
    (List.mem_append.mp member).elim (first.concluded c) (further.concluded c)
  sessions := by rw [first.sessions, further.sessions, List.length_append]
  assignments := by rw [first.assignments, further.assignments, List.map_append, List.sum_append]
  results := by rw [first.results, further.results, List.map_append, List.sum_append]
  cutoffs := by
    have before := first.cutoffs
    have after := further.cutoffs
    simp only [List.map_append, List.sum_append]
    omega
  absent := Nat.add_le_add first.absent further.absent
  kinded c member := (List.mem_append.mp member).elim (first.kinded c) (further.kinded c)

/-- Where its root is answered, the counts of a session say what became of its goals. -/
theorem single {c : Play W Goal Value Product} {t : T} {o : Totals T} {v : Option Value}
    (fated : c.Fated) (kept : c.session.Kept) (answers : c.session.answer? = some v)
    (counted : Collector.Counted Event.unkinded t c.events c.session.point.closing? o)
    (kinded : (∀ g ∈ c.session.cache.keys, g.cls ≠ .base) → c.unkinded = 0) : Sums [c] o.count := by
  have standing := ((Session.answer?_eq_some_iff _ v).mp answers).1
  have told : ∀ matter, c.events.countP (·.tells matter) =
      (c.subjects matter).length + (Point.announce : Point Goal Value Product).owes matter := by
    intro matter
    have told := fated.told matter
    rw [standing] at told
    exact told
  have share := fated.share_eq (by rw [standing]; rfl)
  have nobody : c.subjects .start = [] :=
    List.eq_nil_iff_forall_not_mem.mpr fun g member => fated.bears .start g member
  have concluded := fated.share_conclusion kept answers
  rw [standing] at counted
  refine ⟨?_, ?_, ?_, ?_, ?_, ?_, counted.absent, ?_⟩
  · rintro _ (_ | ⟨_, ⟨⟩⟩)
    exact fated
  · rintro _ (_ | ⟨_, ⟨⟩⟩)
    exact concluded
  · change o.sessions = 1
    rw [counted.sessions, told, nobody]
    rfl
  · change o.assignments = c.share .evaluator
    rw [counted.assignments, told, share]
    rfl
  · change o.results = c.share .result
    rw [counted.results, told, share]
    rfl
  · change o.results + o.cutoffs = c.session.cache.keys.length + c.unkinded
    rw [counted.cutoffs, told, ← share, concluded, counted.unmatched_eq_nil]
    rfl
  · rintro _ (_ | ⟨_, ⟨⟩⟩)
    exact kinded

end Sums

/-- From one world to another the collector has counted sessions, and no result is left over. -/
structure Accounted (listeners : W → Listeners L) (l : L) (totals : W → Totals T) (w : W)
    (plays : List (Play W Goal Value Product)) (w' : W) : Prop where
  registered : Registered listeners l w'
  unmatched : (totals w').unmatched = []
  counts : ∃ amount, Sums plays amount ∧
    ∀ k, (totals w').count k = (totals w).count k + amount k

/-- A session that was opened in a world is under way, and sessions have been held inside of it. The
collector has its counts beside those of the others. -/
structure UnderWay (listeners : W → Listeners L) (l : L) (t : T) (totals : W → Totals T) (w : W)
    (nested : List (Play W Goal Value Product)) (c : Play W Goal Value Product) : Prop where
  registered : Registered listeners l c.world
  counts : ∃ (o : Totals T) (amount : Tally → Nat),
    Collector.Counted Event.unkinded t c.events c.session.point.closing? o ∧ Sums nested amount ∧
    (totals c.world).unmatched = o.unmatched ∧
    ∀ k, (totals c.world).count k = (totals w).count k + (o.count k + amount k)

namespace UnderWay

variable {listeners : W → Listeners L} {l : L} {t : T} {totals : W → Totals T} {w w' : W}
  {nested inner : List (Play W Goal Value Product)} {c : Play W Goal Value Product}
  {x : Exchange Goal Value Product} {s : Session Goal Value Product}

/-- A step at which nothing is told, and nobody is asked who could hold sessions. -/
theorem silent (underWay : UnderWay listeners l t totals w nested c) (taken : c.session.Step x s)
    (silent : x.told = []) (untouched : Untouched listeners l totals c.world w') :
    UnderWay listeners l t totals w nested ⟨c.past ++ [⟨c.session, x⟩], s, w'⟩ := by
  obtain ⟨registered, o, amount, counted, sums, unmatched, counts⟩ := underWay
  refine ⟨untouched.2 registered, o, amount, ?_, sums, ?_, ?_⟩
  · rw [Play.events_concat, silent, List.append_nil]
    exact taken.counted_silent silent counted
  · rw [untouched.1, unmatched]
  · intro k
    rw [untouched.1, counts]

/-- Whoever is asked may hold sessions, since no result is left to be matched at that time. -/
theorem query (underWay : UnderWay listeners l t totals w nested c) (taken : c.session.Step x s)
    (query : x.isQuery = true)
    (inside : (totals c.world).unmatched = [] → Accounted listeners l totals c.world inner w') :
    UnderWay listeners l t totals w (nested ++ inner) ⟨c.past ++ [⟨c.session, x⟩], s, w'⟩ := by
  obtain ⟨-, o, amount, counted, sums, unmatched, counts⟩ := underWay
  obtain ⟨apart, silent⟩ := taken.closing?_of_isQuery query
  rw [apart] at counted
  have nothing := counted.unmatched_eq_nil
  obtain ⟨registered, still, further, held, more⟩ := inside (unmatched.trans nothing)
  refine ⟨registered, o, _, ?_, sums.append held, still.trans nothing.symm, ?_⟩
  · rw [Play.events_concat, silent, List.append_nil]
    exact counted.weaken _
  · intro k
    rw [more, counts]
    omega

theorem emit [BEq T] [LawfulBEq T] {event : Event Goal Value Product} {now : Float}
    (underWay : UnderWay listeners l t totals w nested c)
    (taken : c.session.Step (.emit event now none) s) (reports : c.session.point.Reports)
    (listed : c.session.Listed) (bound : c.session.Bound) (registered : Registered listeners l w')
    (heard : totals w' = (totals c.world).after Goal.kind GoalEvaluator.goal t event) :
    UnderWay listeners l t totals w nested
      ⟨c.past ++ [⟨c.session, .emit event now none⟩], s, w'⟩ := by
  obtain ⟨-, o, amount, counted, sums, unmatched, counts⟩ := underWay
  refine ⟨registered, o.after Goal.kind GoalEvaluator.goal t event, amount, ?_, sums, ?_, ?_⟩
  · rw [Play.events_concat]
    exact taken.counted_emit reports listed bound counted
  · rw [heard, Collector.after_eq_add, Collector.after_eq_add]
    exact Collector.unmatched_add unmatched _
  · intro k
    have alike : (totals c.world).unmatchedOf t = o.unmatchedOf t := by
      rw [Collector.unmatchedOf, unmatched, Collector.unmatchedOf]
    have added := Collector.count_add alike
      (Collector.contribution Goal.kind GoalEvaluator.goal event) k
    have before := counts k
    rw [heard, Collector.after_eq_add, Collector.after_eq_add]
    omega

end UnderWay

/-- What a collector has counted when the root of a session is answered, if it counts right what is
held inside of the session. -/
theorem Services.Collects.underWay_after [BEq T] [LawfulBEq T] {p : Services W F β K L}
    {listeners : W → Listeners L} {l : L} {t : T} {totals : W → Totals T}
    (collects : p.Collects listeners l t totals) {create : Goal → Attempt W (Option Product)}
    (binds : Binds create) {pruner : Pruner K} {extras : List L} {settings : Settings}
    {stackLimit : Int} {root : Goal} {w : W} {h : Host W Goal Value Product}
    (host : h = p.host create pruner extras) {c : Play W Goal Value Product}
    (opening : c = Play.opening h settings stackLimit root w) {n : Nat}
    (running : ∀ k, k ≤ n → (c.after h k).session.point.isOver = false)
    {nested : Nat → List (Play W Goal Value Product)}
    (queries : ∀ k x, k < n → c.exchange? h k = some x → x.isQuery = true →
      Registered listeners l (c.after h k).world → (totals (c.after h k).world).unmatched = [] →
      Accounted listeners l totals (c.after h k).world (nested k) (c.after h (k + 1)).world)
    (others : ∀ k x, k < n → c.exchange? h k = some x → x.isQuery = false → nested k = [])
    (registered : Registered listeners l w) (unmatched : (totals w).unmatched = []) :
    UnderWay listeners l t totals w ((List.range n).flatMap nested) (c.after h n) := by
  have fated : ∀ k, k ≤ n → (c.after h k).Fated := by
    intro k early
    refine Play.fated_after ?_ fun j before => running j (Nat.le_trans before early)
    rw [opening]
    exact .opening h settings stackLimit root w
  have listed : ∀ k, k ≤ n → (c.after h k).session.Listed := by
    subst opening
    intro k early
    exact Play.listed_after settings stackLimit root w fun j before =>
      running j (Nat.le_trans before early)
  have bound : ∀ k, (c.after h k).session.Bound := by
    subst opening host
    exact p.bound_after binds pruner extras settings stackLimit root w
  apply Play.along_running
    (I := fun k c => UnderWay listeners l t totals w ((List.range k).flatMap nested) c) running
  · subst opening
    exact ⟨registered, {}, _, .start t _, .nil, unmatched, fun k => by
      rw [Collector.count_empty]
      rfl⟩
  · -- sessions are held inside of this one at the steps at which somebody is asked
    intro k x s w' early before met taken further
    have exchanged : c.exchange? h k = some x := by
      rw [Play.exchange?, met]
      rfl
    have next : (c.after h (k + 1)).world = w' := by rw [Play.after, Play.advance, met]
    rw [List.range_succ, List.flatMap_append, List.flatMap_singleton]
    cases query : x.isQuery with
    | true =>
        rw [← next]
        exact before.query taken query fun nothing =>
          queries k x early exchanged query before.registered nothing
    | false =>
        rw [others k x early exchanged query, List.append_nil]
        obtain rfl := Host.world_of_meet met
        subst host
        cases x with
        | proceed => exact before.silent taken rfl ⟨rfl, id⟩
        | record log => exact before.silent taken rfl (collects.record (.session log pruner) _)
        | emit event now reply =>
            cases reply with
            | some i =>
                have ending := Session.isEnding_of_interrupts taken (.emit event now i)
                rw [Point.isOver_of_isEnding ending] at further
                cases further
            | none =>
                obtain ⟨heard, still⟩ := collects.emit extras event before.registered
                  (Play.reply_of_emit met).symm
                exact before.emit taken (fated k (Nat.le_of_lt early)).reports
                  (listed k (Nat.le_of_lt early)) (bound k) still heard
        | _ => cases query

/-- A collector keeps count of all that happens on its thread. -/
theorem Stretch.accounted [BEq T] [LawfulBEq T] {listeners : W → Listeners L} {l : L} {t : T}
    {totals : W → Totals T} {w w' : W} {plays : List (Play W Goal Value Product)}
    (stretch : Stretch listeners l t totals w plays w') (registered : Registered listeners l w)
    (unmatched : (totals w).unmatched = []) : Accounted listeners l totals w plays w' := by
  induction stretch with
  | idle untouched =>
      exact ⟨untouched.2 registered, by rw [untouched.1, unmatched], _, .nil, fun k => by
        rw [untouched.1]
        rfl⟩
  | append first further first_ih further_ih =>
      obtain ⟨registered, unmatched, a, sums, counts⟩ := first_ih registered unmatched
      obtain ⟨registered, unmatched, b, more, added⟩ := further_ih registered unmatched
      exact ⟨registered, unmatched, _, sums.append more, fun k => by
        rw [added, counts, Nat.add_assoc]⟩
  | @session F β K p create settings stackLimit fuel pruner extras root w h c n v nested collects
      binds host opening answers enough queries others ih =>
      have kept : c.session.Kept := by
        rw [opening]
        exact .start root _ _ _
      have running : ∀ k, k ≤ n → (c.after h k).session.point.isOver = false :=
        fun k early => Play.running_of_answer kept answers early
      have fated : (c.after h n).Fated := by
        refine Play.fated_after ?_ running
        rw [opening]
        exact .opening h settings stackLimit root w
      obtain ⟨registered, o, amount, counted, sums, left, counts⟩ :=
        collects.underWay_after binds host opening running ih others registered unmatched
      have single := Sums.single fated (Play.kept_after kept n) answers counted
        (p.unkinded_eq_zero binds _ extras settings stackLimit root w host opening running)
      obtain ⟨outcome, last⟩ := Play.after_answer (h := h) answers
      rw [← Play.after_add] at outcome last
      have resolved : (p.resolve create settings stackLimit fuel pruner extras root w).2 =
          (c.after h (n + 2)).world := by
        subst opening host
        rw [Services.resolve, evaluate_eq_of_over _ _ _ _ _ outcome fuel enough]
      have untouched : Untouched listeners l totals (c.after h n).world
          (p.resolve create settings stackLimit fuel pruner extras root w).2 := by
        rw [resolved, last, host]
        exact collects.record (.session _ _) _
      -- after the answer nothing but a log record is written
      rw [((Session.answer?_eq_some_iff _ v).mp answers).1] at counted
      refine ⟨untouched.2 registered, ?_, _, single.append sums, ?_⟩
      · rw [untouched.1, left, counted.unmatched_eq_nil]
      · intro k
        rw [untouched.1, counts]

end Registered

/-- Services with a collector as their world. Goals need each other as in a knot. -/
def tallyingServices (work : Goal → Attempt (Totals Unit) (Outcome Goal Value)) :
    Services (Totals Unit) Empty Empty Empty Unit :=
  { Services.hosting (fun g => pure (knottedNeeds g)) (fun g _ => work g) with
    listeners := fun _ => [()]
    hear := fun _ event => Collector.hear Goal.kind GoalEvaluator.goal () event
    record := fun _ o => o }

/-- One evaluator fails, and the others find nothing. -/
def plainWork (g : Goal) : Attempt (Totals Unit) (Outcome Goal Value) :=
  if g == numberedGoal 2 then .fault .badType else pure (.done none)

/-- A goal of the base class, which has no kind. -/
def kindlessGoal : Goal :=
  ⟨.base, [numberedContext]⟩

/-- Hold a session on that goal with these evaluators. -/
def consult (o : Totals Unit) : Totals Unit :=
  ((tallyingServices plainWork).resolve hostedFactory .standard 1000 21 none [()] kindlessGoal o).2

/-- One evaluator holds a session of its own. -/
def consultingWork (g : Goal) : Attempt (Totals Unit) (Outcome Goal Value) :=
  if g == numberedGoal 1 then .ofFunction fun o => (.ok (.done (some .baseType)), consult o)
  else plainWork g

theorem Collector.hear_tame (event : Event Goal Value Product) :
    Attempt.Tame (hear (T := Unit) Goal.kind GoalEvaluator.goal () event) := by
  cases event with
  | produced evaluator result elapsed =>
      refine .bind (.ofExcept _) fun g => ?_
      refine .bind (.modify _) fun _ => .bind (.ofExcept _) fun kind => ?_
      exact .bind (.modify _) fun _ => .bind (.ofExcept _) fun g => .modify _
  | stateChanged g state old =>
      cases state with
      | done => exact .bind (.ofExcept _) fun g => .modify _
      | _ => exact .pure ()
  | evaluationStarted | evaluatorAssigned => exact .modify _
  | _ => exact .pure ()

theorem tallyingServices_collects
    (work : Goal → Attempt (Totals Unit) (Outcome Goal Value)) :
    (tallyingServices work).Collects (fun _ => [()]) () () id where
  shared := rfl
  hears _ _ registered := ⟨rfl, registered⟩
  others _ _ _ differs := by cases differs
  record _ _ := ⟨rfl, id⟩

theorem hostedFactory_binds : Binds (W := W) hostedFactory := by
  rintro g w e ⟨⟩
  rfl

section Tallying

variable {work : Goal → Attempt (Totals Unit) (Outcome Goal Value)}
  (held : ∀ g o, ∃ plays, Stretch (fun _ => [()]) () () id o plays ((work g).perform o).2)
  {h : Host (Totals Unit) Goal Value Product}
  (host : h = (tallyingServices work).host hostedFactory .never [()])

include held host

/-- Nobody who is asked there does more than the work of an evaluator. -/
theorem tallyingServices_asked {c : Play (Totals Unit) Goal Value Product}
    {x : Exchange Goal Value Product} {s : Session Goal Value Product} {o : Totals Unit}
    (assigns : c.session.Assigns fun g evaluator => evaluator = .evaluator (hostedEvaluator g))
    (met : h.meet c.world c.session.next = some (x, s, o)) :
    ∃ plays, (x.isQuery = true → Stretch (fun _ => [()]) () () id c.world plays o) ∧
      (x.isQuery = false → plays = []) := by
  rw [Host.world_of_meet met]
  cases x with
  | proceed | record | emit => exact ⟨[], nofun, fun _ => rfl⟩
  | check | create =>
      subst host
      exact ⟨[], fun _ => .idle ⟨rfl, id⟩, fun _ => rfl⟩
  | init evaluator now reply =>
      obtain ⟨g, rfl⟩ := Play.suits_of_init assigns met
      subst host
      exact ⟨[], fun _ => .idle ⟨rfl, id⟩, fun _ => rfl⟩
  | resume evaluator received now reply =>
      obtain ⟨g, rfl⟩ := Play.suits_of_resume assigns met
      obtain ⟨plays, stretch⟩ := held g c.world
      subst host
      exact ⟨plays, fun _ => stretch, nofun⟩

theorem tallyingServices_stretch {root : Goal} {o : Totals Unit} {n fuel : Nat}
    (answers : ((Play.opening h .standard 1000 root o).after h n).session.answer?.isSome = true)
    (enough : n + 3 ≤ fuel) :
    ∃ plays, Stretch (fun _ => [()]) () () id o plays
      ((tallyingServices work).resolve hostedFactory .standard 1000 fuel none [()] root o).2 := by
  obtain ⟨c, opening⟩ : ∃ c, c = Play.opening h .standard 1000 root o := ⟨_, rfl⟩
  rw [← opening] at answers
  obtain ⟨v, answers⟩ := Option.isSome_iff_exists.mp answers
  have assigns : ∀ k, (c.after h k).session.Assigns
      fun g evaluator => evaluator = .evaluator (hostedEvaluator g) := by
    subst opening host
    exact Play.assigns_after fun _ _ => rfl
  have inside : ∀ k, ∃ plays, ∀ x, c.exchange? h k = some x →
      (x.isQuery = true → Stretch (fun _ => [()]) () () id (c.after h k).world plays
        (c.after h (k + 1)).world) ∧ (x.isQuery = false → plays = []) := by
    intro k
    cases exchanged : c.exchange? h k with
    | none =>
        refine ⟨[], fun x some => ?_⟩
        cases some
    | some y =>
        obtain ⟨s, w, met, -, next⟩ := Play.step_of_exchange? exchanged
        obtain ⟨plays, asked⟩ := tallyingServices_asked held host (assigns k) met
        refine ⟨plays, fun x same => ?_⟩
        cases same
        rwa [next]
  obtain ⟨nested, inside⟩ := Classical.axiomOfChoice inside
  exact ⟨_, .session (tallyingServices_collects work) hostedFactory_binds host opening answers
    enough (fun k x _ exchanged => (inside k x exchanged).1)
    fun k x _ exchanged => (inside k x exchanged).2⟩

end Tallying

theorem plainServices_isolated :
    (tallyingServices plainWork).Isolated hostedFactory .never (fun _ => ()) where
  clock _ _ _ := rfl
  factory _ _ _ same := ⟨rfl, same⟩
  init g w e created := by
    cases created
    exact fun _ _ same => ⟨rfl, same⟩
  resume g w e created answers := by
    cases created
    intro w w' same
    refine ⟨?_, same⟩
    change ((plainWork g).perform w).1 = ((plainWork g).perform w').1
    unfold plainWork
    split <;> rfl
  shouldStop _ _ _ same := ⟨rfl, same⟩
  log _ _ _ same := same
  tame _ event := Collector.hear_tame event
  unseen _ _ _ := rfl
  unnoted _ _ _ _ := rfl

theorem plainWork_stretch (g : Goal) (o : Totals Unit) :
    ∃ plays, Stretch (fun _ => [()]) () () id o plays ((plainWork g).perform o).2 := by
  refine ⟨[], .idle ⟨?_, id⟩⟩
  unfold plainWork
  split <;> rfl

/-- A consultation goes the same way, whatever the collector has counted before. -/
theorem plainWork_answers {h : Host (Totals Unit) Goal Value Product}
    (host : h = (tallyingServices plainWork).host hostedFactory .never [()])
    (o : Totals Unit) :
    ((Play.opening h .standard 1000 kindlessGoal o).after h 18).session.answer?.isSome = true := by
  have inStep := @Services.Isolated.inStep _ _ _ _ _ _ _ _ _ _ _ plainServices_isolated
    .standard 1000 [()] [()] kindlessGoal {} o rfl 18
  rw [← host] at inStep
  obtain ⟨c, first⟩ : ∃ c, c = (Play.opening h .standard 1000 kindlessGoal {}).after h 18 :=
    ⟨_, rfl⟩
  obtain ⟨d, second⟩ : ∃ d, d = (Play.opening h .standard 1000 kindlessGoal o).after h 18 :=
    ⟨_, rfl⟩
  rw [← first, ← second] at inStep
  rw [← second, inStep.session]
  change c.session.answer?.isSome = true
  rw [first, host]
  decide +kernel

theorem consult_stretch (o : Totals Unit) :
    ∃ plays, Stretch (fun _ => [()]) () () id o plays (consult o) := by
  obtain ⟨h, host⟩ : ∃ h, h = (tallyingServices plainWork).host hostedFactory .never [()] :=
    ⟨_, rfl⟩
  exact tallyingServices_stretch plainWork_stretch host (plainWork_answers host o) (Nat.le_refl 21)

theorem consultingWork_stretch (g : Goal) (o : Totals Unit) :
    ∃ plays, Stretch (fun _ => [()]) () () id o plays ((consultingWork g).perform o).2 := by
  cases same : g == numberedGoal 1 with
  | true =>
      simp only [consultingWork, same, if_true, Attempt.perform_ofFunction]
      exact consult_stretch o
  | false =>
      rw [consultingWork, same, if_neg Bool.false_ne_true]
      exact plainWork_stretch g o

/-- What the collector has counted after a session with the consulting evaluator. -/
def consultation : Totals Unit :=
  ((tallyingServices consultingWork).resolve hostedFactory .standard 1000 72 none [()]
    (numberedGoal 0) {}).2

theorem consultation_stretch :
    ∃ plays, Stretch (fun _ => [()]) () () id {} plays consultation := by
  obtain ⟨h, host⟩ : ∃ h, h = (tallyingServices consultingWork).host hostedFactory .never [()] :=
    ⟨_, rfl⟩
  have answers : ((Play.opening h .standard 1000 (numberedGoal 0) {}).after h
      69).session.answer?.isSome = true := by
    rw [host]
    decide +kernel
  exact tallyingServices_stretch consultingWork_stretch host answers (Nat.le_refl 72)

end Pursuit

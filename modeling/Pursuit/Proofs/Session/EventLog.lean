import Mathlib.Data.List.Basic
import Pursuit.Proofs.Session.EventTree
import Pursuit.Proofs.Session.Hosting
import Pursuit.Proofs.Session.Path
import Pursuit.Statistics.Recording

/-! # The log of a recording listener

A listener that keeps every event, and that takes part in one session alone, has the tree of the
root in its log when the root is answered. In such a tree each goal that was requested goes its way
through the states once.
-/

namespace Pursuit

variable {W G V E : Type}

/-! ## The way of one goal -/

def GoalState.ways : List (List GoalState) :=
  [[.pending, .done], [.pending, .assigned, .done], [.pending, .assigned, .awaiting, .done]]

def GoalState.steps (way : List GoalState) : List (GoalState × Option GoalState) :=
  way.zip (none :: way.map some)

def Event.step? [BEq G] (k : G) : Event G V E → Option (GoalState × Option GoalState)
  | .stateChanged g state old => if g == k then some (state, old) else none
  | _ => none

def stepsOf [BEq G] (k : G) (events : List (Event G V E)) : List (GoalState × Option GoalState) :=
  events.filterMap (·.step? k)

section Ways

variable [BEq G] {k : G} {seen mid seen' : List G} {l l' : List (GoalState × Option GoalState)}

theorem stepsOf_append (k : G) (events later : List (Event G V E)) :
    stepsOf k (events ++ later) = stepsOf k events ++ stepsOf k later :=
  List.filterMap_append

theorem stepsOf_receivedEvents (k : G) (f : Frame G V E) (requested : Option (List G)) :
    stepsOf k (f.receivedEvents requested) = [] := by
  apply List.filterMap_eq_nil_iff.mpr
  intro event member
  obtain ⟨evaluator, finished, goals, elapsed, rfl⟩ := Session.received_of_mem_receivedEvents member
  rfl

/-- A goal goes one of the ways if it was first requested between two lists of goals, and takes no
step otherwise. -/
def Goes (k : G) (seen seen' : List G) (l : List (GoalState × Option GoalState)) : Prop :=
  if !seen.any (· == k) && seen'.any (· == k) then ∃ way ∈ GoalState.ways, l = GoalState.steps way
  else l = []

theorem Goes.nothing (k : G) (seen : List G) : Goes k seen seen [] := by
  unfold Goes
  cases seen.any (· == k) <;> simp

theorem Goes.eq_nil (goes : Goes k seen seen' l) (known : seen.any (· == k) = true) : l = [] := by
  simpa [Goes, known] using goes

theorem any_of_grows (grows : seen <+: seen') (known : seen.any (· == k) = true) :
    seen'.any (· == k) = true := by
  obtain ⟨later, rfl⟩ := grows
  rw [List.any_append, known, Bool.true_or]

theorem Goes.append (first : Goes k seen mid l) (later : Goes k mid seen' l')
    (grows : seen <+: mid) (further : mid <+: seen') : Goes k seen seen' (l ++ l') := by
  unfold Goes at first later ⊢
  cases between : mid.any (· == k) with
  | true =>
      rw [between] at first later
      have nothing : l' = [] := by simpa using later
      rw [nothing, List.append_nil, any_of_grows further between]
      exact first
  | false =>
      have unknown : seen.any (· == k) = false := by
        cases before : seen.any (· == k) with
        | false => rfl
        | true => exact (any_of_grows grows before).symm.trans between
      rw [between] at first later
      have nothing : l = [] := by simpa using first
      rw [nothing, List.nil_append, unknown]
      exact later

theorem Goes.tree [EquivBEq G] {g : G} (fresh : seen.any (· == g) = false)
    (grows : seen ++ [g] <+: seen')
    (goes : if g == k then ∃ way ∈ GoalState.ways, l = GoalState.steps way
      else Goes k (seen ++ [g]) seen' l) : Goes k seen seen' l := by
  unfold Goes at goes ⊢
  cases same : g == k with
  | true =>
      rw [if_pos same] at goes
      have unknown : seen.any (· == k) = false := by rwa [← any_congr same]
      have there : seen'.any (· == k) = true := by
        obtain ⟨rest, rfl⟩ := grows
        simp [same]
      rwa [unknown, there]
  | false =>
      simpa [same] using goes

/-- What is left of the way of a goal in a state. -/
def Completes (state : GoalState) (l : List (GoalState × Option GoalState)) : Prop :=
  l = [(.done, some state)] ∨
    state = .assigned ∧ l = [(.awaiting, some .assigned), (.done, some .awaiting)]

/-- With the announcement that it waits, a goal is on its way from where its batch was asked for. -/
theorem Completes.announced {g : G} {state : GoalState} {batch : List G}
    (completes : Completes (if batch.isEmpty then state else .awaiting) l) (same : (g == k) = true)
    (states : state = .assigned ∨ state = .awaiting) :
    Completes state (stepsOf k (announcement g state batch : List (Event G V E)) ++ l) := by
  cases empty : batch.isEmpty with
  | true => simpa [announcement, empty, stepsOf] using completes
  | false =>
      have waits : l = [(.done, some .awaiting)] := by simpa [empty, Completes] using completes
      obtain rfl | rfl := states
      · exact .inr ⟨rfl, by simp [announcement, empty, stepsOf, Event.step?, same, waits]⟩
      · exact .inl (by simp [announcement, stepsOf, waits])

/-- How the events of a part open and close. -/
def Part.Closes (events : List (Event G V E)) : Part G E → Prop
  | .tree g => events.head? = some (.stateChanged g .pending none) ∧
      ∃ old, [.stateChanged g .done (some old)] <:+ events
  | .round g _ _ _ | .reply g _ _ _ => ∃ old, [.stateChanged g .done (some old)] <:+ events
  | .requests _ => True

/-- The steps of a goal in a part. -/
def Part.Goes (k : G) (seen seen' : List G) (l : List (GoalState × Option GoalState)) :
    Part G E → Prop
  | .tree g => seen.any (· == g) = false → Pursuit.Goes k seen seen' l
  | .round g _ state _ | .reply g _ state _ =>
      seen.any (· == g) = true → state = .assigned ∨ state = .awaiting →
        if g == k then Completes state l else Pursuit.Goes k seen seen' l
  | .requests _ => Pursuit.Goes k seen seen' l

end Ways

namespace Tells

variable [BEq G] {record : Ledger G (Entry V)} {part : Part G E} {seen seen' : List G}
  {events : List (Event G V E)}

theorem grows (tells : Tells record part seen events seen') : seen <+: seen' := by
  induction tells with
  | refused | unbegun => exact List.prefix_append _ _
  | begun work ih => exact (List.prefix_append _ _).trans ih
  | stopped | spoiled | produced | none => exact List.prefix_refl _
  | requested subgoals work subgoals_ih ih => exact subgoals_ih.trans ih
  | continued work ih => exact ih
  | known member others ih => exact ih
  | new fresh first others first_ih ih => exact first_ih.trans ih

theorem goes_done {g : G} {state : GoalState} (last : events = [.stateChanged g .done (some state)])
    (k : G) :
    if g == k then Completes state (stepsOf k events) else Goes k seen seen (stepsOf k events) := by
  subst last
  split
  · rename_i same
    exact .inl (by simp [stepsOf, Event.step?, same])
  · rename_i apart
    simpa [stepsOf, Event.step?, apart] using Goes.nothing k seen

/-- In a tree each goal that is requested for the first time goes its way, and no other goal takes a
step. -/
theorem goes [EquivBEq G] (tells : Tells record part seen events seen') (k : G) :
    part.Goes k seen seen' (stepsOf k events) := by
  -- a goal that is under way is among those seen, so the trees inside its own say nothing of it
  induction tells with
  | @refused seen g blank =>
      intro fresh
      apply Goes.tree fresh (List.prefix_refl _)
      split
      · rename_i same
        exact ⟨[.pending, .done], .head _, by simp [stepsOf, Event.step?, same, GoalState.steps]⟩
      · rename_i apart
        simpa [stepsOf, Event.step?, apart] using Goes.nothing k _
  | @unbegun seen g w blank =>
      intro fresh
      apply Goes.tree fresh (List.prefix_refl _)
      split
      · rename_i same
        exact ⟨[.pending, .assigned, .done], by decide,
          by simp [stepsOf, Event.step?, same, GoalState.steps]⟩
      · rename_i apart
        simpa [stepsOf, Event.step?, apart] using Goes.nothing k _
  | @begun seen g w goals elapsed rest seen' work ih =>
      intro fresh
      have later := ih (by simp) (.inl rfl)
      apply Goes.tree fresh work.grows
      split
      · rename_i same
        rw [if_pos same] at later
        obtain done | ⟨-, waits⟩ := later
        · exact ⟨[.pending, .assigned, .done], by decide,
            by simpa [stepsOf, Event.step?, same, GoalState.steps] using done⟩
        · exact ⟨[.pending, .assigned, .awaiting, .done], by decide,
            by simpa [stepsOf, Event.step?, same, GoalState.steps] using waits⟩
      · rename_i apart
        rw [if_neg apart] at later
        simpa [stepsOf, Event.step?, apart] using later
  | @stopped seen g w state batch blank =>
      intro known _
      exact goes_done rfl k
  | @requested seen g w state batch trees mid rest seen' subgoals work subgoals_ih ih =>
      intro known states
      have later := ih (any_of_grows subgoals.grows known) (by split <;> simp [states])
      split
      · rename_i same
        have nothing := subgoals_ih.eq_nil (by rwa [← any_congr same])
        rw [if_pos same] at later
        rw [stepsOf_append, stepsOf_append, nothing, List.nil_append]
        exact later.announced same states
      · rename_i apart
        rw [if_neg apart] at later
        have silent : stepsOf k (announcement g state batch : List (Event G V E)) = [] := by
          unfold announcement
          split <;> simp [stepsOf, Event.step?, apart]
        rw [stepsOf_append, stepsOf_append, silent, List.nil_append]
        exact subgoals_ih.append later subgoals.grows work.grows
  | @spoiled seen g w state batch blank =>
      intro known _
      exact goes_done rfl k
  | @produced seen g state v elapsed f result =>
      intro known _
      rw [stepsOf_append, stepsOf_receivedEvents, List.nil_append]
      exact goes_done rfl k
  | @continued seen g state goals rest seen' f work ih =>
      intro known states
      rw [stepsOf_append, stepsOf_receivedEvents, List.nil_append]
      exact ih known states
  | none => exact Goes.nothing k _
  | known member others ih => exact ih
  | @new seen a goals tree mid rest seen' fresh first others first_ih ih =>
      rw [stepsOf_append]
      exact (first_ih fresh).append ih first.grows others.grows

/-- The first thing that is told of a goal is that it is new, and the last that it is answered. -/
theorem closes (tells : Tells record part seen events seen') : part.Closes events := by
  induction tells with
  | refused => exact ⟨rfl, .pending, List.suffix_append [_] [_]⟩
  | unbegun => exact ⟨rfl, .assigned, List.suffix_append [_, _, _] [_]⟩
  | begun work ih =>
      obtain ⟨old, last⟩ := ih
      exact ⟨rfl, old, last.trans (List.suffix_append [_, _, _, _] _)⟩
  | @stopped seen g w state => exact ⟨state, List.suffix_refl _⟩
  | requested subgoals work subgoals_ih ih =>
      obtain ⟨old, last⟩ := ih
      exact ⟨old, last.trans ((List.suffix_append _ _).trans (List.suffix_append _ _))⟩
  | @spoiled seen g w state => exact ⟨state, List.suffix_refl _⟩
  | @produced seen g state =>
      exact ⟨state, (List.suffix_append [_] [_]).trans (List.suffix_append _ _)⟩
  | continued work ih =>
      obtain ⟨old, last⟩ := ih
      exact ⟨old, last.trans (List.suffix_append _ _)⟩
  | none | known | new => trivial

end Tells

/-! ## Recording a session -/

theorem deliver_append {L : Type} (hear : L → Attempt W Unit) (log : L → Fault → W → W)
    (first later : List L) (w : W) :
    deliver hear log (first ++ later) w =
      match deliver hear log first w with
      | (none, w') => deliver hear log later w'
      | (some i, w') => (some i, w') := by
  induction first generalizing w with
  | nil => rfl
  | cons l rest ih =>
      simp only [List.cons_append, deliver]
      split
      · exact ih _
      · exact ih _
      · rfl

namespace Services

variable {F β K L : Type} [BEq L]

/-- The listener takes part in no session on its own account. -/
def Unregistered (p : Services W F β K L) (l : L) (w : W) : Prop :=
  (p.listeners w).contains l = false

/-- A change to the world has nothing to do with a listener and its log. -/
def Spares (p : Services W F β K L) (l : L) (log : W → Recording Goal Value Product)
    (change : W → W) : Prop :=
  ∀ w, p.Unregistered l w → log (change w) = log w ∧ p.Unregistered l (change w)

/-- The log has what was told in a session since a world. -/
def Logged (p : Services W F β K L) (l : L) (log : W → Recording Goal Value Product) (w : W)
    (c : Play W Goal Value Product) : Prop :=
  (log c.world).events.toList = (log w).events.toList ++ c.events ∧ p.Unregistered l c.world

/-- An evaluator has nothing to do with the listener, whatever it is handed. -/
def SparesEvaluator (p : Services W F β K L) (l : L) (log : W → Recording Goal Value Product)
    (h : Host W Goal Value Product) (evaluator : GoalEvaluator Goal Product) : Prop :=
  (p.Spares l log fun w => ((h.initEvaluator evaluator).perform w).2) ∧
    ∀ answers, p.Spares l log fun w => ((h.resumeEvaluator evaluator answers).perform w).2

/-- A listener records what it is told, and nobody else registers it or touches its log. -/
structure Records (p : Services W F β K L) (create : Goal → Attempt W (Option Product))
    (pruner : Pruner K) (l : L) (log : W → Recording Goal Value Product) : Prop where
  hears : ∀ event w, p.Unregistered l w → ∃ w', (p.hear l event).perform w = (.ok (), w') ∧
    log w' = (log w).hear event ∧ p.Unregistered l w'
  others : ∀ l' event, (l == l') = false → p.Spares l log fun w => ((p.hear l' event).perform w).2
  record : ∀ entry, p.Spares l log (p.record entry)
  shouldStop : ∀ elapsed,
    p.Spares l log fun w => ((pruner.shouldStop p.askPruner elapsed).perform w).2
  factory : ∀ g, p.Spares l log fun w => ((create g).perform w).2
  init : ∀ g w e, ((create g).perform w).1 = .ok (some e) →
    p.Spares l log fun w => ((p.initProduct e).perform w).2
  resume : ∀ g w e, ((create g).perform w).1 = .ok (some e) →
    ∀ answers, p.Spares l log fun w => ((p.resumeProduct e answers).perform w).2

namespace Records

variable {p : Services W F β K L} {create : Goal → Attempt W (Option Product)} {pruner : Pruner K}
  {l : L} {log : W → Recording Goal Value Product} (records : p.Records create pruner l log)

include records

theorem deliver_spares (event : Event Goal Value Product) {targets : List L}
    (others : ∀ l' ∈ targets, (l == l') = false) :
    p.Spares l log fun w => (deliver (fun l => p.hear l event)
      (fun l f => p.record (.listener l event.name f)) targets w).2 := by
  induction targets with
  | nil => exact fun w apart => ⟨rfl, apart⟩
  | cons l' rest ih =>
      intro w apart
      obtain ⟨kept, still⟩ := records.others l' event (others l' List.mem_cons_self) w apart
      have later := ih fun l'' member => others l'' (List.mem_cons_of_mem l' member)
      simp only [deliver]
      split
      · rename_i w' heard
        simp only [heard] at kept still
        obtain ⟨kept', still'⟩ := later w' still
        exact ⟨kept'.trans kept, still'⟩
      · rename_i f w' heard
        simp only [heard] at kept still
        obtain ⟨noted, unheard⟩ := records.record (.listener l' event.name f) w' still
        obtain ⟨kept', still'⟩ := later _ unheard
        exact ⟨kept'.trans (noted.trans kept), still'⟩
      · rename_i i w' heard
        simp only [heard] at kept still
        exact ⟨kept, still⟩

theorem sparesEvaluator (extras : List L) (g : Goal) (w : W) :
    p.SparesEvaluator l log (p.host create pruner extras)
      (.ofReply g ((create g).perform w).1) := by
  apply GoalEvaluator.ofReply_cases
  · exact ⟨fun w apart => ⟨rfl, apart⟩, fun _ w apart => ⟨rfl, apart⟩⟩
  · intro e created
    exact ⟨records.init g w e created, records.resume g w e created⟩

variable {before after : List L} (once : ∀ l' ∈ before ++ after, (l == l') = false)

include once

theorem emit (event : Event Goal Value Product) {w : W} (apart : p.Unregistered l w)
    (quiet : (p.emit (before ++ l :: after) event w).1 = none) :
    log (p.emit (before ++ l :: after) event w).2 = (log w).hear event ∧
      p.Unregistered l (p.emit (before ++ l :: after) event w).2 := by
  have unlisted : (p.listeners w).contains l = false := apart
  have targets : (p.listeners w).targets (before ++ l :: after) =
      ((p.listeners w) ++ before.filter fun l => !(p.listeners w).contains l) ++
        l :: after.filter fun l => !(p.listeners w).contains l := by
    simp [Listeners.targets, unlisted]
  have first : ∀ l' ∈ (p.listeners w) ++ before.filter fun l => !(p.listeners w).contains l,
      (l == l') = false := by
    intro l' member
    obtain registered | extra := List.mem_append.mp member
    · rw [List.contains_eq_any_beq, List.any_eq_false] at unlisted
      exact Bool.eq_false_iff.mpr (unlisted l' registered)
    · exact once l' (List.mem_append_left after (List.mem_of_mem_filter extra))
  have later : ∀ l' ∈ after.filter fun l => !(p.listeners w).contains l, (l == l') = false :=
    fun l' member => once l' (List.mem_append_right before (List.mem_of_mem_filter member))
  rw [Services.emit, targets, deliver_append] at quiet ⊢
  obtain ⟨same, still⟩ := records.deliver_spares event first w apart
  split at quiet
  · rename_i w' told
    simp only [told] at same still ⊢
    obtain ⟨w'', heard, logged, unseen⟩ := records.hears event w' still
    obtain ⟨same', still'⟩ := records.deliver_spares event later w'' unseen
    rw [deliver, heard]
    exact ⟨by rw [same', logged, same], still'⟩
  · cases quiet

/-- Unless a listener interrupts, an exchange adds to the log what it tells, and nothing else. -/
theorem log_of_exchange {c : Play W Goal Value Product} {x : Exchange Goal Value Product}
    {s : Session Goal Value Product} {w : W}
    (assigns : c.session.Assigns fun _ evaluator =>
      p.SparesEvaluator l log (p.host create pruner (before ++ l :: after)) evaluator)
    (met : (p.host create pruner (before ++ l :: after)).meet c.world c.session.next =
      some (x, s, w))
    (quiet : ∀ event now i, x ≠ .emit event now (some i)) (apart : p.Unregistered l c.world) :
    (log w).events.toList = (log c.world).events.toList ++ x.told ∧ p.Unregistered l w := by
  have spared : ∀ {change : W → W}, p.Spares l log change →
      (log (change c.world)).events.toList = (log c.world).events.toList ++ [] ∧
        p.Unregistered l (change c.world) := by
    intro change spares
    obtain ⟨kept, still⟩ := spares c.world apart
    exact ⟨by rw [kept, List.append_nil], still⟩
  rw [Host.world_of_meet met]
  cases x with
  | proceed => exact ⟨(List.append_nil _).symm, apart⟩
  | record n => exact spared (records.record (.session n pruner))
  | check elapsed now reply => exact spared (records.shouldStop elapsed)
  | create g now reply => exact spared (records.factory g)
  | init evaluator now reply =>
      obtain ⟨-, spares⟩ := Play.suits_of_init assigns met
      exact spared spares.1
  | resume evaluator answers now reply =>
      obtain ⟨-, spares⟩ := Play.suits_of_resume assigns met
      exact spared (spares.2 answers)
  | emit event now reply =>
      cases reply with
      | some i => exact absurd rfl (quiet event now i)
      | none =>
          obtain ⟨logged, still⟩ := records.emit once event apart (Play.reply_of_emit met).symm
          exact ⟨by simp [Host.world, host, logged, Recording.hear, Exchange.told], still⟩

theorem logged_of_exchange {c : Play W Goal Value Product} {x : Exchange Goal Value Product}
    {s : Session Goal Value Product} {w w' : W}
    (assigns : c.session.Assigns fun _ evaluator =>
      p.SparesEvaluator l log (p.host create pruner (before ++ l :: after)) evaluator)
    (met : (p.host create pruner (before ++ l :: after)).meet c.world c.session.next =
      some (x, s, w'))
    (quiet : ∀ event now i, x ≠ .emit event now (some i)) (logged : p.Logged l log w c) :
    p.Logged l log w ⟨c.past ++ [⟨c.session, x⟩], s, w'⟩ := by
  obtain ⟨told, apart⟩ := logged
  obtain ⟨added, still⟩ := records.log_of_exchange once assigns met quiet apart
  refine ⟨?_, still⟩
  rw [added, told, List.append_assoc]
  simp [Play.events, List.flatMap_append]

theorem logged_after (settings : Settings) (stackLimit : Int) (root : Goal) {w : W}
    (apart : p.Unregistered l w) (n : Nat) :
    ((Play.opening (p.host create pruner (before ++ l :: after)) settings stackLimit root w).after
        (p.host create pruner (before ++ l :: after)) n).session.point.isEnding = true ∨
      p.Logged l log w ((Play.opening (p.host create pruner (before ++ l :: after)) settings
        stackLimit root w).after (p.host create pruner (before ++ l :: after)) n) := by
  apply Play.along (I := fun c => c.session.point.isEnding = true ∨ p.Logged l log w c)
  · exact .inr ⟨(List.append_nil _).symm, apart⟩
  · intro n x s w' before met taken
    obtain ending | logged := before
    · exact .inl (Session.isEnding_step ending taken)
    · by_cases interrupted : ∃ event now i, x = .emit event now (some i)
      · obtain ⟨event, now, i, rfl⟩ := interrupted
        exact .inl (Session.isEnding_of_interrupts taken (.emit event now i))
      · exact .inr (records.logged_of_exchange once
          (Play.assigns_after (records.sparesEvaluator _) n)
          met (fun event now i same => interrupted ⟨event, now, i, same⟩) logged)

theorem logged_of_quiet (settings : Settings) (stackLimit : Int) (root : Goal) {w : W}
    (apart : p.Unregistered l w)
    (quiet : ∀ event w, (p.emit (before ++ l :: after) event w).1 = none) (n : Nat) :
    p.Logged l log w ((Play.opening (p.host create pruner (before ++ l :: after)) settings
      stackLimit root w).after (p.host create pruner (before ++ l :: after)) n) := by
  apply Play.along
  · exact ⟨(List.append_nil _).symm, apart⟩
  · intro n x s w' logged met _
    refine records.logged_of_exchange once (Play.assigns_after (records.sparesEvaluator _) n) met ?_
      logged
    rintro event now i rfl
    cases (Play.reply_of_emit met).trans (quiet event _)

end Records

end Services

/-- After the root is answered, nothing is left but a log record that it is. -/
theorem Play.after_answer [Keyed G] {h : Host W G V E} {c : Play W G V E} {v : Option V}
    (answers : c.session.answer? = some v) :
    (c.after h 2).session.outcome? = some (.ok v) ∧
      (c.after h 2).world = h.record
        (.evaluated c.session.root c.session.elapsed c.session.cache.length) c.world := by
  obtain ⟨past, ⟨root, bound, started, now, cache, callers, point⟩, w⟩ := c
  obtain ⟨rfl, rfl⟩ := (Session.answer?_eq_some_iff _ v).mp answers
  exact ⟨rfl, rfl⟩

/-- The log of a listener that records one session, as one of its own listeners and nowhere else,
has in it the tree of the root from the time when the root is answered. Its results are those on
record, and each goal that was requested goes its way through the states once. -/
theorem log_eq_event_tree {F β K L : Type} [BEq L] (p : Services W F β K L)
    (create : Goal → Attempt W (Option Product))
    (settings : Settings) (stackLimit : Int) (pruner : Option (Pruner K)) (before after : List L)
    (l : L) (log : W → Recording Goal Value Product) (root : Goal) (w : W)
    (records : p.Records create (pruner.getD .never) l log) (apart : p.Unregistered l w)
    (once : ∀ l' ∈ before ++ after, (l == l') = false) :
    let h := p.host create (pruner.getD .never) (before ++ l :: after)
    ∀ n v, ((Play.opening h settings stackLimit root w).after h n).session.answer? = some v →
      let record := ((Play.opening h settings stackLimit root w).after h n).session.cache
      ∃ w' tree,
        (∀ fuel, n + 3 ≤ fuel →
          p.resolve create settings stackLimit fuel pruner (before ++ l :: after) root w =
            (some (.ok v), w')) ∧
        (log w').events.toList = (log w).events.toList ++ .evaluationStarted root :: tree ∧
        Tells record (.tree root) [] tree record.keys ∧
        (∀ g seen seen' (events : List (Event Goal Value Product)),
          Tells record (.tree g) seen events seen' →
            events.head? = some (.stateChanged g .pending none) ∧
              ∃ old, [.stateChanged g .done (some old)] <:+ events) ∧
        (∀ k, if record.keys.any (· == k) then
          ∃ way ∈ GoalState.ways, stepsOf k tree = GoalState.steps way
          else stepsOf k tree = []) := by
  intro h n v answers record
  obtain ⟨tree, events, tells⟩ := Play.tells_of_answers answers
  obtain ⟨outcome, world⟩ := Play.after_answer (h := h) answers
  rw [← Play.after_add] at outcome world
  refine ⟨((Play.opening h settings stackLimit root w).after h (n + 2)).world, tree, ?_, ?_, tells,
    fun g seen seen' events told => told.closes, fun k => ?_⟩
  · intro fuel enough
    exact evaluate_eq_of_over h settings stackLimit root w outcome fuel enough
  · obtain ending | ⟨logged, still⟩ :=
      records.logged_after once settings stackLimit root apart n
    · rw [((Session.answer?_eq_some_iff _ v).mp answers).1] at ending
      cases ending
    · have noted : ∀ entry, log (h.record entry
          ((Play.opening h settings stackLimit root w).after h n).world) =
            log ((Play.opening h settings stackLimit root w).after h n).world :=
        fun entry => (records.record (.session entry (pruner.getD .never)) _ still).1
      rw [world, noted, logged, events]
  · simpa [Goes] using tells.goes k rfl

/-- Services whose only listener keeps all it hears. Each goal needs the given goals, and is done
when it has their answers. -/
def recordingServices (needs : Goal → List Goal) :
    Services (Recording Goal Value Product) Empty Empty Empty Unit :=
  { Services.hosting (fun g => pure (needs g)) (fun _ _ => pure (.done (some .baseType))) with
    listeners := fun _ => []
    hear := fun _ event => .ofFunction fun r => (.ok (), r.hear event)
    record := fun _ r => r }

theorem recordingServices_records (needs : Goal → List Goal) :
    (recordingServices needs).Records hostedFactory .never () id where
  hears _ _ _ := ⟨_, rfl, rfl, rfl⟩
  others _ _ differs := by cases differs
  record _ _ _ := ⟨rfl, rfl⟩
  shouldStop _ _ _ := ⟨rfl, rfl⟩
  factory _ _ _ := ⟨rfl, rfl⟩
  init _ _ _ created := by
    cases created
    exact fun _ _ => ⟨rfl, rfl⟩
  resume _ _ _ created := by
    cases created
    exact fun _ _ _ => ⟨rfl, rfl⟩

/-- The first goal needs the second one twice, and the second needs the first. -/
def knottedNeeds (g : Goal) : List Goal :=
  if g == numberedGoal 0 then [numberedGoal 1, numberedGoal 2, numberedGoal 1]
  else if g == numberedGoal 1 then [numberedGoal 0] else []

theorem recordingServices_log :
    ∃ v r tree, ∃ record : Ledger Goal (Entry Value),
      (∀ fuel, 74 ≤ fuel → (recordingServices knottedNeeds).resolve hostedFactory .standard 1000
        fuel none [()] (numberedGoal 0) {} = (some (.ok v), r)) ∧
      r.events.toList = .evaluationStarted (numberedGoal 0) :: tree ∧
      Tells record (.tree (numberedGoal 0)) [] tree record.keys ∧
      ∀ k ∈ [numberedGoal 0, numberedGoal 1, numberedGoal 2],
        ∃ way ∈ GoalState.ways, stepsOf k tree = GoalState.steps way := by
  have logs := log_eq_event_tree (recordingServices knottedNeeds) hostedFactory .standard 1000 none
    [] [] () id (numberedGoal 0) {} (recordingServices_records _) rfl (by simp) 71
  -- with names for host and play nothing but the facts below has to be computed
  obtain ⟨h, host⟩ : ∃ h, h = (recordingServices knottedNeeds).host hostedFactory
    ((none : Option (Pruner Empty)).getD .never) ([] ++ () :: []) := ⟨_, rfl⟩
  obtain ⟨c, play⟩ : ∃ c, c = (Play.opening h .standard 1000 (numberedGoal 0) {}).after h 71 :=
    ⟨_, rfl⟩
  rw [← host, ← play] at logs
  obtain ⟨v, answers⟩ : ∃ v, c.session.answer? = some v := by
    apply Option.isSome_iff_exists.mp
    rw [play, host]
    decide +kernel
  have known : ∀ k ∈ [numberedGoal 0, numberedGoal 1, numberedGoal 2],
      c.session.cache.keys.any (· == k) = true := by
    rw [play, host]
    decide +kernel
  obtain ⟨r, tree, resolves, logged, tells, -, ways⟩ := logs v answers
  refine ⟨v, r, tree, c.session.cache, resolves, logged, tells, fun k member => ?_⟩
  have way := ways k
  rwa [if_pos (known k member)] at way

end Pursuit

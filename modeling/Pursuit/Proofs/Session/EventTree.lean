import Mathlib.Data.List.Basic
import Pursuit.Proofs.Session.Progress
import Pursuit.Proofs.Session.Turns

/-! # The order of events

What a session tells its listeners has the shape of a tree. The events about a goal open with its
announcement and close with its answer, and the events about other goals lie inside only where the
goal has a batch requested: there each goal of the batch that is new to the session has a tree of
its own. `Tells` is the grammar of these trees. That a session keeps to it is shown from its end
backwards: `Remains` says what there is still to tell at a point.
-/

namespace Pursuit

variable {W G V E : Type}

inductive Part (G E : Type) where
  /-- All about a goal that is new. -/
  | tree (goal : G)
  /-- About a goal in a state, from where its evaluator has asked for a batch. -/
  | round (goal : G) (evaluator : GoalEvaluator G E) (state : GoalState) (batch : List G)
  /-- About a goal in a state, from where its batch is answered. -/
  | reply (goal : G) (evaluator : GoalEvaluator G E) (state : GoalState) (batch : List G)
  /-- While goals are requested one after the other. -/
  | requests (goals : List G)

/-- A goal is announced to wait when it has its first batch requested that is not empty. -/
def announcement (g : G) (state : GoalState) (batch : List G) : List (Event G V E) :=
  if !batch.isEmpty && state == .assigned then [.stateChanged g .awaiting (some .assigned)] else []

/-- The events that tell a part, between the goals that were requested before it and those that were
requested by its end. Results are those on the given record. -/
inductive Tells [BEq G] (record : Ledger G (Entry V)) :
    Part G E → List G → List (Event G V E) → List G → Prop where
  /-- No work is done on the goal. -/
  | refused {seen g} (blank : Answered record g none) :
      Tells record (.tree g) seen
        [.stateChanged g .pending none, .stateChanged g .done (some .pending)] (seen ++ [g])
  /-- The evaluator cannot say what it needs. -/
  | unbegun {seen g w} (blank : Answered record g none) :
      Tells record (.tree g) seen
        [.stateChanged g .pending none, .stateChanged g .assigned (some .pending),
          .evaluatorAssigned g w, .stateChanged g .done (some .assigned)] (seen ++ [g])
  | begun {seen g w goals elapsed rest seen'}
      (work : Tells record (.round g w .assigned goals) (seen ++ [g]) rest seen') :
      Tells record (.tree g) seen
        (.stateChanged g .pending none :: .stateChanged g .assigned (some .pending) ::
          .evaluatorAssigned g w :: .initialized w goals elapsed :: rest) seen'
  /-- The batch is not requested. -/
  | stopped {seen g w state batch} (blank : Answered record g none) :
      Tells record (.round g w state batch) seen [.stateChanged g .done (some state)] seen
  | requested {seen g w state batch trees mid rest seen'}
      (subgoals : Tells record (.requests batch) seen trees mid)
      (work : Tells record (.reply g w (if batch.isEmpty then state else .awaiting) batch) mid rest
        seen') :
      Tells record (.round g w state batch) seen (announcement g state batch ++ (trees ++ rest))
        seen'
  /-- The evaluator does not take the answers, or makes nothing of them. -/
  | spoiled {seen g w state batch} (blank : Answered record g none) :
      Tells record (.reply g w state batch) seen [.stateChanged g .done (some state)] seen
  | produced {seen g state v elapsed} {f : Frame G V E} (result : Answered record g v) :
      Tells record (.reply g f.evaluator state f.batch) seen
        (f.receivedEvents none ++
          [.produced f.evaluator v elapsed, .stateChanged g .done (some state)]) seen
  | continued {seen g state goals rest seen'} {f : Frame G V E}
      (work : Tells record (.round g f.evaluator state goals) seen rest seen') :
      Tells record (.reply g f.evaluator state f.batch) seen
        (f.receivedEvents (some goals) ++ rest) seen'
  | none {seen} : Tells record (.requests []) seen [] seen
  /-- A goal that was requested before tells nothing. -/
  | known {seen a goals rest seen'} (member : seen.any (· == a) = true)
      (others : Tells record (.requests goals) seen rest seen') :
      Tells record (.requests (a :: goals)) seen rest seen'
  | new {seen a goals tree mid rest seen'} (fresh : seen.any (· == a) = false)
      (first : Tells record (.tree a) seen tree mid)
      (others : Tells record (.requests goals) mid rest seen') :
      Tells record (.requests (a :: goals)) seen (tree ++ rest) seen'

/-- What is left to tell of a goal whose batch is being requested. -/
def Serves [BEq G] (record : Ledger G (Entry V)) (f : Frame G V E) (state : GoalState)
    (waiting : List G) (seen : List G) (events : List (Event G V E)) (seen' : List G) : Prop :=
  ∃ trees rest mid, events = trees ++ rest ∧ Tells record (.requests waiting) seen trees mid ∧
    Tells record (.reply f.goal f.evaluator state f.batch) mid rest seen'

/-- What is left to tell at a point until the request under way is answered. -/
def Point.Ends [BEq G] (record : Ledger G (Entry V)) (root : G) (stateOf : G → GoalState) :
    Point G V E → List G → List (Event G V E) → List G → Prop
  | .announce => fun seen events seen' => ∃ rest, events = .evaluationStarted root :: rest ∧
      Tells record (.requests [root]) seen rest seen'
  | .request g => Tells record (.requests [g])
  | .answer _ => fun seen events seen' => events = [] ∧ seen' = seen
  | .enter g => fun seen events seen' =>
      ∀ old, seen = old ++ [g] → Tells record (.tree g) old events seen'
  | .gate g | .create g | .assign g _ | .assigned g _ => fun seen events seen' =>
      ∀ old, seen = old ++ [g] →
        Tells record (.tree g) old (.stateChanged g .pending none :: events) seen'
  | .present g _ => fun seen events seen' =>
      ∀ old, seen = old ++ [g] → Tells record (.tree g) old
        (.stateChanged g .pending none :: .stateChanged g .assigned (some .pending) :: events) seen'
  | .init g w _ => fun seen events seen' =>
      ∀ old, seen = old ++ [g] → Tells record (.tree g) old
        (.stateChanged g .pending none :: .stateChanged g .assigned (some .pending) ::
          .evaluatorAssigned g w :: events) seen'
  | .initialized f elapsed => fun seen events seen' => f.waiting = f.batch →
      ∃ rest, events = .initialized f.evaluator f.batch elapsed :: rest ∧
        Tells record (.round f.goal f.evaluator .assigned f.batch) seen rest seen'
  | .round f => fun seen events seen' => f.waiting = f.batch →
      Tells record (.round f.goal f.evaluator (stateOf f.goal) f.batch) seen events seen'
  | .await f | .awaiting f => fun seen events seen' =>
      ∃ rest, events = .stateChanged f.goal .awaiting (some .assigned) :: rest ∧
        Serves record f .awaiting f.waiting seen rest seen'
  | .dispatch f => Serves record f (stateOf f.goal) f.waiting
  | .recheck f | .resume f => Tells record (.reply f.goal f.evaluator (stateOf f.goal) f.batch)
  | .report told p => fun seen events seen' =>
      ∃ rest, events = told ++ rest ∧ p.Ends record root stateOf seen rest seen'
  | .produce f v => fun seen events seen' => ∃ elapsed,
      events = [.produced f.evaluator v elapsed,
        .stateChanged f.goal .done (some (stateOf f.goal))] ∧
        Answered record f.goal v ∧ seen' = seen
  | .finish g v _ => fun seen events seen' =>
      events = [.stateChanged g .done (some (stateOf g))] ∧ Answered record g v ∧ seen' = seen
  | .finished g _ old _ => fun seen events seen' =>
      events = [.stateChanged g .done (some old)] ∧ seen' = seen
  | .log _ p => p.Ends record root stateOf
  | .halt _ => fun _ _ _ => False

/-- What is left to tell of the goals that wait, from where the innermost one has its answer. -/
def Closes [BEq G] (record : Ledger G (Entry V)) :
    List (Frame G V E) → List G → List (Event G V E) → List G → Prop
  | [], seen, events, seen' => events = [] ∧ seen' = seen
  | f :: below, seen, events, seen' => ∃ own rest mid, events = own ++ rest ∧
      Serves record f .awaiting f.waiting.tail seen own mid ∧ Closes record below mid rest seen'

/-- What is left to tell in a session until its root is answered. -/
def Session.Remains [BEq G] (record : Ledger G (Entry V)) (s : Session G V E)
    (events : List (Event G V E)) (seen' : List G) : Prop :=
  ∃ own rest mid, events = own ++ rest ∧
    s.point.Ends record s.root s.stateOf s.cache.keys own mid ∧
    Closes record s.callers mid rest seen'

def Exchange.told : Exchange G V E → List (Event G V E)
  | .emit event _ _ => [event]
  | _ => []

theorem Tells.cons [BEq G] {record : Ledger G (Entry V)} {g : G} {goals seen mid seen' : List G}
    {events rest : List (Event G V E)} (first : Tells record (.requests [g]) seen events mid)
    (others : Tells record (.requests goals) mid rest seen') :
    Tells record (.requests (g :: goals)) seen (events ++ rest) seen' := by
  cases first with
  | known member nothing =>
      cases nothing
      exact .known member others
  | new fresh tree nothing =>
      cases nothing
      rw [List.append_nil]
      exact .new fresh tree others

theorem Point.not_ends_of_isOver [BEq G] {record : Ledger G (Entry V)} {root : G}
    {stateOf : G → GoalState} {p : Point G V E} (halted : p.isOver = true) {seen seen' : List G}
    {events : List (Event G V E)} : ¬ p.Ends record root stateOf seen events seen' := by
  induction p generalizing events with
  | report _ _ ih =>
      rintro ⟨rest, -, ends⟩
      exact ih halted ends
  | log _ _ ih => exact ih halted
  | halt => exact id
  | _ => cases halted

namespace Session

variable [Keyed G] {record : Ledger G (Entry V)} {s s' : Session G V E} {x : Exchange G V E}
  {events : List (Event G V E)} {seen' : List G}

theorem stateOf_of_find? {g : G} {e : Entry V} (found : s.cache.find? g = some e) :
    s.stateOf g = e.state := by
  simp [stateOf, found]

theorem Coherent.stateOf_of_dispatch (coherent : s.Coherent) {f : Frame G V E}
    (standing : s.point = .dispatch f) {g : G} {rest : List G} (waiting : f.waiting = g :: rest) :
    s.stateOf f.goal = .awaiting := by
  have expects := (coherent.stands f.goal (by rw [standing]; rfl)).2
  rw [standing] at expects
  obtain ⟨-, empty⟩ | found := expects
  · have through := coherent.pending f (.inr (by rw [standing]; rfl))
    rw [waiting, empty] at through
    cases List.suffix_nil.mp through
  · exact stateOf_of_find? found

theorem Coherent.any_keys_of_path [EquivBEq G] (coherent : s.Coherent) {g : G}
    (standing : s.point = .request g) (active : s.path.any (· == g) = true) :
    s.cache.keys.any (· == g) = true := by
  rw [path, standing, Point.held?, Option.toList_none, List.nil_append, List.any_map] at active
  obtain ⟨f, waits, same⟩ := List.any_eq_true.mp active
  rw [Ledger.any_keys, ← Ledger.find?_congr same, coherent.waits f waits]
  rfl

theorem not_remains_escape (failure : Failure) :
    ¬ (s.escape failure).Remains record events seen' := by
  rintro ⟨own, rest, mid, -, ends, -⟩
  exact Point.not_ends_of_isOver (escape_isOver s failure) ends

namespace Remains

theorem back (remains : s'.Remains record events seen') (told : List (Event G V E))
    (callers : s'.callers = s.callers)
    (ends : ∀ own mid, s'.point.Ends record s'.root s'.stateOf s'.cache.keys own mid →
      s.point.Ends record s.root s.stateOf s.cache.keys (told ++ own) mid) :
    s.Remains record (told ++ events) seen' := by
  obtain ⟨own, rest, mid, rfl, point, below⟩ := remains
  rw [callers] at below
  exact ⟨told ++ own, rest, mid, by rw [List.append_assoc], ends own mid point, below⟩

theorem told {p : Point G V E} {event : Event G V E} {now : Float} {reply : Option Interrupt}
    (remains : (s.told p now reply).Remains record events seen')
    (ends : ∀ own mid, p.Ends record s.root s.stateOf s.cache.keys own mid →
      s.point.Ends record s.root s.stateOf s.cache.keys (event :: own) mid) :
    s.Remains record (event :: events) seen' := by
  cases reply with
  | none => exact remains.back [event] rfl ends
  | some i => exact absurd remains (not_remains_escape _)

theorem checked {g : G} {held : Bool} {pass : Point G V E} {now : Float}
    {reply : Except Failure Bool}
    (remains : (s.checked g held pass now reply).Remains record events seen')
    (passes : ∀ own mid, pass.Ends record s.root s.stateOf s.cache.keys own mid →
      s.point.Ends record s.root s.stateOf s.cache.keys own mid)
    (stops : Answered record g none → s.point.Ends record s.root s.stateOf s.cache.keys
      [.stateChanged g .done (some (s.stateOf g))] s.cache.keys) :
    s.Remains record events seen' := by
  have pruned : ∀ own mid, (Point.finish g none held : Point G V E).Ends record s.root s.stateOf
      s.cache.keys own mid → s.point.Ends record s.root s.stateOf s.cache.keys own mid := by
    rintro own mid ⟨rfl, blank, rfl⟩
    exact stops blank
  match reply with
  | .ok false => exact remains.back [] rfl passes
  | .ok true => exact remains.back [] rfl pruned
  | .error (.fault f) => exact remains.back [] rfl pruned
  | .error (.interrupt i) => exact absurd remains (not_remains_escape _)

theorem gate {g : G} {now : Float} {reply : Except Failure Bool} (coherent : s.Coherent)
    (standing : s.point = .gate g)
    (remains : (s.checked g false
      (if s.bound ≤ s.path.length then .log (.tooDeep s.bound g) (.finish g none false)
        else .create g) now reply).Remains record events seen') :
    s.Remains record events seen' := by
  have stops : Answered record g none → s.point.Ends record s.root s.stateOf s.cache.keys
      [.stateChanged g .done (some (s.stateOf g))] s.cache.keys := by
    have expects := (coherent.stands g (by rw [standing]; rfl)).2
    rw [standing] at expects ⊢
    intro blank old last
    rw [stateOf_of_find? expects, last]
    exact .refused blank
  apply remains.checked _ stops
  intro own mid ends
  split at ends
  · obtain ⟨rfl, blank, rfl⟩ := ends
    exact stops blank
  · rw [standing]
    exact ends

theorem round {f : Frame G V E} {now : Float} {reply : Except Failure Bool} (coherent : s.Coherent)
    (standing : s.point = .round f)
    (remains : (s.checked f.goal true
      (if !f.batch.isEmpty && s.stateOf f.goal == .assigned then .await f else .dispatch f)
        now reply).Remains record events seen') :
    s.Remains record events seen' := by
  have expects := (coherent.stands f.goal (by rw [standing]; rfl)).2
  rw [standing] at expects
  apply remains.checked
  · rw [standing]
    intro own mid ends all
    split at ends
    · rename_i first
      have some : f.batch.isEmpty = false := by simp_all
      obtain ⟨later, rfl, trees, rest, mid', rfl, subgoals, work⟩ := ends
      rw [all] at subgoals
      have work : Tells record (.reply f.goal f.evaluator
          (if f.batch.isEmpty then s.stateOf f.goal else .awaiting) f.batch) mid' rest mid := by
        rwa [some]
      have told := Tells.requested subgoals work
      rwa [announcement, if_pos first] at told
    · rename_i again
      obtain ⟨trees, rest, mid', rfl, subgoals, work⟩ := ends
      rw [all] at subgoals
      have work : Tells record (.reply f.goal f.evaluator
          (if f.batch.isEmpty then s.stateOf f.goal else .awaiting) f.batch) mid' rest mid := by
        split
        · exact work
        · -- a goal that has already had a batch requested waits
          obtain assigned | waits := expects
          · have state := stateOf_of_find? assigned
            simp_all
          · rwa [← show s.stateOf f.goal = .awaiting from stateOf_of_find? waits]
      have told := Tells.requested subgoals work
      rwa [announcement, if_neg again] at told
  · rw [standing]
    intro blank _
    exact .stopped blank

theorem write {g : G} {old new : Entry V} {p : Point G V E} (found : s.cache.find? g = some old)
    (remains : { s with cache := s.cache.put g new, point := p }.Remains record events seen')
    (ends : ∀ own mid,
      p.Ends record s.root { s with cache := s.cache.put g new, point := p }.stateOf s.cache.keys
        own mid → s.point.Ends record s.root s.stateOf s.cache.keys own mid) :
    s.Remains record events seen' := by
  obtain ⟨own, rest, mid, rfl, point, below⟩ := remains
  simp only [Ledger.keys_put_of_find? found] at point
  exact ⟨own, rest, mid, rfl, ends own mid point, below⟩

theorem created {g : G} {now : Float} {reply : Except Failure (Option E)}
    (standing : s.point = .create g)
    (remains : (s.created g now reply).Remains record events seen') :
    s.Remains record events seen' := by
  match reply with
  | .ok (some e) => exact remains.back [] rfl (by rw [standing]; exact fun _ _ => id)
  | .ok none => exact remains.back [] rfl (by rw [standing]; exact fun _ _ => id)
  | .error (.fault f) => exact remains.back [] rfl (by rw [standing]; exact fun _ _ => id)
  | .error (.interrupt i) => exact absurd remains (not_remains_escape _)

theorem begun {g : G} {w : GoalEvaluator G E} {t now : Float} {reply : Except Failure (List G)}
    (coherent : s.Coherent) (standing : s.point = .init g w t)
    (remains : (s.begun g w t now reply).Remains record events seen') :
    s.Remains record events seen' := by
  have assigned : s.stateOf g = .assigned := by
    have expects := (coherent.stands g (by rw [standing]; rfl)).2
    rw [standing] at expects
    exact stateOf_of_find? expects
  match reply with
  | .ok goals =>
      refine remains.back [] rfl ?_
      rw [standing]
      intro own mid ends old last
      obtain ⟨rest, rfl, work⟩ := ends rfl
      apply Tells.begun
      rw [← last]
      exact work
  | .error (.fault f) =>
      refine remains.back [] rfl ?_
      rw [standing]
      rintro own mid ⟨rfl, blank, rfl⟩ old last
      change Tells record _ old [_, _, _, .stateChanged g .done (some (s.stateOf g))] s.cache.keys
      rw [assigned, last]
      exact .unbegun blank
  | .error (.interrupt i) => exact absurd remains (not_remains_escape _)

theorem resumed {f : Frame G V E} {now : Float} {reply : Except Failure (Outcome G V)}
    (standing : s.point = .resume f)
    (remains : (s.resumed f now reply).Remains record events seen') :
    s.Remains record events seen' := by
  match reply with
  | .ok (.done v) =>
      refine remains.back [] rfl ?_
      rw [standing]
      rintro own mid ⟨rest, rfl, elapsed, rfl, result, rfl⟩
      exact .produced result
  | .ok (.more (.ok goals)) =>
      refine remains.back [] rfl ?_
      rw [standing]
      rintro own mid ⟨rest, rfl, ends⟩
      exact .continued (ends rfl)
  | .ok (.more (.error failure)) => exact absurd remains (not_remains_escape _)
  | .ok (.stray _ shown) =>
      refine remains.back [] rfl ?_
      rw [standing]
      rintro own mid ⟨rfl, blank, rfl⟩
      exact .spoiled blank
  | .error (.fault e) =>
      refine remains.back [] rfl ?_
      rw [standing]
      rintro own mid ⟨rfl, blank, rfl⟩
      exact .spoiled blank
  | .error (.interrupt i) => exact absurd remains (not_remains_escape _)

theorem dispatch {f : Frame G V E} (coherent : s.Coherent) (standing : s.point = .dispatch f)
    (remains : (s.dispatch f).Remains record events seen') : s.Remains record events seen' := by
  unfold Session.dispatch at remains
  split at remains
  · rename_i g rest waiting
    -- what is left to tell of the goal that now waits lies behind what its subgoal tells
    obtain ⟨own, later, mid, rfl, request, own', rest', mid', rfl, serves, below⟩ := remains
    obtain ⟨trees, reply, mid'', rfl, others, work⟩ := serves
    refine ⟨own ++ (trees ++ reply), rest', mid', by simp only [List.append_assoc], ?_, below⟩
    rw [standing]
    change Serves record f (s.stateOf f.goal) f.waiting _ _ _
    rw [coherent.stateOf_of_dispatch standing waiting, waiting]
    simp only [waiting, List.tail_cons] at others
    exact ⟨own ++ trees, reply, mid'', by rw [List.append_assoc], Tells.cons request others, work⟩
  · rename_i through
    refine remains.back [] rfl ?_
    rw [standing]
    intro own mid ends
    refine ⟨[], own, _, rfl, by rw [through]; exact .none, ?_⟩
    split at ends <;> exact ends

theorem lookUp [EquivBEq G] (coherent : s.Coherent) {g : G} (standing : s.point = .request g)
    (remains : (s.lookUp g).Remains record events seen') : s.Remains record events seen' := by
  unfold Session.lookUp at remains
  split at remains
  · split at remains
    · rename_i v done
      refine remains.back [] rfl ?_
      rw [standing]
      rintro own mid ⟨rfl, rfl⟩
      exact .known (by rw [Ledger.any_keys, done]; rfl) .none
    · rename_i undone
      split at remains
      · rename_i active
        refine remains.back [] rfl ?_
        rw [standing]
        rintro own mid ⟨rfl, rfl⟩
        exact .known (coherent.any_keys_of_path standing active) .none
      · rename_i absent
        have fresh := coherent.find?_eq_none standing undone absent
        have new : s.cache.keys.any (· == g) = false := by rw [Ledger.any_keys, fresh]; rfl
        refine remains.back [] rfl ?_
        rw [standing]
        intro own mid ends
        have tree : Tells record (.tree g) s.cache.keys own mid :=
          ends s.cache.keys (by rw [setState, goTo, Ledger.keys_put, new]; rfl)
        have told := Tells.new new tree .none
        rwa [List.append_nil] at told
  · exact absurd remains (not_remains_escape _)

theorem deliver (coherent : s.Coherent) {v : Option V} (standing : s.point = .answer v)
    (remains : (s.deliver v).Remains record events seen') : s.Remains record events seen' := by
  unfold Session.deliver at remains
  split at remains
  · obtain ⟨own, rest, mid, -, ends, -⟩ := remains
    exact absurd ends id
  · rename_i f below callers
    obtain ⟨own, rest, mid, rfl, ends, closes⟩ := remains
    have waits : s.stateOf f.goal = .awaiting :=
      stateOf_of_find? (coherent.waits f (by rw [callers]; exact List.mem_cons_self))
    have serves : Serves record f .awaiting f.waiting.tail s.cache.keys own mid := by
      have receives : Serves record (f.receive v s.now) (s.stateOf (f.receive v s.now).goal)
          (f.receive v s.now).waiting s.cache.keys own mid := ends
      rw [Frame.receive_goal, waits] at receives
      unfold Frame.receive at receives
      split at receives
      · rename_i nothing
        rwa [nothing] at receives ⊢
      · rename_i waiting
        rwa [waiting]
    refine ⟨[], own ++ rest, s.cache.keys, rfl, by rw [standing]; exact ⟨rfl, rfl⟩, ?_⟩
    rw [callers]
    exact ⟨own, rest, mid, rfl, serves, closes⟩

/-- What is left to tell before a step is what the step tells, and what is left after it. -/
theorem of_step [EquivBEq G] (coherent : s.Coherent) (taken : s.Step x s')
    (final : ∀ g v, Answered s'.cache g v → Answered record g v)
    (remains : s'.Remains record events seen') : s.Remains record (x.told ++ events) seen' := by
  obtain ⟨root, bound, started, now, cache, callers, point⟩ := s
  cases point with
  | announce =>
      cases taken with
      | emit now' reply => exact remains.told fun own mid ends => ⟨own, rfl, ends⟩
  | request g => cases taken; exact remains.lookUp coherent rfl
  | answer v => cases taken; exact remains.deliver coherent rfl
  | dispatch f => cases taken; exact remains.dispatch coherent rfl
  | create g => cases taken with | create now' reply => exact remains.created rfl
  | init g w t => cases taken with | init now' reply => exact remains.begun coherent rfl
  | resume f => cases taken with | resume now' reply => exact remains.resumed rfl
  | enter | assigned | present =>
      cases taken with
      | emit now' reply => exact remains.told fun own mid ends => ends
  | gate g => cases taken with | check now' reply => exact remains.gate coherent rfl
  | assign g w => cases taken; exact remains.write (coherent.stands g rfl).2 fun own mid => id
  | initialized f elapsed =>
      have assigned := stateOf_of_find? (coherent.stands f.goal rfl).2
      cases taken with
      | emit now' reply =>
          refine remains.told fun own mid ends all => ⟨own, rfl, ?_⟩
          have work := ends all
          rwa [assigned] at work
  | round f => cases taken with | check now' reply => exact remains.round coherent rfl
  | await f => cases taken; exact remains.write (coherent.stands f.goal rfl).2 fun own mid => id
  | awaiting f =>
      have waits := stateOf_of_find? (coherent.stands f.goal rfl).2
      cases taken with
      | emit now' reply =>
          refine remains.told fun own mid ends => ⟨own, rfl, ?_⟩
          rwa [Point.Ends, waits] at ends
  | recheck f =>
      cases taken with
      | check now' reply => exact remains.checked (fun own mid ends => ends) .spoiled
  | report told p =>
      cases told with
      | nil => cases taken; exact remains.back [] rfl fun own mid ends => ⟨own, rfl, ends⟩
      | cons event rest =>
          cases taken with
          | emit now' reply =>
              apply remains.told
              rintro own mid ⟨later, rfl, ends⟩
              exact ⟨later, rfl, ends⟩
  | produce f v =>
      cases taken with
      | emit now' reply =>
          apply remains.told
          rintro own mid ⟨rfl, result, rfl⟩
          exact ⟨_, rfl, result, rfl⟩
  | finish g v held =>
      obtain ⟨state, -, found⟩ := (coherent.stands g rfl).2
      cases taken
      apply remains.write found
      rintro own mid ⟨rfl, rfl⟩
      exact ⟨rfl, final g v (Ledger.find?_put_self cache g _), rfl⟩
  | finished g v old held =>
      cases taken with
      | emit now' reply =>
          apply remains.told
          rintro own mid ⟨rfl, rfl⟩
          exact ⟨rfl, rfl⟩
  | log n p => cases taken; exact remains.back [] rfl fun own mid ends => ends
  | halt outcome => cases taken

theorem start {root : G} {wanted bound : Nat} {now : Float}
    (remains : (Session.start root wanted bound now).Remains record events seen') :
    ∃ tree, events = .evaluationStarted root :: tree ∧
      Tells record (.tree root) [] tree seen' := by
  obtain ⟨own, rest, mid, rfl, ends, rfl, rfl⟩ := remains
  obtain ⟨tree, rfl, requested⟩ : ∃ tree, own = .evaluationStarted root :: tree ∧
      Tells record (.requests [root]) [] tree seen' := by
    unfold Session.start at ends
    dsimp only at ends
    split at ends <;> exact ends
  cases requested with
  | known member => cases member
  | new fresh tree nothing =>
      cases nothing
      exact ⟨_, by simp, tree⟩

end Remains

/-- The answer to the root, at the point where it is given. -/
def answer? (s : Session G V E) : Option (Option V) :=
  match s.point, s.callers with
  | .answer v, [] => some v
  | _, _ => none

omit [Keyed G] in
theorem answer?_eq_some_iff (s : Session G V E) (v : Option V) :
    s.answer? = some v ↔ s.point = .answer v ∧ s.callers = [] := by
  unfold answer?
  split
  · rename_i point alone
    simp [point, alone]
  · rename_i other
    constructor
    · intro none
      cases none
    · rintro ⟨point, alone⟩
      exact absurd alone (other v point)

end Session

namespace Play

variable {h : Host W G V E} {c : Play W G V E}

/-- What was told so far. -/
def events (c : Play W G V E) : List (Event G V E) :=
  c.past.flatMap (·.exchange.told)

variable [Keyed G] [EquivBEq G]

/-- What is told until the root is answered is what there was to tell. -/
theorem remains_of_answers (coherent : c.session.Coherent) {n : Nat} {v : Option V}
    (answers : (c.after h n).session.answer? = some v) :
    ∃ told, (c.after h n).events = c.events ++ told ∧
      c.session.Remains (c.after h n).session.cache told (c.after h n).session.cache.keys := by
  induction n generalizing c with
  | zero =>
      obtain ⟨point, alone⟩ := (Session.answer?_eq_some_iff _ v).mp answers
      rw [after] at point alone ⊢
      refine ⟨[], (List.append_nil _).symm, [], [], c.session.cache.keys, rfl, ?_, ?_⟩
      · rw [point]
        exact ⟨rfl, rfl⟩
      · rw [alone]
        exact ⟨rfl, rfl⟩
  | succ n ih =>
      cases halted : c.session.outcome? with
      | some outcome =>
          rw [after_of_over (by rw [halted]; rfl)] at answers
          rw [Session.outcome?, ((Session.answer?_eq_some_iff _ v).mp answers).1] at halted
          cases halted
      | none =>
          obtain ⟨x, s, w, -, taken, next⟩ := exists_advance h halted
          rw [after_succ, next] at answers ⊢
          have further := coherent.step taken
          obtain ⟨told, events, remains⟩ := ih further answers
          refine ⟨x.told ++ told, ?_, remains.of_step coherent taken fun g v done => ?_⟩
          · rw [events]
            simp [Play.events, List.flatMap_append]
          · exact find?_done_after (c := ⟨_, s, w⟩) further done n

/-- Until its root is answered, a session tells that it starts and then the tree of the root. -/
theorem tells_of_answers {settings : Settings} {stackLimit : Int} {root : G} {w : W} {n : Nat}
    {v : Option V}
    (answers : ((opening h settings stackLimit root w).after h n).session.answer? = some v) :
    ∃ tree, ((opening h settings stackLimit root w).after h n).events =
        .evaluationStarted root :: tree ∧
      Tells ((opening h settings stackLimit root w).after h n).session.cache (.tree root) [] tree
        ((opening h settings stackLimit root w).after h n).session.cache.keys := by
  obtain ⟨told, events, remains⟩ :=
    remains_of_answers (Session.Coherent.start root _ _ _) answers
  obtain ⟨tree, rfl, tells⟩ := remains.start
  exact ⟨tree, events, tells⟩

end Play

end Pursuit

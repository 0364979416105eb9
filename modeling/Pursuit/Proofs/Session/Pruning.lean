import Mathlib.Data.List.Induction
import Pursuit.Proofs.Session.Containment
import Pursuit.Proofs.Session.Path

/-! # What the pruner decides

A session asks the pruner before it looks for an evaluator and before it hands answers over, so each
of these comes right after a check that let it pass. A pruner that has stopped for good ends the
session: from then on it winds down, without any more work, and every goal that is not answered yet
ends up without an answer.
-/

namespace Pursuit

variable {W G V E : Type}

namespace Exchange

def isQuery : Exchange G V E → Bool
  | .check .. | .create .. | .init .. | .resume .. => true
  | .proceed | .record _ | .emit .. => false

/-- The factory or an evaluator is asked. -/
def isWork : Exchange G V E → Bool
  | .create .. | .init .. | .resume .. => true
  | .check .. | .proceed | .record _ | .emit .. => false

/-- A kind of work that the pruner has to let pass. -/
def needsPass : Exchange G V E → Bool
  | .create .. | .resume .. => true
  | _ => false

def passes : Exchange G V E → Bool
  | .check _ _ (.ok false) => true
  | _ => false

/-- The pruner is asked and does not let the session go on. -/
def stops : Exchange G V E → Bool
  | .check _ _ (.ok false) => false
  | .check .. => true
  | _ => false

end Exchange

/-- Work that the pruner has to let pass comes right after it did. -/
def Guarded (queries : List (Exchange G V E)) : Prop :=
  ∀ before x later, queries = before ++ x :: later → x.needsPass = true →
    ∃ y, before.getLast? = some y ∧ y.passes = true

namespace Guarded

variable {queries : List (Exchange G V E)} {x : Exchange G V E}

theorem concat (guarded : Guarded queries)
    (allowed : x.needsPass = true → ∃ y, queries.getLast? = some y ∧ y.passes = true) :
    Guarded (queries ++ [x]) := by
  intro before y later split needs
  obtain rfl | ⟨later', z, rfl⟩ := List.eq_nil_or_concat later
  · obtain ⟨rfl, last⟩ := List.append_inj' split rfl
    cases last
    exact allowed needs
  · rw [List.concat_eq_append, ← List.cons_append, ← List.append_assoc] at split
    exact guarded before y later' (List.append_inj' split rfl).1 needs

theorem of_concat (guarded : Guarded (queries ++ [x])) :
    Guarded queries ∧
      (x.needsPass = true → ∃ y, queries.getLast? = some y ∧ y.passes = true) := by
  refine ⟨?_, guarded queries x [] rfl⟩
  rintro before y later rfl needs
  exact guarded before y (later ++ [x]) (by simp) needs

theorem countP_le (guarded : Guarded queries) :
    queries.countP (·.needsPass) ≤ queries.countP (·.passes) ∧
      ∀ y, queries.getLast? = some y → y.passes = true →
        queries.countP (·.needsPass) < queries.countP (·.passes) := by
  induction queries using List.reverseRecOn with
  | nil => exact ⟨Nat.le_refl _, by simp⟩
  | append_singleton queries x ih =>
      obtain ⟨earlier, allowed⟩ := guarded.of_concat
      obtain ⟨atMost, fewer⟩ := ih earlier
      simp only [List.countP_append, List.countP_singleton, List.getLast?_concat]
      cases needs : x.needsPass with
      | true =>
          obtain ⟨y, last, passed⟩ := allowed needs
          have room := fewer y last passed
          have blocked : x.passes = false := by
            cases x <;> first | rfl | cases needs
          simp only [blocked, if_true, Bool.false_eq_true, if_false, Option.some.injEq]
          refine ⟨by omega, ?_⟩
          rintro y rfl passed
          rw [blocked] at passed
          cases passed
      | false =>
          simp only [Bool.false_eq_true, if_false, Option.some.injEq]
          refine ⟨by omega, ?_⟩
          rintro y rfl passed
          rw [passed, if_pos rfl]
          omega

end Guarded

namespace Point

/-- The pruner has let pass what is done next. -/
def isCleared : Point G V E → Bool
  | .create _ | .resume _ => true
  | .await f | .awaiting f | .dispatch f => f.batch.isEmpty
  | .report _ p | .log _ p => p.isCleared
  | _ => false

theorem isCleared_of_isEnding {p : Point G V E} (ending : p.isEnding = true) :
    p.isCleared = false := by
  induction p with
  | log _ _ ih => exact ih ending
  | halt => rfl
  | _ => cases ending

theorem result_of_expects {p : Point G V E} {k : G} {e : Entry V} (standing : p.subject? = some k)
    (expects : p.Expects (some e)) (undone : e.state ≠ .done) : e.result = none := by
  induction p with
  | report _ _ ih => exact ih standing expects
  | log _ _ ih => exact ih standing expects
  | announce | request | answer | halt => cases standing
  | round => rcases expects with entry | entry <;> cases entry <;> rfl
  | dispatch | recheck | resume | produce =>
      rcases expects with ⟨entry, -⟩ | entry <;> cases entry <;> rfl
  | finish =>
      obtain ⟨state, -, entry⟩ := expects
      cases entry
      rfl
  | finished =>
      cases expects
      exact absurd rfl undone
  | _ => cases expects; rfl

/-- What a session that winds down stands at. No answer is left for a goal that is under way, and
only a session with goals that wait requests anything. -/
def Winds (alone : Bool) : Point G V E → Prop
  | .log _ p => p.Winds alone
  | .finish _ v _ | .finished _ v _ _ => v = none
  | .answer v => alone = true → v = none
  | .request _ => alone = false
  | .enter _ | .gate _ | .recheck _ => True
  | .dispatch f => f.batch ≠ []
  | _ => False

theorem not_isOver_of_winds {alone : Bool} {p : Point G V E} (winds : p.Winds alone) :
    p.isOver = false := by
  induction p with
  | log _ _ ih => exact ih winds
  | report | halt => cases winds
  | _ => rfl

/-- How much is left to do at such a point. -/
def weight : Point G V E → Nat
  | .log _ p => p.weight + 1
  | .answer _ => 2
  | .finished .. => 3
  | .finish .. => 4
  | .gate _ | .recheck _ => 7
  | .enter _ => 8
  | .request _ => 9
  | .dispatch f => 9 * f.waiting.length + 10
  | _ => 0

end Point

namespace Session

/-- Every goal that waits has something to wait for. -/
def Busy (s : Session G V E) : Prop :=
  ∀ f ∈ s.callers, f.waiting ≠ [] ∧ f.batch ≠ []

structure Winding (s : Session G V E) : Prop where
  busy : s.Busy
  point : s.point.Winds s.callers.isEmpty

/-- How much is left to do for a session that winds down. -/
def weight (s : Session G V E) : Nat :=
  s.point.weight + 9 * (s.callers.flatMap (·.waiting)).length

theorem Busy.start (root : G) (wanted bound : Nat) (now : Float) :
    Busy (.start root wanted bound now : Session G V E) := by
  intro f member
  cases member

theorem not_isCleared_escape (s : Session G V E) (failure : Failure) :
    (s.escape failure).point.isCleared = false :=
  Point.isCleared_of_isEnding (escape_isEnding s failure)

variable [Keyed G] {s s' : Session G V E} {x : Exchange G V E}

theorem Busy.step [EquivBEq G] (coherent : s.Coherent) (busy : s.Busy) (taken : s.Step x s') :
    s'.Busy := by
  cases Turn.of_step coherent taken with
  | @call f g rest before waiting =>
      intro f' member
      cases member with
      | head =>
          obtain ⟨through, batch⟩ := coherent.pending f (.inr (by rw [before]; rfl))
          rw [waiting] at batch
          refine ⟨by simp [waiting], ?_⟩
          simp [← batch]
      | tail _ below => exact busy f' below
  | back before callers =>
      intro f' member
      exact busy f' (by rw [callers]; exact .tail _ member)
  | escape now failure =>
      intro f' member
      cases member
  | _ => exact busy

/-- The pruner has just let pass what is done next, or it did and nobody was asked since. -/
theorem Turn.isCleared (turn : s.Turn x s') (busy : s.Busy) (cleared : s'.point.isCleared = true) :
    x.passes = true ∨ s.point.isCleared = true ∧ x.isQuery = false := by
  obtain ⟨root, bound, started, now, cache, callers, point⟩ := s
  cases turn with
  | stay now onward =>
      cases onward with
      | round | firstRound | recheck => exact .inl rfl
      | awaiting | report | reported | log => exact .inr ⟨cleared, rfl⟩
      | noBatch f _ empty => exact .inr ⟨empty, rfl⟩
      | _ => cases cleared
  | enter => exact .inl rfl
  | await before =>
      cases before
      exact .inr ⟨cleared, rfl⟩
  | @back f below v before waits =>
      cases before
      have batch : (f.receive v now).batch = f.batch := by
        unfold Frame.receive
        split <;> rfl
      have empty : f.batch.isEmpty = true := by
        rw [← batch]
        exact cleared
      exact absurd (List.isEmpty_iff.mp empty) (busy f (waits ▸ .head _)).2
  | escape now failure =>
      rw [not_isCleared_escape] at cleared
      cases cleared
  | _ => cases cleared

theorem isCleared_of_needsPass (taken : s.Step x s') (needs : x.needsPass = true) :
    s.point.isCleared = true := by
  obtain ⟨root, bound, started, now, cache, callers, point⟩ := s
  cases point with
  | create g => rfl
  | resume f => rfl
  | report events p => cases events <;> cases taken <;> cases needs
  | _ => cases taken <;> cases needs

theorem winding_of_stops (busy : s.Busy) (taken : s.Step x s') (stops : x.stops = true)
    (calm : x.Uninterrupted) : s'.Winding := by
  have pruned : ∀ g held pass elapsed now reply,
      Exchange.stops (.check elapsed now reply : Exchange G V E) = true →
      Exchange.Uninterrupted (.check elapsed now reply : Exchange G V E) →
      (s.checked g held pass now reply).Winding := by
    intro g held pass elapsed now reply stops calm
    match reply with
    | .ok false => cases stops
    | .ok true => exact ⟨busy, rfl⟩
    | .error (.fault f) => exact ⟨busy, rfl⟩
    | .error (.interrupt i) => exact absurd rfl (calm i)
  obtain ⟨root, bound, started, now, cache, callers, point⟩ := s
  cases point with
  | gate g =>
      cases taken with | check now' reply => exact pruned _ _ _ _ now' reply stops calm
  | round f =>
      cases taken with | check now' reply => exact pruned _ _ _ _ now' reply stops calm
  | recheck f =>
      cases taken with | check now' reply => exact pruned _ _ _ _ now' reply stops calm
  | report events p => cases events <;> cases taken <;> cases stops
  | _ => cases taken <;> cases stops

/-- A session winds down further unless the pruner lets something pass. It is over when the root is
answered, or when a goal is requested that cannot be looked up. -/
theorem Winding.step (winding : s.Winding) (taken : s.Step x s') (stopped : x.passes = false)
    (calm : x.Uninterrupted) :
    s'.Winding ∧ s'.weight < s.weight ∨
      s'.point.isEnding = true ∧ ((∃ v, s.point = .answer v ∧ s.callers = []) ∨
        ∃ g, s.point = .request g ∧ Keyed.isKey g = false) := by
  obtain ⟨busy, point⟩ := winding
  have told : ∀ {p event now reply},
      Exchange.Uninterrupted (.emit event now reply : Exchange G V E) →
      p.Winds s.callers.isEmpty → p.weight < s.point.weight →
      (s.told p now reply).Winding ∧ (s.told p now reply).weight < s.weight := by
    rintro p event now reply ⟨⟩ winds lighter
    refine ⟨⟨busy, winds⟩, ?_⟩
    simp only [weight, Session.told, goTo, after]
    omega
  have pruned : ∀ {g held pass elapsed now reply},
      Exchange.passes (.check elapsed now reply : Exchange G V E) = false →
      Exchange.Uninterrupted (.check elapsed now reply : Exchange G V E) → s.point.weight = 7 →
      (s.checked g held pass now reply).Winding ∧
        (s.checked g held pass now reply).weight < s.weight := by
    intro g held pass elapsed now reply stopped calm seven
    cases reply with
    | ok stop =>
        cases stop with
        | false => cases stopped
        | true =>
            refine ⟨⟨busy, rfl⟩, ?_⟩
            simp only [weight, checked, goTo, after, prune, Point.weight, seven]
            omega
    | error failure =>
        cases failure with
        | fault f =>
            refine ⟨⟨busy, rfl⟩, ?_⟩
            simp only [weight, checked, goTo, after, prune, Point.weight, seven]
            omega
        | interrupt i => exact absurd rfl (calm i)
  obtain ⟨root, bound, started, now, cache, callers, p⟩ := s
  cases p with
  | log n p =>
      cases taken
      refine .inl ⟨⟨busy, point⟩, ?_⟩
      simp only [weight, goTo, Point.weight]
      omega
  | finish g v held =>
      cases taken
      refine .inl ⟨⟨busy, point⟩, ?_⟩
      simp only [weight, Point.weight]
      omega
  | finished g v old held =>
      cases taken with
      | emit now' reply =>
          refine .inl (told calm (fun _ => point) ?_)
          simp only [Point.weight]
          omega
  | enter g =>
      cases taken with
      | emit now' reply =>
          refine .inl (told calm trivial ?_)
          simp only [Point.weight]
          omega
  | gate g => cases taken with | check now' reply => exact .inl (pruned stopped calm rfl)
  | recheck f => cases taken with | check now' reply => exact .inl (pruned stopped calm rfl)
  | dispatch f =>
      cases taken
      left
      unfold Session.dispatch
      split
      · rename_i g rest waiting
        refine ⟨⟨?_, rfl⟩, ?_⟩
        · intro f' member
          cases member with
          | head => exact ⟨by simp [waiting], point⟩
          | tail _ below => exact busy f' below
        · simp only [weight, Point.weight, List.flatMap_cons, List.length_append]
          omega
      · rename_i through
        have full : f.batch.isEmpty = false := by
          cases empty : f.batch.isEmpty with
          | false => rfl
          | true => exact absurd (List.isEmpty_iff.mp empty) point
        simp only [full, Bool.false_eq_true, if_false]
        refine ⟨⟨busy, trivial⟩, ?_⟩
        simp only [weight, goTo, Point.weight]
        omega
  | request g =>
      cases taken
      cases key : Keyed.isKey g with
      | false =>
          right
          simp only [Session.lookUp, key, Bool.false_eq_true, if_false]
          exact ⟨escape_isEnding _ _, .inr ⟨g, rfl, key⟩⟩
      | true =>
          left
          simp only [Session.lookUp, key, if_true]
          have accompanied : callers.isEmpty = false := point
          split
          · refine ⟨⟨busy, ?_⟩, ?_⟩
            · intro alone
              simp only [goTo] at alone
              rw [accompanied] at alone
              cases alone
            · simp only [weight, goTo, Point.weight]
              omega
          · split
            · refine ⟨⟨busy, fun _ => rfl⟩, ?_⟩
              simp only [weight, goTo, Point.weight]
              omega
            · refine ⟨⟨busy, trivial⟩, ?_⟩
              simp only [weight, goTo, setState, Point.weight]
              omega
  | answer v =>
      cases taken
      cases callers with
      | nil => exact .inr ⟨rfl, .inl ⟨v, rfl, rfl⟩⟩
      | cons f rest =>
          left
          obtain ⟨waits, full⟩ := busy f (.head _)
          simp only [Session.deliver, Frame.receive]
          split
          · contradiction
          · rename_i a more waiting
            refine ⟨⟨fun f' member => busy f' (.tail _ member), full⟩, ?_⟩
            simp only [weight, Point.weight, List.flatMap_cons, List.length_append, waiting,
              List.length_cons]
            omega
  | _ => cases point

theorem not_isWork_of_winding (winding : s.Winding ∨ s.point.isEnding = true)
    (taken : s.Step x s') : x.isWork = false := by
  have point : s.point.Winds s.callers.isEmpty ∨ s.point.isEnding = true :=
    winding.imp_left Winding.point
  obtain ⟨root, bound, started, now, cache, callers, p⟩ := s
  cases p with
  | create | init | resume => obtain point | point := point <;> cases point
  | report events p => cases events <;> cases taken <;> rfl
  | _ => cases taken <;> rfl

theorem Coherent.recorded_of_request [EquivBEq G] (coherent : s.Coherent) {g : G}
    (requested : s.point = .request g) (key : Keyed.isKey g = true) (taken : s.Step x s') :
    (s'.cache.find? g).isSome := by
  obtain ⟨root, bound, started, now, cache, callers, p⟩ := s
  cases requested
  cases taken
  simp only [Session.lookUp, key, if_true]
  split
  · rename_i v done
    exact Option.isSome_iff_exists.mpr ⟨_, done⟩
  · split
    · rename_i active
      obtain ⟨a, member, same⟩ := List.any_eq_true.mp active
      obtain ⟨f, waits, rfl⟩ := List.mem_map.mp member
      have awaiting := coherent.waits f waits
      rw [Ledger.find?_congr same] at awaiting
      exact Option.isSome_iff_exists.mpr ⟨_, awaiting⟩
    · exact Option.isSome_iff_exists.mpr ⟨_, Ledger.find?_put_self _ g _⟩

theorem Coherent.result_of_undone [EquivBEq G] (coherent : s.Coherent)
    (running : s.point.isOver = false) {g : G} {e : Entry V} (found : s.cache.find? g = some e)
    (undone : e.state ≠ .done) : e.result = none := by
  obtain ⟨f, waits, same⟩ | ⟨k, standing, same⟩ := coherent.settled running g e found undone
  · have awaiting := coherent.waits f waits
    rw [Ledger.find?_congr same, found] at awaiting
    cases awaiting
    rfl
  · have expects := (coherent.stands k standing).2
    rw [Ledger.find?_congr same, found] at expects
    exact Point.result_of_expects standing expects undone

theorem Turn.result [EquivBEq G] (turn : Turn s x s') {g : G} {e : Entry V}
    (found : s'.cache.find? g = some e) :
    s.cache.find? g = some e ∨ e.result = none ∨ ∃ k held, s.point = .finish k e.result held := by
  have written : ∀ {k : G} {e' : Entry V}, (s.cache.put k e').find? g = some e →
      s.cache.find? g = some e ∨ e = e' := by
    intro k e' found
    rw [Ledger.find?_put] at found
    split at found
    · exact .inr (Option.some.inj found).symm
    · exact .inl found
  cases turn with
  | begin | assign | await =>
      obtain before | rfl := written found
      · exact .inl before
      · exact .inr (.inl rfl)
  | @finish k v held before =>
      obtain old | rfl := written found
      · exact .inl old
      · exact .inr (.inr ⟨k, held, before⟩)
  | _ => exact .inl found

theorem Turn.recorded [EquivBEq G] (turn : Turn s x s') {g : G}
    (before : (s.cache.find? g).isSome) : (s'.cache.find? g).isSome := by
  have written : ∀ {k : G} {e : Entry V}, ((s.cache.put k e).find? g).isSome := by
    intro k e
    rw [Ledger.find?_put]
    split
    · rfl
    · exact before
  cases turn with
  | begin | assign | await | finish => exact written
  | _ => exact before

end Session

namespace Play

/-- What pruner, factory and evaluators were asked so far. -/
def queries (c : Play W G V E) : List (Exchange G V E) :=
  (c.past.map (·.exchange)).filter (·.isQuery)

theorem queries_concat (past : List (Moment G V E)) (s s' : Session G V E) (x : Exchange G V E)
    (w w' : W) : queries ⟨past ++ [⟨s, x⟩], s', w'⟩ =
      queries ⟨past, s, w⟩ ++ if x.isQuery then [x] else [] := by
  simp only [queries, List.map_append, List.filter_append, List.map_cons, List.map_nil,
    List.filter_singleton, Bool.cond_eq_ite]

variable [Keyed G] {h : Host W G V E} {c : Play W G V E}

/-- What is exchanged at a step, unless the session is over. -/
def exchange? (h : Host W G V E) (c : Play W G V E) (n : Nat) : Option (Exchange G V E) :=
  (h.meet (c.after h n).world (c.after h n).session.next).map (·.1)

/-- Once the pruner has stopped it lets nothing pass any more. -/
def Latched (h : Host W G V E) (c : Play W G V E) : Prop :=
  ∀ n, (c.after h n).queries.Pairwise fun x y => x.stops = true → y.passes = false

theorem step_of_exchange? {n : Nat} {x : Exchange G V E} (met : c.exchange? h n = some x) :
    ∃ s w, h.meet (c.after h n).world (c.after h n).session.next = some (x, s, w) ∧
      (c.after h n).session.Step x s ∧
      c.after h (n + 1) = ⟨(c.after h n).past ++ [⟨(c.after h n).session, x⟩], s, w⟩ := by
  obtain ⟨⟨y, s, w⟩, reply, same⟩ := Option.map_eq_some_iff.mp met
  obtain rfl : y = x := same
  exact ⟨s, w, reply, Host.meets_of_meet reply, by rw [after, advance, reply]⟩

theorem exists_exchange {n : Nat} (running : (c.after h n).session.outcome? = none) :
    ∃ x, c.exchange? h n = some x ∧ (c.after h n).session.Step x (c.after h (n + 1)).session := by
  obtain ⟨x, s, w, met, taken, next⟩ := exists_advance h running
  exact ⟨x, by rw [exchange?, met]; rfl, by rw [after, next]; exact taken⟩

theorem running_before {n : Nat} (running : (c.after h (n + 1)).session.outcome? = none) :
    (c.after h n).session.outcome? = none := by
  cases halted : (c.after h n).session.outcome? with
  | none => rfl
  | some outcome =>
      rw [after, advance_of_over (by rw [halted]; rfl), halted] at running
      cases running

theorem queries_extend (n : Nat) : c.queries <+: (c.after h n).queries := by
  have kept := c.past_prefix (h := h) n
  exact (kept.map _).filter _

theorem Latched.blocks (latched : c.Latched h) {n m : Nat} {x y : Exchange G V E} (earlier : n < m)
    (first : c.exchange? h n = some x) (second : c.exchange? h m = some y)
    (stops : x.stops = true) : y.passes = false := by
  cases passes : y.passes with
  | false => rfl
  | true =>
      have asks : x.isQuery = true ∧ y.isQuery = true := by
        constructor
        · cases x <;> first | rfl | cases stops
        · cases y <;> first | rfl | cases passes
      obtain ⟨s, w, -, -, next⟩ := step_of_exchange? first
      obtain ⟨s', w', -, -, next'⟩ := step_of_exchange? second
      have asked : x ∈ (c.after h m).queries := by
        obtain ⟨k, rfl⟩ := Nat.exists_eq_add_of_lt earlier
        rw [Nat.add_right_comm, after_add]
        apply (queries_extend k).subset
        rw [next, queries_concat _ _ _ _ (c.after h n).world, asks.1]
        exact List.mem_append_right _ (.head _)
      have apart := latched (m + 1)
      rw [next', queries_concat _ _ _ _ (c.after h m).world, asks.2, List.pairwise_append] at apart
      rw [← apart.2.2 x asked y (.head _) stops, passes]

theorem latched_of_over {n : Nat} (halted : (c.after h n).session.outcome?.isSome)
    (apart : (c.after h n).queries.Pairwise fun x y => x.stops = true → y.passes = false) :
    c.Latched h := by
  intro m
  obtain early | late := Nat.le_total m n
  · obtain ⟨k, rfl⟩ := Nat.exists_eq_add_of_le early
    rw [after_add] at apart
    exact apart.sublist (queries_extend k).sublist
  · obtain ⟨k, rfl⟩ := Nat.exists_eq_add_of_le late
    rwa [after_add, after_of_over halted]

/-- Whatever the pruner has to let pass, it has. -/
structure Supervised (c : Play W G V E) : Prop where
  coherent : c.session.Coherent
  busy : c.session.Busy
  guarded : Guarded c.queries
  cleared : c.session.point.isCleared = true → ∃ y, c.queries.getLast? = some y ∧ y.passes = true

theorem Supervised.after [EquivBEq G] (supervised : c.Supervised) (n : Nat) :
    (c.after h n).Supervised := by
  apply along supervised
  intro n x s w before _ taken
  have queries := queries_concat (c.after h n).past (c.after h n).session s x (c.after h n).world w
  refine ⟨before.coherent.step taken, before.busy.step before.coherent taken, ?_, ?_⟩
  · rw [queries]
    split
    · exact before.guarded.concat fun needs =>
        before.cleared (Session.isCleared_of_needsPass taken needs)
    · rw [List.append_nil]
      exact before.guarded
  · intro cleared
    rw [queries]
    obtain passes | ⟨earlier, silent⟩ :=
      (Session.Turn.of_step before.coherent taken).isCleared before.busy cleared
    · have asks : x.isQuery = true := by
        cases x <;> first | rfl | cases passes
      rw [if_pos asks, List.getLast?_concat]
      exact ⟨x, rfl, passes⟩
    · rw [silent, if_neg Bool.false_ne_true, List.append_nil]
      exact before.cleared earlier

theorem Supervised.opening (h : Host W G V E) (settings : Settings) (stackLimit : Int) (root : G)
    (w : W) : (opening h settings stackLimit root w).Supervised where
  coherent := .start ..
  busy := .start root settings.maxDepth _ _
  guarded := by
    intro before x later split
    cases before <;> cases split
  cleared := by
    unfold Play.opening Session.start
    split <;> simp [Point.isCleared]

section Wound

variable (always : c.Always h fun _ x => x.passes = false ∧ x.Uninterrupted)
  (winding : c.session.Winding)

include always winding in
theorem winding_or_ending (n : Nat) :
    (c.after h n).session.Winding ∨ (c.after h n).session.point.isEnding = true := by
  apply along (I := fun d => d.session.Winding ∨ d.session.point.isEnding = true) (.inl winding)
  rintro n x s w (before | before) met taken
  · obtain ⟨stopped, calm⟩ := always n x s w met
    exact (before.step taken stopped calm).imp And.left And.left
  · exact .inr (Session.isEnding_step before taken)

include always winding in
/-- A session that winds down answers its root, unless it requests a goal that is no key. -/
theorem winding_answers (keys : ∀ n g, (c.after h n).session.point = .request g →
      Keyed.isKey g = true) :
    ∃ n, (c.after h n).session.point = .answer none ∧ (c.after h n).session.callers = [] := by
  induction weight : c.session.weight using Nat.strongRecOn generalizing c with
  | ind size ih =>
      by_cases answered : ∃ v, c.session.point = .answer v ∧ c.session.callers = []
      · obtain ⟨v, standing, alone⟩ := answered
        have point := winding.point
        rw [standing, alone] at point
        obtain rfl := point rfl
        exact ⟨0, standing, alone⟩
      · have running : c.session.outcome? = none := by
          have point := winding.point
          unfold Session.outcome?
          split
          · rename_i halted
            rw [halted] at point
            cases point
          · rfl
        obtain ⟨x, s, w, met, taken, next⟩ := exists_advance h running
        obtain ⟨stopped, calm⟩ := always.now met
        obtain ⟨further, lighter⟩ | ⟨-, ended | ⟨g, requested, unfit⟩⟩ :=
          winding.step taken stopped calm
        · obtain ⟨n, there⟩ := ih s.weight (weight ▸ lighter)
            (c := ⟨c.past ++ [⟨c.session, x⟩], s, w⟩) (next ▸ always.after 1) further
            (fun n g requested => keys (n + 1) g (by rwa [after_succ, next])) rfl
          exact ⟨n + 1, by rwa [after_succ, next]⟩
        · exact absurd ended answered
        · have fit := keys 0 g requested
          rw [unfit] at fit
          cases fit

end Wound

theorem stopped (supervised : c.Supervised) [EquivBEq G] (latched : c.Latched h)
    (calm : c.Always h fun _ x => x.Uninterrupted) {n : Nat} {x : Exchange G V E}
    (met : c.exchange? h n = some x) (stops : x.stops = true) :
    (c.after h (n + 1)).session.Winding ∧
      (c.after h (n + 1)).session.cache = (c.after h n).session.cache ∧
      (c.after h (n + 1)).Always h fun _ x => x.passes = false ∧ x.Uninterrupted := by
  obtain ⟨s, w, reply, taken, next⟩ := step_of_exchange? met
  have before := supervised.after (h := h) n
  refine ⟨?_, ?_, ?_⟩
  · rw [next]
    exact Session.winding_of_stops before.busy taken stops (calm n x s w reply)
  · rw [next]
    -- only a step that a session takes by itself changes the record
    cases Session.Turn.of_step before.coherent taken with
    | known | close | begin | assign | await | finish | call | back | conclude => cases stops
    | _ => rfl
  · intro m y s' w' met'
    rw [← after_add] at met'
    have asked : c.exchange? h (n + 1 + m) = some y := by
      rw [exchange?, met']
      rfl
    have afterwards : n < n + 1 + m := by omega
    exact ⟨latched.blocks afterwards met asked stops, calm _ y s' w' met'⟩

/-- Goals that are not answered when a session begins to wind down have no result in it. -/
theorem result_of_winding [EquivBEq G] (kept : c.session.Kept) (winding : c.session.Winding)
    (always : c.Always h fun _ x => x.passes = false ∧ x.Uninterrupted) {g : G}
    (undone : ∀ v, c.session.cache.find? g ≠ some ⟨.done, v⟩) (n : Nat) {e : Entry V}
    (found : (c.after h n).session.cache.find? g = some e) : e.result = none := by
  have running := Point.not_isOver_of_winds winding.point
  revert e
  apply along (I := fun d => ∀ {e}, d.session.cache.find? g = some e → e.result = none)
  · intro e found
    apply kept.coherent.result_of_undone running found
    obtain ⟨state, result⟩ := e
    rintro rfl
    exact undone result found
  · intro n x s w before met taken e found
    obtain old | none | ⟨k, held, finishing⟩ :=
      (Session.Turn.of_step (kept_after kept n).coherent taken).result found
    · exact before old
    · exact none
    · obtain winds | ending := winding_or_ending always winding n
      · have point := winds.point
        rw [finishing] at point
        exact point
      · rw [finishing] at ending
        cases ending

theorem recorded_after [EquivBEq G] (coherent : c.session.Coherent) {g : G}
    (recorded : (c.session.cache.find? g).isSome) (n : Nat) :
    ((c.after h n).session.cache.find? g).isSome := by
  apply along (I := fun d => (d.session.cache.find? g).isSome) recorded
  intro n x s w before _ taken
  exact (Session.Turn.of_step (coherent_after coherent n) taken).recorded before

theorem not_requested_of_answer {v : Option V} (answered : c.session.point = .answer v)
    (alone : c.session.callers = []) (n : Nat) (g : G) :
    (c.after h n).session.point ≠ .request g := by
  have ended : ((c.after h n).session.point = .answer v ∧ (c.after h n).session.callers = []) ∨
      (c.after h n).session.point.isEnding = true := by
    apply along (I := fun d => (d.session.point = .answer v ∧ d.session.callers = []) ∨
      d.session.point.isEnding = true) (.inl ⟨answered, alone⟩)
    rintro n x s w (⟨answering, waiting⟩ | ending) _ taken
    · right
      simp only [Session.Step, Session.next, answering, Session.deliver, waiting] at taken
      cases taken
      rfl
    · exact .inr (Session.isEnding_step ending taken)
  intro requested
  rw [requested] at ended
  obtain ⟨answering, -⟩ | ending := ended
  · cases answering
  · cases ending

theorem recorded_of_request [EquivBEq G] (coherent : c.session.Coherent) {v : Option V} {n k : Nat}
    {g : G} (answered : (c.after h n).session.point = .answer v)
    (alone : (c.after h n).session.callers = [])
    (requested : (c.after h k).session.point = .request g) (key : Keyed.isKey g = true) :
    ((c.after h n).session.cache.find? g).isSome := by
  have early : k < n := by
    by_contra late
    obtain ⟨j, rfl⟩ := Nat.exists_eq_add_of_le (Nat.le_of_not_lt late)
    rw [after_add] at requested
    exact not_requested_of_answer answered alone j g requested
  have running : (c.after h k).session.outcome? = none := by
    rw [Session.outcome?, requested]
  obtain ⟨x, s, w, -, taken, next⟩ := exists_advance h running
  have recorded : ((c.after h (k + 1)).session.cache.find? g).isSome := by
    rw [after, next]
    exact (coherent_after coherent k).recorded_of_request requested key taken
  obtain ⟨j, rfl⟩ := Nat.exists_eq_add_of_lt early
  rw [Nat.add_right_comm, after_add]
  exact recorded_after (coherent_after coherent (k + 1)) recorded j

end Play

/-- The work of a session is under the pruner's control, whoever the host is. The factory is asked,
and answers are handed over, only right after the pruner let it pass. Once a pruner that stays put
has stopped, and as long as nobody interrupts, no work is done any more; and if all goals that are
still requested can be looked up, the session ends without an answer, and so does every goal that
was not done then, be it in progress or requested later. -/
theorem pruning_ends_work (h : Host W Goal V E) (settings : Settings) (stackLimit : Int)
    (root : Goal) (w : W) :
    let c := Play.opening h settings stackLimit root w
    (∀ n, Guarded (c.after h n).queries ∧
      (c.after h n).queries.countP (·.needsPass) ≤ (c.after h n).queries.countP (·.passes)) ∧
    (c.Latched h → c.Always h (fun _ x => x.Uninterrupted) →
      ∀ n x, c.exchange? h n = some x → x.stops = true →
        (∀ m y, n < m → c.exchange? h m = some y → y.isWork = false) ∧
        ((∀ m g, n < m → (c.after h m).session.point = .request g → Keyed.isKey g = true) →
          (∃ enough, ∀ fuel, enough ≤ fuel →
            (evaluate h settings stackLimit fuel root w).1 = some (.ok none)) ∧
          ∃ last, ∀ m, last ≤ m → ∀ g,
            (∀ v, (c.after h n).session.cache.find? g ≠ some ⟨.done, v⟩) →
            ((c.after h n).session.cache.find? g).isSome ∨
              (∃ k, n < k ∧ (c.after h k).session.point = .request g) →
            (c.after h m).session.cache.find? g = some ⟨.done, none⟩)) := by
  intro c
  have supervised : c.Supervised := .opening h settings stackLimit root w
  have start : c.session.Kept := .start root _ _ _
  refine ⟨fun n => ?_, fun latched calm n x met stops => ?_⟩
  · have guarded := (supervised.after (h := h) n).guarded
    exact ⟨guarded, guarded.countP_le.1⟩
  · obtain ⟨winding, sameCache, always⟩ := Play.stopped supervised latched calm met stops
    have later : ∀ {m}, n < m → ∃ k, c.after h m = (c.after h (n + 1)).after h k ∧
        m = n + 1 + k := by
      intro m after
      obtain ⟨k, rfl⟩ := Nat.exists_eq_add_of_lt after
      exact ⟨k, by rw [← Play.after_add, Nat.add_right_comm], by omega⟩
    constructor
    · intro m y after asked
      obtain ⟨k, same, -⟩ := later after
      obtain ⟨s, w', -, taken, -⟩ := Play.step_of_exchange? asked
      rw [same] at taken
      exact Session.not_isWork_of_winding (Play.winding_or_ending always winding k) taken
    · intro keys
      obtain ⟨i, answered, alone⟩ := Play.winding_answers always winding fun k g requested =>
        keys (n + 1 + k) g (by omega) (by rwa [Play.after_add])
      have kept := Play.kept_after (h := h) start (n + 1)
      constructor
      · rw [exists_evaluate_iff]
        have standing : ((c.after h (n + 1)).after h i).At _ [] (.answer none) :=
          ⟨rfl, alone, answered⟩
        obtain ⟨j, halted⟩ := standing.stands.ends (h := h)
        exact ⟨n + 1 + i + j, by rwa [Play.after_add, Play.after_add]⟩
      · rw [← Play.after_add] at answered alone
        refine ⟨n + 1 + i, fun m from_ g undone known => ?_⟩
        have recorded : ((c.after h (n + 1 + i)).session.cache.find? g).isSome := by
          obtain before | ⟨k, after, requested⟩ := known
          · rw [Nat.add_assoc, Play.after_add]
            exact Play.recorded_after (Play.kept_after start n).coherent before _
          · exact Play.recorded_of_request start.coherent answered alone requested
              (keys k g after requested)
        obtain ⟨⟨state, result⟩, found⟩ := Option.isSome_iff_exists.mp recorded
        obtain rfl : state = .done := (Play.kept_after start _).settled answered alone found
        have blank : result = none := by
          rw [Play.after_add] at found
          exact Play.result_of_winding kept winding always (by rwa [sameCache]) i found
        subst blank
        obtain ⟨j, rfl⟩ := Nat.exists_eq_add_of_le from_
        rw [Play.after_add]
        exact Play.find?_done_after (Play.kept_after start _).coherent found j

def Point.requested? : Point G V E → Option G
  | .request g => some g
  | _ => none

theorem Point.exists_request [BEq G] {p : Point G V E} {g : G}
    (asked : p.requested?.any (· == g) = true) : ∃ k, p = .request k ∧ (k == g) = true := by
  cases p with
  | request k => exact ⟨k, rfl, asked⟩
  | _ => cases asked

theorem Play.keys_of_over [Keyed G] {h : Host W G V E} {c : Play W G V E} {n : Nat}
    (halted : (c.after h n).session.outcome?.isSome)
    (past : ∀ m ∈ (c.after h n).past, m.session.point.requested?.all Keyed.isKey = true) (m : Nat)
    (g : G) (requested : (c.after h m).session.point = .request g) : Keyed.isKey g = true := by
  have running : (c.after h m).session.outcome? = none := by
    rw [Session.outcome?, requested]
  obtain ⟨x, s, w, met, -, -⟩ := exists_advance h running
  have fits : (c.after h m).session.point.requested?.all Keyed.isKey = true :=
    always_of_past (Q := fun s _ => s.point.requested?.all Keyed.isKey = true) halted past m x s w
      met
  rwa [requested] at fits

/-- A host whose pruner lets two checks pass and stops from then on. The first goal asks for others,
and these for none. Its world is the number of checks. -/
def impatientHost (first : List Goal) : Host Nat Goal Unit Goal where
  clock _ := 0.0
  check _ := .ofFunction fun checks => (.ok (decide (2 ≤ checks)), checks + 1)
  create g := pure (some g)
  init g := pure (if g == numberedGoal 0 then first else [])
  resume _ _ := pure (.done (some ()))
  emit _ w := (none, w)
  record _ w := w

theorem impatientHost_tame (first : List Goal) : (impatientHost first).Tame where
  check _ _ _ failed := by cases failed
  create _ := .pure _
  evaluator _ _ _ _ := ⟨.pure _, fun _ => .pure _⟩
  emit _ _ := rfl

theorem impatientHost_pruned :
    (∃ enough, ∀ fuel, enough ≤ fuel →
        (evaluate (impatientHost [numberedGoal 1, numberedGoal 2]) .standard 1000 fuel
          (numberedGoal 0) 0).1 = some (.ok none)) ∧
      ∃ last, ∀ m, last ≤ m → ∀ g ∈ [numberedGoal 0, numberedGoal 1, numberedGoal 2],
        ((Play.opening (impatientHost [numberedGoal 1, numberedGoal 2]) .standard 1000
          (numberedGoal 0) 0).after (impatientHost [numberedGoal 1, numberedGoal 2])
            m).session.cache.find? g = some ⟨.done, none⟩ := by
  -- with names for host and play nothing but the facts below has to be computed
  obtain ⟨h, host⟩ : ∃ h, h = impatientHost [numberedGoal 1, numberedGoal 2] := ⟨_, rfl⟩
  obtain ⟨c, play⟩ : ∃ c, c = Play.opening h .standard 1000 (numberedGoal 0) 0 := ⟨_, rfl⟩
  have pruned := pruning_ends_work h .standard 1000 (numberedGoal 0) 0
  rw [← play] at pruned
  rw [← host, ← play]
  have halted : (c.after h 36).session.outcome?.isSome := by
    subst play host
    decide +kernel
  have latched : c.Latched h := by
    apply Play.latched_of_over halted
    subst play host
    decide +kernel
  have calm : c.Always h fun _ x => x.Uninterrupted := by
    subst play host
    exact (impatientHost_tame _).uninterrupted .standard 1000 (numberedGoal 0) 0
  have keys : ∀ n g, (c.after h n).session.point = .request g → Keyed.isKey g = true := by
    apply Play.keys_of_over halted
    subst play host
    decide +kernel
  obtain ⟨x, met, stops⟩ : ∃ x, c.exchange? h 16 = some x ∧ x.stops = true := by
    apply Option.map_eq_some_iff.mp
    subst play host
    decide +kernel
  have undone : ∀ g ∈ [numberedGoal 0, numberedGoal 1, numberedGoal 2],
      ((c.after h 16).session.cache.find? g).map (·.state) ≠ some .done := by
    subst play host
    decide +kernel
  have known : ∀ g ∈ [numberedGoal 0, numberedGoal 1, numberedGoal 2],
      ((c.after h 16).session.cache.find? g).isSome = true ∨
        (c.after h 22).session.point.requested?.any (· == g) = true := by
    subst play host
    decide +kernel
  obtain ⟨-, ends⟩ := pruned.2 latched calm 16 x met stops
  obtain ⟨blank, last, records⟩ := ends fun m g _ => keys m g
  refine ⟨blank, last, fun m late g member => ?_⟩
  have unanswered : ∀ v, (c.after h 16).session.cache.find? g ≠ some ⟨.done, v⟩ := by
    intro v done
    exact undone g member (by rw [done]; rfl)
  obtain recorded | later := known g member
  · exact records m late g unanswered (.inl recorded)
  · obtain ⟨k, requested, same⟩ := Point.exists_request later
    rw [← Ledger.find?_congr same] at unanswered ⊢
    exact records m late k unanswered (.inr ⟨22, by decide, requested⟩)

/-- A goal that cannot be looked up, as it has a list in it. -/
def unfitGoal : Goal :=
  ⟨.declared (numberedGoals ["number"]), [numberedContext, .data (.list [])]⟩

/-- After the pruner has stopped for good, and without any interrupt, a request for a goal that
cannot be looked up still ends the session with a failure. -/
theorem unfitGoal_escapes_pruning :
    let h := impatientHost [numberedGoal 1, unfitGoal]
    let c := Play.opening h .standard 1000 (numberedGoal 0) 0
    c.Latched h ∧ c.Always h (fun _ x => x.Uninterrupted) ∧
      (∃ n x, c.exchange? h n = some x ∧ x.stops = true) ∧
      ∀ fuel, 24 ≤ fuel → (evaluate h .standard 1000 fuel (numberedGoal 0) 0).1 =
        some (.error (.fault .badType)) := by
  intro h c
  have halted : (c.after h 23).session.outcome? = some (.error (.fault .badType)) := by
    decide +kernel
  refine ⟨Play.latched_of_over (by rw [halted]; rfl) (by decide +kernel),
    (impatientHost_tame _).uninterrupted .standard 1000 (numberedGoal 0) 0, ?_, ?_⟩
  · refine ⟨16, Option.map_eq_some_iff.mp (by decide +kernel)⟩
  · exact fun fuel enough =>
      evaluate_of_over h .standard 1000 (numberedGoal 0) 0 halted fuel enough

end Pursuit

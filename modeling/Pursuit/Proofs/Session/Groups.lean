import Pursuit.Proofs.Session.Keeping
import Pursuit.Proofs.Session.Limits

/-! # Groups of pruners

A group asks its pruners from the left until one of them stops or fails. Groups within groups change
nothing about that: whatever their shape, the leaves are asked in the same order as in one group of
all leaves, and the same comes of it. So a session runs under the one as under the other. Only its
log records can tell them apart, since they name the pruner.
-/

namespace Pursuit

variable {L W : Type}

namespace Pruner

mutual

/-- The pruners of a tree of groups that are no groups themselves, from the left. -/
def leaves : Pruner L → List (Pruner L)
  | .any pruners => leavesEach pruners
  | p => [p]

def leavesEach : List (Pruner L) → List (Pruner L)
  | [] => []
  | p :: rest => leaves p ++ leavesEach rest

end

def leaf? : Pruner L → Option L
  | .custom leaf => some leaf
  | _ => none

/-- What came of asking a pruner in some world: the leaves that were asked, one after the other, the
answer, and the world after it. -/
structure Inquiry (L W : Type) where
  asked : List (Pruner L)
  reply : Except Failure Bool
  world : W

/-- Ask further, unless something stopped or failed. -/
def Inquiry.andThen (first : Inquiry L W) (next : W → Inquiry L W) : Inquiry L W :=
  match first.reply with
  | .ok false => { next first.world with asked := first.asked ++ (next first.world).asked }
  | _ => first

mutual

/-- Ask a pruner, and keep which leaves it asks. -/
def consult (ask : L → Float → Attempt W Bool) (elapsed : Float) : Pruner L → W → Inquiry L W
  | .any pruners, w => consultEach ask elapsed pruners w
  | p, w =>
    ⟨[p], ((p.shouldStop ask elapsed).perform w).1, ((p.shouldStop ask elapsed).perform w).2⟩

/-- Ask several pruners, until one of them stops or fails. -/
def consultEach (ask : L → Float → Attempt W Bool) (elapsed : Float) :
    List (Pruner L) → W → Inquiry L W
  | [], w => ⟨[], .ok false, w⟩
  | p :: rest, w => (consult ask elapsed p w).andThen (consultEach ask elapsed rest)

end

/-! ## Asking in turn -/

namespace Inquiry

theorem andThen_assoc (first : Inquiry L W) (second third : W → Inquiry L W) :
    (first.andThen second).andThen third = first.andThen fun w => (second w).andThen third := by
  obtain ⟨asked, reply, w⟩ := first
  rcases reply with failure | _ | _
  · rfl
  · -- the first inquiry lets pass, so that all depends on the second one
    simp only [andThen]
    generalize second w = inquiry
    obtain ⟨asked', reply', w'⟩ := inquiry
    rcases reply' with failure | _ | _
    · rfl
    · simp only [List.append_assoc]
    · rfl
  · rfl

theorem andThen_nothing (first : Inquiry L W) :
    (first.andThen fun w => ⟨[], .ok false, w⟩) = first := by
  obtain ⟨asked, reply, w⟩ := first
  rcases reply with failure | _ | _
  · rfl
  · simp only [andThen, List.append_nil]
  · rfl

end Inquiry

variable (ask : L → Float → Attempt W Bool) (elapsed : Float)

theorem consultEach_append (first second : List (Pruner L)) (w : W) :
    consultEach ask elapsed (first ++ second) w =
      (consultEach ask elapsed first w).andThen (consultEach ask elapsed second) := by
  induction first generalizing w with
  | nil => rfl
  | cons p rest ih =>
      rw [List.cons_append, consultEach, consultEach, Inquiry.andThen_assoc]
      exact congrArg _ (funext ih)

theorem consultEach_singleton (p : Pruner L) (w : W) :
    consultEach ask elapsed [p] w = consult ask elapsed p w :=
  (consult ask elapsed p w).andThen_nothing

mutual

theorem consultEach_leaves : (p : Pruner L) → (w : W) →
    consultEach ask elapsed p.leaves w = consult ask elapsed p w
  | .never, w => consultEach_singleton ask elapsed .never w
  | .limit seconds, w => consultEach_singleton ask elapsed (.limit seconds) w
  | .custom leaf, w => consultEach_singleton ask elapsed (.custom leaf) w
  | .any pruners, w => consultEach_leavesEach pruners w

theorem consultEach_leavesEach : (pruners : List (Pruner L)) → (w : W) →
    consultEach ask elapsed (leavesEach pruners) w = consultEach ask elapsed pruners w
  | [], _ => rfl
  | p :: rest, w => by
      -- where a group ends does not matter, since asking in turn is associative
      rw [leavesEach, consultEach_append, consultEach_leaves p w, consultEach]
      exact congrArg _ (funext (consultEach_leavesEach rest))

end

mutual

theorem perform_shouldStop : (p : Pruner L) → (w : W) →
    (p.shouldStop ask elapsed).perform w =
      ((p.consult ask elapsed w).reply, (p.consult ask elapsed w).world)
  | .never, _ => rfl
  | .limit _, _ => rfl
  | .custom _, _ => rfl
  | .any pruners, w => perform_anyStops pruners w

theorem perform_anyStops : (pruners : List (Pruner L)) → (w : W) →
    (anyStops ask elapsed pruners).perform w =
      ((consultEach ask elapsed pruners w).reply, (consultEach ask elapsed pruners w).world)
  | [], _ => rfl
  | p :: rest, w => by
      have first := perform_shouldStop p w
      rw [anyStops, consultEach, Attempt.perform, run_bind first]
      generalize consult ask elapsed p w = inquiry
      obtain ⟨asked, reply, w'⟩ := inquiry
      rcases reply with failure | _ | _
      · rfl
      · exact perform_anyStops rest w'
      · rfl

end

/-- A tree of groups is as good as one group of its leaves. -/
theorem shouldStop_leaves (p : Pruner L) :
    (any p.leaves).shouldStop ask elapsed = p.shouldStop ask elapsed := by
  have perform (w : W) : ((any p.leaves).shouldStop ask elapsed).perform w =
      (p.shouldStop ask elapsed).perform w := by
    rw [perform_shouldStop, perform_shouldStop, ← consultEach_leaves ask elapsed p w]
    rfl
  exact funext perform

mutual

/-- Leaves are asked from the left, and all of them where none stops or fails. -/
theorem asked_prefix : (p : Pruner L) → (w : W) →
    (p.consult ask elapsed w).asked <+: p.leaves ∧
      ((p.consult ask elapsed w).reply = .ok false → (p.consult ask elapsed w).asked = p.leaves)
  | .never, _ => ⟨List.prefix_rfl, fun _ => rfl⟩
  | .limit _, _ => ⟨List.prefix_rfl, fun _ => rfl⟩
  | .custom _, _ => ⟨List.prefix_rfl, fun _ => rfl⟩
  | .any pruners, w => askedEach_prefix pruners w

theorem askedEach_prefix : (pruners : List (Pruner L)) → (w : W) →
    (consultEach ask elapsed pruners w).asked <+: leavesEach pruners ∧
      ((consultEach ask elapsed pruners w).reply = .ok false →
        (consultEach ask elapsed pruners w).asked = leavesEach pruners)
  | [], _ => ⟨List.prefix_rfl, fun _ => rfl⟩
  | p :: rest, w => by
      obtain ⟨early, whole⟩ := asked_prefix p w
      rw [consultEach, leavesEach]
      generalize consult ask elapsed p w = inquiry at early whole ⊢
      obtain ⟨asked, reply, w'⟩ := inquiry
      have before : asked <+: p.leaves ++ leavesEach rest :=
        early.trans (List.prefix_append _ _)
      -- the others are asked after all leaves of the first pruner, or not at all
      rcases reply with failure | _ | _
      · exact ⟨before, by simp [Inquiry.andThen]⟩
      · obtain ⟨early', whole'⟩ := askedEach_prefix rest w'
        obtain rfl : asked = p.leaves := whole rfl
        exact ⟨(List.prefix_append_right_inj _).mpr early',
          fun passed => congrArg _ (whole' passed)⟩
      · exact ⟨before, by simp [Inquiry.andThen]⟩

end

/-! ## What the host sees -/

/-- Ask a pruner of the host, and put on a list that it was asked, and at which time. -/
def noting (leaf : L) (elapsed : Float) : Attempt (W × List (L × Float)) Bool :=
  .ofFunction fun w =>
    (((ask leaf elapsed).perform w.1).1,
      ((ask leaf elapsed).perform w.1).2, w.2 ++ [(leaf, elapsed)])

def Inquiry.noted (elapsed : Float) (inquiry : Inquiry L W) : List (L × Float) :=
  (inquiry.asked.filterMap leaf?).map (·, elapsed)

mutual

theorem perform_noting : (p : Pruner L) → (w : W) → (noted : List (L × Float)) →
    (p.shouldStop (noting ask) elapsed).perform (w, noted) =
      ((p.consult ask elapsed w).reply, (p.consult ask elapsed w).world,
        noted ++ (p.consult ask elapsed w).noted elapsed)
  | .never, _, noted => Prod.ext rfl (Prod.ext rfl (List.append_nil noted).symm)
  | .limit _, _, noted => Prod.ext rfl (Prod.ext rfl (List.append_nil noted).symm)
  | .custom _, _, _ => rfl
  | .any pruners, w, noted => performEach_noting pruners w noted

theorem performEach_noting : (pruners : List (Pruner L)) → (w : W) → (noted : List (L × Float)) →
    (anyStops (noting ask) elapsed pruners).perform (w, noted) =
      ((consultEach ask elapsed pruners w).reply, (consultEach ask elapsed pruners w).world,
        noted ++ (consultEach ask elapsed pruners w).noted elapsed)
  | [], _, noted => Prod.ext rfl (Prod.ext rfl (List.append_nil noted).symm)
  | p :: rest, w, noted => by
      have first := perform_noting p w noted
      rw [anyStops, consultEach, Attempt.perform, run_bind first]
      generalize consult ask elapsed p w = inquiry
      obtain ⟨asked, reply, w'⟩ := inquiry
      rcases reply with failure | _ | _
      · rfl
      · refine (performEach_noting rest w' _).trans ?_
        simp only [Inquiry.noted, Inquiry.andThen, List.filterMap_append, List.map_append,
          List.append_assoc]
      · rfl

end

end Pruner

/-! ## Sessions -/

theorem Attempt.Within.bind {U α γ : Type} {view : W → U} {a : Attempt W α}
    {k : α → Attempt W γ} (first : a.Within view) (later : ∀ x, (k x).Within view) :
    (a >>= k).Within view := by
  intro w w' same
  obtain ⟨replied, seen⟩ := first w w' same
  cases ran : a.run.run w with
  | mk reply v =>
      cases ran' : a.run.run w' with
      | mk reply' v' =>
          rw [Attempt.perform, Attempt.perform, ran, ran'] at replied seen
          obtain rfl : reply = reply' := replied
          rw [Attempt.perform, Attempt.perform, run_bind ran, run_bind ran']
          cases reply with
          | ok x => exact later x v v' seen
          | error failure => exact ⟨rfl, seen⟩

theorem Pruner.shouldStop_within {U : Type} {view : W → U} {ask : L → Float → Attempt W Bool}
    (within : ∀ leaf elapsed, (ask leaf elapsed).Within view) (elapsed : Float) (p : Pruner L) :
    (p.shouldStop ask elapsed).Within view := by
  have pure (b : Bool) : (Pure.pure b : Attempt W Bool).Within view := fun _ _ same => ⟨rfl, same⟩
  have relates : Pruner.Relates (fun a _ => a.Within view) ask ask elapsed :=
    { settled := pure
      asked := fun leaf => within leaf elapsed
      inTurn := fun first later => first.bind fun stops => by
        cases stops with
        | false => exact later
        | true => exact pure true }
  exact relates.shouldStop p

namespace Services

variable {U F β K : Type}

/-- All that the services depend on is what the view shows, and the log is no part of
it. -/
structure LogAside (p : Services W F β K L) (create : Goal → Attempt W (Option Product))
    (view : W → U) : Prop extends p.Confined create view where
  askPruner : ∀ k elapsed, (p.askPruner k elapsed).Within view
  listeners : ∀ w w', view w = view w' → p.listeners w = p.listeners w'
  hear : ∀ l event, (p.hear l event).Within view
  record : ∀ entry w, view (p.record entry w) = view w

variable [BEq L] {p : Services W F β K L} {create : Goal → Attempt W (Option Product)}

theorem host_leaves (p : Services W F β K L) (create : Goal → Attempt W (Option Product))
    (tree : Pruner K) (extras : List L) :
    p.host create tree extras =
      { p.host create (.any tree.leaves) extras with
        record := fun n => p.record (.session n tree) } := by
  simp only [host, Pruner.shouldStop_leaves]

theorem LogAside.inStep {view : W → U} (aside : p.LogAside create view) (settings : Settings)
    (stackLimit : Int) (tree : Pruner K) (extras : List L) (root : Goal) {w w' : W}
    (same : view w = view w') (n : Nat) :
    Play.InStep (fun w w' => view w = view w') (settings.depthBound stackLimit)
      (Play.opening (p.host create tree extras) settings stackLimit root w)
      (Play.opening (p.host create (.any tree.leaves) extras) settings stackLimit root w')
      ((Play.opening (p.host create tree extras) settings stackLimit root w).after
        (p.host create tree extras) n)
      ((Play.opening (p.host create (.any tree.leaves) extras) settings stackLimit root w').after
        (p.host create (.any tree.leaves) extras) n) := by
  apply Play.inStep_after
  · apply aside.follows settings stackLimit root w (P := fun _ => True)
    · exact fun _ _ _ _ _ => trivial
    · intro n w w' same _
      refine ⟨trivial, ?_⟩
      calc view (p.record (.session n tree) w) = view w := aside.record _ _
        _ = view w' := same
        _ = view (p.record (.session n (.any tree.leaves)) w') := (aside.record _ _).symm
    · intro elapsed now reply _ w w' same gives
      have within := Pruner.shouldStop_within aside.askPruner elapsed tree
      simp only [Host.Gives, Host.world, host, Pruner.shouldStop_leaves] at gives ⊢
      exact within.gives aside.clock same gives
    · rintro event now reply w w' same ⟨rfl, rfl⟩
      obtain ⟨replied, alike⟩ :=
        emit_within aside.listeners aside.hear aside.record extras event same
      exact ⟨⟨replied, aside.clock _ _ alike⟩, alike⟩
  · intro n
    exact .inl (Play.bound_after (.start root _ _ _) n)
  · simp only [Play.opening, Services.host, aside.clock w w' same]
    rfl
  · exact same

end Services

theorem LogEntry.text_leaves {K : Type} (tree : Pruner K) (n : SessionRecord Goal Product)
    (showPruner : K → String) (showListener : L → String) :
    (∃ f, n = .prunerFailed f) ∨
      (LogEntry.session n tree).text showPruner showListener =
        (LogEntry.session n (.any tree.leaves)).text showPruner showListener := by
  cases n with
  | prunerFailed f => exact .inl ⟨f, rfl⟩
  | _ => exact .inr rfl

/-- Services with two pruners that count together how often they are asked. One of them fails
once that was four times. Its world is the count and the log. -/
def fragileServices :
    Services (Nat × List (LogEntry Bool Empty)) Empty Empty Bool Empty :=
  { Services.hosting (fun g => pure (knottedNeeds g))
      (fun _ _ => pure (.done (some .baseType))) with
    askPruner := fun fragile _ => .ofFunction fun w =>
      (if fragile && decide (4 ≤ w.1) then .error (.fault .badType) else .ok false, w.1 + 1, w.2)
    record := fun entry w => (w.1, entry :: w.2) }

theorem fragileServices_logAside : fragileServices.LogAside hostedFactory Prod.fst where
  clock _ _ _ := rfl
  factory _ _ _ same := ⟨rfl, same⟩
  init g w e created := by
    cases created
    exact fun w w' same => ⟨rfl, same⟩
  resume g w e created answers := by
    cases created
    exact fun w w' same => ⟨rfl, same⟩
  askPruner fragile elapsed w w' same := by
    simp only [fragileServices, Attempt.perform_ofFunction, same, and_self]
  listeners _ _ _ := rfl
  hear l := l.elim
  record _ _ := rfl

/-- Groups in groups, an empty one among them. -/
def nestedPruner : Pruner Bool :=
  .any [.any [.never, .any [], .custom false], .any [.any [.custom true], .limit 5.0],
    .custom false]

end Pursuit

import Pursuit.Inferencer
import Pursuit.Proofs.Session.Course

/-! # What a session keeps

A property of the world that every service keeps is kept by whatever is made of these
parts: by a registry that builds an evaluator, by the delivery of an event, and by a session at each
of its exchanges.
-/

namespace Pursuit

variable {ε W α γ : Type} {I : W → Prop}

theorem run_bind {m : ExceptT ε (StateM W) α} {k : α → ExceptT ε (StateM W) γ} {w w' : W}
    {reply : Except ε α} (ran : m.run.run w = (reply, w')) :
    (m >>= k).run.run w = (ExceptT.bindCont k reply).run w' := by
  change (match m.run.run w with | (reply, w') => (ExceptT.bindCont k reply).run w') = _
  rw [ran]

/-- A property of the world holds after a computation if it holds before, also when it fails. -/
def Keeps (I : W → Prop) (m : ExceptT ε (StateM W) α) : Prop :=
  ∀ w, I w → I (m.run.run w).2

namespace Keeps

theorem pure (a : α) : Keeps I (Pure.pure a : ExceptT ε (StateM W) α) :=
  fun _ holds => holds

theorem throw (e : ε) : Keeps I (MonadExcept.throw e : ExceptT ε (StateM W) α) :=
  fun _ holds => holds

theorem reply (result : Except ε α) :
    Keeps I (MonadExcept.ofExcept result : ExceptT ε (StateM W) α) := by
  cases result with
  | ok a => exact .pure a
  | error e => exact .throw e

theorem modify {f : W → W} (kept : ∀ w, I w → I (f w)) :
    Keeps I (modify f : ExceptT ε (StateM W) PUnit) :=
  kept

theorem bind {m : ExceptT ε (StateM W) α} {k : α → ExceptT ε (StateM W) γ} (first : Keeps I m)
    (later : ∀ a, Keeps I (k a)) : Keeps I (m >>= k) := by
  intro w holds
  have kept := first w holds
  cases ran : m.run.run w with
  | mk reply w' =>
      rw [run_bind ran]
      rw [ran] at kept
      cases reply with
      | ok a => exact later a w' kept
      | error e => exact kept

theorem reading {k : W → ExceptT ε (StateM W) γ} (later : ∀ w, I w → Keeps I (k w)) :
    Keeps I (get >>= k) :=
  fun w holds => later w holds w holds

theorem set {w : W} (holds : I w) : Keeps I (set w : ExceptT ε (StateM W) PUnit) :=
  fun _ _ => holds

theorem ite {c : Prop} [Decidable c] {yes no : ExceptT ε (StateM W) α} (first : Keeps I yes)
    (second : Keeps I no) : Keeps I (if c then yes else no) := by
  split
  · exact first
  · exact second

theorem mapM {f : α → ExceptT ε (StateM W) γ} (each : ∀ a, Keeps I (f a)) (as : List α) :
    Keeps I (as.mapM f) := by
  induction as with
  | nil => exact pure []
  | cons a as ih =>
      rw [List.mapM_cons]
      exact (each a).bind fun _ => ih.bind fun _ => pure _

theorem mapM_option {f : α → ExceptT ε (StateM W) γ} (each : ∀ a, Keeps I (f a)) (a : Option α) :
    Keeps I (a.mapM f) := by
  cases a with
  | none => exact pure none
  | some a =>
      rw [Option.mapM_some, map_eq_pure_bind]
      exact (each a).bind fun _ => pure _

theorem forM {f : α → ExceptT ε (StateM W) PUnit} (each : ∀ a, Keeps I (f a)) (as : List α) :
    Keeps I (as.forM f) := by
  induction as with
  | nil => exact pure PUnit.unit
  | cons a as ih => exact (each a).bind fun _ => ih

theorem tryCatch {m : ExceptT ε (StateM W) α} {handle : ε → ExceptT ε (StateM W) α}
    (first : Keeps I m) (later : ∀ e, Keeps I (handle e)) :
    Keeps I (MonadExcept.tryCatch m handle) := by
  intro w holds
  have kept := first w holds
  change I (match m.run.run w with
    | (reply, w') => (match reply with
      | .ok a => Pure.pure (.ok a)
      | .error e => handle e : StateM W (Except ε α)).run w').2
  generalize m.run.run w = result at kept ⊢
  obtain ⟨reply, w'⟩ := result
  cases reply with
  | ok a => exact kept
  | error e => exact later e w' kept

theorem ofFunction {f : W → Except Failure α × W} (kept : ∀ w, I w → I (f w).2) :
    Keeps I (Attempt.ofFunction f) :=
  kept

theorem ofExcept (result : Except Fault α) : Keeps I (Attempt.ofExcept result) := by
  cases result with
  | ok a => exact pure a
  | error f => exact throw _

end Keeps

/-! ## Sessions -/

/-- No part of a host does away with a property of its world. -/
structure Host.Keeps {G V E : Type} (h : Host W G V E) (I : W → Prop) : Prop where
  check : ∀ elapsed, Pursuit.Keeps I (h.check elapsed)
  create : ∀ g, Pursuit.Keeps I (h.create g)
  init : ∀ e, Pursuit.Keeps I (h.init e)
  resume : ∀ e answers, Pursuit.Keeps I (h.resume e answers)
  emit : ∀ event w, I w → I (h.emit event w).2
  record : ∀ n w, I w → I (h.record n w)

theorem Host.Keeps.world {G V E : Type} {h : Host W G V E} (keeps : h.Keeps I) {w : W} (holds : I w)
    (x : Exchange G V E) : I (h.world w x) := by
  cases x with
  | proceed => exact holds
  | record n => exact keeps.record n w holds
  | check elapsed => exact keeps.check elapsed w holds
  | create g => exact keeps.create g w holds
  | init evaluator =>
      cases evaluator with
      | nullEvaluator g => exact holds
      | evaluator e => exact keeps.init e w holds
  | resume evaluator answers =>
      cases evaluator with
      | nullEvaluator g => exact holds
      | evaluator e => exact keeps.resume e answers w holds
  | emit event => exact keeps.emit event w holds

theorem Host.Keeps.after {G V E : Type} [Keyed G] {h : Host W G V E} (keeps : h.Keeps I)
    {c : Play W G V E} (holds : I c.world) (n : Nat) : I (c.after h n).world := by
  apply Play.along (I := fun c => I c.world) holds
  intro n x s w holds met _
  rw [Host.world_of_meet met]
  exact keeps.world holds x

/-! ## Services -/

namespace Pruner

variable {W' K : Type}

/-- A relation between attempts holds for the answers of the host's pruners, and it goes with asking
in turn. -/
structure Relates (R : Attempt W Bool → Attempt W' Bool → Prop) (ask : K → Float → Attempt W Bool)
    (ask' : K → Float → Attempt W' Bool) (elapsed : Float) : Prop where
  settled : ∀ b, R (pure b) (pure b)
  asked : ∀ k, R (ask k elapsed) (ask' k elapsed)
  inTurn : ∀ {a b a' b'}, R a a' → R b b' →
    R (do if ← a then pure true else b) (do if ← a' then pure true else b')

section

variable {R : Attempt W Bool → Attempt W' Bool → Prop} {ask : K → Float → Attempt W Bool}
  {ask' : K → Float → Attempt W' Bool} {elapsed : Float}

mutual

theorem Relates.shouldStop (relates : Relates R ask ask' elapsed) : (pruner : Pruner K) →
    R (pruner.shouldStop ask elapsed) (pruner.shouldStop ask' elapsed)
  | .never => relates.settled false
  | .limit _ => relates.settled _
  | .custom k => relates.asked k
  | .any pruners => relates.anyStops pruners

theorem Relates.anyStops (relates : Relates R ask ask' elapsed) : (pruners : List (Pruner K)) →
    R (Pruner.anyStops ask elapsed pruners) (Pruner.anyStops ask' elapsed pruners)
  | [] => relates.settled false
  | p :: rest => relates.inTurn (relates.shouldStop p) (relates.anyStops rest)

end

end

theorem keeps_shouldStop {ask : K → Float → Attempt W Bool}
    (asked : ∀ k elapsed, Keeps I (ask k elapsed)) (elapsed : Float) (pruner : Pruner K) :
    Keeps I (pruner.shouldStop ask elapsed) := by
  have relates : Relates (fun a _ => Keeps I a) ask ask elapsed :=
    { settled := fun _ => .pure _
      asked := fun k => asked k elapsed
      inTurn := fun first later => first.bind fun _ => .ite (.pure _) later }
  exact relates.shouldStop pruner

end Pruner

theorem keeps_deliver {L : Type} {hear : L → Attempt W Unit} {record : L → Fault → W → W}
    (heard : ∀ l, Keeps I (hear l)) (recorded : ∀ l f w, I w → I (record l f w))
    (targets : List L) {w : W} (holds : I w) : I (deliver hear record targets w).2 := by
  induction targets generalizing w with
  | nil => exact holds
  | cons l rest ih =>
      have kept : I ((hear l).perform w).2 := heard l w holds
      rw [deliver]
      split
      · rename_i w' told
        rw [told] at kept
        exact ih kept
      · rename_i f w' told
        rw [told] at kept
        exact ih (recorded l f w' kept)
      · rename_i i w' told
        rwa [told] at kept

namespace Services

variable {F β K L : Type}

/-- No service does away with a property of its world. -/
structure Keeps (p : Services W F β K L) (I : W → Prop) : Prop where
  askFactory : ∀ f g, Pursuit.Keeps I (p.askFactory f g)
  callFunction : ∀ b g, Pursuit.Keeps I (p.callFunction b g)
  setUp : ∀ c g, Pursuit.Keeps I (p.setUp c g)
  initCustom : ∀ e, Pursuit.Keeps I (p.initCustom e)
  resumeCustom : ∀ e answers, Pursuit.Keeps I (p.resumeCustom e answers)
  noticeSearch : ∀ query w, I w → I (p.noticeSearch query w)
  askPruner : ∀ k elapsed, Pursuit.Keeps I (p.askPruner k elapsed)
  hear : ∀ l event, Pursuit.Keeps I (p.hear l event)
  record : ∀ entry w, I w → I (p.record entry w)

namespace Keeps

variable {p : Services W F β K L} (keeps : p.Keeps I)

include keeps

theorem init (e : Evaluator) : Pursuit.Keeps I (p.init e) := by
  unfold Services.init
  split
  · exact .pure []
  · exact keeps.initCustom e
  · exact keeps.initCustom e

theorem search (index : SourceIndex) (query : Query) : Pursuit.Keeps I (p.search index query) := by
  apply Pursuit.Keeps.ofFunction
  intro w holds
  dsimp only
  split
  · exact keeps.noticeSearch query w holds
  · exact holds

theorem resume (e : Evaluator) (answers : Ledger Goal (Option Value)) :
    Pursuit.Keeps I (p.resume e answers) := by
  unfold Services.resume
  split
  · exact .pure _
  · exact (Pursuit.Keeps.ofExcept _).bind fun _ => .pure _
  · exact (Pursuit.Keeps.ofExcept _).bind fun index => (Pursuit.Keeps.ofExcept _).bind fun query =>
      (keeps.search index query).bind fun _ => .pure _
  · exact keeps.resumeCustom e answers
  · exact keeps.resumeCustom e answers

theorem screen (source : EvaluatorSource) (goal : Goal) {made : Attempt W (Option Product)}
    (kept : Pursuit.Keeps I made) : Pursuit.Keeps I (p.builder.screen source goal made) := by
  apply Pursuit.Keeps.ofFunction
  intro w holds
  have kept : I (made.perform w).2 := kept w holds
  generalize made.perform w = result at kept ⊢
  obtain ⟨reply, w'⟩ := result
  split
  all_goals rename_i same; cases same
  · exact kept
  · exact kept
  · exact keeps.record _ _ kept
  · exact keeps.record _ _ kept
  · exact kept

theorem apply (goal : Goal) (c : Constructor β) : Pursuit.Keeps I (p.builder.apply goal c) := by
  cases c with
  | evaluators c =>
      rw [Builder.apply, Builder.construct]
      split
      · exact (keeps.setUp c goal).bind fun _ => .pure _
      · exact (Pursuit.Keeps.throw _).bind fun _ => .pure _
  | function _ _ body | sealed body => exact keeps.callFunction body goal
  | others | object => exact .throw _

theorem fromTable (r : Registry F β) (goal : Goal) :
    Pursuit.Keeps I (r.fromTable p.builder goal) := by
  unfold Registry.fromTable
  refine (Pursuit.Keeps.ofExcept _).bind fun kind => ?_
  split
  · exact keeps.screen _ goal (keeps.apply goal _)
  · exact .ofFunction fun w => keeps.record _ w

theorem create (r : Registry F β) (goal : Goal) : Pursuit.Keeps I (r.create p.builder goal) := by
  unfold Registry.create
  split
  · exact keeps.fromTable r goal
  · apply (keeps.screen _ goal (keeps.askFactory _ goal)).bind
    intro made
    split
    · exact .pure _
    · exact keeps.fromTable r goal

theorem emit [BEq L] (extras : List L) (event : Event Goal Value Product) {w : W} (holds : I w) :
    I (p.emit extras event w).2 :=
  keeps_deliver (fun l => keeps.hear l event) (fun l f => keeps.record (.listener l event.name f)) _
    holds

theorem host [BEq L] {create : Goal → Attempt W (Option Product)}
    (created : ∀ g, Pursuit.Keeps I (create g)) (pruner : Pruner K) (extras : List L) :
    (p.host create pruner extras).Keeps I where
  check elapsed := pruner.keeps_shouldStop keeps.askPruner elapsed
  create := created
  init e := by
    cases e with
    | evaluator e => exact keeps.init e
    | other d => exact .throw _
  resume e answers := by
    cases e with
    | evaluator e => exact keeps.resume e answers
    | other d => exact .throw _
  emit event w := keeps.emit extras event
  record n := keeps.record (.session n pruner)

theorem resolve [BEq L] {create : Goal → Attempt W (Option Product)}
    (created : ∀ g, Pursuit.Keeps I (create g)) (settings : Settings) (stackLimit : Int)
    (fuel : Nat) (pruner : Option (Pruner K)) (extras : List L) (root : Goal) {w : W}
    (holds : I w) :
    I (p.resolve create settings stackLimit fuel pruner extras root w).2 := by
  rw [Services.resolve, evaluate_world]
  exact (keeps.host created _ extras).after holds fuel

end Keeps

end Services

end Pursuit

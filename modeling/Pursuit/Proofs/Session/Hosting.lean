import Pursuit.Proofs.Equality
import Pursuit.Proofs.Session.Assignment
import Pursuit.Services

/-! # Services for given evaluators

The smallest services at which sessions can be held: it has an evaluator for each goal, whose work
is given by two functions on the goal, and it has neither pruners nor listeners.
-/

namespace Pursuit

variable {W : Type}

namespace Attempt

variable {α γ : Type}

theorem perform_ofFunction (f : W → Except Failure α × W) (w : W) :
    (ofFunction f).perform w = f w :=
  rfl

theorem perform_bind_of_ok {a : Attempt W α} {k : α → Attempt W γ} {w : W} {x : α}
    (succeeds : (a.perform w).1 = .ok x) : (a >>= k).perform w = (k x).perform (a.perform w).2 := by
  change ExceptT.bindCont k (a.perform w).1 (a.perform w).2 = _
  rw [succeeds]
  rfl

theorem perform_bind_of_error {a : Attempt W α} {k : α → Attempt W γ} {w : W} {failure : Failure}
    (fails : (a.perform w).1 = .error failure) : ((a >>= k).perform w).1 = .error failure := by
  change (ExceptT.bindCont k (a.perform w).1 (a.perform w).2).1 = _
  rw [fails]
  rfl

end Attempt

/-- The evaluator of a goal, of a class that leaves all work to the host. -/
def hostedEvaluator (g : Goal) : Product :=
  .evaluator
    { cls :=
        { name := "Hosted", constructor := [.positional], customSetUp := false, arguments := []
          typeVariables := [], init := some .custom, resume := some .custom }
      goal := g, serial := 0, preset := none }

def hostedFactory (g : Goal) : Attempt W (Option Product) :=
  pure (some (hostedEvaluator g))

/-- The services at which these evaluators do the given work. -/
def Services.hosting (first : Goal → Attempt W (List Goal))
    (further : Goal → Ledger Goal (Option Value) → Attempt W (Outcome Goal Value)) :
    Services W Empty Empty Empty Empty where
  clock _ := 0.0
  askFactory _ _ := pure none
  callFunction _ _ := pure none
  setUp _ _ := .fault .badType
  initCustom e := first e.goal
  resumeCustom e answers := further e.goal answers
  noticeSearch _ w := w
  askPruner _ _ := pure false
  listeners _ := []
  hear _ _ := pure ()
  record _ w := w

def numberedGoals (numbers : List String) : GoalClass :=
  ⟨"Numbered", "numbered", "goals", FieldSpec.bare ++ numbers.map (⟨·, none⟩), []⟩

def numberedContext : FieldValue :=
  .context ⟨.text "m", none, .empty⟩

def numberedGoal (n : Int) : Goal :=
  ⟨.declared (numberedGoals ["number"]), [numberedContext, .data (.number n)]⟩

theorem hosted_after {p : Services W Empty Empty Empty Empty} {pruner : Pruner Empty}
    {extras : List Empty} (settings : Settings) (stackLimit : Int) (root : Goal) (w : W) (n : Nat) :
    ((Play.opening (p.host hostedFactory pruner extras) settings stackLimit root w).after
      (p.host hostedFactory pruner extras) n).session.Assigns
        fun g evaluator => evaluator = .evaluator (hostedEvaluator g) :=
  Play.assigns_after (fun _ _ => rfl) n

end Pursuit

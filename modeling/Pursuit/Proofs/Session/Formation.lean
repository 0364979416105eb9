import Pursuit.Proofs.Session.Pruning

/-! # Where log records and reports stand

A point can be put off by a log record that is written or by reports that are made first. Sessions
do this in few ways only, and `Formed` lists them: a goal is given up after a log record that says
why, a request that closes a cycle is answered after a log record, and reports come before a
result or a further round.
-/

namespace Pursuit

variable {W G V E : Type}

/-- The log record says why a goal is left without a result, and names the goal itself or an
evaluator of it. -/
def SessionRecord.Explains (evaluators : GoalEvaluator G E → Prop) (g : G) :
    SessionRecord G E → Prop
  | .pruned k _ | .tooDeep _ k => k = g
  | .initFailed evaluator _ | .resumeFailed evaluator _ | .strayOutcome evaluator _ =>
      evaluators evaluator
  | _ => False

namespace Point

/-- Nothing is written or reported before. -/
def isBare : Point G V E → Bool
  | .report _ _ | .log _ _ => false
  | _ => true

/-- All that a session may stand at, when the evaluators of a goal are those that suit it. -/
inductive Formed (suits : G → GoalEvaluator G E → Prop) : Point G V E → Prop where
  | bare {p} (bare : p.isBare = true) : Formed suits p
  | result {events f v} : Formed suits (.report events (.produce f v))
  | further {events f} : Formed suits (.report events (.round f))
  | explanation {n g held} (explanations : n.Explains (suits g) g) :
      Formed suits (.log n (.finish g none held))
  | unsure {fault g t held} :
      Formed suits (.log (.prunerFailed fault) (.log (.pruned g t) (.finish g none held)))
  | cycle {g} : Formed suits (.log (.cycleClosed g) (.answer none))
  | nullEvaluator {g} : Formed suits (.log (.noEvaluator g) (.assign g (.nullEvaluator g)))
  | unmade {g fault} :
      Formed suits
        (.log (.factoryFailed g fault) (.log (.noEvaluator g) (.assign g (.nullEvaluator g))))
  | opening {wanted bound} : Formed suits (.log (.depthLowered wanted bound) .announce)
  | closing {root t goals outcome} : Formed suits (.log (.evaluated root t goals) (.halt outcome))
  | exhausted {root fault outcome} : Formed suits (.log (.exhausted root fault) (.halt outcome))

end Point

namespace Session

variable {suits : G → GoalEvaluator G E → Prop} {s s' : Session G V E} {x : Exchange G V E}

theorem formed_escape (s : Session G V E) (failure : Failure) :
    (s.escape failure).point.Formed suits := by
  unfold escape
  cases failure with
  | interrupt i => exact .bare rfl
  | fault f =>
      dsimp only
      split
      · exact .exhausted
      · exact .bare rfl

theorem formed_of_onward {p : Point G V E} (onward : s.point.Onward x p) (assigns : s.Assigns suits)
    (formed : s.point.Formed suits) : p.Formed suits := by
  have assignment := assigns.stands
  obtain ⟨root, bound, started, now, cache, callers, point⟩ := s
  cases onward with
  | tooDeep | pruned => exact .explanation rfl
  | prunerFailed => exact .unsure
  | noEvaluator => exact .nullEvaluator
  | factoryFailed => exact .unmade
  | initFailed g evaluator => exact .explanation (assignment g evaluator rfl)
  | stray f | resumeFailed f => exact .explanation (assignment f.goal f.evaluator rfl)
  | result => exact .result
  | further => exact .further
  | report =>
      cases formed with
      | bare single => cases single
      | result => exact .result
      | further => exact .further
  | reported =>
      cases formed with
      | bare single => cases single
      | result | further => exact .bare rfl
  | log =>
      cases formed with
      | bare single => cases single
      | unsure => exact .explanation rfl
      | unmade => exact .nullEvaluator
      | _ => exact .bare rfl
  | _ => exact .bare rfl

theorem Turn.formed [Keyed G] (turn : s.Turn x s') (assigns : s.Assigns suits)
    (formed : s.point.Formed suits) : s'.point.Formed suits := by
  cases turn with
  | stay now onward => exact formed_of_onward onward assigns formed
  | escape now failure => exact formed_escape _ failure
  | close => exact .cycle
  | conclude => exact .closing
  | _ => exact .bare rfl

end Session

namespace Play

variable [Keyed G] {h : Host W G V E} {c : Play W G V E}

/-- The evaluator was assigned for the goal in the course of a play. -/
def Assigned (h : Host W G V E) (c : Play W G V E) (g : G) (evaluator : GoalEvaluator G E) : Prop :=
  ∃ n now reply, c.exchange? h n = some (.create g now reply) ∧ evaluator = .ofReply g reply

theorem opening_formed [EquivBEq G] (h : Host W G V E) (settings : Settings) (stackLimit : Int)
    (root : G) (w : W) (n : Nat) :
    let c := opening h settings stackLimit root w
    (c.after h n).session.Assigns (c.Assigned h) ∧
      (c.after h n).session.point.Formed (c.Assigned h) := by
  intro c
  refine along
    (I := fun d => d.session.Assigns (c.Assigned h) ∧ d.session.point.Formed (c.Assigned h))
    ⟨.start root _ _ _, ?_⟩ (fun n x s w before met taken => ?_) n
  · simp only [c, opening, Session.start]
    split
    · exact .opening
    · exact .bare rfl
  · have turn := Session.Turn.of_step (coherent_after (.start root _ _ _) n) taken
    refine ⟨before.1.step (fun g now reply same => ?_) taken, turn.formed before.1 before.2⟩
    exact ⟨n, now, reply, by rw [exchange?, met, same]; rfl, rfl⟩

end Play

end Pursuit

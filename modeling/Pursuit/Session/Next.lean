import Pursuit.Keyed
import Pursuit.Session.State

/-! # What a session does next

`Session.next` gives the next demand of a session on its host, with the session that follows for
every reply. Nothing else drives a session: all it learns of evaluators, pruner, listeners and clock
it learns from replies.
-/

namespace Pursuit

/-- How an evaluator answers when it is handed the answers to a batch. -/
inductive Outcome (G V : Type) where
  /-- It is finished. -/
  | done (result : Option V)
  /-- It needs more goals; going through them may fail. -/
  | more (goals : Except Failure (List G))
  /-- It answered with something else, here by its class and in its shown form. -/
  | stray (className shown : String)

/-- What a session in a state `σ` asks of its host. Each reply comes with the time at which it
came. -/
inductive Demand (G V E σ : Type) where
  /-- Nothing; the session goes on by itself. -/
  | proceed (next : σ)
  /-- Write a log record. -/
  | record (n : SessionRecord G E) (next : σ)
  /-- Ask the pruner whether to stop. -/
  | check (elapsed : Float) (next : Float → Except Failure Bool → σ)
  /-- Ask for the evaluator of a goal. -/
  | create (goal : G) (next : Float → Except Failure (Option E) → σ)
  /-- Ask an evaluator for its first subgoals. -/
  | init (evaluator : GoalEvaluator G E) (next : Float → Except Failure (List G) → σ)
  /-- Hand an evaluator the answers to its batch. -/
  | resume (evaluator : GoalEvaluator G E) (answers : Ledger G (Option V))
    (next : Float → Except Failure (Outcome G V) → σ)
  /-- Tell the listeners; only an interrupt comes back. -/
  | emit (event : Event G V E) (next : Float → Option Interrupt → σ)
  /-- Nothing more; this is the end. -/
  | halt (outcome : Except Failure (Option V))

namespace Frame

variable {G V E : Type}

def begin (goal : G) (evaluator : GoalEvaluator G E) (assignedAt : Float) (batch : List G) :
    Frame G V E :=
  { goal, evaluator, assignedAt, batch
    waiting := batch, answers := [], timings := [], requestedAt := assignedAt }

/-- Take in the answer to the subgoal in work. -/
def receive [BEq G] (f : Frame G V E) (value : Option V) (now : Float) : Frame G V E :=
  match f.waiting with
  | [] => f
  | g :: rest =>
    { f with
      waiting := rest
      answers := f.answers.put g value
      timings := f.timings ++ [now - f.requestedAt] }

/-- What listeners are told after the evaluator took in its batch: one event for each subgoal, the
last of them with the newly requested goals, and a single event without a subgoal when the batch
was empty. -/
def receivedEvents (f : Frame G V E) (requested : Option (List G)) : List (Event G V E) :=
  go (f.batch.zip f.timings)
where
  go : List (G × Float) → List (Event G V E)
    | [] => [.received f.evaluator none requested 0.0]
    | [(g, elapsed)] => [.received f.evaluator (some g) requested elapsed]
    | (g, elapsed) :: rest => .received f.evaluator (some g) none elapsed :: go rest

end Frame

namespace Session

variable {G V E : Type}

/-- A failure leaves the session: no goal is in progress any more. The session itself ends without
an answer when the stack ran out. -/
def escape (s : Session G V E) (failure : Failure) : Session G V E :=
  let point : Point G V E := match failure with
    | .fault f =>
      if f.isStackExhausted then .log (.exhausted s.root f) (.halt (.ok none))
      else .halt (.error failure)
    | .interrupt _ => .halt (.error failure)
  { s with callers := [], point }

/-- The session at a later time. -/
def after (s : Session G V E) (now : Float) : Session G V E :=
  { s with now }

/-- Go on after the listeners were told. -/
def told (s : Session G V E) (p : Point G V E) (now : Float) (reply : Option Interrupt) :
    Session G V E :=
  match reply with
  | none => (s.after now).goTo p
  | some i => (s.after now).escape (.interrupt i)

/-- The pruner stopped a goal. -/
def prune (s : Session G V E) (g : G) (held : Bool) : Point G V E :=
  .log (.pruned g s.elapsed) (.finish g none held)

/-- Go on after the pruner was asked. A pruner that fails stops the goal too. -/
def checked (s : Session G V E) (g : G) (held : Bool) (pass : Point G V E) (now : Float)
    (reply : Except Failure Bool) : Session G V E :=
  let s := s.after now
  match reply with
  | .ok false => s.goTo pass
  | .ok true => s.goTo (s.prune g held)
  | .error (.fault f) => s.goTo (.log (.prunerFailed f) (s.prune g held))
  | .error (.interrupt i) => s.escape (.interrupt i)

variable [Keyed G]

/-- Look a requested goal up. A goal that is answered gives its answer again, one that is in
progress closes a cycle and gets no answer, and any other is new. A goal that is no key cannot be
looked up, and that failure nobody catches. -/
def lookUp (s : Session G V E) (g : G) : Session G V E :=
  if Keyed.isKey g then
    match s.cache.find? g with
    | some ⟨.done, result⟩ => s.goTo (.answer result)
    | _ =>
      if s.path.any (· == g) then s.goTo (.log (.cycleClosed g) (.answer none))
      else (s.setState g .pending).goTo (.enter g)
  else s.escape (.fault .badType)

/-- Hand an answer to the innermost waiting goal, or end the session with it. -/
def deliver (s : Session G V E) (value : Option V) : Session G V E :=
  match s.callers with
  | [] => s.goTo (.log (.evaluated s.root s.elapsed s.cache.length) (.halt (.ok value)))
  | f :: rest => { s with callers := rest, point := .dispatch (f.receive value s.now) }

/-- Request the next subgoal of a batch, or go on when all are answered. -/
def dispatch (s : Session G V E) (f : Frame G V E) : Session G V E :=
  match f.waiting with
  | g :: _ =>
    { s with callers := { f with requestedAt := s.now } :: s.callers, point := .request g }
  | [] => s.goTo (if f.batch.isEmpty then .resume f else .recheck f)

/-- A goal for which there is no evaluator gets the null evaluator. -/
def withoutEvaluator (g : G) : Point G V E :=
  .log (.noEvaluator g) (.assign g (.nullEvaluator g))

/-- Go on after a factory was asked for an evaluator. -/
def created (s : Session G V E) (g : G) (now : Float) (reply : Except Failure (Option E)) :
    Session G V E :=
  let s := s.after now
  match reply with
  | .ok (some e) => s.goTo (.assign g (.evaluator e))
  | .ok none => s.goTo (withoutEvaluator g)
  | .error (.fault f) => s.goTo (.log (.factoryFailed g f) (withoutEvaluator g))
  | .error (.interrupt i) => s.escape (.interrupt i)

/-- Go on after an evaluator was asked for its first subgoals. -/
def begun (s : Session G V E) (g : G) (w : GoalEvaluator G E) (assignedAt now : Float)
    (reply : Except Failure (List G)) : Session G V E :=
  let s := s.after now
  match reply with
  | .ok subgoals => s.goTo (.initialized (.begin g w assignedAt subgoals) (now - assignedAt))
  | .error (.fault f) => s.goTo (.log (.initFailed w f) (.finish g none true))
  | .error (.interrupt i) => s.escape (.interrupt i)

/-- Go on after an evaluator was handed the answers to its batch. -/
def resumed (s : Session G V E) (f : Frame G V E) (now : Float)
    (reply : Except Failure (Outcome G V)) : Session G V E :=
  let s := s.after now
  match reply with
  | .ok (.done value) => s.goTo (.report (f.receivedEvents none) (.produce f value))
  | .ok (.more (.ok goals)) =>
    s.goTo (.report (f.receivedEvents (some goals))
      (.round (.begin f.goal f.evaluator f.assignedAt goals)))
  | .ok (.more (.error failure)) => s.escape failure
  | .ok (.stray _ shown) =>
      s.goTo (.log (.strayOutcome f.evaluator shown) (.finish f.goal none true))
  | .error (.fault e) => s.goTo (.log (.resumeFailed f.evaluator e) (.finish f.goal none true))
  | .error (.interrupt i) => s.escape (.interrupt i)

def next (s : Session G V E) : Demand G V E (Session G V E) :=
  match s.point with
  | .announce => .emit (.evaluationStarted s.root) (s.told (.request s.root))
  | .request g => .proceed (s.lookUp g)
  | .answer value => .proceed (s.deliver value)
  | .enter g => .emit (.stateChanged g .pending none) (s.told (.gate g))
  | .gate g =>
    let pass : Point G V E :=
      if s.bound ≤ s.path.length then .log (.tooDeep s.bound g) (.finish g none false)
      else .create g
    .check s.elapsed (s.checked g false pass)
  | .create g => .create g (s.created g)
  | .assign g w => .proceed ((s.setState g .assigned).goTo (.assigned g w))
  | .assigned g w => .emit (.stateChanged g .assigned (some .pending)) (s.told (.present g w))
  | .present g w => .emit (.evaluatorAssigned g w) fun now => s.told (.init g w now) now
  | .init g w assignedAt => .init w (s.begun g w assignedAt)
  | .initialized f elapsed => .emit (.initialized f.evaluator f.batch elapsed) (s.told (.round f))
  | .round f =>
    let pass : Point G V E :=
      if !f.batch.isEmpty && s.stateOf f.goal == .assigned then .await f else .dispatch f
    .check s.elapsed (s.checked f.goal true pass)
  | .await f => .proceed ((s.setState f.goal .awaiting).goTo (.awaiting f))
  | .awaiting f => .emit (.stateChanged f.goal .awaiting (some .assigned)) (s.told (.dispatch f))
  | .dispatch f => .proceed (s.dispatch f)
  | .recheck f => .check s.elapsed (s.checked f.goal true (.resume f))
  | .resume f => .resume f.evaluator f.answers (s.resumed f)
  | .report [] p => .proceed (s.goTo p)
  | .report (event :: rest) p => .emit event (s.told (.report rest p))
  | .produce f value =>
    .emit (.produced f.evaluator value (s.now - f.assignedAt)) (s.told (.finish f.goal value true))
  | .finish g value held =>
    .proceed { s with
      cache := s.cache.put g ⟨.done, value⟩
      point := .finished g value (s.stateOf g) held }
  | .finished g value old _ => .emit (.stateChanged g .done (some old)) (s.told (.answer value))
  | .log n p => .record n (s.goTo p)
  | .halt outcome => .halt outcome

end Session

end Pursuit

import Pursuit.Proofs.Session.EventTree
import Pursuit.Proofs.Session.Pruning

/-! # Two sessions side by side

When two hosts give the same replies at the same time, their sessions go the same way, exchange for
exchange. The sessions may have different bounds on the path, as long as neither of them is reached.
What hosts do is compared by a view, which shows that part of the world on which the replies depend.
-/

namespace Pursuit

variable {W W' G V E U : Type}

namespace Host

/-- In like worlds the other host has the same exchange, and the worlds stay alike. -/
def Follows (h' : Host W' G V E) (h : Host W G V E) (alike : W → W' → Prop) (x : Exchange G V E) :
    Prop :=
  ∀ w w', alike w w' → h.Gives w x → h'.Gives w' x ∧ alike (h.world w x) (h'.world w' x)

end Host

/-! ## Sessions that differ in their bound -/

namespace Session

/-- The same session under another bound. -/
def within (s : Session G V E) (bound : Nat) : Session G V E :=
  { s with bound }

/-- Under the other bound the session lets a new goal in, or keeps it out, as it does now. -/
def Roomy (bound : Nat) (s : Session G V E) : Prop :=
  s.bound = bound ∨
    ∀ g, s.point = .gate g → s.path.length < s.bound ∧ s.path.length < bound

variable (s : Session G V E) (bound : Nat)

theorem within_told (p : Point G V E) (now : Float) (reply : Option Interrupt) :
    (s.told p now reply).within bound = (s.within bound).told p now reply := by
  cases reply <;> rfl

theorem within_checked (g : G) (held : Bool) (pass : Point G V E) (now : Float)
    (reply : Except Failure Bool) :
    (s.checked g held pass now reply).within bound =
      (s.within bound).checked g held pass now reply := by
  match reply with
  | .ok false | .ok true | .error (.fault _) | .error (.interrupt _) => rfl

theorem within_created (g : G) (now : Float) (reply : Except Failure (Option E)) :
    (s.created g now reply).within bound = (s.within bound).created g now reply := by
  match reply with
  | .ok (some _) | .ok none | .error (.fault _) | .error (.interrupt _) => rfl

theorem within_begun (g : G) (evaluator : GoalEvaluator G E) (t now : Float)
    (reply : Except Failure (List G)) :
    (s.begun g evaluator t now reply).within bound =
    (s.within bound).begun g evaluator t now reply := by
  match reply with
  | .ok _ | .error (.fault _) | .error (.interrupt _) => rfl

theorem within_resumed (f : Frame G V E) (now : Float) (reply : Except Failure (Outcome G V)) :
    (s.resumed f now reply).within bound = (s.within bound).resumed f now reply := by
  match reply with
  | .ok (.done _) | .ok (.more (.ok _)) | .ok (.more (.error _)) | .ok (.stray ..) => rfl
  | .error (.fault _) | .error (.interrupt _) => rfl

theorem within_deliver [Keyed G] (v : Option V) :
    (s.deliver v).within bound = (s.within bound).deliver v := by
  obtain ⟨root, old, started, now, cache, callers, point⟩ := s
  cases callers <;> rfl

theorem within_dispatch (f : Frame G V E) :
    (s.dispatch f).within bound = (s.within bound).dispatch f := by
  unfold dispatch
  split <;> rfl

theorem within_lookUp [Keyed G] (g : G) :
    (s.lookUp g).within bound = (s.within bound).lookUp g := by
  have path : (s.within bound).path = s.path := rfl
  have cache : (s.within bound).cache = s.cache := rfl
  unfold lookUp
  rw [path, cache]
  split
  · split
    · rfl
    · split <;> rfl
  · rfl

variable {s bound} [Keyed G] {s' : Session G V E} {x : Exchange G V E}

/-- A session takes the same steps under another bound, as long as it has room. -/
theorem Step.within (taken : s.Step x s') (roomy : s.Roomy bound) :
    (s.within bound).Step x (s'.within bound) := by
  -- the bound is read where a new goal is let in, and nowhere else
  obtain ⟨root, old, started, now, cache, callers, point⟩ := s
  cases point with
  | gate g =>
      cases taken with
      | check now' reply =>
          rw [within_checked]
          have pass : (if old ≤ (callers.map (·.goal)).length then
              (.log (.tooDeep old g) (.finish g none false) : Point G V E) else .create g) =
              if bound ≤ (callers.map (·.goal)).length then
                .log (.tooDeep bound g) (.finish g none false) else .create g := by
            obtain rfl | room := roomy
            · rfl
            · obtain ⟨below, below'⟩ : (callers.map (·.goal)).length < old ∧
                  (callers.map (·.goal)).length < bound := room g rfl
              rw [if_neg (Nat.not_le.mpr below), if_neg (Nat.not_le.mpr below')]
          exact pass ▸ .check now' reply
  | request g => cases taken; rw [within_lookUp]; exact .proceed
  | answer v => cases taken; rw [within_deliver]; exact .proceed
  | dispatch f => cases taken; rw [within_dispatch]; exact .proceed
  | round f =>
      cases taken with | check now' reply => rw [within_checked]; exact .check now' reply
  | recheck f =>
      cases taken with | check now' reply => rw [within_checked]; exact .check now' reply
  | create g =>
      cases taken with | create now' reply => rw [within_created]; exact .create now' reply
  | init g evaluator t =>
      cases taken with | init now' reply => rw [within_begun]; exact .init now' reply
  | resume f =>
      cases taken with | resume now' reply => rw [within_resumed]; exact .resume now' reply
  | report events p =>
      cases events with
      | nil => cases taken; exact .proceed
      | cons event rest =>
          cases taken with | emit now' reply => rw [within_told]; exact .emit now' reply
  | assign | await | finish => cases taken; exact .proceed
  | log => cases taken; exact .record
  | halt => cases taken
  | announce | enter | assigned | present | initialized | awaiting | produce | finished =>
      cases taken with | emit now' reply => rw [within_told]; exact .emit now' reply

end Session

/-! ## Plays in step -/

namespace Play

def exchanges (c : Play W G V E) : List (Exchange G V E) :=
  c.past.map (·.exchange)

theorem events_eq_exchanges (c : Play W G V E) : c.events = c.exchanges.flatMap (·.told) := by
  rw [events, exchanges, List.flatMap_map]

/-- Both plays stand at the same session, but for the bound, in like worlds, and since two earlier
plays both had the same exchanges. -/
structure InStep (alike : W → W' → Prop) (bound : Nat) (c : Play W G V E) (c' : Play W' G V E)
    (d : Play W G V E) (d' : Play W' G V E) : Prop where
  session : d'.session = d.session.within bound
  world : alike d.world d'.world
  exchanges : ∃ later, d.exchanges = c.exchanges ++ later ∧ d'.exchanges = c'.exchanges ++ later

variable {alike : W → W' → Prop} {bound : Nat} {c d : Play W G V E} {c' d' : Play W' G V E}

theorem InStep.outcome? (inStep : InStep alike bound c c' d d') :
    d'.session.outcome? = d.session.outcome? := by
  rw [inStep.session]
  rfl

variable [Keyed G] {h : Host W G V E} {h' : Host W' G V E}

theorem InStep.advance (inStep : InStep alike bound c c' d d')
    (follows : ∀ x s w, h.meet d.world d.session.next = some (x, s, w) → h'.Follows h alike x)
    (roomy : d.session.Roomy bound) :
    InStep alike bound c c' (d.advance h) (d'.advance h') := by
  cases halted : d.session.outcome? with
  | some outcome =>
      rw [advance_of_over (by rw [halted]; rfl),
        advance_of_over (by rw [inStep.outcome?, halted]; rfl)]
      exact inStep
  | none =>
      obtain ⟨x, s, w, met, taken, next⟩ := exists_advance h halted
      obtain rfl := Host.world_of_meet met
      obtain ⟨gives, alike'⟩ :=
        follows x s _ met d.world d'.world inStep.world (Host.gives_of_meet met)
      have taken' : d'.session.next.Meets x (s.within bound) := by
        rw [inStep.session]
        exact taken.within roomy
      have met' := Host.meet_of_gives taken' gives
      obtain ⟨later, same, same'⟩ := inStep.exchanges
      rw [next, Play.advance, met']
      refine ⟨rfl, alike', later ++ [x], ?_, ?_⟩
      · rw [← List.append_assoc, ← same]
        exact List.map_append
      · rw [← List.append_assoc, ← same']
        exact List.map_append

theorem inStep_after (follows : c.Always h fun _ x => h'.Follows h alike x)
    (roomy : ∀ n, (c.after h n).session.Roomy bound)
    (session : c'.session = c.session.within bound) (world : alike c.world c'.world) (n : Nat) :
    InStep alike bound c c' (c.after h n) (c'.after h' n) := by
  induction n with
  | zero => exact ⟨session, world, [], (List.append_nil _).symm, (List.append_nil _).symm⟩
  | succ n ih => exact ih.advance (follows n) (roomy n)

end Play

/-! ## Views of the world -/

/-- The attempt depends on nothing but what the view shows, and so does what the view shows after
it. -/
def Attempt.Within {α : Type} (a : Attempt W α) (view : W → U) : Prop :=
  ∀ w w', view w = view w' →
    (a.perform w).1 = (a.perform w').1 ∧ view (a.perform w).2 = view (a.perform w').2

theorem Attempt.Within.gives {α : Type} {a : Attempt W α} {view : W → U} {clock : W → Float}
    (within : a.Within view) (timed : ∀ w w', view w = view w' → clock w = clock w') {w w' : W}
    (same : view w = view w') {now : Float} {reply : Except Failure α}
    (gives : a.Gives clock w now reply) :
    a.Gives clock w' now reply ∧ view (a.perform w).2 = view (a.perform w').2 := by
  obtain ⟨rfl, rfl⟩ := gives
  obtain ⟨replied, seen⟩ := within w w' same
  exact ⟨⟨replied, timed _ _ seen⟩, seen⟩

section Delivery

variable {L : Type} {hear : L → Attempt W Unit} {log : L → Fault → W → W} {view : W → U}
  (unnoted : ∀ l f w, view (log l f w) = view w)

include unnoted

theorem deliver_unseen (unseen : ∀ l w, view ((hear l).perform w).2 = view w) (targets : List L)
    (w : W) : view (deliver hear log targets w).2 = view w := by
  induction targets generalizing w with
  | nil => rfl
  | cons l rest ih =>
      have heard := unseen l w
      rw [deliver]
      split
      · rename_i w' told
        rw [ih, ← heard, told]
      · rename_i f w' told
        rw [ih, unnoted, ← heard, told]
      · rename_i i w' told
        rw [← heard, told]

theorem deliver_within (within : ∀ l, (hear l).Within view) (targets : List L) {w w' : W}
    (same : view w = view w') :
    (deliver hear log targets w).1 = (deliver hear log targets w').1 ∧
      view (deliver hear log targets w).2 = view (deliver hear log targets w').2 := by
  induction targets generalizing w w' with
  | nil => exact ⟨rfl, same⟩
  | cons l rest ih =>
      obtain ⟨replied, seen⟩ := within l w w' same
      rw [deliver, deliver]
      generalize (hear l).perform w = first at replied seen
      generalize (hear l).perform w' = second at replied seen
      obtain ⟨reply, w₁⟩ := first
      obtain ⟨reply', w₁'⟩ := second
      obtain rfl : reply = reply' := replied
      cases reply with
      | ok => exact ih seen
      | error failure =>
          cases failure with
          | fault f =>
              apply ih
              rw [unnoted, unnoted]
              exact seen
          | interrupt i => exact ⟨rfl, seen⟩

end Delivery

theorem Services.emit_within {F β K L : Type} [BEq L] {p : Services W F β K L} {view : W → U}
    (listeners : ∀ w w', view w = view w' → p.listeners w = p.listeners w')
    (hear : ∀ l event, (p.hear l event).Within view)
    (record : ∀ entry w, view (p.record entry w) = view w) (extras : List L)
    (event : Event Goal Value Product) {w w' : W} (same : view w = view w') :
    (p.emit extras event w).1 = (p.emit extras event w').1 ∧
      view (p.emit extras event w).2 = view (p.emit extras event w').2 := by
  rw [Services.emit, Services.emit, listeners w w' same]
  exact deliver_within (fun _ _ => record _) (fun l => hear l event) _ same

/-- An evaluator depends on nothing but what the view shows, whatever it is handed. -/
def Host.WithinEvaluator (h : Host W G V E) (view : W → U) (evaluator : GoalEvaluator G E) : Prop :=
  (h.initEvaluator evaluator).Within view ∧
    ∀ answers, (h.resumeEvaluator evaluator answers).Within view

namespace Services

variable {F β K L : Type}

/-- The clock, the factory and its evaluators depend on what the view shows of the world, and on
nothing else. -/
structure Confined (p : Services W F β K L) (create : Goal → Attempt W (Option Product))
    (view : W → U) : Prop where
  clock : ∀ w w', view w = view w' → p.clock w = p.clock w'
  factory : ∀ g, (create g).Within view
  init : ∀ g w e, ((create g).perform w).1 = .ok (some e) → (p.initProduct e).Within view
  resume : ∀ g w e, ((create g).perform w).1 = .ok (some e) →
    ∀ answers, (p.resumeProduct e answers).Within view

namespace Confined

variable [BEq L] {p : Services W F β K L} {create : Goal → Attempt W (Option Product)}
  {view : W → U} (confined : p.Confined create view) {pruner pruner' : Pruner K}
  {extras extras' : List L}

include confined

theorem ofReply (g : Goal) (w : W) :
    (p.host create pruner extras).WithinEvaluator view (.ofReply g ((create g).perform w).1) := by
  apply GoalEvaluator.ofReply_cases
  · exact ⟨fun w w' same => ⟨rfl, same⟩, fun _ w w' same => ⟨rfl, same⟩⟩
  · intro e created
    exact ⟨confined.init g w e created, confined.resume g w e created⟩

/-- At two hosts of the services all work goes the same way, and only log records, checks and
events are left to be compared. -/
theorem follows (settings : Settings) (stackLimit : Int) (root : Goal) (w : W)
    {P : Exchange Goal Value Product → Prop}
    (always : (Play.opening (p.host create pruner extras) settings stackLimit root w).Always
      (p.host create pruner extras) fun _ x => P x)
    (log : ∀ n, (p.host create pruner' extras').Follows (p.host create pruner extras)
      (fun w w' => view w = view w') (.record n))
    (check : ∀ elapsed now reply, P (.check elapsed now reply) →
      (p.host create pruner' extras').Follows (p.host create pruner extras)
        (fun w w' => view w = view w') (.check elapsed now reply))
    (emit : ∀ event now reply, (p.host create pruner' extras').Follows
      (p.host create pruner extras) (fun w w' => view w = view w') (.emit event now reply)) :
    (Play.opening (p.host create pruner extras) settings stackLimit root w).Always
      (p.host create pruner extras) fun _ x =>
        (p.host create pruner' extras').Follows (p.host create pruner extras)
          (fun w w' => view w = view w') x := by
  intro n x s w' met
  have assigns : ((Play.opening (p.host create pruner extras) settings stackLimit root w).after
      (p.host create pruner extras) n).session.Assigns fun _ evaluator =>
        (p.host create pruner extras).WithinEvaluator view evaluator :=
    Play.assigns_after confined.ofReply n
  cases x with
  | proceed => exact fun w w' same _ => ⟨trivial, same⟩
  | record n => exact log n
  | check elapsed now reply => exact check elapsed now reply (always n _ s w' met)
  | create g now reply =>
      intro w w' same gives
      exact (confined.factory g).gives confined.clock same gives
  | init evaluator now reply =>
      obtain ⟨-, within, -⟩ := Play.suits_of_init assigns met
      intro w w' same gives
      cases evaluator <;> exact within.gives confined.clock same gives
  | resume evaluator answers now reply =>
      obtain ⟨-, -, within⟩ := Play.suits_of_resume assigns met
      intro w w' same gives
      cases evaluator <;> exact (within answers).gives confined.clock same gives
  | emit event now reply => exact emit event now reply

end Confined

end Services

end Pursuit

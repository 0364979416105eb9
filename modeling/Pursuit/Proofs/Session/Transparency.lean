import Pursuit.Proofs.Behaviour
import Pursuit.Proofs.Session.Hosting
import Pursuit.Proofs.Session.Progress

/-! # The cache is not to be seen

When evaluators are pure and request only goals of a lower rank than their own, a session answers
each goal with its plain meaning. What is on record as answered was answered with the meaning of the
goal, and what a goal received so far is on record for goals in progress and answered goals only.
The rank keeps the path free of cycles and within the bound.
-/

namespace Pursuit

variable {W G V E : Type}

namespace Behaviour

section Records

variable [BEq G] (B : Behaviour G V) (rank : G → Nat)

/-- What is on record while the goals of `path` are in progress. -/
structure Faithful (k : Ledger G (Entry V)) (path : List G)
    (log : List (G × Ledger G (Option V))) : Prop where
  sound : ∀ a v, Answered k a v → B.Plain a v
  /-- A goal that was handed anything is answered or in progress. -/
  known : ∀ a, handed log a ≠ [] → (∃ v, Answered k a v) ∨ path.any (· == a) = true

/-- A request of a goal changed nothing about goals of a higher rank. -/
structure Apart (g : G) (k : Ledger G (Entry V)) (log : List (G × Ledger G (Option V)))
    (k' : Ledger G (Entry V)) (log' : List (G × Ledger G (Option V))) : Prop where
  found : ∀ a, rank g < rank a → k'.find? a = k.find? a
  handed : ∀ a, rank g < rank a → handed log' a = handed log a

/-- How a request leaves the session, and with which answer. -/
structure Replied (path : List G) (k : Ledger G (Entry V)) (log : List (G × Ledger G (Option V)))
    (g : G) (value : Option V) (k' : Ledger G (Entry V))
    (log' : List (G × Ledger G (Option V))) : Prop where
  faithful : B.Faithful k' path log'
  plain : B.Plain g value
  apart : Apart rank g k log k' log'

/-- What holds while a goal `g` waits for a batch, of which `rest` is not yet requested. -/
structure Round (path : List G) (k : Ledger G (Entry V)) (log : List (G × Ledger G (Option V)))
    (g : G) (received : List (Ledger G (Option V))) (batch rest : List G)
    (answers : Ledger G (Option V)) (k' : Ledger G (Entry V))
    (log' : List (G × Ledger G (Option V))) : Prop where
  faithful : B.Faithful k' (g :: path) log'
  apart : Apart rank g k log k' log'
  unanswered : ∃ e, k'.find? g = some e ∧ e.state ≠ .done
  history : handed log' g = received
  asked : B.Asks g received batch
  remaining : ∀ s ∈ rest, s ∈ batch
  /-- The rest of the batch completes the answers. -/
  served : ∀ a, B.Serves rest answers a → B.Serves batch [] a
  /-- What the evaluator comes to from here is the meaning of its goal. -/
  meaning : ∀ v, B.Runs g received batch v → B.Plain g v

end Records

section Steps

variable [Keyed G] [EquivBEq G] {B : Behaviour G V} {rank : G → Nat} {path : List G} {g : G}
  {k k' k'' : Ledger G (Entry V)} {log log' log'' : List (G × Ledger G (Option V))}

omit [EquivBEq G] in
theorem Descends.ne_of_lt (descends : B.Descends rank) {a b : G} (lower : rank a < rank b) :
    (a == b) = false := by
  rw [Bool.eq_false_iff]
  intro same
  have equal := descends.rank_congr a b same
  omega

omit [EquivBEq G] in
theorem Apart.undertaken (descends : B.Descends rank) (undertaken : Undertaken g k k') :
    Apart rank g k log k' log := by
  refine ⟨fun a lower => ?_, fun _ _ => rfl⟩
  have entry := undertaken a
  rwa [descends.ne_of_lt lower, if_neg Bool.false_ne_true] at entry

omit [EquivBEq G] in
theorem Faithful.undertaken (faithful : B.Faithful k path log) (undertaken : Undertaken g k k') :
    B.Faithful k' (g :: path) log := by
  refine ⟨fun a v answered => ?_, fun a some => ?_⟩
  · exact faithful.sound a v ((undertaken.answered_iff a v).mp answered).2
  · by_cases same : (g == a) = true
    · exact .inr ((any_cons_iff g a path).mpr (.inl same))
    rcases faithful.known a some with ⟨v, answered⟩ | active
    · have apart := Bool.eq_false_iff.mpr same
      exact .inl ⟨v, (undertaken.answered_iff a v).mpr ⟨apart, answered⟩⟩
    · exact .inr ((any_cons_iff g a path).mpr (.inr active))

theorem Round.start (descends : B.Descends rank) (faithful : B.Faithful k path log)
    (fresh : ∀ v, ¬ Answered k g v) (absent : path.any (· == g) = false)
    (undertaken : Undertaken g k k') :
    B.Round rank path k log g [] (B.initial g) (B.initial g) [] k' log := by
  refine
    { faithful := faithful.undertaken undertaken
      apart := .undertaken descends undertaken
      unanswered := undertaken.found
      history := ?_
      asked := .first
      remaining := fun _ member => member
      served := fun _ served => served
      meaning := fun _ runs => .run runs }
  by_contra some
  rcases faithful.known g some with ⟨v, answered⟩ | active
  · exact fresh v answered
  · rw [absent] at active
    cases active

omit [EquivBEq G] in
theorem Round.next {received : List (Ledger G (Option V))} {batch rest : List G} {s : G}
    {answers : Ledger G (Option V)} {value : Option V}
    (round : B.Round rank path k log g received batch (s :: rest) answers k' log')
    (replied : B.Replied rank (g :: path) k' log' s value k'' log'') (lower : rank s < rank g) :
    B.Round rank path k log g received batch rest (answers.put s value) k'' log'' := by
  refine
    { faithful := replied.faithful
      apart := ⟨fun a higher => ?_, fun a higher => ?_⟩
      unanswered := ?_
      history := (replied.apart.handed g lower).trans round.history
      asked := round.asked
      remaining := fun t member => round.remaining t (.tail s member)
      served := fun a served => round.served a (.cons replied.plain served)
      meaning := round.meaning }
  · exact (replied.apart.found a (Nat.lt_trans lower higher)).trans (round.apart.found a higher)
  · exact (replied.apart.handed a (Nat.lt_trans lower higher)).trans (round.apart.handed a higher)
  · rw [replied.apart.found g lower]
    exact round.unanswered

theorem Round.again (descends : B.Descends rank) {received : List (Ledger G (Option V))}
    {batch goals : List G} {answers : Ledger G (Option V)}
    (round : B.Round rank path k log g received batch [] answers k' log')
    (moved : B.move g (received ++ [answers]) = .ask goals) (undertaken : Undertaken g k' k'') :
    B.Round rank path k log g (received ++ [answers]) goals goals [] k''
      (log' ++ [(g, answers)]) := by
  have served : B.Serves batch [] answers := round.served answers .nil
  have further : Apart rank g k' log' k'' (log' ++ [(g, answers)]) := by
    have untouched : Apart rank g k' log' k'' log' := .undertaken descends undertaken
    refine ⟨untouched.found, fun a higher => ?_⟩
    rw [handed_append, descends.ne_of_lt higher, if_neg Bool.false_ne_true]
  have faithful := round.faithful.undertaken undertaken
  refine
    { faithful := ⟨fun a v answered => faithful.sound a v answered, fun a some => ?_⟩
      apart := ⟨fun a higher => ?_, fun a higher => ?_⟩
      unanswered := undertaken.found
      history := ?_
      asked := .next round.asked served.fills moved
      remaining := fun _ member => member
      served := fun _ served => served
      meaning := fun v runs => round.meaning v (.ask served moved runs) }
  · rw [handed_append] at some
    split at some
    · rename_i same
      exact .inr ((any_cons_iff g a path).mpr (.inl same))
    · rcases faithful.known a some with answered | active
      · exact .inl answered
      · rcases (any_cons_iff g a (g :: path)).mp active with same | active
        · exact .inr ((any_cons_iff g a path).mpr (.inl same))
        · exact .inr active
  · exact (further.found a higher).trans (round.apart.found a higher)
  · exact (further.handed a higher).trans (round.apart.handed a higher)
  · rw [handed_append, if_pos BEq.rfl, round.history]

theorem Round.concluded (descends : B.Descends rank) {received : List (Ledger G (Option V))}
    {batch : List G} {answers : Ledger G (Option V)} {value : Option V}
    (round : B.Round rank path k log g received batch [] answers k' log')
    (moved : B.move g (received ++ [answers]) = .finish value)
    (concluded : Concluded g value k' k'') :
    B.Replied rank path k log g value k'' (log' ++ [(g, answers)]) := by
  have plain : B.Plain g value :=
    round.meaning value (.finish (round.served answers .nil) moved)
  refine ⟨⟨fun a v answered => ?_, fun a some => ?_⟩, plain, fun a higher => ?_, fun a higher => ?_⟩
  · rw [concluded.answered_iff] at answered
    split at answered
    · rename_i same
      exact answered ▸ plain.congr same
    · exact round.faithful.sound a v answered
  · rw [handed_append] at some
    split at some
    · rename_i same
      exact .inl ⟨value, (concluded.answered_iff a value).mpr (by rw [if_pos same])⟩
    · rename_i apart
      rcases round.faithful.known a some with ⟨v, answered⟩ | active
      · exact .inl ⟨v, (concluded.answered_iff a v).mpr (by rwa [if_neg apart])⟩
      · exact .inr (((any_cons_iff g a path).mp active).resolve_left apart)
  · rw [concluded a, descends.ne_of_lt higher, if_neg Bool.false_ne_true]
    exact round.apart.found a higher
  · rw [handed_append, descends.ne_of_lt higher, if_neg Bool.false_ne_true]
    exact round.apart.handed a higher

omit [EquivBEq G] in
theorem Replied.recalled {value : Option V} (faithful : B.Faithful k path log)
    (answered : Answered k g value) : B.Replied rank path k log g value k log :=
  ⟨faithful, faithful.sound g value answered, fun _ _ => rfl, fun _ _ => rfl⟩

end Steps

/-- Evaluators do what the behaviour says of their goal and of what it was handed so far. The pruner
never stops, and nobody interrupts. -/
def Governs [BEq G] (B : Behaviour G V) (c : Play W G V E) : Exchange G V E → Prop
  | .check _ _ reply => reply = .ok false
  | .create _ _ reply => ∀ i, reply ≠ .error (.interrupt i)
  | .init _ _ reply => ∀ g evaluator t, c.session.point = .init g evaluator t →
      reply = .ok (B.initial g)
  | .resume _ answers _ reply => ∀ f, c.session.point = .resume f →
      reply = .ok (B.move f.goal (handed c.resumptions f.goal ++ [answers])).toOutcome
  | .emit _ _ reply => reply = none
  | _ => True

theorem Governs.smooth [BEq G] (B : Behaviour G V) (c : Play W G V E) (x : Exchange G V E)
    (governs : B.Governs c x) : x.Smooth := by
  cases x with
  | check | create | emit => exact governs
  | proceed | record | init | resume => trivial

section Course

variable [Keyed G] {B : Behaviour G V} {rank : G → Nat} {h : Host W G V E} {b n : Nat}
  {c : Play W G V E} {k k' : Ledger G (Entry V)} {C : List (Frame G V E)} {g : G}
  {L L' : List (G × Ledger G (Option V))}

/-- What holds when a goal is requested. -/
structure Requested (B : Behaviour G V) (rank : G → Nat) (b : Nat) (k : Ledger G (Entry V))
    (C : List (Frame G V E)) (L : List (G × Ledger G (Option V))) (g : G) : Prop where
  faithful : B.Faithful k (C.map (·.goal)) L
  key : Keyed.isKey g = true
  lower : ∀ f ∈ C, rank g < rank f.goal
  room : C.length + rank g < b

/-- Every request of a goal of a rank below `n` is answered with the goal's meaning. -/
def Replies (B : Behaviour G V) (rank : G → Nat) (h : Host W G V E) (b n : Nat) : Prop :=
  ∀ c k C L g, Play.Always h B.Governs c → c.Stands b k C (.request g) L →
    B.Requested rank b k C L g → rank g < n →
    c.Arrives h fun d => ∃ value k' L', B.Replied rank (C.map (·.goal)) k L g value k' L' ∧
      d.Stands b k' C (.answer value) L'

theorem Requested.absent (requested : B.Requested rank b k C L g) (descends : B.Descends rank) :
    C.any (·.goal == g) = false := by
  rw [List.any_eq_false]
  intro f member same
  have equal := descends.rank_congr f.goal g same
  have lower := requested.lower f member
  omega

theorem Round.requested {f : Frame G V E} {s : G} {received : List (Ledger G (Option V))}
    {batch rest : List G} {answers : Ledger G (Option V)} (descends : B.Descends rank)
    (requested : B.Requested rank b k C L g)
    (round : B.Round rank (C.map (·.goal)) k L g received batch (s :: rest) answers k' L')
    (same : f.goal = g) : B.Requested rank b k' (f :: C) L' s ∧ rank s < rank g := by
  have asked : B.CanRequest g s := ⟨received, batch, round.asked, round.remaining s (.head rest)⟩
  have lower := descends.lower g s asked
  have room := requested.room
  refine ⟨⟨?_, descends.isKey g s asked, fun f' member => ?_, ?_⟩, lower⟩
  · rw [List.map_cons, same]
    exact round.faithful
  · cases member with
    | head => rwa [same]
    | tail _ below => exact Nat.lt_trans lower (requested.lower f' below)
  · rw [List.length_cons]
    omega

theorem Round.moves {f : Frame G V E} {received : List (Ledger G (Option V))} {batch : List G}
    (round : B.Round rank (C.map (·.goal)) k L g received batch [] f.answers k' L')
    (same : f.goal = g) (stands : c.Stands b k' C (.resume f) L') (now : Float)
    (reply : Except Failure (Outcome G V))
    (governs : B.Governs c (.resume f.evaluator f.answers now reply)) :
    reply = .ok (B.move g (received ++ [f.answers])).toOutcome := by
  obtain ⟨⟨_, _, _, session⟩, log⟩ := stands
  have replied := governs f (congrArg Session.point session)
  rwa [log, same, round.history] at replied

variable [EquivBEq G]

/-- A goal whose evaluator asks for a batch is answered in the end. -/
theorem Replies.round (descends : B.Descends rank) (below : B.Replies rank h b (rank g))
    (requested : B.Requested rank b k C L g) {received : List (Ledger G (Option V))}
    {batch : List G} (finishes : B.Finishes g received batch) (always : c.Always h B.Governs)
    {f : Frame G V E} (same : f.goal = g) (waiting : f.waiting = batch) (empty : f.answers = [])
    (stands : c.Stands b k' C (.dispatch f) L')
    (round : B.Round rank (C.map (·.goal)) k L g received batch batch [] k' L') :
    c.Arrives h fun d => ∃ value k'' L'', B.Replied rank (C.map (·.goal)) k L g value k'' L'' ∧
      d.Stands b k'' C (.answer value) L'' := by
  -- The induction is on the rounds that the evaluator may take; `Round` carries over from one to
  -- the next.
  induction finishes generalizing c f k' L' with
  | @step received batch _ ih =>
      have smooth := Governs.smooth (W := W) (E := E) B
      have served := stands.serves (I := fun rest answers k' L' =>
        B.Round rank (C.map (·.goal)) k L g received batch rest answers k' L') always
          (by rwa [waiting, empty]) fun c' f' s rest k₁ L₁ same' round onwards requesting => by
        obtain ⟨asked, lower⟩ := round.requested descends requested (same'.trans same)
        refine (below c' k₁ (f' :: C) L₁ s onwards requesting asked lower).trans fun _ replied => ?_
        obtain ⟨value, k₂, L₂, replied, answering⟩ := replied
        rw [List.map_cons, same', same] at replied
        exact .here ⟨value, k₂, L₂, round.next replied lower, answering⟩
      refine served.trans fun i served => ?_
      obtain ⟨f', k₁, L₁, same', -, -, -, waiting', round, dispatching⟩ := served
      have onwards := always.after i
      refine (dispatching.resumes smooth onwards waiting').trans fun j resuming => ?_
      have same := same'.trans same
      have moves := round.moves same resuming
      cases moved : B.move g (received ++ [f'.answers]) with
      | finish value =>
          rw [moved] at moves
          refine (resuming.concludes (Play.quiet_of_smooth smooth) (onwards.after j) moves).trans
            fun _ concluded => ?_
          obtain ⟨k₂, concluded, answering⟩ := concluded
          rw [same] at concluded answering
          exact .here ⟨value, k₂, _, round.concluded descends moved concluded, answering⟩
      | ask goals =>
          rw [moved] at moves
          obtain ⟨e, found, unanswered⟩ := round.unanswered
          refine (resuming.continues smooth (onwards.after j) (same ▸ found) unanswered
            moves).trans fun l continued => ?_
          obtain ⟨k₂, undertaken, dispatching⟩ := continued
          rw [same] at undertaken dispatching
          have fills := (round.served f'.answers .nil).fills
          exact ih f'.answers goals fills moved ((onwards.after j).after l) rfl rfl rfl dispatching
            (round.again descends moved undertaken)

/-- A request is answered, when requests of goals of a lower rank are. -/
theorem Replies.request (descends : B.Descends rank) (below : B.Replies rank h b (rank g))
    (always : c.Always h B.Governs) (stands : c.Stands b k C (.request g) L)
    (requested : B.Requested rank b k C L g) :
    c.Arrives h fun d => ∃ value k' L', B.Replied rank (C.map (·.goal)) k L g value k' L' ∧
      d.Stands b k' C (.answer value) L' := by
  by_cases answered : ∃ v, Answered k g v
  · obtain ⟨v, answered⟩ := answered
    exact (stands.recalls requested.key answered).trans fun _ there =>
      .here ⟨v, k, L, .recalled requested.faithful answered, there⟩
  have fresh : ∀ v, ¬ Answered k g v := fun v already => answered ⟨v, already⟩
  have absent := requested.absent descends
  have onPath : (C.map (·.goal)).any (· == g) = false := by
    rw [List.any_map]
    exact absent
  have room := requested.room
  have names : ∀ (c' : Play W G V E) evaluator t k' now reply,
      c'.Stands b k' C (.init g evaluator t) L → B.Governs c' (.init evaluator now reply) →
      ∃ batch, reply = .ok batch ∧ batch = B.initial g := by
    rintro c' evaluator t k' now reply ⟨⟨_, _, _, session⟩, -⟩ governs
    exact ⟨_, governs g evaluator t (congrArg Session.point session), rfl⟩
  have undertakes := stands.undertakes (Governs.smooth B) always requested.key fresh absent
    (by omega) names
  refine undertakes.trans fun i undertaken => ?_
  obtain ⟨evaluator, t, _, k₁, rfl, undertaken, dispatching⟩ := undertaken
  exact below.round descends requested (descends.finishes g) (always.after i) rfl rfl rfl
    dispatching (.start descends requested.faithful fresh onPath undertaken)

theorem replies (descends : B.Descends rank) (h : Host W G V E) (b n : Nat) :
    B.Replies rank h b n := by
  induction n with
  | zero =>
      intro c k C L g _ _ _ impossible
      cases impossible
  | succ n ih =>
      intro c k C L g always stands requested lower
      refine Replies.request descends (fun c' k' C' L' g' always stands requested lower' => ?_)
        always stands requested
      exact ih c' k' C' L' g' always stands requested (by omega)

omit [EquivBEq G] in
theorem Requested.start (key : Keyed.isKey g = true) (room : rank g < b) :
    B.Requested rank b [] ([] : List (Frame G V E)) [] g := by
  refine ⟨⟨fun a v answered => ?_, fun a some => ?_⟩, key, by simp, by simpa using room⟩
  · cases answered
  · exact absurd rfl some

end Course

/-- Services that work as a behaviour says, and keep in their world who was handed what. -/
def services (B : Behaviour Goal Value) :
    Services (List (Goal × Ledger Goal (Option Value))) Empty Empty Empty Empty :=
  .hosting (fun g => pure (B.initial g)) fun g answers => .ofFunction fun log =>
    (.ok (B.move g (handed log g ++ [answers])).toOutcome, log ++ [(g, answers)])

section Services

variable {B : Behaviour Goal Value}
  {c : Play (List (Goal × Ledger Goal (Option Value))) Goal Value Product}
  {x : Exchange Goal Value Product} {s : Session Goal Value Product}
  {w : List (Goal × Ledger Goal (Option Value))}

theorem services_meet
    (assigns : c.session.Assigns fun g evaluator => evaluator = .evaluator (hostedEvaluator g))
    (met : (B.services.host hostedFactory .never []).meet c.world c.session.next =
      some (x, s, w)) :
    w = c.world ++ (Moment.resumption? ⟨c.session, x⟩).toList := by
  cases demand : c.session.next with
  | resume evaluator answers next =>
      obtain ⟨f, standing, rfl, rfl⟩ := Session.next_eq_resume demand
      have evaluator := assigns.stands f.goal f.evaluator (standing ▸ rfl)
      rw [demand, evaluator] at met
      cases met
      simp only [Moment.resumption?, standing]
      rfl
  | init evaluator next =>
      obtain ⟨g, t, standing⟩ := Session.next_eq_init demand
      rw [demand, assigns.stands g evaluator (standing ▸ rfl)] at met
      cases met
      exact (List.append_nil _).symm
  | halt outcome =>
      rw [demand] at met
      cases met
  | _ =>
      rw [demand] at met
      cases met
      exact (List.append_nil _).symm

theorem services_world (settings : Settings) (stackLimit : Int) (root : Goal) (n : Nat) :
    ((Play.opening (B.services.host hostedFactory .never []) settings stackLimit root []).after
        (B.services.host hostedFactory .never []) n).world =
      ((Play.opening (B.services.host hostedFactory .never []) settings stackLimit root []).after
        (B.services.host hostedFactory .never []) n).resumptions := by
  induction n with
  | zero => rfl
  | succ n ih =>
      have assigns : (Play.after (B.services.host hostedFactory .never [])
          (Play.opening (B.services.host hostedFactory .never []) settings stackLimit root [])
          n).session.Assigns fun g evaluator => evaluator = .evaluator (hostedEvaluator g) :=
        hosted_after settings stackLimit root [] n
      rw [Play.after]
      generalize (Play.opening (B.services.host hostedFactory .never []) settings stackLimit root
        []).after (B.services.host hostedFactory .never []) n = c at ih assigns
      cases halted : c.session.outcome? with
      | some outcome => rwa [Play.advance_of_over (by rw [halted]; rfl)]
      | none =>
          obtain ⟨x, s, w, met, -, next⟩ :=
            Play.exists_advance (B.services.host hostedFactory .never []) halted
          rw [next]
          simp only [Play.resumptions, List.filterMap_append, List.filterMap_cons,
            List.filterMap_nil]
          rw [services_meet assigns met, ih, Play.resumptions]
          cases Moment.resumption? ⟨c.session, x⟩ <;> rfl

theorem services_governs (B : Behaviour Goal Value) (settings : Settings) (stackLimit : Int)
    (root : Goal) :
    (Play.opening (B.services.host hostedFactory .never []) settings stackLimit root []).Always
      (B.services.host hostedFactory .never []) B.Governs := by
  intro n x s w met
  have world := services_world (B := B) settings stackLimit root n
  have assigns : (Play.after (B.services.host hostedFactory .never [])
      (Play.opening (B.services.host hostedFactory .never []) settings stackLimit root [])
      n).session.Assigns fun g evaluator => evaluator = .evaluator (hostedEvaluator g) :=
    hosted_after settings stackLimit root [] n
  generalize (Play.opening (B.services.host hostedFactory .never []) settings stackLimit root
    []).after (B.services.host hostedFactory .never []) n = c at met world assigns
  cases x with
  | check elapsed now reply => exact Play.reply_of_check met
  | create g now reply =>
      rw [Play.reply_of_create met]
      exact fun _ impossible => by cases impossible
  | init evaluator now reply =>
      intro g evaluator' t standing
      rw [Play.reply_of_init met standing, assigns.stands g evaluator' (standing ▸ rfl)]
      rfl
  | resume evaluator answers now reply =>
      intro f standing
      obtain ⟨rfl, replied⟩ := Play.reply_of_resume met standing
      rw [replied, assigns.stands f.goal f.evaluator (standing ▸ rfl), ← world]
      rfl
  | emit event now reply => exact Play.reply_of_emit met
  | proceed | record => trivial

end Services

/-- Evaluators that ask for fixed batches, one after the other, and then hand back all that they
received. -/
def staged (stages : Goal → List (List Goal))
    (congr : ∀ a b, (a == b) = true → stages a = stages b) : Behaviour Goal Value where
  initial g := (stages g).headD []
  move g received :=
    match (stages g)[received.length]? with
    | some goals => .ask goals
    | none => .finish (some (.tuple (received.flatMap fun answers => answers.map (·.2))))
  initial_congr := by
    intro a b same
    rw [congr a b same]
    exact List.forall₂_same.mpr fun _ _ => BEq.rfl
  move_congr := by
    intro a b received received' same alike
    have values : (received.flatMap fun answers => answers.map (·.2)) =
        received'.flatMap fun answers => answers.map (·.2) := by
      induction alike with
      | nil => rfl
      | cons first _ ih =>
          rw [List.flatMap_cons, List.flatMap_cons, ih]
          congr 1
          induction first with
          | nil => rfl
          | cons entry _ ih => rw [List.map_cons, List.map_cons, entry.2, ih]
    rw [congr a b same, alike.length_eq, values]
    split
    · exact .ask (List.forall₂_same.mpr fun _ _ => BEq.rfl)
    · exact .finish _

section Staged

variable {stages : Goal → List (List Goal)}
  {congr : ∀ a b, (a == b) = true → stages a = stages b} {rank : Goal → Nat} {g : Goal}
  {received : List (Ledger Goal (Option Value))}

theorem staged_ask {goals : List Goal}
    (moved : (staged stages congr).move g received = .ask goals) :
    (stages g)[received.length]? = some goals := by
  simp only [staged] at moved
  split at moved
  · rename_i found
    cases moved
    exact found
  · cases moved

theorem staged_asks {batch : List Goal} (asks : (staged stages congr).Asks g received batch) :
    ∀ s ∈ batch, ∃ goals ∈ stages g, s ∈ goals := by
  intro s member
  cases asks with
  | first =>
      cases first : stages g with
      | nil => simp [staged, first] at member
      | cons goals rest =>
          refine ⟨goals, .head rest, ?_⟩
          simpa [staged, first] using member
  | next _ _ moved => exact ⟨batch, List.mem_of_getElem? (staged_ask moved), member⟩

theorem staged_finishes (batch : List Goal) :
    (staged stages congr).Finishes g received batch := by
  induction left : (stages g).length - received.length generalizing received batch with
  | zero =>
      refine .step fun answers goals _ moved => ?_
      have bound := (List.getElem?_eq_some_iff.mp (staged_ask moved)).1
      simp only [List.length_append, List.length_singleton] at bound
      omega
  | succ n ih =>
      refine .step fun answers goals _ _ => ih goals ?_
      simp only [List.length_append, List.length_singleton]
      omega

theorem staged_descends (rank_congr : ∀ a b, (a == b) = true → rank a = rank b)
    (lower : ∀ g, ∀ goals ∈ stages g, ∀ s ∈ goals, rank s < rank g ∧ Keyed.isKey s = true) :
    (staged stages congr).Descends rank where
  rank_congr := rank_congr
  lower := by
    rintro g s ⟨received, batch, asks, member⟩
    obtain ⟨goals, among, member⟩ := staged_asks asks s member
    exact (lower g goals among s member).1
  isKey := by
    rintro g s ⟨received, batch, asks, member⟩
    obtain ⟨goals, among, member⟩ := staged_asks asks s member
    exact (lower g goals among s member).2
  finishes := fun _ => staged_finishes _

end Staged

end Behaviour

section Transparent

variable {W F β K L : Type} [BEq L]

/-- A session on pure evaluators that request goals of lower and lower rank gives the root its plain
meaning, which there is and which is the only one. -/
theorem resolve_eq_plain_meaning (p : Services W F β K L)
    (create : Goal → Attempt W (Option Product)) (settings : Settings) (stackLimit : Int)
    (pruner : Option (Pruner K)) (extras : List L) (root : Goal) (w : W)
    (B : Behaviour Goal Value) (rank : Goal → Nat) (descends : B.Descends rank)
    (key : Keyed.isKey root = true) (room : rank root < settings.depthBound stackLimit)
    (governs : (Play.opening (p.host create (pruner.getD .never) extras) settings stackLimit root
      w).Always (p.host create (pruner.getD .never) extras) B.Governs) :
    ∃ v enough, (∀ u, B.Plain root u ↔ u = v) ∧ ∀ n, enough ≤ n →
      (p.resolve create settings stackLimit n pruner extras root w).1 = some (.ok v) := by
  have arrives : (Play.opening (p.host create (pruner.getD .never) extras) settings stackLimit root
      w).Arrives (p.host create (pruner.getD .never) extras) fun d =>
        ∃ v, B.Plain root v ∧ d.session.outcome? = some (.ok v) := by
    refine (Play.opening_requests (Play.quiet_of_smooth (Behaviour.Governs.smooth B))
      governs).trans fun i requesting => ?_
    refine (Behaviour.replies descends _ _ (rank root + 1) _ _ [] _ root (governs.after i)
      requesting (.start key room) (Nat.lt_succ_self _)).trans fun j replied => ?_
    obtain ⟨v, k, log, replied, answering⟩ := replied
    exact answering.ends.trans fun _ halted => .here ⟨v, replied.plain, halted⟩
  obtain ⟨n, v, plain, halted⟩ := arrives
  obtain ⟨enough, ends⟩ := (exists_evaluate_iff _ settings stackLimit root w _).mpr ⟨n, halted⟩
  refine ⟨v, enough, fun u => ⟨fun other => other.unique plain, ?_⟩, ends⟩
  rintro rfl
  exact plain

/-- The first of three goals asks twice for the other two, and the second asks for the third. -/
def sharedStages (g : Goal) : List (List Goal) :=
  if g == numberedGoal 2 then
    [[numberedGoal 1, numberedGoal 0], [numberedGoal 0, numberedGoal 1, numberedGoal 0]]
  else if g == numberedGoal 1 then [[numberedGoal 0]]
  else []

def sharedRank (g : Goal) : Nat :=
  if g == numberedGoal 2 then 2 else if g == numberedGoal 1 then 1 else 0

def sharing : Behaviour Goal Value :=
  .staged sharedStages fun a b same => by simp only [sharedStages, BEq.congr_left same]

theorem sharing_descends : sharing.Descends sharedRank := by
  refine Behaviour.staged_descends (fun a b same => ?_) fun g => ?_
  · simp only [sharedRank, BEq.congr_left same]
  · simp only [sharedStages, sharedRank]
    split
    · decide
    · split
      · decide
      · simp

theorem sharing_resolved :
    ∃ v enough, (∀ u, sharing.Plain (numberedGoal 2) u ↔ u = v) ∧ ∀ n, enough ≤ n →
      (sharing.services.resolve hostedFactory .standard 1000 n none [] (numberedGoal 2) []).1 =
        some (.ok v) :=
  resolve_eq_plain_meaning sharing.services hostedFactory .standard 1000 none []
    (numberedGoal 2) [] sharing sharedRank sharing_descends (by decide) (by decide)
    (sharing.services_governs .standard 1000 (numberedGoal 2))

end Transparent

end Pursuit

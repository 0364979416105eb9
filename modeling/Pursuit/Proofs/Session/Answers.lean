import Mathlib.Data.List.Basic
import Pursuit.Proofs.Session.Progress
import Pursuit.Proofs.Session.Turns

/-! # What evaluators are told

An evaluator is handed one answer for each goal of its last request. An answer may come from the
cache, from an evaluation that the request set off, or from nowhere, when the goal is in progress.
`Told` says that all that was handed over agrees with the record, which for an answered goal is
final.
-/

namespace Pursuit

variable {W G V E : Type}

theorem eraseDups_concat [BEq G] (goals : List G) (g : G) :
    (goals ++ [g]).eraseDups =
      if goals.eraseDups.any (g == ·) then goals.eraseDups else goals.eraseDups ++ [g] := by
  have grows : ∀ found : List G,
      List.eraseDupsBy.loop (· == ·) (goals ++ [g]) found =
        if (List.eraseDupsBy.loop (· == ·) goals found).any (g == ·) then
          List.eraseDupsBy.loop (· == ·) goals found
        else List.eraseDupsBy.loop (· == ·) goals found ++ [g] := by
    induction goals with
    | nil =>
        intro found
        simp only [List.nil_append, List.eraseDupsBy.loop, List.any_reverse]
        split <;> simp_all
    | cons a goals ih =>
        intro found
        cases there : found.any (a == ·) <;>
          simp only [List.cons_append, List.eraseDupsBy.loop, there] <;> exact ih _
  exact grows []

/-- What comes back for a goal: nothing when it is on the path, and else its answer on record. -/
def Returns [BEq G] (cache : Ledger G (Entry V)) (path : List G) (a : G) (v : Option V) : Prop :=
  if path.any (· == a) then v = none else Answered cache a v

section Returns

variable [BEq G] {k k' : Ledger G (Entry V)} {path : List G} {a b : G} {v : Option V}

theorem Returns.congr [EquivBEq G] (replies : Returns k path a v) (same : a == b) :
    Returns k path b v := by
  unfold Returns at replies ⊢
  rw [← any_congr same path]
  split at replies
  · rename_i active
    rwa [if_pos active]
  · rename_i absent
    rw [if_neg absent]
    exact replies.congr same

theorem Returns.mono (replies : Returns k path a v)
    (keeps : ∀ {a v}, Answered k a v → Answered k' a v) : Returns k' path a v := by
  unfold Returns at replies ⊢
  split
  · rename_i active
    rwa [if_pos active] at replies
  · rename_i absent
    rw [if_neg absent] at replies
    exact keeps replies

end Returns

/-- The answers of a frame are those to the part of its batch that is through, above the goals that
are given. -/
structure Frame.Told [BEq G] (cache : Ledger G (Entry V)) (below : List G) (f : Frame G V E) :
    Prop where
  through : ∃ done, f.batch = done ++ f.waiting ∧ f.answers.keys = done.eraseDups
  replies : ∀ a v, (a, v) ∈ f.answers → Returns cache (f.goal :: below) a v

namespace Frame.Told

variable [BEq G] {k k' : Ledger G (Entry V)} {below : List G} {f : Frame G V E}

theorem fresh (waiting : f.waiting = f.batch) (answers : f.answers = []) : f.Told k below where
  through := ⟨[], by rw [waiting]; rfl, by rw [answers]; rfl⟩
  replies := by simp [answers]

theorem mono (told : f.Told k below) (keeps : ∀ {a v}, Answered k a v → Answered k' a v) :
    f.Told k' below where
  through := told.through
  replies := fun a v member => (told.replies a v member).mono keeps

theorem receive [EquivBEq G] (told : f.Told k below) {a : G} {rest : List G} {v : Option V}
    (waiting : f.waiting = a :: rest) (replies : Returns k (f.goal :: below) a v) (now : Float) :
    (f.receive v now).Told k below := by
  have received : f.receive v now =
      { f with
        waiting := rest
        answers := f.answers.put a v
        timings := f.timings ++ [now - f.requestedAt] } := by
    simp only [Frame.receive, waiting]
  rw [received]
  constructor
  · obtain ⟨done, batch, keys⟩ := told.through
    refine ⟨done ++ [a], by rw [batch, waiting]; simp, ?_⟩
    rw [Ledger.keys_put, keys, eraseDups_concat]
    simp only [BEq.comm]
  · intro b u member
    obtain old | ⟨same, rfl⟩ := Ledger.mem_put member
    · exact told.replies b u old
    · exact replies.congr (BEq.symm same)

end Frame.Told

/-- Each of the frames is told what it asked, above the ones that follow. -/
def AllTold [BEq G] (cache : Ledger G (Entry V)) : List (Frame G V E) → Prop
  | [] => True
  | f :: below => f.Told cache (below.map (·.goal)) ∧ AllTold cache below

/-- The goal is what the first frame waits for next, whose goal is what the second waits for, and so
on. -/
def Asked : List (Frame G V E) → G → Prop
  | [], _ => True
  | f :: below, g => f.waiting.head? = some g ∧ Asked below f.goal

/-- The frames fit what the session is about. -/
def Stance.Suits [BEq G] (cache : Ledger G (Entry V)) (callers : List (Frame G V E)) :
    Stance G V → Prop
  | .opening => callers = []
  | .requesting g | .working g => Asked callers g
  | .answering v => callers = [] ∨
      ∃ g, Asked callers g ∧ Returns cache (callers.map (·.goal)) g v
  | .ended => True

theorem AllTold.mono [BEq G] {k k' : Ledger G (Entry V)} {callers : List (Frame G V E)}
    (told : AllTold k callers) (keeps : ∀ {a v}, Answered k a v → Answered k' a v) :
    AllTold k' callers := by
  induction callers with
  | nil => trivial
  | cons f below ih => exact ⟨told.1.mono keeps, ih told.2⟩

namespace Session

variable [Keyed G]

/-- All that evaluators are told agrees with the record. -/
structure Told (s : Session G V E) : Prop where
  callers : AllTold s.cache s.callers
  current : ∀ f, s.point.frame? = some f → f.Told s.cache (s.callers.map (·.goal))
  suits : s.point.stance.Suits s.cache s.callers
  ready : s.point.Ready

namespace Told

variable {s s' : Session G V E} {x : Exchange G V E}

theorem start (root : G) (wanted bound : Nat) (now : Float) :
    Told (.start root wanted bound now : Session G V E) := by
  unfold Session.start
  split <;> exact ⟨trivial, by simp [Point.frame?], rfl, trivial⟩

theorem ended (callers : s.callers = []) (halted : s.point.isOver = true) : Told s where
  callers := by rw [callers]; trivial
  current := by simp [Point.frame?_of_isOver halted]
  suits := by
    rw [(Point.stance_eq_ended_iff _).mpr halted]
    trivial
  ready := Point.ready_of_isOver halted

theorem step [EquivBEq G] (coherent : s.Coherent) (told : Told s) (taken : s.Step x s') :
    Told s' := by
  have keeps : ∀ {a v}, Answered s.cache a v → Answered s'.cache a v := fun done =>
    (Effect.of_step coherent taken).done done
  have callers := told.callers.mono keeps
  have suits := told.suits
  cases Turn.of_step coherent taken with
  | stay now onward =>
      refine ⟨callers, ?_, by rw [← onward.stance] at suits; exact suits, onward.ready told.ready⟩
      intro f inside
      obtain ⟨old, -⟩ | ⟨g, evaluator, t, batch, rfl, -⟩ := supplies_of_onward onward inside
      · exact told.current f old
      · exact .fresh rfl rfl
  | start now before =>
      rw [before] at suits
      have alone : s.callers = [] := suits
      refine ⟨callers, by simp [goTo, Point.frame?], ?_, trivial⟩
      simp only [goTo, after, alone]
      trivial
  | @known g v before done =>
      rw [before] at suits
      refine ⟨callers, by simp [goTo, Point.frame?], .inr ⟨g, suits, ?_⟩, trivial⟩
      -- a goal on the path is on record as one that waits, and not as one that is answered
      have absent : ¬(s.callers.map (·.goal)).any (· == g) = true := by
        intro active
        have awaiting := coherent.find?_of_active before (by rw [path, before]; exact active)
        rw [done] at awaiting
        cases awaiting
      exact (if_neg absent).mpr done
  | @close g before active =>
      rw [before] at suits
      refine ⟨callers, by simp [goTo, Point.frame?], .inr ⟨g, suits, ?_⟩, trivial⟩
      simp only [path, before] at active
      exact (if_pos active).mpr rfl
  | begin before =>
      rw [before] at suits
      exact ⟨callers, by simp [goTo, Point.frame?], suits, trivial⟩
  | enter _ now before =>
      rw [before] at suits
      exact ⟨callers, by simp [goTo, Point.frame?], suits, trivial⟩
  | assign before =>
      rw [before] at suits
      exact ⟨callers, by simp [goTo, Point.frame?], suits, trivial⟩
  | @await f before =>
      rw [before] at suits
      refine ⟨callers, ?_, suits, trivial⟩
      rintro f' ⟨⟩
      exact (told.current f (by rw [before]; rfl)).mono keeps
  | finish before =>
      rw [before] at suits
      exact ⟨callers, by simp [Point.frame?], suits, trivial⟩
  | @leave g v old held now before =>
      rw [before] at suits
      have standing := coherent.stands g (by rw [before]; rfl)
      refine ⟨callers, by simp [goTo, Point.frame?], .inr ⟨g, suits, ?_⟩, trivial⟩
      have absent : ¬(s.callers.map (·.goal)).any (· == g) = true := by
        rw [List.any_eq_true]
        rintro ⟨a, member, same⟩
        obtain ⟨f, waits, rfl⟩ := List.mem_map.mp member
        rw [standing.1 f waits] at same
        cases same
      rw [before] at standing
      exact (if_neg absent).mpr standing.2
  | @call f g rest before waiting =>
      rw [before] at suits
      have current := told.current f (by rw [before]; rfl)
      refine ⟨⟨⟨current.through, current.replies⟩, callers⟩, by simp [Point.frame?], ?_, trivial⟩
      exact ⟨by simp [waiting], suits⟩
  | @back f C v before stack =>
      rw [before, stack] at suits
      obtain alone | ⟨a, ⟨head, asked⟩, replies⟩ := suits
      · cases alone
      · rw [stack] at callers
        obtain ⟨rest, waiting⟩ := List.head?_eq_some_iff.mp head
        have received := callers.1.receive waiting replies s.now
        refine ⟨callers.2, ?_, ?_, trivial⟩
        · rintro f' ⟨⟩
          exact received
        · simp only [Point.stance, Frame.receive_goal]
          exact asked
  | conclude before alone => exact ended alone rfl
  | escape now failure => exact ended rfl (escape_isOver _ failure)

end Told

end Session

def Moment.asks? [BEq G] (m : Moment G V E) (g : G) : Option (List G) :=
  match m.request? with
  | some (k, goals) => if k == g then some goals else none
  | none => none

/-- What the evaluator of a goal asked for last. -/
def lastRequest? [BEq G] (past : List (Moment G V E)) (g : G) : Option (List G) :=
  past.reverse.findSome? (·.asks? g)

/-- The goal whose evaluator a session is about to hand answers to, and these answers. -/
def Session.handing? [Keyed G] (s : Session G V E) : Option (G × Ledger G (Option V)) :=
  match s.next with
  | .resume _ answers _ => s.point.subject?.map (·, answers)
  | _ => none

theorem lastRequest?_concat [BEq G] (past : List (Moment G V E)) (m : Moment G V E) (g : G) :
    lastRequest? (past ++ [m]) g = (m.asks? g).or (lastRequest? past g) := by
  simp only [lastRequest?, List.reverse_append, List.reverse_singleton, List.singleton_append,
    List.findSome?_cons]
  cases m.asks? g <;> rfl

theorem Moment.asks?_of_request? [BEq G] {m : Moment G V E} (none : m.request? = none) (g : G) :
    m.asks? g = .none := by
  simp only [asks?, none]

namespace Session

variable [Keyed G] [EquivBEq G] {s s' : Session G V E} {x : Exchange G V E}

/-- The frame of a goal that waits or at which the session stands. -/
def Holds (s : Session G V E) (f : Frame G V E) : Prop :=
  f ∈ s.callers ∨ s.point.frame? = some f

theorem Coherent.asks?_of_mem (coherent : s.Coherent) {f : Frame G V E} (waits : f ∈ s.callers) :
    Moment.asks? ⟨s, x⟩ f.goal = none := by
  unfold Moment.asks?
  split
  · rename_i k goals asked
    have standing := Moment.subject?_of_request? asked
    have apart := (coherent.stands k standing).1 f waits
    rw [BEq.comm] at apart
    rw [apart, if_neg Bool.false_ne_true]
  · rfl

/-- The batch of a frame was asked for just now, or it is that of an earlier frame and nothing was
asked for since. -/
theorem Turn.batch (coherent : s.Coherent) (turn : Turn s x s') {f : Frame G V E}
    (holds : s'.Holds f) :
    Moment.asks? ⟨s, x⟩ f.goal = some f.batch ∨
      Moment.asks? ⟨s, x⟩ f.goal = none ∧
        ∃ f₀, s.Holds f₀ ∧ f₀.goal = f.goal ∧ f₀.batch = f.batch := by
  have waits : f ∈ s.callers → Moment.asks? ⟨s, x⟩ f.goal = none ∧
      ∃ f₀, s.Holds f₀ ∧ f₀.goal = f.goal ∧ f₀.batch = f.batch := fun waits =>
    ⟨coherent.asks?_of_mem waits, f, .inl waits, rfl, rfl⟩
  cases turn with
  | stay now onward =>
      obtain waiting | inside := holds
      · exact .inr (waits waiting)
      · obtain ⟨old, silent⟩ | ⟨g, evaluator, t, batch, rfl, asked⟩ :=
          supplies_of_onward onward inside
        · exact .inr ⟨Moment.asks?_of_request? silent _, f, .inr old, rfl, rfl⟩
        · left
          simp only [Moment.asks?, asked, Frame.begin, BEq.rfl, if_true]
  | @await f' before =>
      obtain waiting | inside := holds
      · exact .inr (waits waiting)
      · cases inside
        exact .inr ⟨rfl, f, .inr (by rw [before]; rfl), rfl, rfl⟩
  | @call f' g rest before waiting =>
      obtain waiting | inside := holds
      · cases waiting with
        | head => exact .inr ⟨rfl, f', .inr (by rw [before]; rfl), rfl, rfl⟩
        | tail _ below => exact .inr (waits below)
      · cases inside
  | @back f' C v before callers =>
      obtain waiting | inside := holds
      · exact .inr (waits (by rw [callers]; exact .tail _ waiting))
      · cases inside
        refine .inr ⟨rfl, f', .inl (by rw [callers]; exact .head _), ?_, ?_⟩
        · rw [Frame.receive_goal]
        · unfold Frame.receive
          split <;> rfl
  | escape now failure =>
      obtain waiting | inside := holds
      · cases waiting
      · rw [Point.frame?_of_isOver (escape_isOver _ failure)] at inside
        cases inside
  | start | known | close | begin | enter | assign | finish | leave | conclude =>
      obtain waiting | inside := holds
      · exact .inr (waits waiting)
      · cases inside

end Session

/-- Evaluators were told what is on record, about what they asked for last. -/
structure Play.Informed [Keyed G] (c : Play W G V E) : Prop where
  coherent : c.session.Coherent
  told : c.session.Told
  batches : ∀ f, c.session.Holds f → lastRequest? c.past f.goal = some f.batch

namespace Play

variable [Keyed G] [EquivBEq G] {h : Host W G V E} {c : Play W G V E}

theorem Informed.after (informed : c.Informed) (n : Nat) : (c.after h n).Informed := by
  apply along informed
  intro n x s w before _ taken
  refine ⟨before.coherent.step taken, before.told.step before.coherent taken, ?_⟩
  intro f holds
  rw [lastRequest?_concat]
  obtain asked | ⟨silent, f₀, held, goal, batch⟩ :=
    (Session.Turn.of_step before.coherent taken).batch before.coherent holds
  · rw [asked]
    rfl
  · rw [silent, ← goal, ← batch]
    exact before.batches f₀ held

omit [EquivBEq G] in
theorem Informed.opening (h : Host W G V E) (settings : Settings) (stackLimit : Int) (root : G)
    (w : W) : (opening h settings stackLimit root w).Informed where
  coherent := .start ..
  told := .start ..
  batches := by
    rintro f (waits | inside)
    · cases waits
    · unfold Play.opening Session.start at inside
      split at inside <;> cases inside

end Play

namespace Session

variable [Keyed G] {s : Session G V E}

theorem frame_of_handing {g : G} {answers : Ledger G (Option V)}
    (handing : s.handing? = some (g, answers)) :
    ∃ f, s.point = .resume f ∧ f.goal = g ∧ f.answers = answers := by
  obtain ⟨root, bound, started, now, cache, callers, point⟩ := s
  cases point with
  | resume f =>
      cases handing
      exact ⟨f, rfl, rfl, rfl⟩
  | report events p => cases events <;> cases handing
  | _ => cases handing

end Session

/-- Whenever an evaluator is handed answers, whoever the host is, they are answers to the distinct
goals of its last request, in order. A goal that is its own or one of those in progress above it
has no answer; the answer to any other is what is on record about it from then on. So two
evaluators that ask for one goal outside a cycle are told the same. -/
theorem answers_agree_with_record (h : Host W Goal V E) (settings : Settings) (stackLimit : Int)
    (root : Goal) (w : W) :
    let c := Play.opening h settings stackLimit root w
    (∀ n g answers, (c.after h n).session.handing? = some (g, answers) →
      ∃ request, lastRequest? (c.after h n).past g = some request ∧
        answers.keys = request.eraseDups ∧
        ∀ a v, (a, v) ∈ answers →
          if (c.after h n).session.path.any (· == a) then v = none
          else ∀ m, n ≤ m → (c.after h m).session.cache.find? a = some ⟨.done, v⟩) ∧
    ∀ n m g g' answers answers', (c.after h n).session.handing? = some (g, answers) →
      (c.after h m).session.handing? = some (g', answers') →
      ∀ a a' v v', (a, v) ∈ answers → (a', v') ∈ answers' → a == a' →
        (c.after h n).session.path.any (· == a) = false →
        (c.after h m).session.path.any (· == a') = false → v = v' := by
  intro c
  have informed : ∀ n, (c.after h n).Informed :=
    (Play.Informed.opening h settings stackLimit root w).after
  have recorded : ∀ n g answers, (c.after h n).session.handing? = some (g, answers) →
      ∀ a v, (a, v) ∈ answers → if (c.after h n).session.path.any (· == a) then v = none
        else ∀ m, n ≤ m → (c.after h m).session.cache.find? a = some ⟨.done, v⟩ := by
    intro n g answers handing a v member
    obtain ⟨f, standing, rfl, rfl⟩ := Session.frame_of_handing handing
    have path : (c.after h n).session.path =
        f.goal :: (c.after h n).session.callers.map (·.goal) := by
      rw [Session.path, standing]
      rfl
    have replies := ((informed n).told.current f (by rw [standing]; rfl)).replies a v member
    rw [← path] at replies
    unfold Returns at replies
    split
    · rename_i active
      rwa [if_pos active] at replies
    · rename_i absent
      rw [if_neg absent] at replies
      intro m later
      obtain ⟨k, rfl⟩ := Nat.exists_eq_add_of_le later
      rw [Play.after_add]
      exact Play.find?_done_after (informed n).coherent replies k
  constructor
  · intro n g answers handing
    obtain ⟨f, standing, rfl, rfl⟩ := Session.frame_of_handing handing
    have inside : (c.after h n).session.point.frame? = some f := by
      rw [standing]
      rfl
    have through : f.waiting = [] := by
      have ready := (informed n).told.ready
      rwa [standing] at ready
    refine ⟨f.batch, (informed n).batches f (.inr inside), ?_, recorded n _ _ handing⟩
    obtain ⟨done, batch, keys⟩ := ((informed n).told.current f inside).through
    rw [keys, batch, through, List.append_nil]
  · intro n m g g' answers answers' handing handing' a a' v v' member member' same absent absent'
    have first := recorded n g answers handing a v member
    have second := recorded m g' answers' handing' a' v' member'
    rw [absent, if_neg Bool.false_ne_true] at first
    rw [absent', if_neg Bool.false_ne_true] at second
    have early := first (max n m) (Nat.le_max_left n m)
    have late := second (max n m) (Nat.le_max_right n m)
    rw [Ledger.find?_congr same, late] at early
    cases early
    rfl

end Pursuit

import Mathlib.Logic.Relation
import Pursuit.Proofs.Session.Answers
import Pursuit.Proofs.Session.Path
import Pursuit.Proofs.Session.Reachability

/-! # Goals that lie too deep

A goal that is new while the path is full is answered with nothing, and like any other answer this
one stays. So it depends on the way on which a goal is met first whether it is cut off, and under a
larger bound that way may be a longer one. What the root of a graph is given is what those goals
offer to which it leads past no goal that is cut off. A larger bound can lose a type only behind a
goal to which both a short way leads and one that is as long as the larger bound.
-/

namespace Pursuit

open Relation (ReflTransGen)
open Value (contribution)

variable {W G V E : Type}

namespace Session

/-- A goal is new while as many goals are in progress as are allowed. -/
def Refuses [BEq G] (s : Session G V E) (g : G) : Prop :=
  ∃ k, s.point = .gate k ∧ (k == g) = true ∧ s.bound ≤ s.path.length

/-- A goal is answered, or is about to be answered without having been on the path. -/
def Dismisses [BEq G] (s : Session G V E) (g : G) : Prop :=
  (∃ v, s.cache.find? g = some ⟨.done, v⟩) ∨
    ∃ k, (k == g) = true ∧
      (s.point = .finish k none false ∨ ∃ n, s.point = .log n (.finish k none false))

variable [Keyed G] [EquivBEq G] {s s' : Session G V E} {x : Exchange G V E} {g : G}

theorem Dismisses.step (coherent : s.Coherent) (dismisses : s.Dismisses g) (taken : s.Step x s') :
    s'.Dismisses g := by
  obtain ⟨v, done⟩ | ⟨k, same, finishing | ⟨n, noting⟩⟩ := dismisses
  · exact .inl ⟨v, (Effect.of_step coherent taken).done done⟩
  · simp only [Step, next, finishing] at taken
    cases taken
    exact .inl ⟨none, Ledger.find?_put_of_eq _ _ same⟩
  · simp only [Step, next, noting] at taken
    cases taken
    exact .inr ⟨k, same, .inl rfl⟩

omit [EquivBEq G] in
theorem Dismisses.done_of_held {k : G} (dismisses : s.Dismisses g)
    (held : s.point.held? = some k) : ∃ v, s.cache.find? g = some ⟨.done, v⟩ := by
  obtain done | ⟨a, -, finishing | ⟨n, noting⟩⟩ := dismisses
  · exact done
  · simp [finishing, Point.held?] at held
  · simp [noting, Point.held?] at held

end Session

namespace Play

variable [Keyed G] {h : Host W G V E} {c : Play W G V E} {g : G}

/-- A goal is cut off sooner or later. -/
def CutsOff (h : Host W G V E) (c : Play W G V E) (g : G) : Prop :=
  c.Arrives h fun d => d.session.Refuses g

/-- The factory is asked for the evaluator of a goal sooner or later. -/
def Engages (h : Host W G V E) (c : Play W G V E) (g : G) : Prop :=
  c.Arrives h fun d => ∃ k, d.session.point = .create k ∧ (k == g) = true

omit [Keyed G] in
theorem stands_self (c : Play W G V E) :
    c.Stands c.session.bound c.session.cache c.session.callers c.session.point c.resumptions :=
  ⟨⟨_, _, _, rfl⟩, rfl⟩

section Gate

variable {P : Play W G V E → Exchange G V E → Prop} (smooth : ∀ c x, P c x → x.Smooth)
  {b : Nat} {k : Ledger G (Entry V)} {C : List (Frame G V E)}
  {L : List (G × Ledger G (Option V))}

include smooth

theorem Stands.refused (stands : c.Stands b k C (.gate g) L) (always : c.Always h P)
    (full : b ≤ C.length) :
    (c.after h 1).Stands b k C (.log (.tooDeep b g) (.finish g none false)) L := by
  apply stands.check smooth always g false
  intro root started now
  simp [Session.next, Session.path, Point.held?, full]

variable [EquivBEq G]

theorem Stands.dismissed (stands : c.Stands b k C (.gate g) L) (always : c.Always h P)
    (full : b ≤ C.length) :
    c.Arrives h fun d => ∃ k', Concluded g none k k' ∧ d.Stands b k' C (.answer none) L := by
  have logged := stands.refused smooth always full
  have finishes := (logged.log (h := h)).finishes (quiet_of_smooth smooth)
    ((always.after 1).after 1)
  exact .later (.later finishes)

theorem dismisses_after (coherent : c.session.Coherent) (always : c.Always h P)
    (refuses : c.session.Refuses g) (n : Nat) : (c.after h (1 + n)).session.Dismisses g := by
  obtain ⟨k, gate, same, full⟩ := refuses
  have stands := c.stands_self
  rw [gate] at stands
  rw [Session.path_of_held?_eq_none (by rw [gate]; rfl), List.length_map] at full
  obtain ⟨⟨_, _, _, noting⟩, -⟩ := stands.refused smooth always full
  rw [after_add]
  have coherent := coherent_after (h := h) coherent 1
  have dismisses : (c.after h 1).session.Dismisses g :=
    .inr ⟨k, same, .inr ⟨_, by rw [noting]⟩⟩
  exact (invariant (I := fun s => s.Coherent ∧ s.Dismisses g)
    (fun _ _ _ both taken => ⟨both.1.step taken, both.2.step both.1 taken⟩)
    ⟨coherent, dismisses⟩ n).2

omit smooth in
theorem stage_le_after (coherent : c.session.Coherent) (g : G) (n : Nat) :
    c.session.stage g ≤ (c.after h n).session.stage g := by
  refine (invariant (I := fun s => s.Coherent ∧ c.session.stage g ≤ s.stage g) ?_
    ⟨coherent, Nat.le_refl _⟩ n).2
  intro s x s' both taken
  have further := (Session.Effect.of_step both.1 taken).stage_le both.1 g
  exact ⟨both.1.step taken, by omega⟩

theorem done_of_cutsOff (coherent : c.session.Coherent) (always : c.Always h P)
    (cut : c.CutsOff h g) {n : Nat} {k : G} (same : (k == g) = true)
    (held : (c.after h n).session.point.held? = some k)
    (later : 2 < (c.after h n).session.point.stage) :
    ∃ v, (c.after h n).session.cache.find? g = some ⟨.done, v⟩ := by
  obtain ⟨m, refuses⟩ := cut
  obtain ⟨i, rfl⟩ | ⟨i, rfl⟩ : (∃ i, m = n + i) ∨ ∃ i, n = m + (1 + i) := by
    by_cases order : n ≤ m
    · exact .inl ⟨m - n, by omega⟩
    · exact .inr ⟨n - m - 1, by omega⟩
  · -- It would have gone back to the gate.
    obtain ⟨a, gate, alike, -⟩ := refuses
    have forth := stage_le_after (h := h) (coherent_after (h := h) coherent n) g i
    rw [← after_add, Session.stage_of_subject (Point.subject?_of_held? held) same,
      Session.stage_of_subject (k := a) (by rw [gate]; rfl) alike, gate] at forth
    simp only [Point.stage] at forth
    omega
  · have dismisses := dismisses_after smooth (coherent_after (h := h) coherent m) (always.after m)
      refuses i
    rw [← after_add] at dismisses
    exact dismisses.done_of_held held

end Gate

section Opening

variable [EquivBEq G] {settings : Settings} {stackLimit : Int} {root : G} {w : W}

theorem entered_of_find? {n : Nat} {e : Entry V}
    (found : ((opening h settings stackLimit root w).after h n).session.cache.find? g = some e) :
    (opening h settings stackLimit root w).Arrives h fun d =>
      ∃ k, d.session.point = .enter k ∧ (k == g) = true := by
  induction n generalizing e with
  | zero => cases found
  | succ n ih =>
      have coherent : ((opening h settings stackLimit root w).after h n).session.Coherent :=
        coherent_after (.start _ _ _ _) n
      cases halted : ((opening h settings stackLimit root w).after h n).session.outcome? with
      | some outcome =>
          rw [after, advance_of_over (by rw [halted]; rfl)] at found
          exact ih found
      | none =>
          obtain ⟨x, s, w', -, taken, next⟩ := exists_advance h halted
          have reached : ((opening h settings stackLimit root w).after h (n + 1)).session = s := by
            rw [after, next]
          rw [reached] at found
          -- What is written over an entry was on record before.
          have written : ∀ k e₀ e₁,
              ((opening h settings stackLimit root w).after h n).session.cache.find? k = some e₀ →
              (((opening h settings stackLimit root w).after h n).session.cache.put k e₁).find? g =
                some e →
              (opening h settings stackLimit root w).Arrives h fun d =>
                ∃ k, d.session.point = .enter k ∧ (k == g) = true := by
            intro k e₀ e₁ recorded put
            cases same : k == g with
            | true => exact ih ((Ledger.find?_congr same _).symm.trans recorded)
            | false => exact ih ((Ledger.find?_put_of_ne _ _ same).symm.trans put)
          cases Session.Turn.of_step coherent taken with
          | @begin k before fresh =>
              cases same : k == g with
              | true => exact ⟨n + 1, k, by rw [reached]; rfl, same⟩
              | false => exact ih ((Ledger.find?_put_of_ne _ _ same).symm.trans found)
          | @assign k evaluator before =>
              have recorded := (coherent.stands k (by rw [before]; rfl)).2
              rw [before] at recorded
              exact written k _ _ recorded found
          | @await f before =>
              have recorded := (coherent.stands f.goal (by rw [before]; rfl)).2
              rw [before] at recorded
              exact written f.goal _ _ recorded found
          | @finish k v held before =>
              have recorded := (coherent.stands k (by rw [before]; rfl)).2
              rw [before] at recorded
              obtain ⟨state, -, recorded⟩ := recorded
              exact written k _ _ recorded found
          | _ => exact ih found

theorem engages_of_find? {P : Play W G V E → Exchange G V E → Prop}
    (smooth : ∀ c x, P c x → x.Smooth)
    (always : (opening h settings stackLimit root w).Always h P) {n : Nat} {e : Entry V}
    (found : ((opening h settings stackLimit root w).after h n).session.cache.find? g = some e)
    (uncut : ¬ (opening h settings stackLimit root w).CutsOff h g) :
    (opening h settings stackLimit root w).Engages h g := by
  obtain ⟨i, k, entering, same⟩ := entered_of_find? found
  have stands := ((opening h settings stackLimit root w).after h i).stands_self
  rw [entering] at stands
  have gated := stands.tell (q := .gate k) (h := h) (quiet_of_smooth smooth) (always.after i)
    fun _ _ _ => ⟨_, rfl⟩
  have room : ((opening h settings stackLimit root w).after h i).session.callers.length <
      ((opening h settings stackLimit root w).after h i).session.bound := by
    by_contra full
    obtain ⟨⟨_, _, _, gate⟩, -⟩ := gated
    refine uncut ⟨i + 1, k, by rw [after_add, gate], same, ?_⟩
    rw [after_add, gate]
    simpa [Session.path, Point.held?] using full
  obtain ⟨⟨_, _, _, creating⟩, -⟩ := gated.admitted smooth ((always.after i).after 1) room
  refine ⟨i + (1 + 1), k, ?_, same⟩
  rw [after_add, after_add, creating]

end Opening

end Play

namespace GoalGraph

variable (γ : GoalGraph)

/-- The goals that lead from the root to a goal, nearest first. -/
def Leads (root : Goal) : Goal → List Goal → Prop
  | g, [] => (root == g) = true
  | g, a :: way => γ.Edge a g ∧ Leads root a way

/-- A way from the root to a goal on which no goal is met twice. -/
structure Way (root g : Goal) (way : List Goal) : Prop where
  leads : γ.Leads root g way
  apart : (g :: way).Pairwise fun a b => (a == b) = false

/-- The goals in progress lead to what a session is about. -/
def Links (root : Goal) : List Goal → Stance Goal Value → Prop
  | path, .opening => path = []
  | path, .requesting g | path, .working g => γ.Leads root g path
  | a :: path, .answering _ => γ.Leads root a path
  | [], .answering _ | _, .ended => True

/-- A session goes along the edges of the graph. -/
structure Linked (root : Goal) (s : Session Goal Value E) : Prop where
  rooted : s.root = root
  links : γ.Links root (s.callers.map (·.goal)) s.point.stance
  needs : ∀ f, s.Holds f → ∀ a ∈ f.waiting, a ∈ γ.successors f.goal

open Classical in
/-- The graph in which goals of a set lead nowhere and offer nothing. -/
noncomputable def without (X : Goal → Prop) : GoalGraph where
  successors g := if ∃ a, X a ∧ (a == g) = true then [] else γ.successors g
  literals g := if ∃ a, X a ∧ (a == g) = true then [] else γ.literals g
  isKey := by
    intro g s successor
    split at successor
    · cases successor
    · exact γ.isKey g s successor
  isNamed := by
    intro g v literal
    split at literal
    · cases literal
    · exact γ.isNamed g v literal
  successors_congr := by
    intro a b same s successor
    split at successor
    · cases successor
    · rename_i outside
      rw [if_neg fun ⟨x, inside, alike⟩ => outside ⟨x, inside, BEq.trans alike (BEq.symm same)⟩]
      exact γ.successors_congr a b same s successor
  literals_congr := by
    intro a b same v literal
    split at literal
    · cases literal
    · rename_i outside
      rw [if_neg fun ⟨x, inside, alike⟩ => outside ⟨x, inside, BEq.trans alike (BEq.symm same)⟩]
      exact γ.literals_congr a b same v literal

variable {γ} {root g : Goal} {X : Goal → Prop}

theorem Leads.congr {a b : Goal} {way : List Goal} (leads : γ.Leads root a way)
    (same : (a == b) = true) : γ.Leads root b way := by
  cases way with
  | nil => exact BEq.trans leads same
  | cons c way =>
      obtain ⟨⟨s, successor, alike⟩, further⟩ := leads
      exact ⟨⟨s, successor, BEq.trans alike same⟩, further⟩

namespace Linked

variable {s s' : Session Goal Value E} {x : Exchange Goal Value E}

theorem start (root : Goal) (wanted bound : Nat) (now : Float) :
    γ.Linked root (.start root wanted bound now : Session Goal Value E) := by
  unfold Session.start
  split <;> exact ⟨rfl, rfl, by simp [Session.Holds, Point.frame?]⟩

theorem ended (rooted : s.root = root) (callers : s.callers = [])
    (halted : s.point.isOver = true) : γ.Linked root s where
  rooted := rooted
  links := by
    rw [(Point.stance_eq_ended_iff _).mpr halted, callers]
    trivial
  needs := by simp [Session.Holds, callers, Point.frame?_of_isOver halted]

theorem step (coherent : s.Coherent) (linked : γ.Linked root s) (taken : s.Step x s')
    (asks : ∀ g goals, Moment.request? ⟨s, x⟩ = some (g, goals) →
      ∀ a ∈ goals, a ∈ γ.successors g) : γ.Linked root s' := by
  obtain ⟨rooted, links, needs⟩ := linked
  have waits : ∀ f ∈ s.callers, ∀ a ∈ f.waiting, a ∈ γ.successors f.goal :=
    fun f waits => needs f (.inl waits)
  -- At a point without a frame only those that wait are left.
  have frameless : ∀ s₁ : Session Goal Value E, s₁.callers = s.callers →
      s₁.point.frame? = none → ∀ f, s₁.Holds f → ∀ a ∈ f.waiting, a ∈ γ.successors f.goal := by
    intro s₁ same none f holds
    rw [Session.Holds, same, none] at holds
    simpa using waits f (by simpa using holds)
  cases Session.Turn.of_step coherent taken with
  | stay now onward =>
      refine ⟨rooted, by simpa [Session.goTo, Session.after, onward.stance] using links, ?_⟩
      intro f holds a member
      obtain waiting | inside := holds
      · exact waits f waiting a member
      · obtain ⟨old, -⟩ | ⟨g, evaluator, t, batch, rfl, asked⟩ :=
          Session.supplies_of_onward onward inside
        · exact needs f (.inr old) a member
        · exact asks g batch asked a member
  | start now before =>
      rw [before] at links
      refine ⟨rooted, ?_, frameless _ rfl rfl⟩
      simp only [Links, Point.stance] at links
      simp [Links, Point.stance, Session.goTo, Session.after, links, Leads, rooted]
  | known before | close before =>
      rw [before] at links
      refine ⟨rooted, ?_, frameless _ rfl rfl⟩
      simp only [Session.goTo, Point.stance]
      cases path : s.callers.map (·.goal) with
      | nil => trivial
      | cons a below =>
          rw [path] at links
          exact links.2
  | begin before | enter _ _ before | assign before | finish before =>
      rw [before] at links
      exact ⟨rooted, links, frameless _ rfl rfl⟩
  | @await f before =>
      rw [before] at links
      refine ⟨rooted, links, ?_⟩
      intro f' holds a member
      obtain waiting | inside := holds
      · exact waits f' waiting a member
      · cases inside
        exact needs f (.inr (by rw [before]; rfl)) a member
  | leave now before =>
      rw [before] at links
      refine ⟨rooted, ?_, frameless _ rfl rfl⟩
      simp only [Session.goTo, Session.after, Point.stance]
      cases path : s.callers.map (·.goal) with
      | nil => trivial
      | cons a below =>
          rw [path] at links
          exact links.2
  | @call f g rest before waiting =>
      rw [before] at links
      have current := needs f (.inr (by rw [before]; rfl))
      refine ⟨rooted, ⟨⟨g, current g (by simp [waiting]), BEq.rfl⟩, links⟩, ?_⟩
      intro f' holds a member
      obtain waiting | inside := holds
      · cases waiting with
        | head => exact current a member
        | tail _ below => exact waits f' below a member
      · cases inside
  | @back f C v before callers =>
      rw [before, callers] at links
      refine ⟨rooted, by simp only [Point.stance, Frame.receive_goal]; exact links, ?_⟩
      intro f' holds a member
      obtain waiting | inside := holds
      · exact waits f' (by rw [callers]; exact .tail _ waiting) a member
      · cases inside
        have current := waits f (by rw [callers]; exact .head _)
        rw [Frame.receive_goal]
        apply current
        unfold Frame.receive at member
        split at member
        · exact member
        · rename_i waiting
          rw [waiting]
          exact .tail _ member
  | conclude before alone => exact ended rooted alone rfl
  | escape now failure => exact ended rooted rfl (Session.escape_isOver _ failure)

end Linked

theorem Fits.asks {c : Play W Goal Value E} {x : Exchange Goal Value E} (fits : γ.Fits c x)
    {goals : List Goal} (asked : Moment.request? ⟨c.session, x⟩ = some (g, goals)) :
    ∀ a ∈ goals, a ∈ γ.successors g := by
  unfold Moment.request? at asked
  split at asked
  · rename_i exchanged standing
    obtain rfl : x = _ := exchanged
    cases asked
    obtain ⟨order, same, permuted⟩ := fits _ _ _ standing
    cases same
    exact fun a => permuted.mem_iff.mp
  · rename_i exchanged standing
    obtain rfl : x = _ := exchanged
    cases fits _ standing
  · cases asked

section Opening

variable {h : Host W Goal Value E} {settings : Settings} {stackLimit : Int} {w : W}

theorem linked_after (always : (Play.opening h settings stackLimit root w).Always h γ.Fits)
    (n : Nat) :
    γ.Linked root ((Play.opening h settings stackLimit root w).after h n).session := by
  refine (Play.along (I := fun c => c.session.Coherent ∧ γ.Linked root c.session)
    ⟨.start _ _ _ _, .start _ _ _ _⟩ ?_ n).2
  intro m x s w' both met taken
  exact ⟨both.1.step taken, both.2.step both.1 taken fun g goals => (always m x s w' met).asks⟩

theorem way_of_subject (always : (Play.opening h settings stackLimit root w).Always h γ.Fits)
    {n : Nat} {k : Goal}
    (standing :
      ((Play.opening h settings stackLimit root w).after h n).session.point.subject? = some k)
    (same : (k == g) = true) :
    γ.Way root g
      (((Play.opening h settings stackLimit root w).after h n).session.callers.map (·.goal)) := by
  have links := (linked_after always n).links
  rw [(Point.stance_eq_working_iff _ k).mpr standing] at links
  have coherent : ((Play.opening h settings stackLimit root w).after h n).session.Coherent :=
    Play.coherent_after (.start _ _ _ _) n
  refine ⟨Leads.congr links same, List.pairwise_cons.mpr ⟨?_, List.pairwise_map.mpr coherent.apart⟩⟩
  simp only [List.forall_mem_map]
  intro f waits
  rw [← BEq.congr_left same, BEq.comm]
  exact (coherent.stands k standing).1 f waits

theorem exists_way_of_engages
    (always : (Play.opening h settings stackLimit root w).Always h γ.Fits)
    (engaged : (Play.opening h settings stackLimit root w).Engages h g) :
    ∃ way, γ.Way root g way ∧ way.length < settings.depthBound stackLimit := by
  obtain ⟨n, k, creating, same⟩ := engaged
  refine ⟨_, way_of_subject always (by rw [creating]; rfl) same, ?_⟩
  have short : (((Play.opening h settings stackLimit root w).after h n).session.path).length ≤ _ :=
    (Play.kept_after (.start _ _ _ _) n).short
  rw [Play.bound_after (.start _ _ _ _), Session.path, creating] at short
  change _ ≤ settings.depthBound stackLimit at short
  simp [Point.held?] at short ⊢
  omega

theorem exists_way_of_cutsOff
    (always : (Play.opening h settings stackLimit root w).Always h γ.Fits)
    (cut : (Play.opening h settings stackLimit root w).CutsOff h g) :
    ∃ way, γ.Way root g way ∧ way.length = settings.depthBound stackLimit := by
  obtain ⟨n, k, gate, same, full⟩ := cut
  refine ⟨_, way_of_subject always (by rw [gate]; rfl) same, ?_⟩
  have short : (((Play.opening h settings stackLimit root w).after h n).session.path).length ≤ _ :=
    (Play.kept_after (.start _ _ _ _) n).short
  rw [Play.bound_after (.start _ _ _ _), Session.path_of_held?_eq_none (by rw [gate]; rfl)]
    at short full
  exact Nat.le_antisymm short full

end Opening

/-! ## The graph without the goals that are cut off -/

/-- The set does not tell equal goals apart. -/
def Settled (X : Goal → Prop) : Prop :=
  ∀ a b, (a == b) = true → X a → X b

theorem without_of_mem (inside : X g) :
    (γ.without X).successors g = [] ∧ (γ.without X).literals g = [] :=
  ⟨if_pos ⟨g, inside, BEq.rfl⟩, if_pos ⟨g, inside, BEq.rfl⟩⟩

theorem without_of_not_mem (settled : Settled X) (outside : ¬ X g) :
    (γ.without X).successors g = γ.successors g ∧ (γ.without X).literals g = γ.literals g :=
  ⟨if_neg fun ⟨a, inside, same⟩ => outside (settled a g same inside),
    if_neg fun ⟨a, inside, same⟩ => outside (settled a g same inside)⟩

theorem not_mem_of_edge {a b : Goal} (edge : (γ.without X).Edge a b) : ¬ X a := by
  intro inside
  obtain ⟨s, successor, -⟩ := edge
  rw [(without_of_mem inside).1] at successor
  cases successor

theorem not_mem_of_literal {v : Value} (literal : v ∈ (γ.without X).literals g) : ¬ X g := by
  intro inside
  rw [(without_of_mem inside).2] at literal
  cases literal

/-- What is offered past one set is offered past another, unless it lies behind a goal that is in
the other alone. -/
theorem Offers.past {Y : Goal → Prop} {v : Value} (first : Settled X) (second : Settled Y)
    (offered : (γ.without X).Offers root v) :
    (γ.without Y).Offers root v ∨
      ∃ g, (γ.without X).Reaches root g ∧ ¬ X g ∧ Y g ∧ (γ.without X).Offers g v := by
  obtain ⟨last, reaches, literal⟩ := offered
  induction reaches using ReflTransGen.head_induction_on with
  | refl =>
      have outside := not_mem_of_literal literal
      by_cases inside : Y last
      · exact .inr ⟨last, .refl, outside, inside, last, .refl, literal⟩
      · rw [(without_of_not_mem first outside).2] at literal
        exact .inl ⟨last, .refl, by rwa [(without_of_not_mem second inside).2]⟩
  | @head a b edge further ih =>
      have outside := not_mem_of_edge edge
      by_cases inside : Y a
      · exact .inr ⟨a, .refl, outside, inside, last, further.head edge, literal⟩
      obtain ⟨c, reaches, offers⟩ | ⟨g, reaches, rest⟩ := ih
      · obtain ⟨s, successor, same⟩ := edge
        rw [(without_of_not_mem first outside).1] at successor
        refine .inl ⟨c, reaches.head ⟨s, ?_, same⟩, offers⟩
        rwa [(without_of_not_mem second inside).1]
      · exact .inr ⟨g, reaches.head edge, rest⟩

/-- Exchanges on a graph whose bound cuts off goals of a set and no others. -/
def Bounded (γ : GoalGraph) (X : Goal → Prop) (c : Play W Goal Value E)
    (x : Exchange Goal Value E) : Prop :=
  (γ.without X).Goes c x ∧ ∀ g, c.session.Refuses g → X g

section Course

variable {h : Host W Goal Value E} {c : Play W Goal Value E} {b n : Nat}

theorem settled_cutsOff : Settled (c.CutsOff h) := by
  intro a b same cut
  obtain ⟨n, k, gate, alike, full⟩ := cut
  exact ⟨n, k, gate, BEq.trans alike same, full⟩

theorem Goes.bounded (coherent : c.session.Coherent) (always : c.Always h γ.Goes) :
    c.Always h (γ.Bounded (c.CutsOff h)) := by
  intro n x s w met
  obtain ⟨fits, smooth⟩ := always n x s w met
  have here : (c.after h n).session.Coherent := Play.coherent_after coherent n
  -- Whoever works on a goal now has a record of it that is not final.
  have uncut : ∀ g, (c.after h n).session.point.held? = some g →
      2 < (c.after h n).session.point.stage →
      (∀ v, (c.after h n).session.cache.find? g ≠ some ⟨.done, v⟩) → ¬ c.CutsOff h g := by
    intro g held later undone cut
    obtain ⟨v, done⟩ := Play.done_of_cutsOff (fun _ _ both => both.2) coherent always cut BEq.rfl
      held later
    exact undone v done
  refine ⟨⟨?_, smooth⟩, fun g refuses => ⟨n, refuses⟩⟩
  cases x with
  | create | emit => exact fits
  | init evaluator now reply =>
      intro g evaluator' t standing
      obtain ⟨order, named, permuted⟩ := fits g evaluator' t standing
      have recorded := (here.stands g (by rw [standing]; rfl)).2
      have outside : ¬ c.CutsOff h g := by
        apply uncut g <;> simp_all [Point.held?, Point.stage, Point.Expects]
      exact ⟨order, named, by rwa [(without_of_not_mem settled_cutsOff outside).1]⟩
  | resume evaluator answers now reply =>
      intro f standing
      have recorded := (here.stands f.goal (by rw [standing]; rfl)).2
      have outside : ¬ c.CutsOff h f.goal := by
        rw [standing] at recorded
        obtain ⟨assigned, -⟩ | awaiting := recorded
        · apply uncut f.goal <;> simp_all [Point.held?, Point.stage]
        · apply uncut f.goal <;> simp_all [Point.held?, Point.stage]
      rw [fits f standing, merge, merge, (without_of_not_mem settled_cutsOff outside).2]
  | proceed | record | check => trivial

theorem Resolves.bounded_step
    (below : ∀ m, n = m + 1 → (γ.without X).Resolves (γ.Bounded X) h b root b m) :
    (γ.without X).Resolves (γ.Bounded X) h b root b n := by
  apply Resolves.of_new
  intro c k C L g always stands requested depth fresh absent
  have goes : ∀ (c : Play W Goal Value E) x, γ.Bounded X c x → (γ.without X).Goes c x :=
    fun _ _ both => both.1
  have smooth : ∀ (c : Play W Goal Value E) x, γ.Bounded X c x → x.Smooth :=
    fun _ _ both => both.1.2
  by_cases full : b ≤ C.length
  · have idle : C.any (·.goal == g) = false := by simpa [Function.comp_def] using absent
    have gated := stands.gates (Play.quiet_of_smooth smooth) always requested.key fresh idle
    have inside : X g := by
      obtain ⟨⟨_, _, _, gate⟩, -⟩ := gated
      obtain ⟨x, s, w, met, -⟩ := Play.exists_advance (c := c.after h 2) h (by rw [gate]; rfl)
      refine ((always.after 2).now met).2 g ⟨g, by rw [gate], BEq.rfl, ?_⟩
      rw [gate]
      simpa [Session.path, Point.held?] using full
    obtain ⟨successors, literals⟩ := without_of_mem (γ := γ) inside
    have pending : Undertaken g k (k.put g ⟨.pending, none⟩) := .put g k (by decide)
    have serving : (γ.without X).Serving root (C.map (·.goal)) k g [] []
        (k.put g ⟨.pending, none⟩) := .start requested.survey pending fresh (by rw [successors])
    have nothing : (γ.without X).merge g [] = none := by
      rw [merge, literals]
      rfl
    refine .later (.later ((gated.dismissed smooth (always.after 2) full).trans ?_))
    rintro m ⟨k', concluded, answering⟩
    have resolved : (γ.without X).Resolved root (C.map (·.goal)) k g ((γ.without X).merge g [])
        k' := serving.concluded (requested.reached g (.head _)) absent (by rwa [nothing])
    exact .here ⟨_, k', L, resolved, by rwa [nothing]⟩
  · obtain ⟨m, rfl⟩ : ∃ m, n = m + 1 := Nat.exists_eq_succ_of_ne_zero (by omega)
    exact (below m rfl).undertaken goes always stands requested fresh absent (by omega) (by omega)

theorem resolves_bounded (n : Nat) : (γ.without X).Resolves (γ.Bounded X) h b root b n := by
  induction n with
  | zero => exact .bounded_step fun _ impossible => by cases impossible
  | succ n ih => exact .bounded_step fun _ equal => by cases equal; exact ih

end Course

section Opening

variable {h : Host W Goal Value E} {settings : Settings} {stackLimit : Int} {w : W}

/-- A session on a graph gives its root what is offered past the goals that it cuts off, and works
on all goals that it meets there. -/
theorem opening_resolves (key : Keyed.isKey root = true)
    (goes : (Play.opening h settings stackLimit root w).Always h γ.Goes) :
    ∃ v, (∃ enough, ∀ n, enough ≤ n →
        (evaluate h settings stackLimit n root w).1 = some (.ok v)) ∧
      (∀ x, x ∈ contribution v ↔
        (γ.without ((Play.opening h settings stackLimit root w).CutsOff h)).Offers root x) ∧
      ∀ g, (γ.without ((Play.opening h settings stackLimit root w).CutsOff h)).Reaches root g →
        ¬ (Play.opening h settings stackLimit root w).CutsOff h g →
        (Play.opening h settings stackLimit root w).Engages h g := by
  have smooth : ∀ (c : Play W Goal Value E) x, γ.Goes c x → x.Smooth := fun _ _ both => both.2
  have bounded := Goes.bounded (.start _ _ _ _) goes
  obtain ⟨i, requesting⟩ := Play.opening_requests (Play.quiet_of_smooth smooth) goes
  obtain ⟨j, v, k, L', resolved, answering⟩ := resolves_bounded (settings.depthBound stackLimit)
    _ _ [] _ root (bounded.after i) requesting (.start key) (by simp)
  obtain ⟨m, halted⟩ := answering.ends (h := h)
  rw [← Play.after_add, ← Play.after_add] at halted
  refine ⟨v, (exists_evaluate_iff h settings stackLimit root w _).mpr ⟨_, halted⟩,
    resolved.mem_iff, fun g reaches uncut => ?_⟩
  have given := resolved.given.resolve_left (by simp)
  obtain ⟨u, answered⟩ := resolved.survey.answered_of_reaches given reaches
  obtain ⟨⟨_, _, _, session⟩, -⟩ := answering
  rw [← Play.after_add] at session
  exact Play.engages_of_find? smooth goes (n := i + j) (by rw [session]; exact answered) uncut

end Opening

end GoalGraph

section Deeper

variable {F β K L : Type} [BEq L]

/-- Under a larger bound a type is lost only behind a goal that is cut off there and was worked on
under the smaller one: a way leads to it that is shorter than the smaller bound, and another way
that is as long as the larger bound. -/
theorem deeper_bound_loses_only_behind_cut_off (p : Services W F β K L)
    (create : Goal → Attempt W (Option Product)) (settings settings' : Settings)
    (stackLimit stackLimit' : Int) (extras : List L) (root : Goal) (w w' : W) (γ : GoalGraph)
    (key : Keyed.isKey root = true)
    (deeper : settings.depthBound stackLimit ≤ settings'.depthBound stackLimit')
    (fits : (Play.opening (p.host create .never extras) settings stackLimit root w).Always
      (p.host create .never extras) γ.Fits)
    (fits' : (Play.opening (p.host create .never extras) settings' stackLimit' root w').Always
      (p.host create .never extras) γ.Fits) :
    let h := p.host create .never extras
    let c := Play.opening h settings stackLimit root w
    let c' := Play.opening h settings' stackLimit' root w'
    ∃ v v' enough,
      (∀ n, enough ≤ n →
        (p.resolve create settings stackLimit n none extras root w).1 = some (.ok v) ∧
        (p.resolve create settings' stackLimit' n none extras root w').1 = some (.ok v')) ∧
      (∀ x, x ∈ contribution v ↔ (γ.without (c.CutsOff h)).Offers root x) ∧
      (∀ x, x ∈ contribution v' ↔ (γ.without (c'.CutsOff h)).Offers root x) ∧
      (∀ x ∈ contribution v, x ∉ contribution v' →
        ∃ g way way', c.Engages h g ∧ c'.CutsOff h g ∧ (γ.without (c.CutsOff h)).Offers g x ∧
          γ.Way root g way ∧ γ.Way root g way' ∧ way.length < settings.depthBound stackLimit ∧
          way'.length = settings'.depthBound stackLimit' ∧ way.length < way'.length) ∧
      ((∀ g way way', γ.Way root g way → γ.Way root g way' →
          way.length < settings.depthBound stackLimit →
          way'.length ≠ settings'.depthBound stackLimit') →
        ∀ x ∈ contribution v, x ∈ contribution v') := by
  intro h c c'
  obtain ⟨v, ⟨enough, ends⟩, holds, works⟩ :=
    GoalGraph.opening_resolves key (GoalGraph.Fits.goes fits)
  obtain ⟨v', ⟨enough', ends'⟩, holds', -⟩ :=
    GoalGraph.opening_resolves key (GoalGraph.Fits.goes fits')
  have lost : ∀ x ∈ contribution v, x ∉ contribution v' →
      ∃ g way way', c.Engages h g ∧ c'.CutsOff h g ∧ (γ.without (c.CutsOff h)).Offers g x ∧
        γ.Way root g way ∧ γ.Way root g way' ∧ way.length < settings.depthBound stackLimit ∧
        way'.length = settings'.depthBound stackLimit' ∧ way.length < way'.length := by
    intro x held missing
    obtain offered | ⟨g, reaches, uncut, cut, behind⟩ := GoalGraph.Offers.past
      (Y := c'.CutsOff h) GoalGraph.settled_cutsOff GoalGraph.settled_cutsOff ((holds x).mp held)
    · exact absurd ((holds' x).mpr offered) missing
    · have engaged := works g reaches uncut
      obtain ⟨way, short, inside⟩ := GoalGraph.exists_way_of_engages fits engaged
      obtain ⟨way', long, full⟩ := GoalGraph.exists_way_of_cutsOff fits' cut
      exact ⟨g, way, way', engaged, cut, behind, short, long, inside, full, by omega⟩
  refine ⟨v, v', max enough enough', ?_, holds, holds', lost, ?_⟩
  · intro n late
    exact ⟨ends n (by omega), ends' n (by omega)⟩
  · intro even x held
    by_contra missing
    obtain ⟨g, way, way', -, -, -, short, long, inside, full, -⟩ := lost x held missing
    exact even g way way' short long inside full

/-- Four goals: the first leads to the second and the last, and the second to the last by way of the
third. Only the last offers a type. -/
def detour : GoalGraph :=
  .ofTable
    [(numberedGoal 0, [numberedGoal 1, numberedGoal 3], []),
      (numberedGoal 1, [numberedGoal 2], []),
      (numberedGoal 2, [numberedGoal 3], []),
      (numberedGoal 3, [], [.simpleType "int"])]
    (by decide) (by decide)

/-- No time limit, and a path of the given length. -/
def Settings.ofDepth (depth : Nat) (positive : 1 ≤ depth) : Settings :=
  { timeLimitMs := none, maxDepth := depth, maxDepth_pos := positive }

/-- The name of the simple type with which a session ended, if it did so or ended with nothing. -/
def simpleAnswer? : Option (Except Failure (Option Value)) → Option (Option String)
  | some (.ok (some (.simpleType name))) => some (some name)
  | some (.ok none) => some none
  | _ => none

theorem eq_of_simpleAnswer? {outcome : Option (Except Failure (Option Value))}
    {name : Option String} (named : simpleAnswer? outcome = some name) :
    outcome = some (.ok (name.map .simpleType)) := by
  unfold simpleAnswer? at named
  split at named
  · cases named
    rfl
  · cases named
    rfl
  · cases named

theorem detour_answers (depth : Nat) (positive : 1 ≤ depth) (name : Option String)
    (named : simpleAnswer? ((Play.opening (detour.services.host hostedFactory .never [])
      (.ofDepth depth positive) 1000 (numberedGoal 0) ()).after
        (detour.services.host hostedFactory .never []) 99).session.outcome? = some name) (n : Nat)
    (enough : 100 ≤ n) :
    (detour.services.resolve hostedFactory (.ofDepth depth positive) 1000 n none []
      (numberedGoal 0) ()).1 = some (.ok (name.map .simpleType)) :=
  evaluate_of_over _ _ _ _ _ (eq_of_simpleAnswer? named) n enough

/-- With two goals on the path the last goal is met on the short way, with three on the long one,
and its type is lost. -/
theorem detour_forgets :
    (∀ n, 100 ≤ n → (detour.services.resolve hostedFactory (.ofDepth 2 (by decide)) 1000 n none []
      (numberedGoal 0) ()).1 = some (.ok (some (.simpleType "int")))) ∧
    ∀ n, 100 ≤ n → (detour.services.resolve hostedFactory (.ofDepth 3 (by decide)) 1000 n none []
      (numberedGoal 0) ()).1 = some (.ok none) :=
  ⟨detour_answers 2 (by decide) (some "int") (by decide +kernel),
    detour_answers 3 (by decide) none (by decide +kernel)⟩

theorem detour_ways :
    ∃ g way way', detour.Way (numberedGoal 0) g way ∧ detour.Way (numberedGoal 0) g way' ∧
      way.length < 2 ∧ way'.length = 3 := by
  obtain ⟨v, v', enough, ends, -, -, lost, -⟩ :=
    deeper_bound_loses_only_behind_cut_off detour.services hostedFactory (.ofDepth 2 (by decide))
      (.ofDepth 3 (by decide)) 1000 1000 [] (numberedGoal 0) () () detour (by decide) (by decide)
      (detour.services_fits _ 1000 (numberedGoal 0))
      (detour.services_fits _ 1000 (numberedGoal 0))
  have late : 100 ≤ max enough 100 := Nat.le_max_right enough 100
  obtain ⟨first, second⟩ := ends (max enough 100) (Nat.le_max_left enough 100)
  have known := detour_answers 2 (by decide) (some "int") (by decide +kernel) _ late
  have blank := detour_answers 3 (by decide) none (by decide +kernel) _ late
  obtain rfl : v = some (.simpleType "int") := by simpa using first.symm.trans known
  obtain rfl : v' = none := by simpa using second.symm.trans blank
  obtain ⟨g, way, way', -, -, -, short, long, inside, full, -⟩ :=
    lost (.simpleType "int") (.head _) (by simp [contribution])
  exact ⟨g, way, way', short, long, inside, full⟩

end Deeper

end Pursuit

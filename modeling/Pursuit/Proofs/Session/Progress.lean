import Mathlib.Data.List.Basic
import Pursuit.Proofs.Ledger
import Pursuit.Proofs.Session.Course

/-! # How a session that runs smoothly goes on

As long as the pruner lets everything pass and nobody interrupts, a session goes from one request to
its answer in a few stretches: it undertakes the goal, requests one subgoal after the other, hands
the answers over, and concludes or goes on with another batch. Each stretch is one lemma here, about
what it does to the cache, to the goals that wait and to the list of resumptions. Times are left
open.
-/

namespace Pursuit

variable {W G V E : Type}

/-- The exchange holds nothing up. -/
def Exchange.Smooth : Exchange G V E → Prop
  | .check _ _ reply => reply = .ok false
  | .create _ _ reply => ∀ i, reply ≠ .error (.interrupt i)
  | .emit _ _ reply => reply = none
  | _ => True

/-- The goal whose evaluator was handed answers at a moment, and these answers. -/
def Moment.resumption? (m : Moment G V E) : Option (G × Ledger G (Option V)) :=
  match m.exchange with
  | .resume _ answers _ _ =>
    match m.session.point with
    | .resume f => some (f.goal, answers)
    | _ => none
  | _ => none

/-- What a goal was handed so far, by the list of all resumptions. -/
def handed [BEq G] (log : List (G × Ledger G (Option V))) (g : G) : List (Ledger G (Option V)) :=
  (log.filter (·.1 == g)).map (·.2)

theorem handed_append [BEq G] (log : List (G × Ledger G (Option V))) (g a : G)
    (answers : Ledger G (Option V)) :
    handed (log ++ [(g, answers)]) a =
      if g == a then handed log a ++ [answers] else handed log a := by
  rw [handed, List.filter_append, List.map_append, List.filter_cons]
  split
  · rfl
  · exact List.append_nil _

/-- A goal is answered for good. -/
def Answered [BEq G] (cache : Ledger G (Entry V)) (g : G) (value : Option V) : Prop :=
  cache.find? g = some ⟨.done, value⟩

/-- One cache differs from another in a goal alone, which is not answered there. -/
def Undertaken [BEq G] (g : G) (cache cache' : Ledger G (Entry V)) : Prop :=
  ∀ a, if g == a then ∃ e, cache'.find? a = some e ∧ e.state ≠ .done
    else cache'.find? a = cache.find? a

/-- One cache differs from another in a goal alone, which is answered there. -/
def Concluded [BEq G] (g : G) (value : Option V) (cache cache' : Ledger G (Entry V)) : Prop :=
  ∀ a, cache'.find? a = if g == a then some ⟨.done, value⟩ else cache.find? a

section Records

variable [BEq G] [EquivBEq G] {g : G} {value : Option V} {k k' k'' : Ledger G (Entry V)}

omit [EquivBEq G] in
theorem any_cons_iff (g a : G) (path : List G) :
    (g :: path).any (· == a) = true ↔ (g == a) = true ∨ path.any (· == a) = true := by
  rw [List.any_cons, Bool.or_eq_true]

theorem any_congr {a b : G} (same : (a == b) = true) (path : List G) :
    path.any (· == a) = path.any (· == b) := by
  simp only [BEq.congr_right same]

omit [EquivBEq G] in
theorem Answered.unique {v w : Option V} (first : Answered k g v) (second : Answered k g w) :
    v = w := by
  have equal := first.symm.trans second
  simpa using equal

theorem Answered.congr {a b : G} (answered : Answered k a value) (same : a == b) :
    Answered k b value :=
  (Ledger.find?_congr same k).symm.trans answered

theorem Undertaken.put (g : G) (k : Ledger G (Entry V)) {state : GoalState}
    (undone : state ≠ .done) :
    Undertaken g k (k.put g ⟨state, none⟩) := by
  intro a
  split
  · rename_i same
    exact ⟨_, Ledger.find?_put_of_eq k _ same, undone⟩
  · rename_i apart
    exact Ledger.find?_put_of_ne k _ (Bool.eq_false_iff.mpr apart)

theorem Undertaken.refl {e : Entry V} (found : k.find? g = some e) (undone : e.state ≠ .done) :
    Undertaken g k k := by
  intro a
  split
  · rename_i same
    exact ⟨e, (Ledger.find?_congr same k).symm.trans found, undone⟩
  · rfl

omit [EquivBEq G] in
theorem Undertaken.trans (first : Undertaken g k k') (second : Undertaken g k' k'') :
    Undertaken g k k'' := by
  intro a
  have before := first a
  have after := second a
  split
  · rename_i same
    rwa [if_pos same] at after
  · rename_i apart
    rw [if_neg apart] at before after
    exact after.trans before

theorem Undertaken.found (undertaken : Undertaken g k k') :
    ∃ e, k'.find? g = some e ∧ e.state ≠ .done := by
  have entry := undertaken g
  rwa [if_pos BEq.rfl] at entry

omit [EquivBEq G] in
theorem Undertaken.answered_iff (undertaken : Undertaken g k k') (a : G) (v : Option V) :
    Answered k' a v ↔ (g == a) = false ∧ Answered k a v := by
  have entry := undertaken a
  unfold Answered
  split at entry
  · rename_i same
    obtain ⟨e, found, unanswered⟩ := entry
    rw [found, same]
    constructor
    · intro equal
      exact absurd (congrArg Entry.state (Option.some.inj equal)) unanswered
    · rintro ⟨apart, -⟩
      cases apart
  · rename_i apart
    rw [entry, Bool.eq_false_iff.mpr apart]
    simp

omit [EquivBEq G] in
theorem Concluded.answered_iff (concluded : Concluded g value k k') (a : G) (v : Option V) :
    Answered k' a v ↔ if g == a then v = value else Answered k a v := by
  unfold Answered
  rw [concluded a]
  split
  · simp [eq_comm]
  · rfl

theorem Concluded.put (g : G) (value : Option V) (k : Ledger G (Entry V)) :
    Concluded g value k (k.put g ⟨.done, value⟩) :=
  fun a => Ledger.find?_put k g a _

omit [EquivBEq G] in
theorem Undertaken.concluded (undertaken : Undertaken g k k')
    (concluded : Concluded g value k' k'') : Concluded g value k k'' := by
  intro a
  have before := undertaken a
  rw [concluded a]
  split
  · rfl
  · rename_i apart
    rwa [if_neg apart] at before

end Records

namespace Session

variable [Keyed G] {s : Session G V E} {g : G}

theorem lookUp_of_done {value : Option V} (key : Keyed.isKey g = true)
    (done : s.cache.find? g = some ⟨.done, value⟩) : s.lookUp g = s.goTo (.answer value) := by
  rw [lookUp, if_pos key, done]

theorem lookUp_of_undone (key : Keyed.isKey g = true)
    (undone : ∀ v, s.cache.find? g ≠ some ⟨.done, v⟩) :
    s.lookUp g =
      if s.path.any (· == g) then s.goTo (.log (.cycleClosed g) (.answer none))
      else (s.setState g .pending).goTo (.enter g) := by
  rw [lookUp, if_pos key]
  split
  · rename_i v done
    exact absurd done (undone v)
  · rfl

theorem next_gate {root : G} {b : Nat} {started now : Float} {k : Ledger G (Entry V)}
    {C : List (Frame G V E)} (room : C.length < b) :
    Session.next ⟨root, b, started, now, k, C, .gate g⟩ =
      .check (elapsed ⟨root, b, started, now, k, C, .gate g⟩)
        (checked ⟨root, b, started, now, k, C, .gate g⟩ g false (.create g)) := by
  have short : ¬ b ≤ (path ⟨root, b, started, now, k, C, .gate g⟩).length := by
    simpa [path, Point.held?] using room
  simp only [next, if_neg short]

theorem path_any_of_request (standing : s.point = .request g) (k : G) :
    s.path.any (· == k) = s.callers.any (·.goal == k) := by
  simp [path, standing, Point.held?, Function.comp_def]

end Session

namespace Play

/-- Who was handed which answers so far. -/
def resumptions (c : Play W G V E) : List (G × Ledger G (Option V)) :=
  c.past.filterMap Moment.resumption?

/-- A play as far as it does not depend on the time. -/
def Stands (c : Play W G V E) (bound : Nat) (cache : Ledger G (Entry V))
    (callers : List (Frame G V E)) (point : Point G V E)
    (log : List (G × Ledger G (Option V))) : Prop :=
  (∃ root started now, c.session = ⟨root, bound, started, now, cache, callers, point⟩) ∧
    c.resumptions = log

theorem opening_announces [Keyed G] (h : Host W G V E) (settings : Settings) (stackLimit : Int)
    (root : G) (w : W) :
    ∃ k past w', k ≤ 1 ∧
      (opening h settings stackLimit root w).after h k = ⟨past,
        ⟨root, settings.depthBound stackLimit, h.clock w, h.clock w, [], [], .announce⟩, w'⟩ ∧
      (∀ m ∈ past, ∃ n, m.exchange = .record n) ∧ (w' = w ∨ ∃ n, w' = h.record n w) := by
  by_cases lowered : settings.depthBound stackLimit < settings.maxDepth
  · refine ⟨1, [⟨(opening h settings stackLimit root w).session,
      .record (.depthLowered settings.maxDepth (settings.depthBound stackLimit))⟩], _,
      Nat.le_refl 1, ?_, by simp,
      .inr ⟨.depthLowered settings.maxDepth (settings.depthBound stackLimit), rfl⟩⟩
    simp only [after, advance, opening, Session.start, if_pos lowered, Session.next, Host.meet,
      Session.goTo, List.nil_append]
  · refine ⟨0, [], w, Nat.zero_le 1, ?_, by simp, .inl rfl⟩
    simp only [after, opening, Session.start, if_neg lowered]

section Turns

variable {c : Play W G V E} {b : Nat} {k : Ledger G (Entry V)} {C : List (Frame G V E)}
  {p q : Point G V E} {L : List (G × Ledger G (Option V))}

variable [Keyed G] {h : Host W G V E} {P : Play W G V E → Exchange G V E → Prop}

/-- The next exchange of a play that always goes as `P` says. -/
theorem Stands.turn (stands : c.Stands b k C p L)
    (running : ∀ root started now o, Session.next ⟨root, b, started, now, k, C, p⟩ ≠ .halt o)
    (always : c.Always h P) :
    ∃ root started now x s,
      Session.Step ⟨root, b, started, now, k, C, p⟩ x s ∧ P c x ∧ (c.after h 1).session = s ∧
        (c.after h 1).resumptions =
          L ++ (Moment.resumption? ⟨⟨root, b, started, now, k, C, p⟩, x⟩).toList := by
  obtain ⟨⟨root, started, now, session⟩, log⟩ := stands
  have unended : c.session.outcome? = none := by
    cases ended : c.session.outcome? with
    | none => rfl
    | some o =>
        rw [session] at ended
        exact absurd ((Session.next_eq_halt_iff _ o).mpr ended) (running root started now o)
  obtain ⟨x, s, w, met, taken, next⟩ := exists_advance h unended
  rw [session] at taken
  refine ⟨root, started, now, x, s, taken, always.now met, ?_, ?_⟩
  · rw [after, after, next]
  · rw [after, after, next, ← log, session]
    simp only [resumptions, List.filterMap_append]
    rfl

theorem Stands.proceed (stands : c.Stands b k C p L) {k' : Ledger G (Entry V)}
    {C' : List (Frame G V E)}
    (next : ∀ root started now,
      Session.next ⟨root, b, started, now, k, C, p⟩ =
        .proceed ⟨root, b, started, now, k', C', q⟩) :
    (c.after h 1).Stands b k' C' q L := by
  obtain ⟨root, started, now, x, s, taken, -, session, log⟩ :=
    stands.turn (P := fun _ _ => True) (by simp [next]) fun _ _ _ _ _ => trivial
  rw [Session.Step, next] at taken
  cases taken
  exact ⟨⟨root, started, now, session⟩, log.trans (List.append_nil L)⟩

theorem Stands.log {n : SessionRecord G E} (stands : c.Stands b k C (.log n p) L) :
    (c.after h 1).Stands b k C p L := by
  obtain ⟨root, started, now, x, s, taken, -, session, log⟩ :=
    stands.turn (P := fun _ _ => True) (by simp [Session.next]) fun _ _ _ _ _ => trivial
  cases taken
  exact ⟨⟨root, started, now, session⟩, log.trans (List.append_nil L)⟩

theorem Stands.resumed {f : Frame G V E} {o : Outcome G V}
    (stands : c.Stands b k C (.resume f) L) (always : c.Always h P)
    (replies : ∀ now reply, P c (.resume f.evaluator f.answers now reply) → reply = .ok o)
    (next : ∀ (s : Session G V E) now, s.resumed f now (.ok o) = (s.after now).goTo q) :
    (c.after h 1).Stands b k C q (L ++ [(f.goal, f.answers)]) := by
  obtain ⟨root, started, now, x, s, taken, fits, session, log⟩ :=
    stands.turn (by simp [Session.next]) always
  cases taken with
  | resume now' reply =>
      obtain rfl := replies now' reply fits
      exact ⟨⟨root, started, now', session.trans (next _ now')⟩, log⟩

theorem Stands.begun {g : G} {evaluator : GoalEvaluator G E} {t : Float} {R : List G → Prop}
    (stands : c.Stands b k C (.init g evaluator t) L) (always : c.Always h P)
    (names : ∀ now reply, P c (.init evaluator now reply) → ∃ batch, reply = .ok batch ∧ R batch) :
    ∃ batch elapsed, R batch ∧
      (c.after h 1).Stands b k C (.initialized (.begin g evaluator t batch) elapsed) L := by
  obtain ⟨root, started, now, x, s, taken, fits, session, log⟩ :=
    stands.turn (by simp [Session.next]) always
  cases taken with
  | init now' reply =>
      obtain ⟨batch, rfl, named⟩ := names now' reply fits
      exact ⟨batch, _, named, ⟨root, started, now', session⟩, log.trans (List.append_nil L)⟩

theorem Stands.passes (stands : c.Stands b k C p L) (always : c.Always h P)
    (lenient : ∀ elapsed now reply, P c (.check elapsed now reply) → reply = .ok false)
    (g : G) (held : Bool)
    (next : ∀ root started now,
      Session.next ⟨root, b, started, now, k, C, p⟩ =
        .check (Session.elapsed ⟨root, b, started, now, k, C, p⟩)
          (Session.checked ⟨root, b, started, now, k, C, p⟩ g held q)) :
    (c.after h 1).Stands b k C q L := by
  have running : ∀ root started now o,
      Session.next ⟨root, b, started, now, k, C, p⟩ ≠ .halt o := by
    intro root started now o
    simp [next]
  obtain ⟨root, started, now, x, s, taken, fits, session, log⟩ := stands.turn running always
  rw [Session.Step, next] at taken
  cases taken with
  | check now' reply =>
      obtain rfl := lenient _ now' reply fits
      exact ⟨⟨root, started, now', session⟩, log.trans (List.append_nil L)⟩

section Quiet

variable (quiet : ∀ c event now reply, P c (.emit event now reply) → reply = none)

include quiet

theorem Stands.tell (stands : c.Stands b k C p L) (always : c.Always h P)
    (next : ∀ root started now, ∃ event,
      Session.next ⟨root, b, started, now, k, C, p⟩ =
        .emit event (Session.told ⟨root, b, started, now, k, C, p⟩ q)) :
    (c.after h 1).Stands b k C q L := by
  have running : ∀ root started now o,
      Session.next ⟨root, b, started, now, k, C, p⟩ ≠ .halt o := by
    intro root started now o
    obtain ⟨event, same⟩ := next root started now
    simp [same]
  obtain ⟨root, started, now, x, s, taken, fits, session, log⟩ := stands.turn running always
  obtain ⟨event, same⟩ := next root started now
  rw [Session.Step, same] at taken
  cases taken with
  | emit now' reply =>
      obtain rfl := quiet _ _ _ _ fits
      exact ⟨⟨root, started, now', session⟩, log.trans (List.append_nil L)⟩

theorem Stands.presented {g : G} {evaluator : GoalEvaluator G E}
    (stands : c.Stands b k C (.present g evaluator) L) (always : c.Always h P) :
    ∃ t, (c.after h 1).Stands b k C (.init g evaluator t) L := by
  obtain ⟨root, started, now, x, s, taken, fits, session, log⟩ :=
    stands.turn (by simp [Session.next]) always
  cases taken with
  | emit now' reply =>
      obtain rfl := quiet _ _ _ _ fits
      exact ⟨now', ⟨root, started, now', session⟩, log.trans (List.append_nil L)⟩

theorem Stands.reports {events : List (Event G V E)} {p : Point G V E}
    (stands : c.Stands b k C (.report events p) L) (always : c.Always h P) :
    c.Arrives h fun c' => c'.Stands b k C p L := by
  induction events generalizing c with
  | nil => exact ⟨1, stands.proceed fun _ _ _ => rfl⟩
  | cons event rest ih =>
      have told : (c.after h 1).Stands b k C (.report rest p) L :=
        stands.tell quiet always fun _ _ _ => ⟨event, rfl⟩
      exact .later (ih told (always.after 1))

theorem Stands.finishes [EquivBEq G] {g : G} {value : Option V} {held : Bool}
    (stands : c.Stands b k C (.finish g value held) L) (always : c.Always h P) :
    c.Arrives h fun c' => ∃ k', Concluded g value k k' ∧ c'.Stands b k' C (.answer value) L := by
  have finished : (c.after h 1).Stands b (k.put g ⟨.done, value⟩) C
      (.finished g value (((k.find? g).map (·.state)).getD .pending) held) L :=
    stands.proceed fun _ _ _ => rfl
  exact ⟨2, _, .put g value k, finished.tell quiet (always.after 1) fun _ _ _ => ⟨_, rfl⟩⟩

theorem Stands.gates {g : G} (stands : c.Stands b k C (.request g) L) (always : c.Always h P)
    (key : Keyed.isKey g = true) (undone : ∀ v, ¬ Answered k g v)
    (absent : C.any (·.goal == g) = false) :
    (c.after h 2).Stands b (k.put g ⟨.pending, none⟩) C (.gate g) L := by
  have entered : (c.after h 1).Stands b (k.put g ⟨.pending, none⟩) C (.enter g) L := by
    refine stands.proceed fun root started now => congrArg Demand.proceed ?_
    rw [Session.lookUp_of_undone key undone, Session.path_any_of_request rfl, absent]
    rfl
  exact entered.tell quiet (always.after 1) fun _ _ _ => ⟨_, rfl⟩

theorem Stands.concludes [EquivBEq G] {f : Frame G V E} {value : Option V}
    (stands : c.Stands b k C (.resume f) L) (always : c.Always h P)
    (replies : ∀ now reply, P c (.resume f.evaluator f.answers now reply) →
      reply = .ok (.done value)) :
    c.Arrives h fun c' => ∃ k', Concluded f.goal value k k' ∧
      c'.Stands b k' C (.answer value) (L ++ [(f.goal, f.answers)]) := by
  have reporting := stands.resumed always replies fun _ _ => rfl
  obtain ⟨n, producing⟩ := reporting.reports quiet (always.after 1)
  have onwards := (always.after 1).after n
  have finishing : (((c.after h 1).after h n).after h 1).Stands b k C (.finish f.goal value true)
      (L ++ [(f.goal, f.answers)]) :=
    producing.tell quiet onwards fun _ _ _ => ⟨_, rfl⟩
  obtain ⟨m, answered⟩ := finishing.finishes quiet (onwards.after 1)
  refine ⟨1 + n + 1 + m, ?_⟩
  rwa [after_add, after_add, after_add]

theorem announces {root : G} {started now : Float}
    (session : c.session = ⟨root, b, started, now, [], [], .announce⟩) (log : c.resumptions = [])
    (always : c.Always h P) : (c.after h 1).Stands b [] [] (.request root) [] := by
  obtain ⟨x, s, w, met, taken, next⟩ := exists_advance (c := c) h (by rw [session]; rfl)
  rw [session] at taken
  cases taken with
  | emit now' reply =>
      obtain rfl := quiet _ _ _ _ (always.now met)
      refine ⟨⟨root, started, now', ?_⟩, ?_⟩
      · rw [after, after, next]
        rfl
      · rw [after, after, next, ← log]
        simp only [resumptions, List.filterMap_append]
        exact List.append_nil _

theorem opening_requests {settings : Settings} {stackLimit : Int} {root : G} {w : W}
    (always : (opening h settings stackLimit root w).Always h P) :
    (opening h settings stackLimit root w).Arrives h fun c' =>
      c'.Stands (settings.depthBound stackLimit) [] [] (.request root) [] := by
  obtain ⟨k, past, w', -, opened, logged, -⟩ := opening_announces h settings stackLimit root w
  refine ⟨k + 1, ?_⟩
  rw [after_add]
  refine announces quiet (by rw [opened]) ?_ (always.after k)
  rw [opened, resumptions, List.filterMap_eq_nil_iff]
  intro m member
  obtain ⟨n, recorded⟩ := logged m member
  rw [Moment.resumption?, recorded]

end Quiet

variable (smooth : ∀ c x, P c x → x.Smooth)

include smooth

omit [Keyed G] in
theorem quiet_of_smooth (c : Play W G V E) (event : Event G V E) (now : Float)
    (reply : Option Interrupt) (fits : P c (.emit event now reply)) : reply = none :=
  smooth c _ fits

theorem Stands.check (stands : c.Stands b k C p L) (always : c.Always h P)
    (g : G) (held : Bool)
    (next : ∀ root started now,
      Session.next ⟨root, b, started, now, k, C, p⟩ =
        .check (Session.elapsed ⟨root, b, started, now, k, C, p⟩)
          (Session.checked ⟨root, b, started, now, k, C, p⟩ g held q)) :
    (c.after h 1).Stands b k C q L :=
  stands.passes always (fun _ _ _ fits => smooth _ _ fits) g held next

theorem Stands.created {g : G} (stands : c.Stands b k C (.create g) L) (always : c.Always h P) :
    c.Arrives h fun c' => ∃ evaluator, c'.Stands b k C (.assign g evaluator) L := by
  obtain ⟨root, started, now, x, s, taken, fits, session, log⟩ :=
    stands.turn (by simp [Session.next]) always
  cases taken with
  | create now' reply =>
      have unlogged : (c.after h 1).resumptions = L := log.trans (List.append_nil L)
      cases reply with
      | ok evaluator =>
          cases evaluator with
          | some e => exact ⟨1, _, ⟨root, started, now', session⟩, unlogged⟩
          | none =>
              have logged : (c.after h 1).Stands b k C (Session.withoutEvaluator g) L :=
                ⟨⟨root, started, now', session⟩, unlogged⟩
              exact ⟨2, _, logged.log⟩
      | error failure =>
          cases failure with
          | fault f =>
              have logged : (c.after h 1).Stands b k C
                  (.log (.factoryFailed g f) (Session.withoutEvaluator g)) L :=
                ⟨⟨root, started, now', session⟩, unlogged⟩
              exact ⟨3, _, (logged.log (h := h)).log⟩
          | interrupt i => exact absurd rfl (smooth _ _ fits i)

end Turns

section Stretches

variable [Keyed G] [EquivBEq G] {h : Host W G V E} {P : Play W G V E → Exchange G V E → Prop}
  {c : Play W G V E} {b : Nat} {k : Ledger G (Entry V)} {C : List (Frame G V E)}
  {L : List (G × Ledger G (Option V))}

omit [EquivBEq G] in
theorem Stands.recalls {g : G} {value : Option V} (stands : c.Stands b k C (.request g) L)
    (key : Keyed.isKey g = true) (done : Answered k g value) :
    c.Arrives h fun c' => c'.Stands b k C (.answer value) L := by
  refine .later (.here (stands.proceed fun root started now => ?_))
  exact congrArg Demand.proceed (Session.lookUp_of_done key done)

omit [EquivBEq G] in
theorem Stands.closes {g : G} (stands : c.Stands b k C (.request g) L)
    (key : Keyed.isKey g = true) (undone : ∀ v, ¬ Answered k g v)
    (active : C.any (·.goal == g) = true) :
    c.Arrives h fun c' => c'.Stands b k C (.answer none) L := by
  have logged : (c.after h 1).Stands b k C (.log (.cycleClosed g) (.answer none)) L := by
    refine stands.proceed fun root started now => congrArg Demand.proceed ?_
    rw [Session.lookUp_of_undone key undone, Session.path_any_of_request rfl, active]
    rfl
  exact .later (.later (.here logged.log))

variable (smooth : ∀ c x, P c x → x.Smooth)

include smooth

theorem Stands.rounds {f : Frame G V E} {e : Entry V} (stands : c.Stands b k C (.round f) L)
    (always : c.Always h P) (found : k.find? f.goal = some e) (undone : e.state ≠ .done) :
    c.Arrives h fun c' => ∃ k', Undertaken f.goal k k' ∧ c'.Stands b k' C (.dispatch f) L := by
  by_cases first : (!f.batch.isEmpty && e.state == .assigned) = true
  · have waiting : (c.after h 1).Stands b k C (.await f) L := by
      refine stands.check smooth always f.goal true fun root started now => ?_
      simp only [Session.next, Session.stateOf, found, Option.map_some, Option.getD_some, first,
        if_true]
    have recorded : ((c.after h 1).after h 1).Stands b (k.put f.goal ⟨.awaiting, none⟩) C
        (.awaiting f) L := waiting.proceed fun _ _ _ => rfl
    have told := recorded.tell (quiet_of_smooth smooth) (always.after 2) fun _ _ _ => ⟨_, rfl⟩
    exact .later (.later (.later (.here ⟨_, .put _ _ (by decide), told⟩)))
  · have passed : (c.after h 1).Stands b k C (.dispatch f) L := by
      refine stands.check smooth always f.goal true fun root started now => ?_
      simp only [Session.next, Session.stateOf, found, Option.map_some, Option.getD_some, first,
        if_false, Bool.false_eq_true]
    exact .later (.here ⟨k, .refl found undone, passed⟩)

omit [EquivBEq G] in
theorem Stands.admitted {g : G} (stands : c.Stands b k C (.gate g) L) (always : c.Always h P)
    (room : C.length < b) : (c.after h 1).Stands b k C (.create g) L :=
  stands.check smooth always g false fun _ _ _ => Session.next_gate room

omit [EquivBEq G] in
theorem Stands.admits {g : G} (stands : c.Stands b k C (.request g) L) (always : c.Always h P)
    (key : Keyed.isKey g = true) (undone : ∀ v, ¬ Answered k g v)
    (absent : C.any (·.goal == g) = false) (room : C.length < b) :
    c.Arrives h fun c' => ∃ evaluator,
      c'.Stands b (k.put g ⟨.pending, none⟩) C (.assign g evaluator) L := by
  have gated := stands.gates (quiet_of_smooth smooth) always key undone absent
  have passed : (c.after h 3).Stands b (k.put g ⟨.pending, none⟩) C (.create g) L :=
    gated.admitted smooth (always.after 2) room
  obtain ⟨n, assigning⟩ := passed.created smooth (always.after 3)
  exact ⟨3 + n, by rwa [after_add]⟩

theorem Stands.starts {g : G} {evaluator : GoalEvaluator G E} {R : List G → Prop}
    (stands : c.Stands b k C (.assign g evaluator) L) (always : c.Always h P)
    (names : ∀ c' t k' now reply, Stands c' b k' C (.init g evaluator t) L →
      P c' (.init evaluator now reply) → ∃ batch, reply = .ok batch ∧ R batch) :
    c.Arrives h fun c' => ∃ t batch k', R batch ∧ Undertaken g k k' ∧
      c'.Stands b k' C (.dispatch (.begin g evaluator t batch)) L := by
  have assigned : (c.after h 1).Stands b (k.put g ⟨.assigned, none⟩) C (.assigned g evaluator) L :=
    stands.proceed fun _ _ _ => rfl
  have presenting : (c.after h 2).Stands b (k.put g ⟨.assigned, none⟩) C (.present g evaluator) L :=
    assigned.tell (quiet_of_smooth smooth) (always.after 1) fun _ _ _ => ⟨_, rfl⟩
  obtain ⟨t, beginning⟩ := presenting.presented (quiet_of_smooth smooth) (always.after 2)
  obtain ⟨batch, elapsed, named, initialized⟩ :=
    beginning.begun (always.after 3) fun now reply => names _ _ _ now reply beginning
  have round : (c.after h 5).Stands b (k.put g ⟨.assigned, none⟩) C
      (.round (.begin g evaluator t batch)) L :=
    initialized.tell (quiet_of_smooth smooth) (always.after 4) fun _ _ _ => ⟨_, rfl⟩
  have undertaken : Undertaken g k (k.put g ⟨.assigned, none⟩) := .put g k (by decide)
  obtain ⟨entry, found, unanswered⟩ := undertaken.found
  obtain ⟨n, k', further, standing⟩ := round.rounds smooth (always.after 5) found unanswered
  refine ⟨5 + n, t, batch, k', named, undertaken.trans further, ?_⟩
  rwa [after_add]

/-- A new goal is undertaken: it gets an evaluator, and the evaluator names a batch. -/
theorem Stands.undertakes {g : G} {R : List G → Prop} (stands : c.Stands b k C (.request g) L)
    (always : c.Always h P) (key : Keyed.isKey g = true)
    (undone : ∀ v, ¬ Answered k g v) (absent : C.any (·.goal == g) = false)
    (room : C.length < b)
    (names : ∀ c' evaluator t k' now reply, Stands c' b k' C (.init g evaluator t) L →
      P c' (.init evaluator now reply) → ∃ batch, reply = .ok batch ∧ R batch) :
    c.Arrives h fun c' => ∃ evaluator t batch k', R batch ∧ Undertaken g k k' ∧
      c'.Stands b k' C (.dispatch (.begin g evaluator t batch)) L := by
  refine (stands.admits smooth always key undone absent room).trans fun n admitted => ?_
  obtain ⟨evaluator, assigning⟩ := admitted
  have starts := assigning.starts smooth (always.after n) fun c' => names c' evaluator
  refine starts.trans fun m started => .here ?_
  obtain ⟨t, batch, k', named, undertaken, dispatching⟩ := started
  have pending : Undertaken g k (k.put g ⟨.pending, none⟩) := .put g k (by decide)
  exact ⟨evaluator, t, batch, k', named, pending.trans undertaken, dispatching⟩

omit [EquivBEq G] smooth in
theorem Stands.requests {f : Frame G V E} {g : G} {rest : List G}
    (stands : c.Stands b k C (.dispatch f) L) (waiting : f.waiting = g :: rest) :
    ∃ t, (c.after h 1).Stands b k ({ f with requestedAt := t } :: C) (.request g) L := by
  obtain ⟨root, started, now, x, s, taken, -, session, log⟩ :=
    stands.turn (P := fun _ _ => True) (by simp [Session.next]) fun _ _ _ _ _ => trivial
  cases taken
  refine ⟨now, ⟨root, started, now, session.trans ?_⟩, log.trans (List.append_nil L)⟩
  simp only [Session.dispatch, waiting]

omit [EquivBEq G] smooth in
theorem Stands.receives {f : Frame G V E} {value : Option V}
    (stands : c.Stands b k (f :: C) (.answer value) L) :
    ∃ t, (c.after h 1).Stands b k C (.dispatch (f.receive value t)) L := by
  obtain ⟨root, started, now, x, s, taken, -, session, log⟩ :=
    stands.turn (P := fun _ _ => True) (by simp [Session.next]) fun _ _ _ _ _ => trivial
  cases taken
  exact ⟨now, ⟨root, started, now, session⟩, log.trans (List.append_nil L)⟩

omit [EquivBEq G] in
theorem Stands.resumes {f : Frame G V E} (stands : c.Stands b k C (.dispatch f) L)
    (always : c.Always h P) (waiting : f.waiting = []) :
    c.Arrives h fun c' => c'.Stands b k C (.resume f) L := by
  by_cases empty : f.batch.isEmpty
  · refine ⟨1, stands.proceed fun root started now => congrArg Demand.proceed ?_⟩
    simp only [Session.dispatch, waiting, empty, if_true]
    rfl
  · have asking : (c.after h 1).Stands b k C (.recheck f) L := by
      refine stands.proceed fun root started now => congrArg Demand.proceed ?_
      simp only [Session.dispatch, waiting, empty, if_false, Bool.false_eq_true]
      rfl
    exact ⟨2, asking.check smooth (always.after 1) f.goal true fun _ _ _ => rfl⟩

omit [EquivBEq G] smooth in
theorem Stands.ends {value : Option V} (stands : c.Stands b k [] (.answer value) L) :
    c.Arrives h fun c' => c'.session.outcome? = some (.ok value) := by
  obtain ⟨root, started, now, x, s, taken, -, session, log⟩ :=
    stands.turn (P := fun _ _ => True) (by simp [Session.next]) fun _ _ _ _ _ => trivial
  cases taken
  have logged : (c.after h 1).Stands b k []
      (.log (.evaluated root (now - started) k.length) (.halt (.ok value))) L :=
    ⟨⟨root, started, now, session⟩, log.trans (List.append_nil L)⟩
  obtain ⟨⟨_, _, _, halted⟩, -⟩ := logged.log (h := h)
  exact ⟨2, congrArg Session.outcome? halted⟩

theorem Stands.continues {f : Frame G V E} {goals : List G} {e : Entry V}
    (stands : c.Stands b k C (.resume f) L) (always : c.Always h P)
    (found : k.find? f.goal = some e) (undone : e.state ≠ .done)
    (replies : ∀ now reply, P c (.resume f.evaluator f.answers now reply) →
      reply = .ok (.more (.ok goals))) :
    c.Arrives h fun c' => ∃ k', Undertaken f.goal k k' ∧
      c'.Stands b k' C (.dispatch (.begin f.goal f.evaluator f.assignedAt goals))
        (L ++ [(f.goal, f.answers)]) := by
  have reporting := stands.resumed always replies fun _ _ => rfl
  obtain ⟨n, beginning⟩ := reporting.reports (quiet_of_smooth smooth) (always.after 1)
  obtain ⟨m, dispatching⟩ := beginning.rounds smooth ((always.after 1).after n) found undone
  refine ⟨1 + n + m, ?_⟩
  rwa [after_add, after_add]

omit [EquivBEq G] smooth in
/-- A batch is served when every request in it is answered; `I` is kept from request to request. -/
theorem Stands.serves {f : Frame G V E}
    {I : List G → Ledger G (Option V) → Ledger G (Entry V) → List (G × Ledger G (Option V)) → Prop}
    (stands : c.Stands b k C (.dispatch f) L) (always : c.Always h P)
    (start : I f.waiting f.answers k L)
    (serve : ∀ (c' : Play W G V E) (f' : Frame G V E) g rest k' L', f'.goal = f.goal →
      I (g :: rest) f'.answers k' L' → c'.Always h P →
      c'.Stands b k' (f' :: C) (.request g) L' → c'.Arrives h fun d => ∃ value k'' L'',
        I rest (f'.answers.put g value) k'' L'' ∧ d.Stands b k'' (f' :: C) (.answer value) L'') :
    c.Arrives h fun d => ∃ f' k' L', f'.goal = f.goal ∧ f'.evaluator = f.evaluator ∧
      f'.assignedAt = f.assignedAt ∧ f'.batch = f.batch ∧ f'.waiting = [] ∧
      I [] f'.answers k' L' ∧ d.Stands b k' C (.dispatch f') L' := by
  induction remaining : f.waiting generalizing c f k L with
  | nil => exact .here ⟨f, k, L, rfl, rfl, rfl, rfl, remaining, remaining ▸ start, stands⟩
  | cons g rest ih =>
      obtain ⟨t, requesting⟩ := stands.requests (h := h) remaining
      have served := serve _ { f with requestedAt := t } g rest k L rfl (remaining ▸ start)
        (always.after 1) requesting
      refine .later (served.trans fun n answered => ?_)
      obtain ⟨value, k', L', kept, answering⟩ := answered
      obtain ⟨t', dispatching⟩ := answering.receives (h := h)
      have received : ({ f with requestedAt := t } : Frame G V E).receive value t' =
          { f with
            waiting := rest
            answers := f.answers.put g value
            timings := f.timings ++ [t' - t]
            requestedAt := t } := by
        simp only [Frame.receive, remaining]
      rw [received] at dispatching
      have further := ih dispatching (((always.after 1).after n).after 1) kept serve rfl
      exact .later further

end Stretches

end Play

end Pursuit

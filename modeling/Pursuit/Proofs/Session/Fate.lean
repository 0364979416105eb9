import Mathlib.Data.List.Basic
import Pursuit.Proofs.Session.EventTree
import Pursuit.Proofs.Session.Path

/-! # What becomes of the goals of a session

A goal of a session may get an evaluator, its evaluator may come to a result, and in the end it is
answered. Each of these happens to a goal once, and listeners are told of it once: what a session
owes them at a point is what has happened by then and was not told.
-/

namespace Pursuit

variable {W G V E : Type}

/-- What listeners are told of. -/
inductive Matter where
  /-- The session starts. -/
  | start
  /-- A goal has an evaluator. -/
  | evaluator
  /-- The evaluator of a goal came to a result. -/
  | result
  /-- A goal is answered. -/
  | conclusion

def Event.tells : Matter → Event G V E → Bool
  | .start, .evaluationStarted _ => true
  | .evaluator, .evaluatorAssigned _ _ => true
  | .result, .produced _ _ _ => true
  | .conclusion, .stateChanged _ .done _ => true
  | _, _ => false

/-- The goal to which it happens at a moment. -/
def Moment.brings? (m : Moment G V E) (matter : Matter) : Option G :=
  match matter, m.session.point, m.exchange with
  | .evaluator, .assign g _, _ => some g
  | .result, .resume f, .resume _ _ _ (.ok (.done _)) => some f.goal
  | .conclusion, .finish g _ _, _ => some g
  | _, _, _ => none

/-- How often listeners are still to be told of the matter, after what has happened by then. -/
def Point.owes (matter : Matter) : Point G V E → Nat
  | .announce => match matter with
    | .start => 1
    | _ => 0
  | .assigned _ _ | .present _ _ => match matter with
    | .evaluator => 1
    | _ => 0
  | .produce _ _ => match matter with
    | .result => 1
    | _ => 0
  | .finished _ _ _ _ => match matter with
    | .conclusion => 1
    | _ => 0
  | .report _ p | .log _ p => p.owes matter
  | _ => 0

namespace Session

/-- A step tells what was owed, or what happens at it is owed from then on. -/
def Balances (s : Session G V E) (x : Exchange G V E) (s' : Session G V E) (matter : Matter) :
    Prop :=
  x.told.countP (·.tells matter) + s'.point.owes matter =
    s.point.owes matter + (Moment.brings? ⟨s, x⟩ matter).toList.length

variable {s s' : Session G V E} {x : Exchange G V E} {matter : Matter}

theorem balances_of_onward {p : Point G V E} (onward : s.point.Onward x p)
    (reports : s.point.Reports) (matter : Matter) (now : Float) :
    s.Balances x ((s.after now).goTo p) matter := by
  obtain ⟨root, bound, started, now', cache, callers, point⟩ := s
  cases onward with
  | pruned asked | prunerFailed asked =>
      cases point with
      | gate | round | recheck => cases matter <;> rfl
      | _ => cases asked
  | report event rest p =>
      obtain ⟨evaluator, finished, requested, elapsed, rfl⟩ := reports.1 event (.head _)
      cases matter <;> exact Nat.zero_add _
  | reported p | log n p => cases matter <;> exact Nat.zero_add _
  | _ => cases matter <;> rfl

/-- Listeners are told of all that happens in a session, one by one. -/
theorem Turn.balances [Keyed G] (turn : s.Turn x s') (reports : s.point.Reports)
    (running : s'.point.isOver = false) (matter : Matter) : s.Balances x s' matter := by
  obtain ⟨root, bound, started, now, cache, callers, point⟩ := s
  cases turn with
  | stay now onward => exact balances_of_onward onward reports matter now
  | escape now failure =>
      rw [escape_isOver] at running
      cases running
  | conclude => cases running
  | start now before | leave now before => cases before; cases matter <;> rfl
  | enter elapsed now before => cases before; cases matter <;> rfl
  | known before | close before | begin before | assign before => cases before; cases matter <;> rfl
  | await before | finish before | call before | back before => cases before; cases matter <;> rfl

end Session

/-! ## Once for each goal -/

/-- The goal whose answer is settled at a point and on its way to the record. -/
def Point.settling? : Point G V E → Option G
  | .produce f _ => some f.goal
  | .finish g _ _ | .finished g _ _ _ => some g
  | .report _ p | .log _ p => p.settling?
  | _ => none

namespace Session

/-- It has happened to the goal, by what is on record and where the session stands. -/
def Bears [BEq G] (s : Session G V E) (matter : Matter) (g : G) : Prop :=
  match matter with
  | .start => False
  | .evaluator => ∃ e, s.cache.find? g = some e ∧ e.state ≠ .pending
  | .result => (∃ v, s.cache.find? g = some ⟨.done, v⟩) ∨ ∃ k, s.point.settling? = some k ∧ k == g
  | .conclusion => ∃ v, s.cache.find? g = some ⟨.done, v⟩

variable [Keyed G] [EquivBEq G] {s s' : Session G V E} {x : Exchange G V E} {g : G}

theorem Bears.congr {matter : Matter} {a b : G} (same : a == b) (bears : s.Bears matter a) :
    s.Bears matter b := by
  cases matter with
  | start => exact bears
  | evaluator =>
      obtain ⟨e, found, state⟩ := bears
      exact ⟨e, by rw [← Ledger.find?_congr same, found], state⟩
  | result =>
      obtain ⟨v, done⟩ | ⟨k, settling, equal⟩ := bears
      · exact .inl ⟨v, by rw [← Ledger.find?_congr same, done]⟩
      · exact .inr ⟨k, settling, BEq.trans equal same⟩
  | conclusion =>
      obtain ⟨v, done⟩ := bears
      exact ⟨v, by rw [← Ledger.find?_congr same, done]⟩

omit [EquivBEq G] in
theorem Step.settling? (taken : s.Step x s') (coherent : s.Coherent)
    (running : s'.point.isOver = false) (settling : s.point.settling? = some g) :
    s'.point.settling? = some g ∨ ∃ v, s'.cache.find? g = some ⟨.done, v⟩ := by
  obtain ⟨root, bound, started, now, cache, callers, point⟩ := s
  cases point with
  | produce f v =>
      cases taken with | emit now reply =>
      cases reply with
      | none => exact .inl settling
      | some i => cases running
  | finish k v held => cases taken; exact .inl settling
  | finished k v old held =>
      cases settling
      cases taken with | emit now reply =>
      cases reply with
      | none => exact .inr ⟨v, (coherent.stands g rfl).2⟩
      | some i => cases running
  | report events p =>
      cases events with
      | nil => cases taken; exact .inl settling
      | cons event rest =>
          cases taken with | emit now reply =>
          cases reply with
          | none => exact .inl settling
          | some i => cases running
  | log n p => cases taken; exact .inl settling
  | _ => cases settling

theorem Turn.state_ne_pending (turn : Turn s x s') {e : Entry V}
    (found : s.cache.find? g = some e) (left : e.state ≠ .pending) :
    ∃ e', s'.cache.find? g = some e' ∧ e'.state ≠ .pending := by
  have put : ∀ k (e' : Entry V), e'.state ≠ .pending →
      ∃ e'', (s.cache.put k e').find? g = some e'' ∧ e''.state ≠ .pending := by
    intro k e' state
    rw [Ledger.find?_put]
    split
    · exact ⟨e', rfl, state⟩
    · exact ⟨e, found, left⟩
  cases turn with
  | @begin k before fresh =>
      have apart : (k == g) = false := by
        rw [Bool.eq_false_iff]
        intro same
        rw [Ledger.find?_congr same, found] at fresh
        cases fresh
      exact ⟨e, by rw [goTo, setState, Ledger.find?_put_of_ne _ _ apart, found], left⟩
  | assign | await | finish => exact put _ _ (by simp)
  | _ => exact ⟨e, found, left⟩

theorem Bears.step {matter : Matter} (bears : s.Bears matter g) (coherent : s.Coherent)
    (taken : s.Step x s') (running : s'.point.isOver = false) : s'.Bears matter g := by
  have done : ∀ v, s.cache.find? g = some ⟨.done, v⟩ → s'.cache.find? g = some ⟨.done, v⟩ :=
    fun v => (Effect.of_step coherent taken).done
  cases matter with
  | start => exact bears
  | evaluator =>
      obtain ⟨e, found, left⟩ := bears
      exact (Turn.of_step coherent taken).state_ne_pending found left
  | result =>
      obtain ⟨v, answered⟩ | ⟨k, settling, same⟩ := bears
      · exact .inl ⟨v, done v answered⟩
      · obtain still | ⟨v, answered⟩ := taken.settling? coherent running settling
        · exact .inr ⟨k, still, same⟩
        · exact .inl ⟨v, by rw [← Ledger.find?_congr same, answered]⟩
  | conclusion =>
      obtain ⟨v, answered⟩ := bears
      exact ⟨v, done v answered⟩

omit [EquivBEq G] in
theorem Coherent.atWork_of_result (coherent : s.Coherent)
    (brings : Moment.brings? ⟨s, x⟩ .result = some g) :
    ∃ e, s.cache.find? g = some e ∧ (e.state = .assigned ∨ e.state = .awaiting) := by
  obtain ⟨root, bound, started, now, cache, callers, point⟩ := s
  cases point with
  | resume f =>
      cases x with
      | resume evaluator answers now reply =>
          cases reply with
          | error => cases brings
          | ok outcome =>
              cases outcome with
              | more | stray => cases brings
              | done v =>
                  cases brings
                  obtain ⟨assigned, -⟩ | waits := (coherent.stands f.goal rfl).2
                  · exact ⟨_, assigned, .inl rfl⟩
                  · exact ⟨_, waits, .inr rfl⟩
      | _ => cases brings
  | _ => cases brings

/-- What happens to a goal had not happened to it before. -/
theorem Step.bears (taken : s.Step x s') (coherent : s.Coherent) {matter : Matter}
    (brings : Moment.brings? ⟨s, x⟩ matter = some g) : ¬ s.Bears matter g ∧ s'.Bears matter g := by
  obtain ⟨root, bound, started, now, cache, callers, point⟩ := s
  cases matter with
  | start => cases brings
  | evaluator =>
      cases point with
      | assign k evaluator =>
          cases brings
          cases taken
          have pending : cache.find? g = some ⟨.pending, none⟩ := (coherent.stands g rfl).2
          constructor
          · rintro ⟨e, found, left⟩
            rw [pending] at found
            cases found
            exact left rfl
          · exact ⟨_, Ledger.find?_put_self cache g _, nofun⟩
      | _ => cases brings
  | result =>
      cases point with
      | resume f =>
          -- a goal whose evaluator is handed answers is on record as at work, and no answer is
          -- settled
          have expects := (coherent.stands f.goal rfl).2
          cases taken with | resume now reply =>
          cases reply with
          | error => cases brings
          | ok outcome =>
              cases outcome with
              | more | stray => cases brings
              | done v =>
                  cases brings
                  refine ⟨?_, .inr ⟨f.goal, rfl, BEq.rfl⟩⟩
                  rintro (⟨v, answered⟩ | ⟨k, settling, -⟩)
                  · obtain ⟨assigned, -⟩ | waits := expects
                    · cases answered.symm.trans assigned
                    · cases answered.symm.trans waits
                  · cases settling
      | _ => cases brings
  | conclusion =>
      cases point with
      | finish k v held =>
          cases brings
          cases taken
          obtain ⟨state, undone, found⟩ := (coherent.stands g rfl).2
          refine ⟨?_, v, Ledger.find?_put_self cache g _⟩
          rintro ⟨v', answered⟩
          cases answered.symm.trans found
          exact undone rfl
      | _ => cases brings

end Session

namespace Play

/-- The goals to which it happened so far, in order. -/
def subjects (c : Play W G V E) (matter : Matter) : List G :=
  c.past.filterMap (·.brings? matter)

theorem subjects_concat (c : Play W G V E) (m : Moment G V E) (s : Session G V E) (w : W)
    (matter : Matter) :
    subjects ⟨c.past ++ [m], s, w⟩ matter = c.subjects matter ++ (m.brings? matter).toList := by
  simp only [subjects, List.filterMap_append, List.filterMap_cons, List.filterMap_nil]
  cases m.brings? matter <;> rfl

theorem events_concat (c : Play W G V E) (m : Moment G V E) (s : Session G V E) (w : W) :
    events ⟨c.past ++ [m], s, w⟩ = c.events ++ m.exchange.told := by
  simp [events, List.flatMap_append]

/-- What becomes of the goals of a session so far. -/
structure Fated [Keyed G] (c : Play W G V E) : Prop where
  coherent : c.session.Coherent
  reports : c.session.point.Reports
  /-- It happens to a goal once. -/
  apart : ∀ matter, (c.subjects matter).Pairwise fun a b => (a == b) = false
  bears : ∀ matter, ∀ g ∈ c.subjects matter, c.session.Bears matter g
  /-- A goal that is done was answered. -/
  concluded : ∀ g v, c.session.cache.find? g = some ⟨.done, v⟩ →
    (c.subjects .conclusion).any (· == g) = true
  /-- A goal at work has an evaluator. -/
  assigned : ∀ g e, c.session.cache.find? g = some e → e.state = .assigned ∨ e.state = .awaiting →
    (c.subjects .evaluator).any (· == g) = true
  /-- A goal with a result has an evaluator. -/
  worked : ∀ g ∈ c.subjects .result, (c.subjects .evaluator).any (· == g) = true
  /-- Listeners were told of all that happened, but for what is owed. -/
  told : ∀ matter, c.events.countP (·.tells matter) + c.session.point.owes matter =
    (c.subjects matter).length + (Point.announce : Point G V E).owes matter
  /-- No goal is on record twice. -/
  distinct : c.session.cache.keys.Pairwise fun a b => (a == b) = false

end Play

namespace Session.Turn

variable [Keyed G] [EquivBEq G] {s s' : Session G V E} {x : Exchange G V E} {g : G}

theorem done_cases (turn : Turn s x s') {v : Option V}
    (done : s'.cache.find? g = some ⟨.done, v⟩) :
    s.cache.find? g = some ⟨.done, v⟩ ∨
      ∃ k, Moment.brings? ⟨s, x⟩ .conclusion = some k ∧ (k == g) = true := by
  have put : ∀ k (e : Entry V), (s.cache.put k e).find? g = some ⟨.done, v⟩ →
      e.state ≠ .done → s.cache.find? g = some ⟨.done, v⟩ := by
    intro k e found undone
    rw [Ledger.find?_put] at found
    split at found
    · cases found
      exact absurd rfl undone
    · exact found
  cases turn with
  | begin | assign | await => exact .inl (put _ _ done nofun)
  | @finish k v' held before =>
      cases same : k == g with
      | true => exact .inr ⟨k, by simp only [Moment.brings?, before], same⟩
      | false => exact .inl (by rwa [Ledger.find?_put_of_ne _ _ same] at done)
  | _ => exact .inl done

theorem assigned_cases (turn : Turn s x s') (coherent : s.Coherent) {e : Entry V}
    (found : s'.cache.find? g = some e) (atWork : e.state = .assigned ∨ e.state = .awaiting) :
    (∃ e', s.cache.find? g = some e' ∧ (e'.state = .assigned ∨ e'.state = .awaiting)) ∨
      ∃ k, Moment.brings? ⟨s, x⟩ .evaluator = some k ∧ (k == g) = true := by
  have put : ∀ k (e' : Entry V), (s.cache.put k e').find? g = some e →
      (e'.state = .assigned ∨ e'.state = .awaiting →
        ∃ e'', s.cache.find? k = some e'' ∧ (e''.state = .assigned ∨ e''.state = .awaiting)) →
      ∃ e', s.cache.find? g = some e' ∧ (e'.state = .assigned ∨ e'.state = .awaiting) := by
    intro k e' found before
    rw [Ledger.find?_put] at found
    split at found
    · rename_i same
      cases found
      rw [← Ledger.find?_congr same]
      exact before atWork
    · exact ⟨e, found, atWork⟩
  cases turn with
  | begin => exact .inl (put _ _ found (by rintro (none | none) <;> cases none))
  | finish => exact .inl (put _ _ found (by rintro (none | none) <;> cases none))
  | @await f before =>
      refine .inl (put _ _ found fun _ => ?_)
      have expects := (coherent.stands f.goal (by rw [before]; rfl)).2
      rw [before] at expects
      exact ⟨_, expects, .inl rfl⟩
  | @assign k evaluator before =>
      cases same : k == g with
      | true => exact .inr ⟨k, by simp only [Moment.brings?, before], same⟩
      | false =>
          refine .inl ⟨e, ?_, atWork⟩
          rwa [goTo, setState, Ledger.find?_put_of_ne _ _ same] at found
  | _ => exact .inl ⟨e, found, atWork⟩

omit [EquivBEq G] in
theorem distinct (turn : Turn s x s') (coherent : s.Coherent)
    (distinct : s.cache.keys.Pairwise fun a b => (a == b) = false) :
    s'.cache.keys.Pairwise fun a b => (a == b) = false := by
  have rewritten : ∀ k (e e' : Entry V), s.cache.find? k = some e →
      (s.cache.put k e').keys.Pairwise fun a b => (a == b) = false := by
    intro k e e' found
    rwa [Ledger.keys_put_of_find? found]
  cases turn with
  | @begin k before fresh =>
      have new : s.cache.keys.any (· == k) = false := by rw [Ledger.any_keys, fresh]; rfl
      have appended : (s.cache.put k ⟨.pending, none⟩).keys = s.cache.keys ++ [k] := by
        rw [Ledger.keys_put, new, if_neg Bool.false_ne_true]
      simp only [goTo, setState]
      rw [appended, List.pairwise_append]
      refine ⟨distinct, List.pairwise_singleton _ _, ?_⟩
      intro a member b last
      rw [List.mem_singleton.mp last]
      exact Bool.eq_false_iff.mpr (List.any_eq_false.mp new a member)
  | @assign k evaluator before =>
      have expects := (coherent.stands k (by rw [before]; rfl)).2
      rw [before] at expects
      exact rewritten k _ _ expects
  | @await f before =>
      have expects := (coherent.stands f.goal (by rw [before]; rfl)).2
      rw [before] at expects
      exact rewritten f.goal _ _ expects
  | @finish k v held before =>
      have expects := (coherent.stands k (by rw [before]; rfl)).2
      rw [before] at expects
      obtain ⟨state, -, found⟩ := expects
      exact rewritten k _ _ found
  | _ => exact distinct

end Session.Turn

/-! ## In numbers -/

theorem countP_or {α : Type} {l : List α} {p q : α → Bool} (never : ∀ a, p a = true → q a = false) :
    l.countP (fun a => p a || q a) = l.countP p + l.countP q := by
  induction l with
  | nil => rfl
  | cons a rest ih =>
      simp only [List.countP_cons, ih]
      cases first : p a with
      | true => simp [never a first]; omega
      | false => simp; omega

theorem countP_beq_eq_one {α : Type} [BEq α] [EquivBEq α] {keys : List α} {a : α}
    (distinct : keys.Pairwise fun a b => (a == b) = false) (known : keys.any (· == a) = true) :
    keys.countP (a == ·) = 1 := by
  induction keys with
  | nil => cases known
  | cons k rest ih =>
      obtain ⟨first, distinct⟩ := List.pairwise_cons.mp distinct
      rw [List.countP_cons]
      cases same : k == a with
      | true =>
          have none : rest.countP (a == ·) = 0 := by
            rw [List.countP_eq_zero]
            intro b member equal
            have differs := first b member
            rw [BEq.trans same equal] at differs
            cases differs
          rw [none, if_pos (BEq.symm same)]
      | false =>
          rw [List.any_cons, same, Bool.false_or] at known
          rw [ih distinct known, if_neg (by rw [BEq.comm, same]; exact Bool.false_ne_true)]

theorem countP_any_eq_length {α : Type} [BEq α] [EquivBEq α] {keys members : List α}
    (distinct : keys.Pairwise fun a b => (a == b) = false)
    (apart : members.Pairwise fun a b => (a == b) = false)
    (known : ∀ a ∈ members, keys.any (· == a) = true) :
    keys.countP (fun k => members.any (· == k)) = members.length := by
  induction members with
  | nil => simp
  | cons a rest ih =>
      obtain ⟨first, apart⟩ := List.pairwise_cons.mp apart
      have split : keys.countP (fun k => (a :: rest).any (· == k)) =
          keys.countP (a == ·) + keys.countP (fun k => rest.any (· == k)) := by
        apply countP_or
        intro k here
        rw [List.any_eq_false]
        intro b member there
        have differs := first b member
        rw [BEq.trans here (BEq.symm there)] at differs
        cases differs
      rw [split, ih apart fun b member => known b (.tail _ member),
        countP_beq_eq_one distinct (known a (.head _)), List.length_cons, Nat.add_comm]

theorem Point.isOver_of_isEnding {p : Point G V E} (ending : p.isEnding = true) :
    p.isOver = true := by
  induction p with
  | log n p ih => exact ih ending
  | halt => rfl
  | _ => cases ending

theorem Session.outcome?_eq_none {s : Session G V E} (running : s.point.isOver = false) :
    s.outcome? = none := by
  obtain ⟨root, bound, started, now, cache, callers, point⟩ := s
  cases point with
  | halt => cases running
  | _ => rfl

namespace Play

variable [Keyed G] [EquivBEq G] {c : Play W G V E}

omit [EquivBEq G] in
theorem Fated.opening (h : Host W G V E) (settings : Settings) (stackLimit : Int) (root : G)
    (w : W) : (opening h settings stackLimit root w).Fated where
  coherent := .start root _ _ _
  reports := by
    simp only [Play.opening, Session.start]
    split <;> trivial
  apart _ := .nil
  bears _ _ member := by cases member
  concluded g v found := by cases found
  assigned g e found := by cases found
  worked _ member := by cases member
  told matter := by
    simp only [Play.opening, Session.start]
    split <;> exact rfl
  distinct := .nil

theorem Fated.step (fated : c.Fated) {x : Exchange G V E} {s : Session G V E}
    (taken : c.session.Step x s) (running : s.point.isOver = false) (w : W) :
    Fated ⟨c.past ++ [⟨c.session, x⟩], s, w⟩ := by
  have turn := Session.Turn.of_step fated.coherent taken
  have more : ∀ matter g, (c.subjects matter).any (· == g) = true ∨
      (∃ k, Moment.brings? ⟨c.session, x⟩ matter = some k ∧ (k == g) = true) →
      (subjects ⟨c.past ++ [⟨c.session, x⟩], s, w⟩ matter).any (· == g) = true := by
    intro matter g happened
    rw [subjects_concat, List.any_append]
    obtain before | ⟨k, now, same⟩ := happened
    · rw [before, Bool.true_or]
    · rw [now]
      simp [same]
  refine
    { coherent := fated.coherent.step taken
      reports := Session.reports_step fated.reports taken
      apart := ?_, bears := ?_, concluded := ?_, assigned := ?_, worked := ?_, told := ?_
      distinct := turn.distinct fated.coherent fated.distinct }
  · intro matter
    rw [subjects_concat, List.pairwise_append]
    refine ⟨fated.apart matter, ?_, ?_⟩
    · cases Moment.brings? ⟨c.session, x⟩ matter with
      | none => exact .nil
      | some g => exact List.pairwise_singleton _ _
    · intro a before b now
      have fresh := (taken.bears fated.coherent (Option.mem_toList.mp now)).1
      rw [Bool.eq_false_iff]
      intro same
      exact fresh ((fated.bears matter a before).congr same)
  · intro matter g member
    rw [subjects_concat, List.mem_append] at member
    obtain before | now := member
    · exact (fated.bears matter g before).step fated.coherent taken running
    · exact (taken.bears fated.coherent (Option.mem_toList.mp now)).2
  · intro g v done
    apply more
    exact (turn.done_cases done).imp_left (fated.concluded g v)
  · intro g e found atWork
    apply more
    refine (turn.assigned_cases fated.coherent found atWork).imp_left ?_
    rintro ⟨e', before, work⟩
    exact fated.assigned g e' before work
  · intro g member
    apply more
    left
    rw [subjects_concat, List.mem_append] at member
    obtain before | now := member
    · exact fated.worked g before
    · obtain ⟨e, found, atWork⟩ := fated.coherent.atWork_of_result (Option.mem_toList.mp now)
      exact fated.assigned g e found atWork
  · -- what the step owes or tells goes into the balance of the session
    intro matter
    have balance := turn.balances fated.reports running matter
    have before := fated.told matter
    unfold Session.Balances at balance
    rw [events_concat, List.countP_append, subjects_concat, List.length_append]
    change _ + x.told.countP _ + s.point.owes matter = _
    omega

theorem running_of_answer {h : Host W G V E} (kept : c.session.Kept) {n : Nat} {v : Option V}
    (answers : (c.after h n).session.answer? = some v) {k : Nat} (early : k ≤ n) :
    (c.after h k).session.point.isOver = false := by
  cases halted : (c.after h k).session.point.isOver with
  | false => rfl
  | true =>
      obtain ⟨m, rfl⟩ := Nat.exists_eq_add_of_le early
      have ending : (c.after h (k + m)).session.point.isEnding = true := by
        rw [after_add]
        exact Play.invariant (fun _ _ _ => Session.isEnding_step)
          ((kept_after kept k).ending halted) m
      rw [((Session.answer?_eq_some_iff _ v).mp answers).1] at ending
      cases ending

omit [EquivBEq G] in
/-- What every exchange of a session that goes on keeps to holds for as long as it goes on. -/
theorem along_running {h : Host W G V E} {I : Nat → Play W G V E → Prop} {n : Nat}
    (running : ∀ k, k ≤ n → (c.after h k).session.point.isOver = false) (start : I 0 c)
    (step : ∀ k x s w, k < n → I k (c.after h k) →
      h.meet (c.after h k).world (c.after h k).session.next = some (x, s, w) →
      (c.after h k).session.Step x s → s.point.isOver = false →
      I (k + 1) ⟨(c.after h k).past ++ [⟨(c.after h k).session, x⟩], s, w⟩) :
    I n (c.after h n) := by
  induction n with
  | zero => exact start
  | succ n ih =>
      have before := ih (fun k early => running k (Nat.le_succ_of_le early))
        fun k x s w early => step k x s w (Nat.lt_succ_of_lt early)
      have unfinished := Session.outcome?_eq_none (running n (Nat.le_succ n))
      obtain ⟨x, s, w, met, taken, next⟩ := exists_advance h unfinished
      have further := running (n + 1) (Nat.le_refl _)
      rw [after, next] at further ⊢
      exact step n x s w (Nat.lt_succ_self n) before met taken further

theorem fated_after {h : Host W G V E} (fated : c.Fated) {n : Nat}
    (running : ∀ k, k ≤ n → (c.after h k).session.point.isOver = false) :
    (c.after h n).Fated := by
  apply along_running (I := fun _ c => c.Fated) running fated
  intro k x s w _ before _ taken further
  exact before.step taken further w

/-- How many of the goals on record it happened to. -/
def share (c : Play W G V E) (matter : Matter) : Nat :=
  c.session.cache.keys.countP fun g => (c.subjects matter).any (· == g)

/-- Between goals, whatever happened to a goal is counted once. -/
theorem Fated.share_eq (fated : c.Fated) (between : c.session.point.settling? = none)
    (matter : Matter) : c.share matter = (c.subjects matter).length := by
  apply countP_any_eq_length fated.distinct (fated.apart matter)
  intro g member
  rw [Ledger.any_keys]
  have bears := fated.bears matter g member
  cases matter with
  | start => cases bears
  | evaluator =>
      obtain ⟨e, found, -⟩ := bears
      rw [found]
      rfl
  | result =>
      obtain ⟨v, found⟩ | ⟨k, settling, -⟩ := bears
      · rw [found]
        rfl
      · rw [between] at settling
        cases settling
  | conclusion =>
      obtain ⟨v, found⟩ := bears
      rw [found]
      rfl

/-- Where the root is answered, all goals on record are. -/
theorem Fated.share_conclusion (fated : c.Fated) (kept : c.session.Kept) {v : Option V}
    (answers : c.session.answer? = some v) :
    c.share .conclusion = c.session.cache.keys.length := by
  obtain ⟨standing, alone⟩ := (Session.answer?_eq_some_iff _ v).mp answers
  rw [share, List.countP_eq_length]
  intro g member
  have known : (c.session.cache.find? g).isSome = true := by
    rw [← Ledger.any_keys, List.any_eq_true]
    exact ⟨g, member, BEq.rfl⟩
  obtain ⟨⟨state, result⟩, found⟩ := Option.isSome_iff_exists.mp known
  obtain rfl : state = .done := kept.settled standing alone found
  exact fated.concluded g result found

/-- A goal with a result has an evaluator. -/
theorem Fated.share_result_le (fated : c.Fated) : c.share .result ≤ c.share .evaluator := by
  apply List.countP_mono_left
  intro g _ happened
  obtain ⟨a, member, same⟩ := List.any_eq_true.mp happened
  obtain ⟨b, happened, equal⟩ := List.any_eq_true.mp (fated.worked a member)
  exact List.any_eq_true.mpr ⟨b, happened, BEq.trans equal same⟩

end Play

end Pursuit

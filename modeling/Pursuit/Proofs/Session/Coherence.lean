import Mathlib.Data.List.Basic
import Pursuit.Proofs.Ledger
import Pursuit.Proofs.Session.Course

/-! # What a session keeps straight

At each point the session stands at one goal or between goals; below it wait the goals that asked
for it. `Coherent` says how these and the cache hang together: no goal stands twice on the path,
each is recorded as far as it has come, and every other goal on record is answered. Cycles are
recognised by the path, so this is what evaluating each goal at most once comes down to.
-/

namespace Pursuit

variable {G V E : Type}

namespace Point

/-- The goal at which a point stands, on the path or not yet on it. -/
def subject? : Point G V E → Option G
  | .enter g | .gate g | .create g | .assign g _ | .assigned g _ | .present g _ => some g
  | .init g _ _ | .finish g _ _ | .finished g _ _ _ => some g
  | .initialized f _ | .round f | .await f | .awaiting f => some f.goal
  | .dispatch f | .recheck f | .resume f | .produce f _ => some f.goal
  | .report _ p | .log _ p => p.subject?
  | .announce | .request _ | .answer _ | .halt _ => none

def frame? : Point G V E → Option (Frame G V E)
  | .initialized f _ | .round f | .await f | .awaiting f => some f
  | .dispatch f | .recheck f | .resume f | .produce f _ => some f
  | .report _ p | .log _ p => p.frame?
  | _ => none

/-- Nothing is left but to end. -/
def isOver : Point G V E → Bool
  | .report _ p | .log _ p => p.isOver
  | .halt _ => true
  | _ => false

/-- What is on record about the goal at which a point stands. A goal with a batch that is not empty
    waits before its first subgoal is requested. -/
def Expects : Point G V E → Option (Entry V) → Prop
  | .enter _ | .gate _ | .create _ | .assign _ _ => fun e => e = some ⟨.pending, none⟩
  | .assigned _ _ | .present _ _ | .init _ _ _ | .initialized _ _ | .await _ =>
      fun e => e = some ⟨.assigned, none⟩
  | .awaiting _ => fun e => e = some ⟨.awaiting, none⟩
  | .round _ => fun e => e = some ⟨.assigned, none⟩ ∨ e = some ⟨.awaiting, none⟩
  | .dispatch f | .recheck f | .resume f | .produce f _ =>
      fun e => e = some ⟨.assigned, none⟩ ∧ f.batch = [] ∨ e = some ⟨.awaiting, none⟩
  | .finish _ _ _ => fun e => ∃ state, state ≠ .done ∧ e = some ⟨state, none⟩
  | .finished _ v _ _ => fun e => e = some ⟨.done, v⟩
  | .report _ p | .log _ p => p.Expects
  | .announce | .request _ | .answer _ | .halt _ => fun _ => True

theorem subject?_of_isOver {p : Point G V E} (halted : p.isOver = true) : p.subject? = none := by
  induction p with
  | report _ _ ih => exact ih halted
  | log _ _ ih => exact ih halted
  | halt => rfl
  | _ => cases halted

theorem frame?_of_isOver {p : Point G V E} (halted : p.isOver = true) : p.frame? = none := by
  induction p with
  | report _ _ ih => exact ih halted
  | log _ _ ih => exact ih halted
  | halt => rfl
  | _ => cases halted

end Point

namespace Session

theorem escape_callers (s : Session G V E) (failure : Failure) :
    (s.escape failure).callers = [] := rfl

theorem escape_isOver (s : Session G V E) (failure : Failure) :
    (s.escape failure).point.isOver = true := by
  unfold escape
  split
  · split <;> rfl
  · rfl

variable [Keyed G]

/-- How path, frames and cache hang together. -/
structure Coherent (s : Session G V E) : Prop where
  /-- No goal waits twice. -/
  apart : s.callers.Pairwise fun f f' => (f.goal == f'.goal) = false
  /-- A goal that waits is on record as one that does. -/
  waits : ∀ f ∈ s.callers, s.cache.find? f.goal = some ⟨.awaiting, none⟩
  /-- The goal at which the session stands does not wait, and it is on record as far as it has
  come. -/
  stands : ∀ g, s.point.subject? = some g →
    (∀ f ∈ s.callers, (f.goal == g) = false) ∧ s.point.Expects (s.cache.find? g)
  /-- Any other goal on record is answered, unless the session broke off. -/
  settled : s.point.isOver = false → ∀ g e, s.cache.find? g = some e → e.state ≠ .done →
    (∃ f ∈ s.callers, f.goal == g) ∨ ∃ k, s.point.subject? = some k ∧ k == g
  /-- What a frame still waits for is the end of its batch. -/
  pending : ∀ f, f ∈ s.callers ∨ s.point.frame? = some f → f.waiting <:+ f.batch

namespace Coherent

variable {s : Session G V E}

theorem start (root : G) (wanted bound : Nat) (now : Float) :
    Coherent (.start root wanted bound now : Session G V E) := by
  unfold Session.start
  split <;>
    exact
      { apart := .nil
        waits := by simp
        stands := by simp [Point.subject?]
        settled := by simp
        pending := by simp [Point.frame?] }

theorem halted (alone : s.callers = []) (ended : s.point.isOver = true) : Coherent s where
  apart := by simp [alone]
  waits := by simp [alone]
  stands := by simp [Point.subject?_of_isOver ended]
  settled := by simp [ended]
  pending := by simp [alone, Point.frame?_of_isOver ended]

theorem escape (s : Session G V E) (failure : Failure) : Coherent (s.escape failure) :=
  .halted (s.escape_callers failure) (s.escape_isOver failure)

theorem goTo (coherent : Coherent s) (now : Float) {p : Point G V E}
    (subject : p.subject? = s.point.subject?)
    (expects : ∀ g, s.point.subject? = some g →
      s.point.Expects (s.cache.find? g) → p.Expects (s.cache.find? g))
    (frame : ∀ f, p.frame? = some f → s.point.frame? = some f ∨ f.waiting <:+ f.batch)
    (running : p.isOver = false → s.point.isOver = false) :
    Coherent ((s.after now).goTo p) where
  apart := coherent.apart
  waits := coherent.waits
  stands := by
    intro g standing
    have before := subject ▸ standing
    obtain ⟨alone, recorded⟩ := coherent.stands g before
    exact ⟨alone, expects g before recorded⟩
  settled := by
    intro further g e found undone
    rcases coherent.settled (running further) g e found undone with waiting | ⟨k, standing, same⟩
    · exact .inl waiting
    · exact .inr ⟨k, subject.trans standing, same⟩
  pending := by
    rintro f (waiting | inside)
    · exact coherent.pending f (.inl waiting)
    · rcases frame f inside with before | shape
      · exact coherent.pending f (.inr before)
      · exact shape

theorem told (coherent : Coherent s) (now : Float) (reply : Option Interrupt) {p : Point G V E}
    (subject : p.subject? = s.point.subject?)
    (expects : ∀ g, s.point.subject? = some g →
      s.point.Expects (s.cache.find? g) → p.Expects (s.cache.find? g))
    (frame : ∀ f, p.frame? = some f → s.point.frame? = some f ∨ f.waiting <:+ f.batch)
    (running : p.isOver = false → s.point.isOver = false) : Coherent (s.told p now reply) := by
  cases reply with
  | none => exact coherent.goTo now subject expects frame running
  | some i => exact escape (s.after now) (.interrupt i)

theorem checked (coherent : Coherent s) {g : G} {held : Bool} (now : Float)
    (reply : Except Failure Bool) {pass : Point G V E}
    (standing : s.point.subject? = some g)
    (undone : ∀ e, s.point.Expects e → ∃ state, state ≠ .done ∧ e = some ⟨state, none⟩)
    (subject : pass.subject? = s.point.subject?)
    (expects : ∀ g, s.point.subject? = some g →
      s.point.Expects (s.cache.find? g) → pass.Expects (s.cache.find? g))
    (frame : ∀ f, pass.frame? = some f → s.point.frame? = some f ∨ f.waiting <:+ f.batch)
    (running : s.point.isOver = false) : Coherent (s.checked g held pass now reply) := by
  match reply with
  | .ok false => exact coherent.goTo now subject expects frame fun _ => running
  | .ok true =>
      exact coherent.goTo now standing.symm (fun _ _ => undone _) (by simp [prune, Point.frame?])
        fun _ => running
  | .error (.fault f) =>
      exact coherent.goTo now standing.symm (fun _ _ => undone _) (by simp [prune, Point.frame?])
        fun _ => running
  | .error (.interrupt i) => exact escape (s.after now) (.interrupt i)

section Lawful

variable [EquivBEq G]

/-- Writing to the record of the goal at which the session stands disturbs no other goal. -/
theorem write (coherent : Coherent s) {g : G} (standing : s.point.subject? = some g)
    (running : s.point.isOver = false) (e : Entry V) {p : Point G V E}
    (subject : p.subject? = some g) (expects : p.Expects (some e))
    (frame : ∀ f, p.frame? = some f → s.point.frame? = some f) :
    Coherent { s with cache := s.cache.put g e, point := p } where
  apart := coherent.apart
  waits := by
    intro f waiting
    have apart := (coherent.stands g standing).1 f waiting
    simp only [Ledger.find?_put_of_ne _ e (BEq.comm.trans apart), coherent.waits f waiting]
  stands := by
    intro k at_
    obtain rfl : g = k := Option.some.inj (subject.symm.trans at_)
    exact ⟨(coherent.stands g standing).1, by rwa [Ledger.find?_put_self]⟩
  settled := by
    intro _ k e' found undone
    by_cases same : g == k
    · exact .inr ⟨g, subject, same⟩
    · simp only [Ledger.find?_put, same] at found
      rcases coherent.settled running k e' found undone with waiting | ⟨k', at_, same'⟩
      · exact .inl waiting
      · obtain rfl : g = k' := Option.some.inj (standing.symm.trans at_)
        exact absurd same' same
  pending := by
    rintro f (waiting | inside)
    · exact coherent.pending f (.inl waiting)
    · exact coherent.pending f (.inr (frame f inside))

theorem lookUp (coherent : Coherent s) {g : G} (standing : s.point = .request g) :
    Coherent (s.lookUp g) := by
  have running : s.point.isOver = false := by rw [standing]; rfl
  have between : s.point.subject? = none := by rw [standing]; rfl
  unfold Session.lookUp
  split
  · split
    · exact coherent.goTo s.now between.symm (fun _ _ _ => trivial) (by simp [Point.frame?])
        fun _ => running
    · split
      · exact coherent.goTo s.now between.symm (fun _ _ _ => trivial) (by simp [Point.frame?])
          fun _ => running
      · rename_i absent
        have path : s.path = s.callers.map (·.goal) := by
          simp [Session.path, standing, Point.held?]
        have fresh : ∀ f ∈ s.callers, (f.goal == g) = false := by
          intro f waiting
          rw [Bool.eq_false_iff]
          intro same
          exact absent (by rw [path, List.any_map]; exact List.any_eq_true.mpr ⟨f, waiting, same⟩)
        exact
          { apart := coherent.apart
            waits := by
              intro f waiting
              change (s.cache.put g ⟨.pending, none⟩).find? f.goal = _
              rw [Ledger.find?_put_of_ne _ _ (BEq.comm.trans (fresh f waiting)),
                coherent.waits f waiting]
            stands := by
              intro k at_
              obtain rfl : g = k := Option.some.inj at_
              exact ⟨fresh, Ledger.find?_put_self _ _ _⟩
            settled := by
              intro _ k e found undone
              change (s.cache.put g ⟨.pending, none⟩).find? k = _ at found
              by_cases same : g == k
              · exact .inr ⟨g, rfl, same⟩
              · simp only [Ledger.find?_put, same] at found
                rcases coherent.settled running k e found undone with waiting | ⟨k', at_, -⟩
                · exact .inl waiting
                · rw [between] at at_
                  cases at_
            pending := by
              rintro f (waiting | inside)
              · exact coherent.pending f (.inl waiting)
              · cases inside }
  · exact escape s (.fault .badType)

theorem deliver (coherent : Coherent s) {value : Option V} (standing : s.point = .answer value) :
    Coherent (s.deliver value) := by
  have running : s.point.isOver = false := by rw [standing]; rfl
  have between : s.point.subject? = none := by rw [standing]; rfl
  unfold Session.deliver
  split
  · rename_i alone
    exact .halted alone rfl
  · rename_i f rest stack
    have apart := coherent.apart
    rw [stack, List.pairwise_cons] at apart
    have waits : ∀ f' ∈ f :: rest, s.cache.find? f'.goal = some ⟨.awaiting, none⟩ :=
      fun f' waiting => coherent.waits f' (stack ▸ waiting)
    have shape : ∀ f' ∈ f :: rest, f'.waiting <:+ f'.batch :=
      fun f' waiting => coherent.pending f' (.inl (stack ▸ waiting))
    have goal : (f.receive value s.now).goal = f.goal := by
      unfold Frame.receive
      split <;> rfl
    have received : (f.receive value s.now).waiting <:+ (f.receive value s.now).batch := by
      have before := shape f List.mem_cons_self
      unfold Frame.receive
      split
      · exact before
      · rename_i g rest' waiting
        rw [waiting] at before
        exact (List.suffix_cons g rest').trans before
    exact
      { apart := apart.2
        waits := fun f' waiting => waits f' (List.mem_cons_of_mem f waiting)
        stands := by
          intro k at_
          obtain rfl : f.goal = k := goal ▸ Option.some.inj at_
          refine ⟨fun f' waiting => BEq.comm.trans (apart.1 f' waiting), .inr ?_⟩
          exact waits f List.mem_cons_self
        settled := by
          intro _ k e found undone
          rcases coherent.settled running k e found undone with ⟨f', waiting, same⟩ | ⟨k', at_, -⟩
          · rcases List.mem_cons.mp (stack ▸ waiting) with rfl | waiting
            · exact .inr ⟨f'.goal, congrArg some goal, same⟩
            · exact .inl ⟨f', waiting, same⟩
          · rw [between] at at_
            cases at_
        pending := by
          rintro f' (waiting | inside)
          · exact shape f' (List.mem_cons_of_mem f waiting)
          · obtain rfl := Option.some.inj inside
            exact received }

theorem dispatch (coherent : Coherent s) {f : Frame G V E} (standing : s.point = .dispatch f) :
    Coherent (s.dispatch f) := by
  have running : s.point.isOver = false := by rw [standing]; rfl
  have subject : s.point.subject? = some f.goal := by rw [standing]; rfl
  obtain ⟨alone, recorded⟩ := coherent.stands f.goal subject
  have shape := coherent.pending f (.inr (by rw [standing]; rfl))
  rw [standing] at recorded
  unfold Session.dispatch
  split
  · rename_i g rest waiting
    -- a batch with a subgoal left is not empty, so the goal was already made to wait
    have recorded : s.cache.find? f.goal = some ⟨.awaiting, none⟩ := by
      rcases recorded with ⟨-, empty⟩ | recorded
      · rw [waiting, empty] at shape
        exact absurd (List.suffix_nil.mp shape) (List.cons_ne_nil g rest)
      · exact recorded
    exact
      { apart := List.pairwise_cons.mpr
          ⟨fun f' waits => BEq.comm.trans (alone f' waits), coherent.apart⟩
        waits := by
          intro f' waits
          rcases List.mem_cons.mp waits with rfl | waits
          · exact recorded
          · exact coherent.waits f' waits
        stands := by
          intro k at_
          cases at_
        settled := by
          intro _ k e found undone
          rcases coherent.settled running k e found undone with ⟨f', waits, same⟩ | ⟨k', at_, same⟩
          · exact .inl ⟨f', List.mem_cons_of_mem _ waits, same⟩
          · obtain rfl : f.goal = k' := Option.some.inj (subject.symm.trans at_)
            exact .inl ⟨_, List.mem_cons_self, same⟩
        pending := by
          rintro f' (waits | inside)
          · rcases List.mem_cons.mp waits with rfl | waits
            · exact shape
            · exact coherent.pending f' (.inl waits)
          · cases inside }
  · have follows : ∀ p : Point G V E, p = .resume f ∨ p = .recheck f →
        Coherent ((s.after s.now).goTo p) := by
      rintro p (rfl | rfl) <;>
        exact coherent.goTo s.now subject.symm (by rw [standing]; exact fun _ _ => id)
          (by rw [standing]; exact fun _ => .inl) fun _ => running
    split
    · exact follows _ (.inl rfl)
    · exact follows _ (.inr rfl)

theorem leave (coherent : Coherent s) (now : Float) {g : G} {value : Option V} {old : GoalState}
    {held : Bool} (standing : s.point = .finished g value old held) :
    Coherent ((s.after now).goTo (.answer value)) := by
  have running : s.point.isOver = false := by rw [standing]; rfl
  have subject : s.point.subject? = some g := by rw [standing]; rfl
  have recorded := (coherent.stands g subject).2
  rw [standing] at recorded
  exact
    { apart := coherent.apart
      waits := coherent.waits
      stands := by
        intro k at_
        cases at_
      settled := by
        intro _ k e found undone
        rcases coherent.settled running k e found undone with waiting | ⟨k', at_, same⟩
        · exact .inl waiting
        · obtain rfl : g = k' := Option.some.inj (subject.symm.trans at_)
          have done : s.cache.find? k = some ⟨.done, value⟩ :=
            (Ledger.find?_congr same s.cache).symm.trans recorded
          obtain rfl : ⟨.done, value⟩ = e := Option.some.inj (done.symm.trans found)
          exact absurd rfl undone
      pending := by
        rintro f (waiting | inside)
        · exact coherent.pending f (.inl waiting)
        · cases inside }

/-- Every step keeps a session coherent, whatever its host replies. -/
theorem step (coherent : Coherent s) {x : Exchange G V E} {s' : Session G V E}
    (taken : s.Step x s') : Coherent s' := by
  obtain ⟨root, bound, started, now, cache, callers, point⟩ := s
  cases point with
  | announce =>
      cases taken with
      | emit now reply =>
          exact coherent.told now reply rfl (fun _ _ => id) (by simp [Point.frame?]) fun _ => rfl
  | request g => cases taken; exact coherent.lookUp rfl
  | answer value => cases taken; exact coherent.deliver rfl
  | enter g =>
      cases taken with
      | emit now reply =>
          exact coherent.told now reply rfl (fun _ _ => id) (by simp [Point.frame?]) fun _ => rfl
  | gate g =>
      cases taken with
      | check now reply =>
          refine coherent.checked now reply rfl (fun e recorded => ⟨.pending, by decide, recorded⟩)
            ?_ ?_ ?_ rfl
          · split <;> rfl
          · intro k _ recorded
            split
            · exact ⟨.pending, by decide, recorded⟩
            · exact recorded
          · intro f inside
            split at inside <;> cases inside
  | create g =>
      cases taken with
      | create now reply =>
          match reply with
          | .ok (some e) =>
              exact coherent.goTo now rfl (fun _ _ => id) (by simp [Point.frame?]) fun _ => rfl
          | .ok none =>
              exact coherent.goTo now rfl (fun _ _ => id) (by simp [withoutEvaluator, Point.frame?])
                fun _ => rfl
          | .error (.fault f) =>
              exact coherent.goTo now rfl (fun _ _ => id) (by simp [withoutEvaluator, Point.frame?])
                fun _ => rfl
          | .error (.interrupt i) => exact escape _ (.interrupt i)
  | assign g w =>
      cases taken
      exact coherent.write rfl rfl ⟨.assigned, none⟩ rfl rfl (by simp [Point.frame?])
  | assigned g w =>
      cases taken with
      | emit now reply =>
          exact coherent.told now reply rfl (fun _ _ => id) (by simp [Point.frame?]) fun _ => rfl
  | present g w =>
      cases taken with
      | emit now reply =>
          exact coherent.told now reply rfl (fun _ _ => id) (by simp [Point.frame?]) fun _ => rfl
  | init g w assignedAt =>
      cases taken with
      | init now reply =>
          match reply with
          | .ok subgoals =>
              exact coherent.goTo now rfl (fun _ _ => id)
                (by rintro f ⟨⟩; exact .inr List.suffix_rfl) fun _ => rfl
          | .error (.fault f) =>
              exact coherent.goTo now rfl (fun _ _ recorded => ⟨.assigned, by decide, recorded⟩)
                (by simp [Point.frame?]) fun _ => rfl
          | .error (.interrupt i) => exact escape _ (.interrupt i)
  | initialized f elapsed =>
      cases taken with
      | emit now reply =>
          exact coherent.told now reply rfl (fun _ _ => .inl) (fun _ => .inl) fun _ => rfl
  | round f =>
      cases taken with
      | check now reply =>
          refine coherent.checked now reply rfl ?_ ?_ ?_ ?_ rfl
          · rintro e (recorded | recorded)
            · exact ⟨.assigned, by decide, recorded⟩
            · exact ⟨.awaiting, by decide, recorded⟩
          · split <;> rfl
          · rintro g ⟨⟩ recorded
            split
            · rename_i first
              rcases recorded with recorded | recorded
              · exact recorded
              · simp [stateOf, recorded] at first
            · rename_i later
              rcases recorded with recorded | recorded
              · refine .inl ⟨recorded, ?_⟩
                simpa [stateOf, recorded] using later
              · exact .inr recorded
          · intro f' inside
            split at inside <;> exact .inl inside
  | await f =>
      cases taken
      exact coherent.write rfl rfl ⟨.awaiting, none⟩ rfl rfl (fun _ => id)
  | awaiting f =>
      cases taken with
      | emit now reply =>
          exact coherent.told now reply rfl (fun _ _ => .inr) (fun _ => .inl) fun _ => rfl
  | dispatch f => cases taken; exact coherent.dispatch rfl
  | recheck f =>
      cases taken with
      | check now reply =>
          refine coherent.checked now reply rfl ?_ rfl (fun _ _ => id) (fun _ => .inl) rfl
          rintro e (⟨recorded, -⟩ | recorded)
          · exact ⟨.assigned, by decide, recorded⟩
          · exact ⟨.awaiting, by decide, recorded⟩
  | resume f =>
      have undone : ∀ g, (Point.resume f).Expects (cache.find? g) →
          ∃ state, state ≠ GoalState.done ∧ cache.find? g = some ⟨state, none⟩ := by
        rintro g (⟨recorded, -⟩ | recorded)
        · exact ⟨.assigned, by decide, recorded⟩
        · exact ⟨.awaiting, by decide, recorded⟩
      cases taken with
      | resume now reply =>
          match reply with
          | .ok (.done value) =>
              exact coherent.goTo now rfl (fun _ _ => id) (fun _ => .inl) fun _ => rfl
          | .ok (.more (.ok goals)) =>
              refine coherent.goTo now rfl ?_ (by rintro f ⟨⟩; exact .inr List.suffix_rfl)
                fun _ => rfl
              rintro g - (⟨recorded, -⟩ | recorded)
              · exact .inl recorded
              · exact .inr recorded
          | .ok (.more (.error failure)) => exact escape _ failure
          | .ok (.stray _ shown) =>
              exact coherent.goTo now rfl (fun g _ => undone g) (by simp [Point.frame?])
                fun _ => rfl
          | .error (.fault e) =>
              exact coherent.goTo now rfl (fun g _ => undone g) (by simp [Point.frame?])
                fun _ => rfl
          | .error (.interrupt i) => exact escape _ (.interrupt i)
  | report events p =>
      cases events with
      | nil => cases taken; exact coherent.goTo now rfl (fun _ _ => id) (fun _ => .inl) id
      | cons event rest =>
          cases taken with
          | emit now reply => exact coherent.told now reply rfl (fun _ _ => id) (fun _ => .inl) id
  | produce f value =>
      cases taken with
      | emit now reply =>
          refine coherent.told now reply rfl ?_ (by simp [Point.frame?]) fun _ => rfl
          rintro g - (⟨recorded, -⟩ | recorded)
          · exact ⟨.assigned, by decide, recorded⟩
          · exact ⟨.awaiting, by decide, recorded⟩
  | finish g value held =>
      cases taken
      exact coherent.write rfl rfl ⟨.done, value⟩ rfl rfl (by simp [Point.frame?])
  | finished g value old held =>
      cases taken with
      | emit now reply =>
          cases reply with
          | none => exact coherent.leave now rfl
          | some i => exact escape _ (.interrupt i)
  | log n p => cases taken; exact coherent.goTo now rfl (fun _ _ => id) (fun _ => .inl) id
  | halt outcome => cases taken

end Lawful

end Coherent

end Session

end Pursuit

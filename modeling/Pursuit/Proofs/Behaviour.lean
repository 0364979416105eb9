import Mathlib.Data.List.Forall2
import Pursuit.Proofs.Ledger
import Pursuit.Session.Next

/-! # What goals mean without sessions

Evaluators that are pure are given by two functions: the first subgoals of a goal, and what comes
after each sequence of answers. They give each goal a plain meaning, by running its evaluator and
answering every subgoal by its own meaning. There is no cache in it, no path and no bound. A goal
has at most one plain meaning, and equal goals have the same.
-/

namespace Pursuit

/-- How a pure evaluator goes on. -/
inductive Move (G V : Type) where
  | finish (value : Option V)
  | ask (goals : List G)

namespace Move

variable {G V : Type}

def toOutcome : Move G V → Outcome G V
  | .finish value => .done value
  | .ask goals => .more (.ok goals)

/-- Moves that differ in nothing but which of several equal goals they name. -/
inductive Alike [BEq G] : Move G V → Move G V → Prop where
  | finish (value : Option V) : Alike (.finish value) (.finish value)
  | ask {goals goals' : List G} (equal : List.Forall₂ (fun a b => (a == b) = true) goals goals') :
      Alike (.ask goals) (.ask goals')

end Move

namespace Ledger

variable {κ ν : Type} [BEq κ]

/-- Ledgers that differ in nothing but which of several equal keys they have. -/
def Alike (a b : Ledger κ ν) : Prop :=
  List.Forall₂ (fun x y => (x.1 == y.1) = true ∧ x.2 = y.2) a b

theorem Alike.put [EquivBEq κ] {a b : Ledger κ ν} (alike : a.Alike b) {x y : κ}
    (same : (x == y) = true) (value : ν) : (a.put x value).Alike (b.put y value) := by
  induction alike with
  | nil => exact .cons ⟨same, rfl⟩ .nil
  | @cons first second rest rest' equal further ih =>
      obtain ⟨k, v⟩ := first
      obtain ⟨k', v'⟩ := second
      have agree : (k == x) = (k' == y) := (BEq.congr_left equal.1).trans (BEq.congr_right same)
      simp only [Ledger.put, agree]
      split
      · exact .cons ⟨equal.1, rfl⟩ further
      · exact .cons equal ih

end Ledger

/-- Evaluators whose subgoals and results depend on nothing but the goal and the answers that they
have received so far, the latest last. -/
structure Behaviour (G V : Type) [BEq G] where
  initial : G → List G
  move : G → List (Ledger G (Option V)) → Move G V
  initial_congr : ∀ a b, (a == b) = true →
    List.Forall₂ (fun a b => (a == b) = true) (initial a) (initial b)
  move_congr : ∀ a b received received', (a == b) = true →
    List.Forall₂ Ledger.Alike received received' → (move a received).Alike (move b received')

namespace Behaviour

variable {G V : Type} [BEq G] (B : Behaviour G V)

mutual

/-- The plain meaning of a goal. -/
inductive Plain : G → Option V → Prop where
  | run {g value} : Runs g [] (B.initial g) value → Plain g value

/-- The evaluator of a goal received some answers, asks for a batch, and comes to a result. -/
inductive Runs : G → List (Ledger G (Option V)) → List G → Option V → Prop where
  | finish {g received batch answers value} : Serves batch [] answers →
      B.move g (received ++ [answers]) = .finish value → Runs g received batch value
  | ask {g received batch answers goals value} : Serves batch [] answers →
      B.move g (received ++ [answers]) = .ask goals → Runs g (received ++ [answers]) goals value →
      Runs g received batch value

/-- Each goal of a batch is answered with its meaning, in addition to earlier answers. -/
inductive Serves : List G → Ledger G (Option V) → Ledger G (Option V) → Prop where
  | nil {answers} : Serves [] answers answers
  | cons {g rest answers answers' value} : Plain g value →
      Serves rest (answers.put g value) answers' → Serves (g :: rest) answers answers'

end

variable {B}

mutual

theorem Plain.unique {g : G} {v w : Option V} :
    B.Plain g v → B.Plain g w → v = w
  | .run first, .run second => first.unique second

theorem Runs.unique {g : G} {received : List (Ledger G (Option V))} {batch : List G}
    {v w : Option V} : B.Runs g received batch v → B.Runs g received batch w → v = w
  | .finish served moved, .finish served' moved' => by
      rw [served.unique served', moved'] at moved
      cases moved
      rfl
  | .finish served moved, .ask served' moved' _ => by
      rw [served.unique served', moved'] at moved
      cases moved
  | .ask served moved _, .finish served' moved' => by
      rw [served.unique served', moved'] at moved
      cases moved
  | .ask served moved further, .ask served' moved' further' => by
      obtain rfl := served.unique served'
      rw [moved'] at moved
      cases moved
      exact further.unique further'

theorem Serves.unique {batch : List G} {answers a b : Ledger G (Option V)} :
    B.Serves batch answers a → B.Serves batch answers b → a = b
  | .nil, .nil => rfl
  | .cons plain further, .cons plain' further' => by
      obtain rfl := plain.unique plain'
      exact further.unique further'

end

mutual

theorem Plain.congr [EquivBEq G] {a b : G} {v : Option V} (same : (a == b) = true) :
    B.Plain a v → B.Plain b v
  | .run runs => .run (runs.congr same .nil (B.initial_congr a b same))

theorem Runs.congr [EquivBEq G] {a b : G} {received received' : List (Ledger G (Option V))}
    {batch batch' : List G} {v : Option V} (same : (a == b) = true)
    (alike : List.Forall₂ Ledger.Alike received received')
    (equal : List.Forall₂ (fun a b => (a == b) = true) batch batch') :
    B.Runs a received batch v → B.Runs b received' batch' v
  | .finish served moved => by
      obtain ⟨answers', served', alike'⟩ := served.congr equal .nil
      have moves := B.move_congr a b _ _ same (List.rel_append alike (.cons alike' .nil))
      rw [moved] at moves
      generalize moved' : B.move b (received' ++ [answers']) = move at moves
      cases moves
      exact .finish served' moved'
  | .ask served moved further => by
      obtain ⟨answers', served', alike'⟩ := served.congr equal .nil
      have longer := List.rel_append alike (.cons alike' .nil)
      have moves := B.move_congr a b _ _ same longer
      rw [moved] at moves
      generalize moved' : B.move b (received' ++ [answers']) = move at moves
      cases moves with
      | ask goals => exact .ask served' moved' (further.congr same longer goals)

theorem Serves.congr [EquivBEq G] {batch batch' : List G}
    {answers answers' a : Ledger G (Option V)}
    (equal : List.Forall₂ (fun a b => (a == b) = true) batch batch')
    (alike : answers.Alike answers') :
    B.Serves batch answers a → ∃ a', B.Serves batch' answers' a' ∧ a.Alike a'
  | .nil => by
      cases equal
      exact ⟨answers', .nil, alike⟩
  | .cons plain further => by
      cases equal with
      | cons same rest =>
          obtain ⟨a', served, alike'⟩ := further.congr rest (alike.put same _)
          exact ⟨a', .cons (plain.congr same) served, alike'⟩

end

/-- A batch is answered, with whatever values. -/
inductive Fills : List G → Ledger G (Option V) → Ledger G (Option V) → Prop where
  | nil {answers} : Fills [] answers answers
  | cons {g rest answers answers'} (value : Option V) :
      Fills rest (answers.put g value) answers' → Fills (g :: rest) answers answers'

theorem Serves.fills {batch : List G} {answers a : Ledger G (Option V)} :
    B.Serves batch answers a → Fills batch answers a
  | .nil => .nil
  | .cons _ further => .cons _ further.fills

variable (B)

/-- What an evaluator can come to ask for, after which answers. -/
inductive Asks (g : G) : List (Ledger G (Option V)) → List G → Prop where
  | first : Asks g [] (B.initial g)
  | next {received batch answers goals} : Asks g received batch → Fills batch [] answers →
      B.move g (received ++ [answers]) = .ask goals → Asks g (received ++ [answers]) goals

/-- An evaluator comes to an end, whatever it is answered. -/
inductive Finishes (g : G) : List (Ledger G (Option V)) → List G → Prop where
  | step {received batch} :
      (∀ answers goals, Fills batch [] answers → B.move g (received ++ [answers]) = .ask goals →
        Finishes g (received ++ [answers]) goals) → Finishes g received batch

/-- The evaluator of one goal can request another goal. -/
def CanRequest (g s : G) : Prop :=
  ∃ received batch, B.Asks g received batch ∧ s ∈ batch

end Behaviour

/-- Evaluators that come to an end and request only goals of a lower rank. -/
structure Behaviour.Descends {G V : Type} [Keyed G] (B : Behaviour G V) (rank : G → Nat) :
    Prop where
  rank_congr : ∀ a b, (a == b) = true → rank a = rank b
  lower : ∀ g s, B.CanRequest g s → rank s < rank g
  isKey : ∀ g s, B.CanRequest g s → Keyed.isKey s = true
  finishes : ∀ g, B.Finishes g [] (B.initial g)

end Pursuit

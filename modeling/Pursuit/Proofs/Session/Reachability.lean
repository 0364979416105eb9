import Mathlib.Data.List.Perm.Subperm
import Mathlib.Logic.Relation
import Pursuit.Proofs.Session.Hosting
import Pursuit.Proofs.Session.Progress
import Pursuit.Proofs.Value.Merge

/-! # Types along a graph of goals

Each goal of a graph offers some named types and merges them with the answers of its successors. A
session on such a graph answers a goal that closes a cycle with nothing, and an answer that was
given early stays as it is. So inner goals of a cycle may miss types. The root misses none: a goal
that is answered has all its successors answered, apart from those on the path, and what is newly
answered below a goal goes into the answer of that goal.
-/

namespace Pursuit

open Relation (ReflTransGen)
open Value (contribution)

/-- Goals with their successors, and with the types that they offer. Goals that are equal are one
goal. -/
structure GoalGraph where
  successors : Goal → List Goal
  literals : Goal → List Value
  isKey : ∀ g, ∀ s ∈ successors g, Keyed.isKey s = true
  isNamed : ∀ g, ∀ v ∈ literals g, v.isNamed = true
  successors_congr : ∀ a b, (a == b) = true →
    ∀ s ∈ successors a, ∃ t ∈ successors b, (t == s) = true
  literals_congr : ∀ a b, (a == b) = true → ∀ v ∈ literals a, v ∈ literals b

namespace GoalGraph

variable {W E : Type} (γ : GoalGraph)

/-- One goal has another as its successor. -/
def Edge (a b : Goal) : Prop :=
  ∃ s ∈ γ.successors a, (s == b) = true

/-- One goal leads to another. -/
def Reaches : Goal → Goal → Prop :=
  ReflTransGen γ.Edge

/-- A type is offered by a goal to which the root leads. -/
def Offers (root : Goal) (x : Value) : Prop :=
  ∃ g, γ.Reaches root g ∧ x ∈ γ.literals g

/-- The list has each goal to which the root leads, and no other. -/
structure Lists (root : Goal) (nodes : List Goal) : Prop where
  reached : ∀ n ∈ nodes, γ.Reaches root n
  complete : ∀ g, γ.Reaches root g → ∃ n ∈ nodes, (n == g) = true

/-- What a goal of the graph is answered with, when its successors have the given answers. -/
def merge (g : Goal) (answers : Ledger Goal (Option Value)) : Option Value :=
  Value.combine ((γ.literals g).map some ++ answers.map (·.2))

/-- There is an evaluator for each goal, it names the successors of the goal in some order, and it
finishes with the merge of what it receives. No listener interrupts. -/
def Fits (c : Play W Goal Value E) : Exchange Goal Value E → Prop
  | .create _ _ reply => ∃ e, reply = .ok (some e)
  | .init _ _ reply => ∀ g evaluator t, c.session.point = .init g evaluator t →
      ∃ order, reply = .ok order ∧ order.Perm (γ.successors g)
  | .resume _ answers _ reply => ∀ f, c.session.point = .resume f →
      reply = .ok (.done (γ.merge f.goal answers))
  | .emit _ _ reply => reply = none
  | _ => True

/-- What a session on the graph knows while the goals of `path` are in progress. -/
structure Survey (root : Goal) (k : Ledger Goal (Entry Value)) (path : List Goal) : Prop where
  /-- No goal in progress is answered. -/
  pending : ∀ a, path.any (· == a) = true → ∀ v, ¬ Answered k a v
  /-- The successors of an answered goal are answered or in progress. -/
  closed : ∀ a v, Answered k a v → ∀ s ∈ γ.successors a,
    path.any (· == s) = true ∨ ∃ u, Answered k s u
  merged : ∀ a v, Answered k a v → Value.Merged v
  sound : ∀ a v, Answered k a v → ∀ x ∈ contribution v, γ.Offers root x

/-- How a request leaves the cache, and with which answer. -/
structure Resolved (root : Goal) (path : List Goal) (k : Ledger Goal (Entry Value)) (g : Goal)
    (value : Option Value) (k' : Ledger Goal (Entry Value)) : Prop where
  survey : γ.Survey root k' path
  keeps : ∀ a v, Answered k a v → Answered k' a v
  given : (path.any (· == g) = true ∧ value = none) ∨ Answered k' g value
  /-- Whatever was answered meanwhile went into the answer. -/
  gathered : ∀ a v, Answered k' a v → (∃ u, Answered k a u) ∨
    ∀ x ∈ γ.literals a, x ∈ contribution value

/-- What holds while a goal `g` goes through its successors, of which `rest` are not yet
requested. -/
structure Serving (root : Goal) (path : List Goal) (k : Ledger Goal (Entry Value)) (g : Goal)
    (rest : List Goal) (answers : Ledger Goal (Option Value)) (k' : Ledger Goal (Entry Value)) :
    Prop where
  survey : γ.Survey root k' (g :: path)
  keeps : ∀ a v, Answered k a v → Answered k' a v
  remaining : ∀ s ∈ rest, s ∈ γ.successors g
  served : ∀ s ∈ γ.successors g, s ∈ rest ∨ (g :: path).any (· == s) = true ∨
    ∃ u, Answered k' s u
  recorded : ∀ s u, answers.find? s = some u → u = none ∨ Answered k' s u
  sound : ∀ u ∈ answers.map (·.2), ∀ x ∈ contribution u, γ.Offers root x
  /-- Whatever was answered meanwhile stands among the answers. -/
  gathered : ∀ a v, Answered k' a v → (∃ u, Answered k a u) ∨
    ∀ x ∈ γ.literals a, ∃ s u, answers.find? s = some u ∧ x ∈ contribution u

variable {γ} {root g : Goal} {path : List Goal} {k k' k'' : Ledger Goal (Entry Value)}

theorem Offers.isNamed {x : Value} (offered : γ.Offers root x) : x.isNamed = true := by
  obtain ⟨a, -, member⟩ := offered
  exact γ.isNamed a x member

theorem Resolved.recalled {value : Option Value} (survey : γ.Survey root k path)
    (answered : Answered k g value) : γ.Resolved root path k g value k :=
  { survey
    keeps := fun _ _ already => already
    given := .inr answered
    gathered := fun _ v already => .inl ⟨v, already⟩ }

theorem Resolved.cycleClosed (survey : γ.Survey root k path)
    (active : path.any (· == g) = true) : γ.Resolved root path k g none k :=
  { survey
    keeps := fun _ _ already => already
    given := .inl ⟨active, rfl⟩
    gathered := fun _ v already => .inl ⟨v, already⟩ }

theorem Survey.undertaken (survey : γ.Survey root k path) (undertaken : Undertaken g k k')
    (fresh : ∀ v, ¬ Answered k g v) : γ.Survey root k' (g :: path) := by
  have older : ∀ a v, Answered k' a v → Answered k a v := fun a v answered =>
    ((undertaken.answered_iff a v).mp answered).2
  refine ⟨?_, ?_, fun a v answered => survey.merged a v (older a v answered),
    fun a v answered => survey.sound a v (older a v answered)⟩
  · intro a active v answered
    obtain ⟨apart, before⟩ := (undertaken.answered_iff a v).mp answered
    rcases (any_cons_iff g a path).mp active with same | active
    · rw [same] at apart
      cases apart
    · exact survey.pending a active v before
  · intro a v answered s successor
    rcases survey.closed a v (older a v answered) s successor with active | ⟨u, before⟩
    · exact .inl ((any_cons_iff g s path).mpr (.inr active))
    · have apart : (g == s) = false := by
        rw [Bool.eq_false_iff]
        intro same
        exact fresh u (before.congr (BEq.symm same))
      exact .inr ⟨u, (undertaken.answered_iff s u).mpr ⟨apart, before⟩⟩

theorem Serving.start {order : List Goal} (survey : γ.Survey root k path)
    (undertaken : Undertaken g k k') (fresh : ∀ v, ¬ Answered k g v)
    (permuted : order.Perm (γ.successors g)) : γ.Serving root path k g order [] k' := by
  refine
    { survey := survey.undertaken undertaken fresh
      keeps := ?_
      remaining := fun s member => permuted.mem_iff.mp member
      served := fun s member => .inl (permuted.mem_iff.mpr member)
      recorded := by simp
      sound := by simp
      gathered := fun a v answered => .inl ⟨v, ((undertaken.answered_iff a v).mp answered).2⟩ }
  intro a v before
  have apart : (g == a) = false := by
    rw [Bool.eq_false_iff]
    intro same
    exact fresh v (before.congr (BEq.symm same))
  exact (undertaken.answered_iff a v).mpr ⟨apart, before⟩

theorem Serving.outweighs {s t : Goal} {rest : List Goal} {answers : Ledger Goal (Option Value)}
    {value u : Option Value} {x : Value} (serving : γ.Serving root path k g (s :: rest) answers k')
    (resolved : γ.Resolved root (g :: path) k' s value k'') (same : (s == t) = true)
    (found : answers.find? t = some u) (held : x ∈ contribution u) : x ∈ contribution value := by
  rcases serving.recorded t u found with rfl | answered
  · cases held
  · have still : Answered k'' s u := resolved.keeps s u (answered.congr (BEq.symm same))
    rcases resolved.given with ⟨active, -⟩ | given
    · exact absurd still (resolved.survey.pending s active u)
    · rwa [given.unique still]

theorem Serving.next {s : Goal} {rest : List Goal} {answers : Ledger Goal (Option Value)}
    {value : Option Value} (serving : γ.Serving root path k g (s :: rest) answers k')
    (resolved : γ.Resolved root (g :: path) k' s value k'') :
    γ.Serving root path k g rest (answers.put s value) k'' := by
  refine ⟨resolved.survey, fun a v before => resolved.keeps a v (serving.keeps a v before),
    fun t member => serving.remaining t (.tail s member), ?_, ?_, ?_, ?_⟩
  · intro t successor
    rcases serving.served t successor with member | active | ⟨u, answered⟩
    · cases member with
      | head =>
          rcases resolved.given with ⟨active, -⟩ | given
          · exact .inr (.inl active)
          · exact .inr (.inr ⟨value, given⟩)
      | tail _ later => exact .inl later
    · exact .inr (.inl active)
    · exact .inr (.inr ⟨u, resolved.keeps t u answered⟩)
  · intro t u found
    rw [Ledger.find?_put] at found
    split at found
    · rename_i same
      obtain rfl := Option.some.inj found
      rcases resolved.given with ⟨-, nothing⟩ | given
      · exact .inl nothing
      · exact .inr (given.congr same)
    · exact (serving.recorded t u found).imp_right (resolved.keeps t u)
  · intro u member x held
    rcases Ledger.mem_values_put member with rfl | before
    · rcases resolved.given with ⟨-, rfl⟩ | given
      · cases held
      · exact resolved.survey.sound s u given x held
    · exact serving.sound u before x held
  · intro a v answered
    rcases resolved.gathered a v answered with ⟨u, earlier⟩ | gained
    · refine (serving.gathered a u earlier).imp_right fun among x offered => ?_
      obtain ⟨t, w, found, held⟩ := among x offered
      -- A successor that is named twice is answered twice, and the later answer holds.
      by_cases same : (s == t) = true
      · exact ⟨t, value, Ledger.find?_put_of_eq answers value same,
          serving.outweighs resolved same found held⟩
      · exact ⟨t, w, (Ledger.find?_put_of_ne answers value
          (Bool.eq_false_iff.mpr same)).trans found, held⟩
    · have put := Ledger.find?_put_self answers s value
      exact .inr fun x offered => ⟨s, value, put, gained x offered⟩

theorem Serving.offers {answers : Ledger Goal (Option Value)}
    (serving : γ.Serving root path k g [] answers k') (reached : γ.Reaches root g) :
    ∀ e ∈ (γ.literals g).map some ++ answers.map (·.2), ∀ x ∈ contribution e,
      γ.Offers root x := by
  intro e member x held
  rcases List.mem_append.mp member with own | received
  · obtain ⟨v, literal, rfl⟩ := List.mem_map.mp own
    rw [Value.contribution_of_isNamed (γ.isNamed g v literal)] at held
    obtain rfl := List.mem_singleton.mp held
    exact ⟨g, reached, literal⟩
  · exact serving.sound e received x held

theorem Serving.mem_merge {answers : Ledger Goal (Option Value)}
    (serving : γ.Serving root path k g [] answers k') (reached : γ.Reaches root g) (x : Value) :
    x ∈ contribution (γ.merge g answers) ↔
      ∃ e ∈ (γ.literals g).map some ++ answers.map (·.2), x ∈ contribution e :=
  Value.mem_combine (fun e member y held => (serving.offers reached e member y held).isNamed) x

theorem Serving.keeps_concluded {answers : Ledger Goal (Option Value)} {value : Option Value}
    (serving : γ.Serving root path k g [] answers k') (concluded : Concluded g value k' k'')
    (a : Goal) (v : Option Value) (before : Answered k' a v) : Answered k'' a v := by
  rw [concluded.answered_iff, if_neg]
  · exact before
  · intro same
    have active : (g :: path).any (· == a) = true := (any_cons_iff g a path).mpr (.inl same)
    exact serving.survey.pending a active v before

theorem Serving.survey_concluded {answers : Ledger Goal (Option Value)}
    (serving : γ.Serving root path k g [] answers k') (reached : γ.Reaches root g)
    (absent : path.any (· == g) = false)
    (concluded : Concluded g (γ.merge g answers) k' k'') : γ.Survey root k'' path := by
  have keeps := serving.keeps_concluded concluded
  have given : ∀ s, (g == s) = true → Answered k'' s (γ.merge g answers) := by
    intro s same
    rw [concluded.answered_iff, if_pos same]
  -- The goal itself was in progress until now, so what was closed up to the path stays so.
  have released : ∀ s, (g :: path).any (· == s) = true →
      path.any (· == s) = true ∨ ∃ u, Answered k'' s u := by
    intro s active
    rcases (any_cons_iff g s path).mp active with same | active
    · exact .inr ⟨_, given s same⟩
    · exact .inl active
  refine ⟨?_, ?_, ?_, ?_⟩
  · intro a active v answered
    rw [concluded.answered_iff] at answered
    split at answered
    · rename_i same
      rw [any_congr same, active] at absent
      cases absent
    · exact serving.survey.pending a ((any_cons_iff g a path).mpr (.inr active)) v answered
  · intro a v answered s successor
    rw [concluded.answered_iff] at answered
    split at answered
    · rename_i same
      obtain ⟨t, member, alike⟩ := γ.successors_congr a g (BEq.symm same) s successor
      rcases serving.served t member with later | active | ⟨u, before⟩
      · cases later
      · exact released s (any_congr alike _ ▸ active)
      · exact .inr ⟨u, (keeps t u before).congr alike⟩
    · rcases serving.survey.closed a v answered s successor with active | ⟨u, before⟩
      · exact released s active
      · exact .inr ⟨u, keeps s u before⟩
  · intro a v answered
    rw [concluded.answered_iff] at answered
    split at answered
    · rw [answered]
      exact Value.merged_combine fun e member x held =>
        (serving.offers reached e member x held).isNamed
    · exact serving.survey.merged a v answered
  · intro a v answered x held
    rw [concluded.answered_iff] at answered
    split at answered
    · rw [answered, serving.mem_merge reached] at held
      obtain ⟨e, member, held⟩ := held
      exact serving.offers reached e member x held
    · exact serving.survey.sound a v answered x held

theorem Serving.concluded {answers : Ledger Goal (Option Value)}
    (serving : γ.Serving root path k g [] answers k') (reached : γ.Reaches root g)
    (absent : path.any (· == g) = false)
    (concluded : Concluded g (γ.merge g answers) k' k'') :
    γ.Resolved root path k g (γ.merge g answers) k'' := by
  have keeps := serving.keeps_concluded concluded
  refine ⟨serving.survey_concluded reached absent concluded,
    fun a v before => keeps a v (serving.keeps a v before), .inr ?_, ?_⟩
  · rw [concluded.answered_iff, if_pos BEq.rfl]
  · intro a v answered
    rw [concluded.answered_iff] at answered
    split at answered
    · rename_i same
      refine .inr fun x literal => (serving.mem_merge reached x).mpr ⟨some x, ?_, ?_⟩
      · have own := γ.literals_congr a g (BEq.symm same) x literal
        exact List.mem_append_left _ (List.mem_map_of_mem own)
      · rw [Value.contribution_of_isNamed (γ.isNamed a x literal)]
        exact List.mem_singleton_self x
    · refine (serving.gathered a v answered).imp_right fun among x literal => ?_
      obtain ⟨t, u, found, held⟩ := among x literal
      exact (serving.mem_merge reached x).mpr
        ⟨u, List.mem_append_right _ (Ledger.mem_of_find? found), held⟩

/-- With nothing in progress, all goals to which an answered goal leads are answered. -/
theorem Survey.answered_of_reaches {a : Goal} {v : Option Value} (survey : γ.Survey root k [])
    (answered : Answered k g v) (reaches : γ.Reaches g a) : ∃ u, Answered k a u := by
  induction reaches with
  | refl => exact ⟨v, answered⟩
  | tail _ edge ih =>
      obtain ⟨u, before⟩ := ih
      obtain ⟨s, successor, same⟩ := edge
      rcases survey.closed _ u before s successor with active | ⟨w, after⟩
      · cases active
      · exact ⟨w, after.congr same⟩

/-- The answer to the root holds what is offered anywhere. -/
theorem Resolved.mem_iff {value : Option Value} (resolved : γ.Resolved root [] [] root value k)
    (x : Value) : x ∈ contribution value ↔ γ.Offers root x := by
  have given : Answered k root value := resolved.given.resolve_left (by simp)
  constructor
  · exact resolved.survey.sound root value given x
  · rintro ⟨a, reaches, literal⟩
    obtain ⟨u, answered⟩ := resolved.survey.answered_of_reaches given reaches
    rcases resolved.gathered a u answered with ⟨w, nothing⟩ | held
    · cases nothing
    · exact held x literal

theorem Lists.of_closed {nodes : List Goal} (member : root ∈ nodes)
    (closed : ∀ n ∈ nodes, ∀ s ∈ γ.successors n, ∃ m ∈ nodes, (m == s) = true)
    (reached : ∀ n ∈ nodes, γ.Reaches root n) : γ.Lists root nodes := by
  refine ⟨reached, fun g reaches => ?_⟩
  induction reaches with
  | refl => exact ⟨root, member, BEq.rfl⟩
  | tail _ edge ih =>
      obtain ⟨n, listed, same⟩ := ih
      obtain ⟨s, successor, alike⟩ := edge
      obtain ⟨t, next, alike'⟩ := γ.successors_congr _ n (BEq.symm same) s successor
      obtain ⟨m, listed', found⟩ := closed n listed t next
      exact ⟨m, listed', BEq.trans found (BEq.trans alike' alike)⟩

theorem Lists.offers_iff {nodes : List Goal} (lists : γ.Lists root nodes) (x : Value) :
    γ.Offers root x ↔ x ∈ nodes.flatMap γ.literals := by
  rw [List.mem_flatMap]
  constructor
  · rintro ⟨a, reaches, literal⟩
    obtain ⟨n, listed, same⟩ := lists.complete a reaches
    exact ⟨n, listed, γ.literals_congr a n (BEq.symm same) x literal⟩
  · rintro ⟨n, listed, literal⟩
    exact ⟨n, lists.reached n listed, literal⟩

/-- An answer to the root equals the merge of all types that are offered. -/
theorem Resolved.beq_combine {nodes : List Goal} {value : Option Value}
    (resolved : γ.Resolved root [] [] root value k) (lists : γ.Lists root nodes) :
    (value == Value.combine ((nodes.flatMap γ.literals).map some)) = true := by
  have given : Answered k root value := resolved.given.resolve_left (by simp)
  have holds : ∀ e ∈ (nodes.flatMap γ.literals).map some, ∀ x ∈ contribution e,
      x.isNamed = true := by
    intro e member x held
    obtain ⟨v, among, rfl⟩ := List.mem_map.mp member
    have named := ((lists.offers_iff v).mpr among).isNamed
    rw [Value.contribution_of_isNamed named] at held
    rwa [List.mem_singleton.mp held]
  refine Value.beq_of_merged (resolved.survey.merged root value given)
    (Value.merged_combine holds) fun x => ?_
  rw [resolved.mem_iff, Value.mem_combine holds, lists.offers_iff]
  constructor
  · intro among
    refine ⟨some x, List.mem_map_of_mem among, ?_⟩
    rw [Value.contribution_of_isNamed ((lists.offers_iff x).mpr among).isNamed]
    exact List.mem_singleton_self x
  · rintro ⟨e, member, held⟩
    obtain ⟨v, among, rfl⟩ := List.mem_map.mp member
    rw [Value.contribution_of_isNamed ((lists.offers_iff v).mpr among).isNamed] at held
    rwa [List.mem_singleton.mp held]

theorem Lists.length_le {nodes : List Goal} (lists : γ.Lists root nodes)
    (apart : path.Pairwise fun a b => (a == b) = false) (reached : ∀ a ∈ path, γ.Reaches root a) :
    path.length ≤ nodes.length := by
  have found_of_mem : ∀ a ∈ path,
      ∃ n ∈ nodes, nodes.find? (· == a) = some n ∧ (n == a) = true := by
    intro a member
    obtain ⟨n, listed, same⟩ := lists.complete a (reached a member)
    obtain ⟨m, found⟩ := Option.isSome_iff_exists.mp
      ((List.find?_isSome (p := (· == a))).mpr ⟨n, listed, same⟩)
    exact ⟨m, List.mem_of_find?_eq_some found, found, by simpa using List.find?_some found⟩
  have nodup : (path.map fun a => nodes.find? (· == a)).Nodup := by
    refine List.pairwise_map.mpr (apart.imp_of_mem fun {a b} first second unequal shared => ?_)
    obtain ⟨n, -, found, alike⟩ := found_of_mem a first
    obtain ⟨m, -, found', alike'⟩ := found_of_mem b second
    obtain rfl : n = m := Option.some.inj (found.symm.trans (shared.trans found'))
    rw [BEq.trans (BEq.symm alike) alike'] at unequal
    cases unequal
  have subset : (path.map fun a => nodes.find? (· == a)) ⊆ nodes.map some := by
    intro o member
    obtain ⟨a, among, rfl⟩ := List.mem_map.mp member
    obtain ⟨n, listed, found, -⟩ := found_of_mem a among
    exact found ▸ List.mem_map_of_mem listed
  simpa using (List.subperm_of_subset nodup subset).length_le

/-- What holds when a goal is requested below the goals of a path. -/
structure Requested (γ : GoalGraph) (root : Goal) (k : Ledger Goal (Entry Value))
    (path : List Goal) (g : Goal) : Prop where
  survey : γ.Survey root k path
  key : Keyed.isKey g = true
  apart : path.Pairwise fun a b => (a == b) = false
  reached : ∀ a ∈ g :: path, γ.Reaches root a

theorem Requested.start (key : Keyed.isKey root = true) : γ.Requested root [] [] root := by
  refine ⟨⟨?_, ?_, ?_, ?_⟩, key, .nil, ?_⟩
  · intro a active
    cases active
  · intro a v answered
    cases answered
  · intro a v answered
    cases answered
  · intro a v answered
    cases answered
  · intro a member
    obtain rfl := List.mem_singleton.mp member
    exact .refl

theorem Requested.apart_cons (requested : γ.Requested root k path g)
    (absent : path.any (· == g) = false) :
    (g :: path).Pairwise fun a b => (a == b) = false := by
  refine List.pairwise_cons.mpr ⟨fun a member => ?_, requested.apart⟩
  rw [BEq.comm]
  exact Bool.eq_false_iff.mpr (List.any_eq_false.mp absent a member)

/-- A goal that is requested below itself would not be new, so the path has room for a new one. -/
theorem Requested.length_lt {nodes : List Goal} (requested : γ.Requested root k path g)
    (lists : γ.Lists root nodes) (absent : path.any (· == g) = false) :
    path.length < nodes.length :=
  lists.length_le (requested.apart_cons absent) requested.reached

theorem Serving.requested {s : Goal} {rest : List Goal} {answers : Ledger Goal (Option Value)}
    (serving : γ.Serving root path k g (s :: rest) answers k')
    (apart : (g :: path).Pairwise fun a b => (a == b) = false)
    (reached : ∀ a ∈ g :: path, γ.Reaches root a) : γ.Requested root k' (g :: path) s := by
  have successor := serving.remaining s (.head rest)
  refine ⟨serving.survey, γ.isKey g s successor, apart, fun a member => ?_⟩
  cases member with
  | head => exact (reached g (.head path)).tail ⟨s, successor, BEq.rfl⟩
  | tail _ above => exact reached a above

section Course

variable {h : Host W Goal Value E} {b : Nat} {nodes : List Goal}

/-- Exchanges on a graph without a pruner. -/
abbrev Goes (γ : GoalGraph) (c : Play W Goal Value E) (x : Exchange Goal Value E) : Prop :=
  γ.Fits c x ∧ x.Smooth

/-- In a play that goes as `P` says, every request is resolved that lacks no more than `n` goals on
its path, of `most` that the path can hold. -/
def Resolves (γ : GoalGraph) (P : Play W Goal Value E → Exchange Goal Value E → Prop)
    (h : Host W Goal Value E) (b : Nat) (root : Goal) (most n : Nat) : Prop :=
  ∀ (c : Play W Goal Value E) k C L g, c.Always h P → c.Stands b k C (.request g) L →
    γ.Requested root k (C.map (·.goal)) g → most ≤ C.length + n →
    c.Arrives h fun d => ∃ value k' L', γ.Resolved root (C.map (·.goal)) k g value k' ∧
      d.Stands b k' C (.answer value) L'

variable {P : Play W Goal Value E → Exchange Goal Value E → Prop} {most n : Nat}
  {c : Play W Goal Value E} {C : List (Frame Goal Value E)}
  {L : List (Goal × Ledger Goal (Option Value))}

/-- Requests of goals that are answered or in progress are resolved at once. -/
theorem Resolves.of_new
    (new : ∀ (c : Play W Goal Value E) k C L g, c.Always h P → c.Stands b k C (.request g) L →
      γ.Requested root k (C.map (·.goal)) g → most ≤ C.length + n → (∀ v, ¬ Answered k g v) →
      (C.map (·.goal)).any (· == g) = false →
      c.Arrives h fun d => ∃ value k' L', γ.Resolved root (C.map (·.goal)) k g value k' ∧
        d.Stands b k' C (.answer value) L') :
    γ.Resolves P h b root most n := by
  intro c k C L g always stands requested depth
  by_cases answered : ∃ v, Answered k g v
  · obtain ⟨v, answered⟩ := answered
    exact (stands.recalls requested.key answered).trans fun _ there =>
      .here ⟨v, k, L, .recalled requested.survey answered, there⟩
  have fresh : ∀ v, ¬ Answered k g v := fun v already => answered ⟨v, already⟩
  cases active : (C.map (·.goal)).any (· == g) with
  | true =>
      have waits : C.any (·.goal == g) = true := by simpa [Function.comp_def] using active
      exact (stands.closes requested.key fresh waits).trans fun _ there =>
        .here ⟨none, k, L, .cycleClosed requested.survey active, there⟩
  | false => exact new c k C L g always stands requested depth fresh active

section Going

variable (goes : ∀ c x, P c x → γ.Goes c x)

include goes

/-- A goal that waits for its successors is answered in the end. -/
theorem Resolves.served (below : γ.Resolves P h b root most n) (always : c.Always h P)
    {f : Frame Goal Value E} (stands : c.Stands b k' C (.dispatch f) L)
    (serving : γ.Serving root (C.map (·.goal)) k f.goal f.waiting f.answers k')
    (absent : (C.map (·.goal)).any (· == f.goal) = false)
    (apart : (f.goal :: C.map (·.goal)).Pairwise fun a b => (a == b) = false)
    (reached : ∀ a ∈ f.goal :: C.map (·.goal), γ.Reaches root a)
    (depth : most ≤ C.length + 1 + n) :
    c.Arrives h fun d => ∃ value k'' L', γ.Resolved root (C.map (·.goal)) k f.goal value k'' ∧
      d.Stands b k'' C (.answer value) L' := by
  have smooth : ∀ c x, P c x → x.Smooth := fun c x fits => (goes c x fits).2
  refine (stands.serves (I := fun rest answers k' _ =>
    γ.Serving root (C.map (·.goal)) k f.goal rest answers k') always serving ?_).trans ?_
  · intro c' f' s rest k₁ L₁ same serving always requesting
    have goals : (f' :: C).map (·.goal) = f.goal :: C.map (·.goal) := by rw [List.map_cons, same]
    have requested := serving.requested apart reached
    rw [← goals] at requested
    refine (below c' k₁ (f' :: C) L₁ s always requesting requested depth).trans fun m resolved => ?_
    obtain ⟨value, k₂, L₂, resolved, answering⟩ := resolved
    rw [goals] at resolved
    exact .here ⟨value, k₂, L₂, serving.next resolved, answering⟩
  · rintro m ⟨f', k₁, L₁, same, -, -, -, waiting, serving, dispatching⟩
    have onwards := always.after m
    refine (dispatching.resumes smooth onwards waiting).trans fun m' resuming => ?_
    have replies : ∀ now reply,
        P (((c.after h m).after h m')) (.resume f'.evaluator f'.answers now reply) →
        reply = .ok (.done (γ.merge f.goal f'.answers)) := by
      intro now reply fits
      obtain ⟨⟨_, _, _, session⟩, -⟩ := resuming
      rw [← same]
      exact (goes _ _ fits).1 f' (congrArg Session.point session)
    refine (resuming.concludes (Play.quiet_of_smooth smooth) (onwards.after m') replies).trans
      fun _ concluded => .here ?_
    obtain ⟨k₂, concluded, answering⟩ := concluded
    rw [same] at concluded
    exact ⟨_, k₂, _, serving.concluded (reached f.goal (.head _)) absent concluded, answering⟩

/-- A new goal for which there is room is undertaken, and answered in the end. -/
theorem Resolves.undertaken (below : γ.Resolves P h b root most n) (always : c.Always h P)
    (stands : c.Stands b k C (.request g) L) (requested : γ.Requested root k (C.map (·.goal)) g)
    (fresh : ∀ v, ¬ Answered k g v) (absent : (C.map (·.goal)).any (· == g) = false)
    (room : C.length < b) (depth : most ≤ C.length + 1 + n) :
    c.Arrives h fun d => ∃ value k' L', γ.Resolved root (C.map (·.goal)) k g value k' ∧
      d.Stands b k' C (.answer value) L' := by
  have smooth : ∀ c x, P c x → x.Smooth := fun c x fits => (goes c x fits).2
  have names : ∀ (c' : Play W Goal Value E) evaluator t k' now reply,
      c'.Stands b k' C (.init g evaluator t) L → P c' (.init evaluator now reply) →
      ∃ batch, reply = .ok batch ∧ batch.Perm (γ.successors g) := by
    rintro c' evaluator t k' now reply ⟨⟨_, _, _, session⟩, -⟩ fits
    exact (goes _ _ fits).1 g evaluator t (congrArg Session.point session)
  have idle : C.any (·.goal == g) = false := by simpa [Function.comp_def] using absent
  have undertakes := stands.undertakes smooth always requested.key fresh idle room names
  refine undertakes.trans fun i undertaken => ?_
  obtain ⟨evaluator, t, batch, k₁, permuted, undertaken, dispatching⟩ := undertaken
  exact below.served goes (always.after i) dispatching
    (.start requested.survey undertaken fresh permuted) absent (requested.apart_cons absent)
    requested.reached depth

end Going

theorem Resolves.step (lists : γ.Lists root nodes) (room : nodes.length ≤ b)
    (below : ∀ m, n = m + 1 → γ.Resolves γ.Goes h b root nodes.length m) :
    γ.Resolves γ.Goes h b root nodes.length n := by
  apply Resolves.of_new
  intro c k C L g always stands requested depth fresh absent
  have short := requested.length_lt lists absent
  rw [List.length_map] at short
  -- A new goal is missing on the path, so the induction has something to go down to.
  obtain ⟨m, rfl⟩ : ∃ m, n = m + 1 := Nat.exists_eq_succ_of_ne_zero (by omega)
  exact (below m rfl).undertaken (fun _ _ fits => fits) always stands requested fresh absent
    (by omega) (by omega)

theorem resolves (lists : γ.Lists root nodes) (room : nodes.length ≤ b) (n : Nat) :
    γ.Resolves γ.Goes h b root nodes.length n := by
  induction n with
  | zero => exact .step lists room fun _ impossible => by cases impossible
  | succ n ih => exact .step lists room fun _ equal => by cases equal; exact ih

end Course

theorem Fits.goes {F β K L : Type} [BEq L] {p : Services W F β K L}
    {create : Goal → Attempt W (Option Product)} {extras : List L} {c : Play W Goal Value Product}
    (always : c.Always (p.host create .never extras) γ.Fits) :
    c.Always (p.host create .never extras) γ.Goes := by
  intro n x s w met
  have fits := always n x s w met
  refine ⟨fits, ?_⟩
  cases x with
  | check elapsed now reply => exact Play.reply_of_check met
  | create g now reply =>
      obtain ⟨e, rfl⟩ := fits
      exact fun _ impossible => by cases impossible
  | emit => exact fits
  | proceed | record | init | resume => trivial

/-- An evaluator does for a goal what the graph says, whatever the world is like. -/
def Serves {F β K L : Type} (γ : GoalGraph) (p : Services W F β K L) (g : Goal) (e : Product) :
    Prop :=
  (∀ w, ∃ order, ((p.initProduct e).perform w).1 = .ok order ∧ order.Perm (γ.successors g)) ∧
    ∀ answers w, ((p.resumeProduct e answers).perform w).1 = .ok (.done (γ.merge g answers))

theorem fits_of_factory {F β K L : Type} [BEq L] {p : Services W F β K L}
    {create : Goal → Attempt W (Option Product)} {pruner : Pruner K} {extras : List L}
    (supplies : ∀ g w, ∃ e, ((create g).perform w).1 = .ok (some e) ∧ γ.Serves p g e)
    (quiet : ∀ event w, (p.emit extras event w).1 = none) (settings : Settings) (stackLimit : Int)
    (root : Goal) (w : W) :
    (Play.opening (p.host create pruner extras) settings stackLimit root w).Always
      (p.host create pruner extras) γ.Fits := by
  intro n x s w' met
  have assigns : ((Play.opening (p.host create pruner extras) settings stackLimit root w).after
      (p.host create pruner extras) n).session.Assigns
        fun g evaluator => ∃ e, evaluator = .evaluator e ∧ γ.Serves p g e := by
    refine Play.assigns_after (fun g w => ?_) n
    obtain ⟨e, supplied, serves⟩ := supplies g w
    exact ⟨e, congrArg (GoalEvaluator.ofReply g) supplied, serves⟩
  generalize (Play.opening (p.host create pruner extras) settings stackLimit root w).after
    (p.host create pruner extras) n = c at met assigns
  cases x with
  | create g now reply =>
      obtain ⟨e, supplied, -⟩ := supplies g c.world
      exact ⟨e, (Play.reply_of_create met).trans supplied⟩
  | init evaluator now reply =>
      intro g evaluator' t standing
      obtain ⟨e, rfl, serves⟩ := assigns.stands g evaluator' (standing ▸ rfl)
      obtain ⟨order, named, permuted⟩ := serves.1 c.world
      exact ⟨order, (Play.reply_of_init met standing).trans named, permuted⟩
  | resume evaluator answers now reply =>
      intro f standing
      obtain ⟨e, evaluator, serves⟩ := assigns.stands f.goal f.evaluator (standing ▸ rfl)
      obtain ⟨rfl, replied⟩ := Play.reply_of_resume met standing
      rw [replied, evaluator]
      exact serves.2 f.answers c.world
  | emit event now reply => exact (Play.reply_of_emit met).trans (quiet event c.world)
  | proceed | record | check => trivial

/-- A finite graph, row by row: a goal, its successors and the types that it offers. -/
def ofTable (table : Ledger Goal (List Goal × List Value))
    (keys : ∀ row ∈ table.map (·.2), ∀ s ∈ row.1, Keyed.isKey s = true)
    (named : ∀ row ∈ table.map (·.2), ∀ v ∈ row.2, v.isNamed = true) : GoalGraph where
  successors g := ((table.find? g).getD ([], [])).1
  literals g := ((table.find? g).getD ([], [])).2
  isKey := by
    intro g s successor
    cases found : table.find? g with
    | none => simp [found] at successor
    | some row =>
        rw [found] at successor
        exact keys row (Ledger.mem_of_find? found) s successor
  isNamed := by
    intro g v literal
    cases found : table.find? g with
    | none => simp [found] at literal
    | some row =>
        rw [found] at literal
        exact named row (Ledger.mem_of_find? found) v literal
  successors_congr := by
    intro a b same s successor
    rw [Ledger.find?_congr same] at successor
    exact ⟨s, successor, BEq.rfl⟩
  literals_congr := by
    intro a b same v literal
    rwa [Ledger.find?_congr same] at literal

def services (γ : GoalGraph) : Services Unit Empty Empty Empty Empty :=
  .hosting (fun g => pure (γ.successors g)) fun g answers => pure (.done (γ.merge g answers))

theorem services_fits (γ : GoalGraph) (settings : Settings) (stackLimit : Int) (root : Goal) :
    (Play.opening (γ.services.host hostedFactory .never []) settings stackLimit root ()).Always
      (γ.services.host hostedFactory .never []) γ.Fits := by
  refine fits_of_factory (fun g w => ⟨hostedEvaluator g, rfl, ?_, ?_⟩) (fun _ _ => rfl) _ _ _ _
  · exact fun _ => ⟨γ.successors g, rfl, .refl _⟩
  · exact fun _ _ => rfl

end GoalGraph

section Reachable

variable {W F β K L : Type} [BEq L]

/-- A session on a graph of goals, cyclic or not, gives the root all types that are offered by the
goals to which it leads, in whatever order successors are named. -/
theorem resolve_merges_reachable_types (p : Services W F β K L)
    (create : Goal → Attempt W (Option Product)) (settings : Settings) (stackLimit : Int)
    (extras : List L) (root : Goal) (w : W) (γ : GoalGraph) (nodes : List Goal)
    (key : Keyed.isKey root = true) (lists : γ.Lists root nodes)
    (room : nodes.length ≤ settings.depthBound stackLimit)
    (fits : (Play.opening (p.host create .never extras) settings stackLimit root w).Always
      (p.host create .never extras) γ.Fits) :
    ∃ v enough, (∀ n, enough ≤ n →
        (p.resolve create settings stackLimit n none extras root w).1 = some (.ok v)) ∧
      (v == Value.combine ((nodes.flatMap γ.literals).map some)) = true := by
  have goes := GoalGraph.Fits.goes fits
  have smooth : ∀ (c : Play W Goal Value Product) x, γ.Goes c x → x.Smooth :=
    fun _ _ both => both.2
  have arrives : (Play.opening (p.host create .never extras) settings stackLimit root w).Arrives
      (p.host create .never extras) fun d => ∃ v, d.session.outcome? = some (.ok v) ∧
        (v == Value.combine ((nodes.flatMap γ.literals).map some)) = true := by
    refine (Play.opening_requests (Play.quiet_of_smooth smooth) goes).trans fun i requesting => ?_
    refine (GoalGraph.resolves lists room nodes.length _ _ [] _ root (goes.after i) requesting
      (.start key) (by simp)).trans fun j answered => ?_
    obtain ⟨v, k, L', resolved, answering⟩ := answered
    exact answering.ends.trans fun _ halted => .here ⟨v, halted, resolved.beq_combine lists⟩
  obtain ⟨n, v, halted, merged⟩ := arrives
  obtain ⟨enough, ends⟩ := (exists_evaluate_iff _ settings stackLimit root w _).mpr ⟨n, halted⟩
  exact ⟨v, enough, ends, merged⟩

/-- Three goals on two cycles: the first leads to itself and twice to the second, the second to the
third and back to the first, and the third back to the second. -/
def knot : GoalGraph :=
  .ofTable
    [(numberedGoal 0, [numberedGoal 1, numberedGoal 0, numberedGoal 1], [.simpleType "int"]),
      (numberedGoal 1, [numberedGoal 2, numberedGoal 0], [.simpleType "str"]),
      (numberedGoal 2, [numberedGoal 1], [.classType "A" none])]
    (by decide) (by decide)

theorem knot_lists :
    knot.Lists (numberedGoal 0) [numberedGoal 0, numberedGoal 1, numberedGoal 2] := by
  have second : knot.Edge (numberedGoal 0) (numberedGoal 1) := ⟨numberedGoal 1, .head _, by decide⟩
  have third : knot.Edge (numberedGoal 1) (numberedGoal 2) := ⟨numberedGoal 2, .head _, by decide⟩
  refine .of_closed (.head _) (by decide) ?_
  simp only [List.forall_mem_cons]
  exact ⟨.refl, .single second, .tail (.single second) third, by simp⟩

theorem knot_resolved :
    ∃ v enough, (∀ n, enough ≤ n → (knot.services.resolve hostedFactory .standard 1000 n none []
        (numberedGoal 0) ()).1 = some (.ok v)) ∧
      (v == some (.ambiguousType [.simpleType "int", .simpleType "str", .classType "A" none])) =
        true :=
  resolve_merges_reachable_types knot.services _ .standard 1000 [] (numberedGoal 0) () knot
    [numberedGoal 0, numberedGoal 1, numberedGoal 2] (by decide) knot_lists (by decide)
    (knot.services_fits .standard 1000 (numberedGoal 0))

end Reachable

end Pursuit

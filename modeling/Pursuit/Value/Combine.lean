import Pursuit.Value.Basic

/-! # Merging types

Several inferred types become one: absent and unknown entries say nothing, an ambiguous entry stands
for its possibilities, and what remains is counted without repetition. An answer that is no type
stands for itself.
-/

namespace Pursuit.Value

/-- What one entry adds to a merge. -/
def contribution : Option Value → List Value
  | none => []
  | some .unknownType => []
  | some (.ambiguousType possibilities) => possibilities
  | some v => [v]

/-- A list of distinct answers as one: absent, the only one, or ambiguous. -/
def ofDistinct : List Value → Option Value
  | [] => none
  | [v] => some v
  | vs => some (.ambiguousType vs)

/-- Merge the entries into one answer, absent when none of them is known. -/
def combine (entries : List (Option Value)) : Option Value :=
  ofDistinct (distinct (entries.flatMap contribution))

end Pursuit.Value

/-!
# Lines

A line ends at a line feed, with an optional carriage return before it. A last line without a line
feed is a line too, and keeps a carriage return at its end.
-/

namespace NodeWatch.Text

variable {α : Type}

/-- The pieces of a sequence that end with `stop`, without it, and what is left after the last. -/
def completed [BEq α] (stop : α) : List α → List (List α) × List α
  | [] => ([], [])
  | a :: s =>
    let (pieces, rest) := completed stop s
    if a == stop then ([] :: pieces, rest)
    else match pieces with
      | [] => ([], a :: rest)
      | piece :: pieces => ((a :: piece) :: pieces, rest)

section Completed

variable [BEq α] [LawfulBEq α]

/-- Nothing is lost. -/
theorem flatMap_completed (stop : α) (s : List α) :
    (completed stop s).1.flatMap (· ++ [stop]) ++ (completed stop s).2 = s := by
  induction s with
  | nil => rfl
  | cons a s ih => grind [completed]

theorem not_mem_of_mem_completed (stop : α) (s : List α) :
    ∀ piece ∈ (completed stop s).1, stop ∉ piece := by
  induction s with
  | nil => simp [completed]
  | cons a s ih => grind [completed]

theorem not_mem_completed_rest (stop : α) (s : List α) : stop ∉ (completed stop s).2 := by
  induction s with
  | nil => simp [completed]
  | cons a s ih => grind [completed]

omit [LawfulBEq α] in
/-- The piece that one sequence leaves unfinished goes on in the next one. -/
theorem completed_append (stop : α) (s t : List α) :
    completed stop (s ++ t) =
      match completed stop t with
      | ([], rest) => ((completed stop s).1, (completed stop s).2 ++ rest)
      | (piece :: pieces, rest) =>
        ((completed stop s).1 ++ ((completed stop s).2 ++ piece) :: pieces, rest) := by
  rcases ht : completed stop t with ⟨_ | ⟨piece, pieces⟩, rest⟩ <;> simp only <;>
    induction s with
    | nil => simp [completed, ht]
    | cons a s ih =>
      rcases hs : completed stop s with ⟨_ | ⟨first, others⟩, last⟩ <;>
        by_cases ha : a == stop <;> simp_all [completed]

end Completed

/-- A sequence without the element `a` at its end, where it has one there. -/
def dropEnd [BEq α] (a : α) (s : List α) : List α :=
  if s.getLast? == some a then s.dropLast else s

/-- The lines of a text. -/
def lines (s : List Char) : List (List Char) :=
  let (pieces, rest) := completed '\n' s
  pieces.map (dropEnd '\r') ++ if rest.isEmpty then [] else [rest]

/-- The maximal stretches of a text without a line feed, empty ones included. -/
def stretches (s : List Char) : List (List Char) :=
  s.splitOn '\n'

end NodeWatch.Text

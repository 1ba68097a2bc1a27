/-!
# Searching a sequence

Where a word occurs in a sequence, and what stands before and after it. A search tries the suffixes
of the sequence, from the left (`firstMatch?`) or from the right (`lastMatch?`).
-/

namespace NodeWatch.Text

variable {α β : Type}

/-- The value of `f` on the longest suffix on which it has one. -/
def firstMatch? (f : List α → Option β) : List α → Option β
  | [] => f []
  | a :: s => match f (a :: s) with
    | some b => some b
    | none => firstMatch? f s

/-- The value of `f` on the shortest suffix on which it has one. -/
def lastMatch? (f : List α → Option β) : List α → Option β
  | [] => f []
  | a :: s => match lastMatch? f s with
    | some b => some b
    | none => f (a :: s)

variable [BEq α]

/-- What stands after the first occurrence of `word`. -/
def after? (word s : List α) : Option (List α) :=
  firstMatch? (word.isPrefixOf? ·) s

def contains (word s : List α) : Bool :=
  (after? word s).isSome

/-- What stands before the first occurrence of `word` whose continuation satisfies `ok`. -/
def beforeFirst? (word : List α) (ok : List α → Bool) : List α → Option (List α)
  | [] => none
  | a :: s =>
    if ((word.isPrefixOf? (a :: s)).map ok).getD false then some []
    else (beforeFirst? word ok s).map (a :: ·)

/-- What stands before the last occurrence of `word` whose continuation satisfies `ok`. -/
def beforeLast? (word : List α) (ok : List α → Bool) : List α → Option (List α)
  | [] => none
  | a :: s => match beforeLast? word ok s with
    | some before => some (a :: before)
    | none => if ((word.isPrefixOf? (a :: s)).map ok).getD false then some [] else none

/-- The two sides of the first occurrence of a non-empty `word`. -/
def cut? (word s : List α) : Option (List α × List α) :=
  match beforeFirst? word (fun _ => true) s, after? word s with
  | some before, some rest => some (before, rest)
  | _, _ => none

/-- What stands after the last occurrence of `word`. -/
def afterLast? (word s : List α) : Option (List α) :=
  lastMatch? (word.isPrefixOf? ·) s

end NodeWatch.Text

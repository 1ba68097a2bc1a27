/-!
# Reading in pieces

A file is read piece by piece: a read gives what is there, but never more than a fixed number of
bytes.
-/

namespace NodeWatch.Files

variable {α : Type}

/-- One read gives at most this many bytes. -/
def pieceSize : Nat := 8192

/-- A sequence cut into pieces of `n` elements and a last, shorter one. -/
def pieces (n : Nat) (s : List α) : List (List α) :=
  if s.isEmpty || n = 0 then [] else s.take n :: pieces n (s.drop n)
termination_by s.length
decreasing_by
  rename_i h
  simp only [Bool.or_eq_true, List.isEmpty_iff, decide_eq_true_eq, not_or] at h
  have := List.length_pos_iff.mpr h.1
  grind

/-- Nothing is lost between two pieces. -/
theorem flatten_pieces {n : Nat} (hn : n ≠ 0) (s : List α) : (pieces n s).flatten = s := by
  fun_induction pieces n s with
  | case1 s h => simp_all
  | case2 s h ih => simp [ih]

end NodeWatch.Files

import Mathlib.Data.List.Basic
import NodeWatch.Proofs.Text.Lossy

/-!
# Lines, one by one

Pieces that end with a given element are found one after the other, and what is left unfinished goes
on in what follows. So a text can be taken line by line (`lines_induction`). The lines of bytes that
are read as text are the lines of the bytes, each read on its own (`completed_decodeLossy`).
-/

namespace NodeWatch.Text

section

variable {α : Type} [BEq α] [LawfulBEq α] {stop : α} {piece s : List α}

omit [LawfulBEq α] in
lemma splitOn_eq_completed (stop : α) (s : List α) :
    s.splitOn stop = (completed stop s).1 ++ [(completed stop s).2] := by
  induction s with
  | nil => rfl
  | cons b s ih =>
    rw [List.splitOn] at ih ⊢
    rw [List.splitOnP_cons_eq_if_modifyHead, ih]
    rcases hs : completed stop s with ⟨_ | ⟨piece, pieces⟩, rest⟩ <;>
      by_cases hb : b == stop <;> simp [completed, hs, hb]

lemma completed_of_not_mem (hs : stop ∉ s) : completed stop s = ([], s) := by
  induction s with
  | nil => rfl
  | cons b s ih =>
    rw [List.mem_cons, not_or] at hs
    simp [completed, ih hs.2, Ne.symm hs.1]

/-- The first piece ends where the element first occurs. -/
lemma completed_append_cons (hpiece : stop ∉ piece) (t : List α) :
    completed stop (piece ++ stop :: t) =
      (piece :: (completed stop t).1, (completed stop t).2) := by
  have hfirst : completed stop (stop :: t) = ([] :: (completed stop t).1, (completed stop t).2) := by
    simp [completed]
  rw [completed_append, hfirst, completed_of_not_mem hpiece]
  simp

/-- Nothing is left unfinished where the element comes last. -/
lemma completed_snd_of_getLast? (hs : s.getLast? = some stop) : (completed stop s).2 = [] := by
  by_contra hrest
  have hlast := congrArg List.getLast? (flatMap_completed stop s)
  rw [List.getLast?_append_of_ne_nil _ hrest, hs] at hlast
  exact not_mem_completed_rest stop s (List.mem_of_getLast? hlast)

omit [LawfulBEq α] in
lemma completed_append_of_finished (hs : (completed stop s).2 = []) (t : List α) :
    completed stop (s ++ t) =
      ((completed stop s).1 ++ (completed stop t).1, (completed stop t).2) := by
  rw [completed_append]
  rcases completed stop t with ⟨_ | ⟨piece, pieces⟩, rest⟩ <;> simp [hs]

/-- A sequence is built from what is left unfinished, piece by piece. -/
@[elab_as_elim]
lemma pieces_induction (stop : α) {motive : List α → Prop} (last : ∀ s, stop ∉ s → motive s)
    (piece : ∀ piece t, stop ∉ piece → motive t → motive (piece ++ stop :: t)) (s : List α) :
    motive s := by
  have hpieces := not_mem_of_mem_completed stop s
  have hrest := not_mem_completed_rest stop s
  rw [← flatMap_completed stop s]
  generalize (completed stop s).1 = pieces, (completed stop s).2 = rest at hpieces hrest
  induction pieces with
  | nil => exact last rest hrest
  | cons first pieces ih =>
    obtain ⟨hfirst, hpieces⟩ := List.forall_mem_cons.mp hpieces
    rw [List.flatMap_cons, List.append_assoc, List.append_assoc]
    exact piece first _ hfirst (ih hpieces)

end

section

variable {line ending piece s : List Char}

/-- A line ends with a line feed and the carriage return before it, if there is one. -/
def IsEnding (line ending : List Char) : Prop :=
  ending = ['\n'] ∧ line.getLast? ≠ some '\r' ∨ ending = ['\r', '\n']

lemma IsEnding.ne_nil (h : IsEnding line ending) : ending ≠ [] := by
  rcases h with ⟨rfl, -⟩ | rfl <;> simp

lemma IsEnding.mem (h : IsEnding line ending) {c : Char} (hc : c ∈ ending) :
    c = '\n' ∨ c = '\r' := by
  rcases h with ⟨rfl, -⟩ | rfl
  · exact .inl (List.mem_singleton.mp hc)
  · simpa [or_comm] using hc

lemma exists_ending (hpiece : '\n' ∉ piece) :
    ∃ line ending, piece ++ ['\n'] = line ++ ending ∧ '\n' ∉ line ∧ IsEnding line ending := by
  by_cases hlast : piece.getLast? = some '\r'
  · obtain ⟨line, rfl⟩ := List.getLast?_eq_some_iff.mp hlast
    refine ⟨line, ['\r', '\n'], by simp, fun hline => ?_, .inr rfl⟩
    exact hpiece (List.mem_append_left _ hline)
  · exact ⟨piece, ['\n'], rfl, hpiece, .inl ⟨rfl, hlast⟩⟩

lemma lines_of_not_mem (hs : '\n' ∉ s) : lines s = if s.isEmpty then [] else [s] := by
  rw [lines, completed_of_not_mem hs]
  rfl

lemma lines_append_cons (hpiece : '\n' ∉ piece) (t : List Char) :
    lines (piece ++ '\n' :: t) = dropEnd '\r' piece :: lines t := by
  rw [lines, completed_append_cons hpiece]
  rfl

lemma lines_append_ending (hline : '\n' ∉ line) (hending : IsEnding line ending) (t : List Char) :
    lines (line ++ (ending ++ t)) = line :: lines t := by
  rcases hending with ⟨rfl, hlast⟩ | rfl
  · rw [List.singleton_append, lines_append_cons hline, dropEnd, if_neg (by simpa using hlast)]
  · have hreturn : '\n' ∉ line ++ ['\r'] := by simp [hline]
    have hassoc : line ++ (['\r', '\n'] ++ t) = line ++ ['\r'] ++ '\n' :: t := by simp
    rw [hassoc, lines_append_cons hreturn, dropEnd, if_pos (by simp), List.dropLast_concat]

/-- A text is built from its last line, line by line. -/
@[elab_as_elim]
lemma lines_induction {motive : List Char → Prop} (last : ∀ s, '\n' ∉ s → motive s)
    (line : ∀ line ending t, '\n' ∉ line → IsEnding line ending → motive t →
      motive (line ++ (ending ++ t))) (s : List Char) : motive s := by
  induction s using pieces_induction '\n' with
  | last s hs => exact last s hs
  | piece piece t hpiece ih =>
    obtain ⟨first, ending, hsplit, hfirst, hending⟩ := exists_ending hpiece
    rw [← List.singleton_append, ← List.append_assoc, hsplit, List.append_assoc]
    exact line first ending t hfirst hending ih

lemma lines_append (hs : s.getLast? = some '\n') (t : List Char) :
    lines (s ++ t) = lines s ++ lines t := by
  have hfinished := completed_snd_of_getLast? hs
  simp only [lines, completed_append_of_finished hfinished, hfinished, List.isEmpty_nil, if_true,
    List.map_append, List.append_nil, List.append_assoc]

end

/-- The line feed as a byte. -/
def feed : UInt8 := '\n'.toUInt8

end NodeWatch.Text

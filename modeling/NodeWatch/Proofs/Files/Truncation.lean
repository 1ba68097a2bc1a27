import NodeWatch.Proofs.Files.Tail

/-!
# Files that become shorter

That a file was truncated shows in its length only. If the file is shorter than what was read of it,
it is read again from its start, and its unfinished line is forgotten. If by then it has grown to
that length again, reading goes on where it stood, and the bytes found there are put after the old
unfinished line. The main statement is `run_rewritten`; `not_isReadAgain_regrown` is a file for
which the two differ.
-/

namespace NodeWatch.Files

open Text

namespace Tail

variable {path : Path} {i : Inode} {m : Moment}

/-- The bytes of an unfinished line count as if they came with the next ones. -/
lemma finish_of_not_mem {pending : Bytes} (hpending : '\n'.toUInt8 ∉ pending) (s : Bytes) :
    (finish pending s).1 = completeLines (pending ++ s) := by
  have hfirst : finish [] pending = ([], pending) := by
    simp [finish, completed_of_not_mem hpending]
  rw [← finish_nil, finish_append, hfirst, List.nil_append]

/-- As long as polls find the open file under the path, and it only grows, its bytes count as if
they had come at once. -/
lemma run_of_forall_isQuiet {ms : List Moment} (pending : Bytes)
    (hquiet : ∀ m' ∈ m :: ms, m'.IsQuiet path i)
    (hgrow : (m :: ms).IsChain (Moment.Grows path)) {position : Nat}
    (hle : position ≤ (m.content i).length) :
    let read := finish pending ((m.content i).drop position)
    read.1 ++ (run path (.following i (m.content i).length read.2) ms).1 =
      (finish pending (((ms.getLastD m).content i).drop position)).1 := by
  induction ms generalizing m with
  | nil => exact List.append_nil _
  | cons m' ms ih =>
    obtain ⟨hstep, hgrow⟩ := List.isChain_cons_cons.mp hgrow
    obtain ⟨hm, hms⟩ := List.forall_mem_cons.mp hquiet
    have hgrown := isPrefix_content hstep hm.resolve_eq
    have hlater := ih hms hgrow (hle.trans hgrown.length_le)
    intro read
    obtain ⟨htail, hlines⟩ := poll_of_le (hms m' List.mem_cons_self) read.2 hgrown.length_le
    have hread := finish_append pending ((m.content i).drop position)
      ((m'.content i).drop (m.content i).length)
    rw [← drop_of_isPrefix hgrown hle] at hread
    rw [run_cons, htail, hlines, ← List.append_assoc, List.getLastD_cons, ← hlater, hread]

/-- Whatever has been done to a file between two polls: if the next poll finds it shorter than what
was read of it, the lines from then on are those of a file that has just come under the path, and no
byte that is pending is in them. Otherwise reading goes on behind the bytes that were read, and the
pending bytes come before what is found there. -/
theorem run_rewritten (path : Path) (i : Inode) (position : Nat) (pending : Bytes) (m : Moment)
    (ms : List Moment) (hpending : '\n'.toUInt8 ∉ pending) (hquiet : m.IsQuiet path i)
    (hgrow : (m :: ms).IsChain (Moment.Grows path)) :
    ((m.content i).length < position →
      (run path (.following i position pending) (m :: ms)).1 =
        (openings path (some .replaced) (m :: ms)).flatMap Opening.lines) ∧
    ((∀ m' ∈ ms, m'.IsQuiet path i) →
      (run path (.following i position pending) (m :: ms)).1 =
        if (m.content i).length < position then completeLines ((ms.getLastD m).content i)
        else completeLines (pending ++ ((ms.getLastD m).content i).drop position)) := by
  constructor
  · intro hlt
    obtain ⟨htail, hlines⟩ := poll_of_lt hquiet pending hlt
    obtain ⟨htail', hlines'⟩ := poll_waiting hquiet true
    have hfresh : (run path (.waiting true) (m :: ms)).1 =
        (openings path (some .replaced) (m :: ms)).flatMap Opening.lines :=
      run_waiting (some .replaced) hgrow
    rw [← hfresh, run_cons, run_cons, htail, htail', hlines, hlines']
    rfl
  · intro hlater
    have hall : ∀ m' ∈ m :: ms, m'.IsQuiet path i := List.forall_mem_cons.mpr ⟨hquiet, hlater⟩
    split_ifs with hlt
    · obtain ⟨htail, hlines⟩ := poll_of_lt hquiet pending hlt
      have hread := run_of_forall_isQuiet [] hall hgrow (Nat.zero_le _)
      rw [List.drop_zero, List.drop_zero, finish_nil] at hread
      rw [run_cons, htail, hlines, ← hread, finish_nil]
    · obtain ⟨htail, hlines⟩ := poll_of_le hquiet pending (Nat.le_of_not_lt hlt)
      have hread := run_of_forall_isQuiet pending hall hgrow (Nat.le_of_not_lt hlt)
      rw [run_cons, htail, hlines, hread, finish_of_not_mem hpending]

def log : Path := .ofText "/a.log"

/-- A file whose last line is unfinished. -/
def halfWritten : Tree :=
  Tree.empty.apply (.write log (encode "first line\nhalf".toList))

/-- The tree after a file has been cut to a length, and then written to. -/
def rewritten (t : Tree) (path : Path) (length : Nat) (writes : List Bytes) : Tree :=
  (writes.map (Change.append path)).foldl Tree.apply (t.apply (.resize path length))

/-- Two polls after the file was cut to three bytes. -/
def shorter : Moment × Moment :=
  let cut := rewritten halfWritten log 3 [encode "\nsec".toList]
  (⟨cut, {}⟩, ⟨cut.apply (.append log (encode "ond\n".toList)), {}⟩)

theorem run_rewritten_shorter :
    shorter.1.IsQuiet log 1 ∧ shorter.2.IsQuiet log 1 ∧
      (run log (.following 1 15 (encode "half".toList)) [shorter.1, shorter.2]).1 =
        ["fir", "second"] := by
  have hpending : '\n'.toUInt8 ∉ encode "half".toList := by decide
  have hquiet : shorter.1.IsQuiet log 1 :=
    ⟨rfl, by cbv, Option.isSome_iff_ne_none.mp (by cbv)⟩
  have hquiet' : shorter.2.IsQuiet log 1 :=
    ⟨rfl, by cbv, Option.isSome_iff_ne_none.mp (by cbv)⟩
  have hgrow : [shorter.1, shorter.2].IsChain (Moment.Grows log) :=
    List.isChain_pair.mpr (Moment.grows_of_extends log (Tree.extends_apply rfl))
  have hread := (run_rewritten log 1 15 _ shorter.1 [shorter.2] hpending hquiet hgrow).2
    (List.forall_mem_singleton.mpr hquiet')
  exact ⟨hquiet, hquiet', hread.trans (by cbv)⟩

/-- Whether a file that is cut after it was read, and then written to, is read from its start by the
next poll. -/
def IsReadAgain (t : Tree) (path : Path) (length : Nat) (writes : List Bytes) : Prop :=
  let standing := (run path (.waiting true) [⟨t, {}⟩]).2
  let m : Moment := ⟨rewritten t path length writes, {}⟩
  ∀ data, m.files.read path = .ok data → (run path standing [m]).1 = completeLines data

/-- What is written to the file once it has been cut to nothing. -/
def longer : Bytes :=
  encode "a new and longer first line\nsecond\n".toList

/-- The first line that is shown begins with bytes that are no longer in the file. -/
theorem not_isReadAgain_regrown :
    run log (.waiting true) [⟨halfWritten, {}⟩] =
        (["first line"], .following 1 15 (encode "half".toList)) ∧
    (run log (.following 1 15 (encode "half".toList))
      [⟨rewritten halfWritten log 0 [longer], {}⟩]).1 = ["halfr first line", "second"] ∧
    completeLines longer = ["a new and longer first line", "second"] ∧
    ¬ ∀ t path data length writes, t.read path = .ok data → length < data.length →
      IsReadAgain t path length writes := by
  have hread : run log (.waiting true) [⟨halfWritten, {}⟩] =
      (["first line"], .following 1 15 (encode "half".toList)) := by
    cbv
  have hshown : (run log (.following 1 15 (encode "half".toList))
      [⟨rewritten halfWritten log 0 [longer], {}⟩]).1 = ["halfr first line", "second"] := by
    cbv
  have hlines : completeLines longer = ["a new and longer first line", "second"] := by
    cbv
  refine ⟨hread, hshown, hlines, fun hall => ?_⟩
  have hcontent : (rewritten halfWritten log 0 [longer]).read log = .ok longer := by cbv
  have hagain := hall halfWritten log (encode "first line\nhalf".toList) 0 [longer] (by cbv)
    (by decide) longer hcontent
  simp only [hread, hshown, hlines] at hagain
  exact absurd hagain (by decide)

end Tail

end NodeWatch.Files

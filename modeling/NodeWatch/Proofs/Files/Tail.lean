import Mathlib
import NodeWatch.Files.Tail
import NodeWatch.Proofs.Files.Change
import NodeWatch.Proofs.Text.Lines

/-!
# What is read of a file

The lines that following a path gives are defined here without following it. Its polls are cut into
openings: an opening is a file, an offset, and the content that was there at the last poll that read
it. The main statement is `Tail.run_eq_openings`: the lines are the complete lines of the openings.
-/

namespace NodeWatch.Files

open Text

/-- The lines of the pieces that end with a line feed. -/
def completeLines (s : Bytes) : List String :=
  (s.splitOn '\n'.toUInt8).dropLast.filterMap Tail.lineOf?

lemma finish_nil (s : Bytes) : (Tail.finish [] s).1 = completeLines s := by
  rw [completeLines, splitOn_eq_completed, List.dropLast_concat, Tail.finish]
  rcases completed '\n'.toUInt8 s with ⟨_ | ⟨piece, pieces⟩, rest⟩ <;> rfl

/-- What a poll finds. -/
structure Moment where
  files : Tree
  trouble : Tail.Trouble := {}

/-- How the reading of a file ends. -/
inductive Ending where
  | replaced
  | removed
  | failed
  deriving DecidableEq

namespace Moment

def content (m : Moment) (i : Inode) : Bytes :=
  (m.files.data? i).getD []

/-- What the path leads to, if that can be opened. -/
def opened? (m : Moment) (path : Path) : Option Inode :=
  match m.trouble.opening with
  | some _ => none
  | none => (m.files.resolve path).toOption

/-- After how many bytes reading fails that has just begun. A directory cannot be read. -/
def failure? (m : Moment) (i : Inode) : Option Nat :=
  if (m.files.data? i).isNone then some 0 else m.trouble.beginning.map Prod.fst

/-- How this poll ends the reading of the file `i`; `none` if the path still leads to it. -/
def ending? (m : Moment) (path : Path) (i : Inode) : Option Ending :=
  match m.trouble.reading with
  | some _ => some .failed
  | none => match m.files.resolve path with
    | .ok j => if j = i then none else some .replaced
    | .error .notFound => some .removed
    | .error _ => some .failed

/-- Whether the file `i` is still read after this poll. -/
def keeps (path : Path) (i : Inode) (m : Moment) : Bool :=
  m.ending? path i = none

/-- What can be read of the file `i` after so many bytes of it were read. -/
def readable (m : Moment) (i : Inode) (position : Nat) : Bytes :=
  match m.trouble.reading with
  | some (n, _) => (m.content i).take (position + n)
  | none => m.content i

/-- Nothing fails, and the path leads to the file `i`. -/
structure IsQuiet (path : Path) (i : Inode) (m : Moment) : Prop where
  trouble_eq : m.trouble = {}
  resolve_eq : m.files.resolve path = .ok i
  isFile : m.files.data? i ≠ none

/-- The file that the path leads to has at most grown until the next poll, whatever has become of
the path. -/
def Grows (path : Path) (m m' : Moment) : Prop :=
  ∀ i data, m.files.resolve path = .ok i → m.files.data? i = some data →
    ∃ data', m'.files.data? i = some data' ∧ data <+: data'

lemma grows_of_extends (path : Path) {m m' : Moment} (h : m.files.Extends m'.files) :
    m.Grows path m' :=
  fun i data _ hdata => h i data hdata

/-- What polls find in a tree that is changed between them. -/
def history (t : Tree) : List (List Change × Tail.Trouble) → List Moment
  | [] => []
  | (changes, trouble) :: steps =>
    ⟨changes.foldl Tree.apply t, trouble⟩ :: history (changes.foldl Tree.apply t) steps

end Moment

/-- A file that is read from an offset on, and what could be read of it up to its last poll. -/
structure Opening where
  inode : Inode
  offset : Nat
  content : Bytes

def Opening.lines (o : Opening) : List String :=
  completeLines (o.content.drop o.offset)

/-- Whether the file is read from its start that is opened after an opening which ended so. -/
def fromStart (previous : Option Ending) : Bool :=
  previous = some .replaced || previous = some .removed

/-- The openings of a path, after an opening that ended with `previous`. The file that is opened is
read as long as polls find it under the path. The poll that finds another one opens that; after any
other end, opening is for the next poll. -/
def openings (path : Path) (previous : Option Ending) : List Moment → List Opening
  | [] => []
  | m :: ms => match m.opened? path with
    | none => openings path previous ms
    | some i =>
      let offset := if fromStart previous then 0 else (m.content i).length
      match m.failure? i with
      | some n => ⟨i, offset, (m.content i).take (offset + n)⟩ :: openings path (some .failed) ms
      | none =>
        let last := (ms.takeWhile (Moment.keeps path i)).getLastD m
        let rest := ms.dropWhile (Moment.keeps path i)
        match rest.head? with
        | none => [⟨i, offset, last.content i⟩]
        | some m' => ⟨i, offset, m'.readable i (last.content i).length⟩ ::
          if m'.ending? path i = some .replaced then openings path (some .replaced) rest
          else openings path (m'.ending? path i) rest.tail
termination_by ms => ms.length
decreasing_by
  · exact Nat.lt_succ_self _
  · exact Nat.lt_succ_self _
  · exact Nat.lt_succ_of_le (List.dropWhile_sublist _).length_le
  · exact Nat.lt_succ_of_le (List.tail_sublist _ |>.trans (List.dropWhile_sublist _)).length_le

namespace Tail

lemma readOn_none (pending rest : Bytes) :
    ∃ batches, readOn pending rest none = (batches, .ok (finish pending rest).2) ∧
      batches.flatten = (finish pending rest).1 := by
  have hread := flatten_finishAll pending (pieces pieceSize rest)
  rw [flatten_pieces (by decide)] at hread
  exact ⟨_, by rw [← hread]; rfl, by rw [← hread]⟩

lemma readOn_some (pending rest : Bytes) (n : Nat) (fault : Fault) :
    ∃ batches, readOn pending rest (some (n, fault)) = (batches, .error fault) ∧
      batches.flatten = (finish pending (rest.take n)).1 := by
  have hread := flatten_finishAll pending (pieces pieceSize (rest.take n))
  rw [flatten_pieces (by decide)] at hread
  exact ⟨_, rfl, by rw [← hread]⟩

lemma flatten_questions (n : Nat) : (questions n).flatten = [] := by
  simp [questions]

/-! ### Single polls -/

section Start

variable {m : Moment} {path : Path} {i : Inode}

lemma start_of_none (restarts : Bool) (hopened : m.opened? path = none) :
    start m.files path restarts m.trouble = { tail := .waiting restarts } := by
  rcases htrouble : m.trouble.opening with _ | fault
  · rcases hfile : m.files.resolve path with fault | i
    · simp [start, htrouble, hfile]
    · simp [Moment.opened?, htrouble, hfile, Except.toOption] at hopened
  · simp [start, htrouble]

lemma resolve_of_opened? (hopened : m.opened? path = some i) :
    m.trouble.opening = none ∧ m.files.resolve path = .ok i := by
  rcases htrouble : m.trouble.opening with _ | fault
  · rcases hfile : m.files.resolve path with fault | j
    · simp [Moment.opened?, htrouble, hfile, Except.toOption] at hopened
    · simp_all [Moment.opened?, Except.toOption]
  · simp [Moment.opened?, htrouble] at hopened

/-- A file that cannot be read any further gives the lines that could be read. -/
lemma start_of_failure (restarts : Bool) (hopened : m.opened? path = some i) {n : Nat}
    (hfailure : m.failure? i = some n) :
    let offset := if restarts then 0 else (m.content i).length
    (start m.files path restarts m.trouble).tail = .waiting false ∧
      (start m.files path restarts m.trouble).batches.flatten =
        completeLines (((m.content i).take (offset + n)).drop offset) := by
  obtain ⟨htrouble, hfile⟩ := resolve_of_opened? hopened
  intro offset
  rcases hdata : m.files.data? i with _ | data
  · simp [start, htrouble, hfile, hdata, Moment.content]
    rfl
  · rcases hbeginning : m.trouble.beginning with _ | ⟨n', fault⟩
    · simp [Moment.failure?, hdata, hbeginning] at hfailure
    · obtain rfl : n' = n := by simpa [Moment.failure?, hdata, hbeginning] using hfailure
      obtain ⟨batches, hread, hlines⟩ := readOn_some [] (data.drop offset) n' fault
      have hcontent : m.content i = data := by simp [Moment.content, hdata]
      rw [finish_nil, List.take_drop] at hlines
      simp only [offset, hcontent] at hread hlines ⊢
      simp [start, htrouble, hfile, hdata, begin, hbeginning, hread, hlines, flatten_questions]

/-- A file that can be read is followed from its end. -/
lemma start_of_opened (restarts : Bool) (hopened : m.opened? path = some i)
    (hfailure : m.failure? i = none) :
    let offset := if restarts then 0 else (m.content i).length
    (start m.files path restarts m.trouble).tail =
        .following i (m.content i).length (finish [] ((m.content i).drop offset)).2 ∧
      (start m.files path restarts m.trouble).batches.flatten =
        (finish [] ((m.content i).drop offset)).1 := by
  obtain ⟨htrouble, hfile⟩ := resolve_of_opened? hopened
  intro offset
  rcases hdata : m.files.data? i with _ | data
  · simp [Moment.failure?, hdata] at hfailure
  · have hbeginning : m.trouble.beginning = none := by
      simpa [Moment.failure?, hdata] using hfailure
    obtain ⟨batches, hread, hlines⟩ := readOn_none [] (data.drop offset)
    have hcontent : m.content i = data := by simp [Moment.content, hdata]
    simp only [offset, hcontent] at hread hlines ⊢
    simp [start, htrouble, hfile, hdata, begin, hbeginning, hread, hlines, flatten_questions]

end Start

section Resume

variable {m : Moment} {path : Path} {i : Inode} {position : Nat}

lemma ending?_cases (m : Moment) (path : Path) (i : Inode) :
    (∃ n fault, m.trouble.reading = some (n, fault) ∧ m.ending? path i = some .failed) ∨
      (m.trouble.reading = none ∧
        ((m.files.resolve path = .ok i ∧ m.ending? path i = none) ∨
          (∃ j, j ≠ i ∧ m.files.resolve path = .ok j ∧ m.ending? path i = some .replaced) ∨
          (m.files.resolve path = .error .notFound ∧ m.ending? path i = some .removed) ∨
          (∃ fault, fault ≠ .notFound ∧ m.files.resolve path = .error fault ∧
            m.ending? path i = some .failed))) := by
  rcases htrouble : m.trouble.reading with _ | ⟨n, fault⟩
  · refine .inr ⟨rfl, ?_⟩
    rcases hfile : m.files.resolve path with fault | j
    · by_cases hfault : fault = .notFound
      · subst hfault
        exact .inr (.inr (.inl ⟨rfl, by simp [Moment.ending?, htrouble, hfile]⟩))
      · refine .inr (.inr (.inr ⟨fault, hfault, rfl, ?_⟩))
        simp [Moment.ending?, htrouble, hfile]
    · by_cases hj : j = i
      · exact .inl ⟨by rw [hj], by simp [Moment.ending?, htrouble, hfile, hj]⟩
      · exact .inr (.inl ⟨j, hj, rfl, by simp [Moment.ending?, htrouble, hfile, hj]⟩)
  · exact .inl ⟨n, fault, rfl, by simp [Moment.ending?, htrouble]⟩

/-- Whatever a poll finds, it reads what can be read of the open file. -/
lemma resume_cases (m : Moment) (path : Path) (i : Inode) (position : Nat) (pending : Bytes)
    (hposition : position ≤ (m.content i).length) :
    let rest := (m.readable i position).drop position
    let p := resume m.files path i position pending m.trouble
    match m.ending? path i with
    | none => p.tail = .following i (m.content i).length (finish pending rest).2 ∧
        p.batches.flatten = (finish pending rest).1
    | some .replaced => p.tail = (start m.files path true m.trouble).tail ∧
        p.batches.flatten = (finish pending rest).1 ++
          (start m.files path true m.trouble).batches.flatten
    | some .removed => p.tail = .waiting true ∧ p.batches.flatten = (finish pending rest).1
    | some .failed => p.tail = .waiting false ∧ p.batches.flatten = (finish pending rest).1 := by
  intro rest p
  rcases ending?_cases m path i with ⟨n, fault, htrouble, hending⟩ | ⟨htrouble, hcases⟩
  · obtain ⟨batches, hread, hlines⟩ := readOn_some pending ((m.content i).drop position) n fault
    have hrest : rest = ((m.content i).drop position).take n := by
      simp [rest, Moment.readable, htrouble, List.take_drop]
    rw [hending]
    simp only [Moment.content] at hread
    simp only [p, resume, htrouble, hread, hlines, hrest, and_self]
  · obtain ⟨batches, hread, hlines⟩ := readOn_none pending ((m.content i).drop position)
    have hrest : rest = (m.content i).drop position := by simp [rest, Moment.readable, htrouble]
    have hmax : max position (m.content i).length = (m.content i).length := max_eq_right hposition
    have hlength : ((m.files.data? i).map List.length).getD 0 = (m.content i).length := by
      rw [Moment.content]
      cases m.files.data? i <;> rfl
    have hdata : readOn pending (((m.files.data? i).getD []).drop position) none =
        (batches, .ok (finish pending rest).2) := by rw [hrest]; exact hread
    rw [← hrest] at hlines
    simp only [Moment.content] at hmax
    rcases hcases with ⟨hfile, hending⟩ | ⟨j, hj, hfile, hending⟩ | ⟨hfile, hending⟩ |
      ⟨fault, hfault, hfile, hending⟩
    · have hstat : m.files.stat path = .ok (i, (m.content i).length) := by
        simp [Tree.stat, hfile, hlength, bind, Except.bind, pure, Except.pure]
      rw [hending]
      simp only [p, resume, htrouble, hdata, hstat]
      simp [Moment.content, hmax, hlines]
    · have hstat : ∃ length, m.files.stat path = .ok (j, length) := by
        simp [Tree.stat, hfile, bind, Except.bind, pure, Except.pure]
      obtain ⟨length, hstat⟩ := hstat
      rw [hending]
      simp only [p, resume, htrouble, hdata, hstat]
      simp [hj, hlines, flatten_questions]
    · have hstat : m.files.stat path = .error .notFound := by
        simp [Tree.stat, hfile, bind, Except.bind]
      rw [hending]
      simp only [p, resume, htrouble, hdata, hstat, hlines, and_self]
    · have hstat : m.files.stat path = .error fault := by
        simp [Tree.stat, hfile, bind, Except.bind]
      rw [hending]
      simp only [p, resume, htrouble, hdata, hstat]
      exact ⟨trivial, hlines⟩

end Resume

/-! ### Runs -/

/-- Polls in a row: all lines they give, and the standing after them. -/
def run (path : Path) : Tail → List Moment → List String × Tail
  | t, [] => ([], t)
  | t, m :: ms =>
    let p := t.poll m.files path m.trouble
    let (lines, t) := run path p.tail ms
    (p.batches.flatten ++ lines, t)

lemma run_cons (path : Path) (t : Tail) (m : Moment) (ms : List Moment) :
    (run path t (m :: ms)).1 = (t.poll m.files path m.trouble).batches.flatten ++
      (run path (t.poll m.files path m.trouble).tail ms).1 := rfl

lemma drop_of_isPrefix {s t : Bytes} (hgrown : s <+: t) {n : Nat} (hn : n ≤ s.length) :
    t.drop n = s.drop n ++ t.drop s.length := by
  obtain ⟨u, rfl⟩ := hgrown
  rw [List.drop_append_of_le_length hn, List.drop_left]

/-- A file that was under the path has at most grown. -/
lemma isPrefix_content {path : Path} {m m' : Moment} {i : Inode} (hgrow : m.Grows path m')
    (hfile : m.files.resolve path = .ok i) : m.content i <+: m'.content i := by
  rcases hdata : m.files.data? i with _ | data
  · simp [Moment.content, hdata]
  · obtain ⟨data', hdata', hgrown⟩ := hgrow i data hfile hdata
    simpa [Moment.content, hdata, hdata'] using hgrown

lemma isPrefix_readable {s : Bytes} {m : Moment} {i : Inode} (hgrown : s <+: m.content i) :
    s <+: m.readable i s.length := by
  rcases htrouble : m.trouble.reading with _ | ⟨n, fault⟩
  · simpa [Moment.readable, htrouble] using hgrown
  · simpa [Moment.readable, htrouble] using
      List.prefix_take_iff.mpr ⟨hgrown, Nat.le_add_right _ n⟩

/-- A poll that finds the open file under the path reads all of it. -/
lemma readable_of_none {path : Path} {m : Moment} {i : Inode} (hending : m.ending? path i = none)
    (position : Nat) : m.files.resolve path = .ok i ∧ m.readable i position = m.content i := by
  rcases ending?_cases m path i with ⟨n, fault, -, hfailed⟩ | ⟨htrouble, ⟨hfile, -⟩ |
    ⟨j, -, -, hended⟩ | ⟨-, hended⟩ | ⟨fault, -, -, hended⟩⟩
  · rw [hending] at hfailed
    cases hfailed
  · exact ⟨hfile, by simp [Moment.readable, htrouble]⟩
  all_goals
    rw [hending] at hended
    cases hended

/-- An open file is read up to the poll that ends this, as if all of its bytes had come at once. -/
lemma run_following {path : Path} {i : Inode} {offset : Nat} {m : Moment} {ms : List Moment}
    (hgrow : (m :: ms).IsChain (Moment.Grows path)) (hfile : m.files.resolve path = .ok i)
    (hoffset : offset ≤ (m.content i).length) :
    let last := (ms.takeWhile (Moment.keeps path i)).getLastD m
    let rest := ms.dropWhile (Moment.keeps path i)
    let read := finish [] ((m.content i).drop offset)
    read.1 ++ (run path (.following i (m.content i).length read.2) ms).1 =
      match rest.head? with
      | none => completeLines ((last.content i).drop offset)
      | some m' =>
        completeLines ((m'.readable i (last.content i).length).drop offset) ++
          if m'.ending? path i = some .replaced then (run path (.waiting true) rest).1
          else (run path (.waiting (fromStart (m'.ending? path i))) rest.tail).1 := by
  induction ms generalizing m with
  | nil => simp [run, finish_nil]
  | cons m' ms ih =>
    obtain ⟨hstep, hgrow⟩ := List.isChain_cons_cons.mp hgrow
    have hgrown := isPrefix_content hstep hfile
    intro last rest read
    have hpoll := resume_cases m' path i (m.content i).length read.2 hgrown.length_le
    have hread :
        let rest := (m'.readable i (m.content i).length).drop (m.content i).length
        finish [] ((m'.readable i (m.content i).length).drop offset) =
          (read.1 ++ (finish read.2 rest).1, (finish read.2 rest).2) := by
      rw [drop_of_isPrefix (isPrefix_readable hgrown) hoffset, finish_append]
    rw [run_cons]
    simp only [poll]
    rcases hending : m'.ending? path i with _ | _ | _ | _ <;>
      simp only [hending] at hpoll <;> rw [hpoll.1, hpoll.2]
    · obtain ⟨hfile', hreadable⟩ := readable_of_none hending (m.content i).length
      have hrest := ih hgrow hfile' (Nat.le_trans hoffset hgrown.length_le)
      rw [hreadable] at hread ⊢
      rw [hread] at hrest
      simp only [List.append_assoc] at hrest ⊢
      rw [hrest]
      have hkeeps : m'.keeps path i = true := by simp [Moment.keeps, hending]
      simp only [last, rest, List.takeWhile_cons_of_pos hkeeps, List.dropWhile_cons_of_pos hkeeps,
        List.getLastD_cons]
    all_goals
      have hkeeps : ¬m'.keeps path i = true := by simp [Moment.keeps, hending]
      simp only [last, rest, List.takeWhile_cons_of_neg hkeeps, List.dropWhile_cons_of_neg hkeeps,
        List.getLastD_nil, List.head?_cons]
      rw [← finish_nil, hread]
    · simp [hending, run_cons, poll]
    · simp [hending, fromStart]
    · simp [hending, fromStart]

/-- Following a path gives the lines of its openings. -/
lemma run_waiting {path : Path} (previous : Option Ending) {ms : List Moment}
    (hgrow : ms.IsChain (Moment.Grows path)) :
    (run path (.waiting (fromStart previous)) ms).1 =
      (openings path previous ms).flatMap Opening.lines := by
  fun_induction openings path previous ms with
  | case1 previous => rfl
  | case2 previous m ms hopened ih =>
    rw [run_cons, poll, start_of_none _ hopened]
    exact ih hgrow.tail
  | case3 previous m ms i hopened offset n hfailure ih =>
    obtain ⟨htail, hlines⟩ := start_of_failure (fromStart previous) hopened hfailure
    rw [run_cons, poll, htail, hlines, List.flatMap_cons]
    exact congrArg _ (ih hgrow.tail)
  | case4 previous m ms i hopened offset hfailure last rest hrest =>
    have hoffset : offset ≤ (m.content i).length := by grind
    obtain ⟨htail, hlines⟩ := start_of_opened (fromStart previous) hopened hfailure
    have hread := run_following hgrow (resolve_of_opened? hopened).2 hoffset
    rw [run_cons, poll, htail, hlines]
    refine hread.trans ?_
    simp only [rest] at hrest
    simp [hrest, Opening.lines, last]
  | case5 previous m ms i hopened offset hfailure last rest m' hrest ih₁ ih₂ =>
    have hoffset : offset ≤ (m.content i).length := by grind
    have hgrow' : rest.IsChain (Moment.Grows path) :=
      hgrow.suffix ((List.dropWhile_suffix _).trans (List.suffix_cons m ms))
    obtain ⟨htail, hlines⟩ := start_of_opened (fromStart previous) hopened hfailure
    have hread := run_following hgrow (resolve_of_opened? hopened).2 hoffset
    rw [run_cons, poll, htail, hlines]
    refine hread.trans ?_
    simp only [rest] at hrest
    simp only [hrest, List.flatMap_cons, Opening.lines]
    split_ifs with hending
    · exact congrArg _ (ih₁ hgrow')
    · exact congrArg _ (ih₂ hgrow'.tail)

/-! ### Polls that make no difference -/

section Quiet

variable {path : Path} {m : Moment} {i : Inode}

lemma finish_empty (pending : Bytes) : finish pending [] = ([], pending) := by
  simp [finish, completed]

lemma stat_of_isQuiet (hquiet : m.IsQuiet path i) :
    m.files.stat path = .ok (i, (m.content i).length) := by
  obtain ⟨-, hfile, hdata⟩ := hquiet
  obtain ⟨data, hdata⟩ := Option.ne_none_iff_exists'.mp hdata
  simp [Tree.stat, Moment.content, hfile, hdata, bind, Except.bind, pure, Except.pure]

/-- The file of the path is opened. -/
lemma poll_waiting (hquiet : m.IsQuiet path i) (restarts : Bool) :
    let p := (waiting restarts).poll m.files path m.trouble
    let read := finish [] ((m.content i).drop (if restarts then 0 else (m.content i).length))
    p.tail = .following i (m.content i).length read.2 ∧ p.batches.flatten = read.1 := by
  obtain ⟨htrouble, hfile, hdata⟩ := hquiet
  have hopened : m.opened? path = some i := by
    simp [Moment.opened?, htrouble, hfile, Except.toOption]
  have hfailure : m.failure? i = none := by
    simpa [Moment.failure?, htrouble] using hdata
  exact start_of_opened restarts hopened hfailure

/-- An open file that is not shorter than what was read of it is read on. -/
lemma poll_of_le (hquiet : m.IsQuiet path i) {position : Nat} (pending : Bytes)
    (hle : position ≤ (m.content i).length) :
    let p := (following i position pending).poll m.files path m.trouble
    let read := finish pending ((m.content i).drop position)
    p.tail = .following i (m.content i).length read.2 ∧ p.batches.flatten = read.1 := by
  have hending : m.ending? path i = none := by
    simp [Moment.ending?, hquiet.trouble_eq, hquiet.resolve_eq]
  have hpoll := resume_cases m path i position pending hle
  rw [hending, (readable_of_none hending position).2] at hpoll
  exact hpoll

/-- An open file that is shorter is read from its start, without what is pending. -/
lemma poll_of_lt (hquiet : m.IsQuiet path i) {position : Nat} (pending : Bytes)
    (hlt : (m.content i).length < position) :
    let p := (following i position pending).poll m.files path m.trouble
    let read := finish [] (m.content i)
    p.tail = .following i (m.content i).length read.2 ∧ p.batches.flatten = read.1 := by
  have hstat := stat_of_isQuiet hquiet
  have hmax : max position (m.content i).length = position := max_eq_left hlt.le
  have hdrop : (m.content i).drop position = [] := List.drop_of_length_le hlt.le
  obtain ⟨batches, hread, hnothing⟩ := readOn_none pending ((m.content i).drop position)
  obtain ⟨again, hagain, hlines⟩ := readOn_none [] (m.content i)
  rw [hdrop, finish_empty] at hnothing
  simp only [Moment.content] at hread hagain hmax hstat hlt
  simp only [poll, resume, hquiet.trouble_eq, hread, hstat, hmax]
  simp [begin, hagain, hlt, Moment.content, hnothing, hlines, flatten_questions]

end Quiet

end Tail

end NodeWatch.Files

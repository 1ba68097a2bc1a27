import NodeWatch.Procfs
import NodeWatch.Proofs.Text.Utf8
import NodeWatch.Proofs.Text.Words

/-!
# Reading the process table

Settings are read from texts whose ends do not matter. The kernel's line on a process gives the
state behind the command, and what a process calls itself is its own choice. Blanks, line feeds and
parentheses in the command do not hide the state (`state?_lineText`); bytes that are not text do
(`stateOf_bytes`).
-/

namespace NodeWatch.Procfs

open Files Text

section

variable {files : Tree} {root : Rootfs} {name : String} {text : List Char}

lemma readSetting_of_readText (h : files.readText (settingPath root name) = .ok text) :
    readSetting files root name = .ok (trim text) := by
  rw [readSetting, readTrimmed, h]
  rfl

lemma parseSetting_of_readText {α : Type} {parse : List Char → Option α} {a : α}
    (h : files.readText (settingPath root name) = .ok text) (ha : parse (trim text) = some a) :
    parseSetting parse files root name = .ok a := by
  simp [parseSetting, readSetting_of_readText h, ha, bind, Except.bind, pure, Except.pure]

lemma fileHandles_of_readText {allocated other total : List Char} {a t : ℕ}
    (h : files.readText (settingPath root fileHandlesName) = .ok text)
    (hfields : fields text = [allocated, other, total]) (ha : count? allocated = some a)
    (ht : count? total = some t) : fileHandles files root = .ok ⟨a, t⟩ := by
  simp [fileHandles, readSetting_of_readText h, FileHandles.parse, fields_trim, hfields, ha, ht,
    bind, Except.bind]

end

lemma pid?_encode (s : List Char) : pid? (encode s) = unsigned? Word.limit32 s := by
  rw [pid?, decode?_encode]
  rfl

lemma listPids_of_list {files : Tree} {root : Rootfs} {names : List Bytes}
    (h : files.list (root.join (.ofText "/proc")) = .ok names) :
    listPids files root = .ok (names.filterMap pid?) := by
  simp [listPids, h]

/-- What the kernel's line on a process says: a command of any bytes, the state, and numbers. -/
structure Stat where
  command : Bytes
  state : Char
  numbers : List Char
  state_visible : isSpace state = false
  state_ne : state ≠ ')'
  numbers_ok : ')' ∉ numbers

namespace Stat

/-- What stands behind the command. -/
def back (s : Stat) : List Char :=
  ')' :: ' ' :: s.state :: s.numbers

def bytes (pid : Nat) (s : Stat) : Bytes :=
  encode (decimal pid ++ [' ', '(']) ++ (s.command ++ encode s.back)

/-- Whether the command is text. A command that was cut to its first bytes may end within a
character. -/
def isText (s : Stat) : Bool :=
  (decode? s.command).isSome

lemma isText_iff {s : Stat} : s.isText = true ↔ ∃ name, s.command = encode name := by
  simp only [isText, Option.isSome_iff_exists, decode?_eq_some_iff]

end Stat

/-- What stands before the last closing parenthesis does not matter. -/
lemma state?_of_not_mem {rest : List Char} (hrest : ')' ∉ rest) (front : List Char) :
    state? (front ++ ')' :: rest) = rest.find? fun c => !isSpace c := by
  rw [state?, afterLast?_of_not_mem hrest]
  exact head?_trimStart rest

/-- The state is found behind the last closing parenthesis and a blank. -/
lemma state?_of_visible {c : Char} (hvisible : isSpace c = false) (hc : c ≠ ')') {rest : List Char}
    (hrest : ')' ∉ rest) (front : List Char) :
    state? (front ++ ')' :: ' ' :: c :: rest) = some c := by
  have hbehind : ')' ∉ ' ' :: c :: rest := by simp [hc.symm, hrest]
  rw [state?_of_not_mem hbehind, List.find?_cons_of_neg (by decide),
    List.find?_cons_of_pos (by simp [hvisible])]

lemma state?_eq_none_iff {line : List Char} : state? line = none ↔ ')' ∉ line ∨
    ∃ front rest, line = front ++ ')' :: rest ∧ ')' ∉ rest ∧ ∀ c ∈ rest, isSpace c = true := by
  constructor
  · intro hnone
    refine or_iff_not_imp_left.mpr fun hline => ?_
    obtain ⟨front, rest, rfl, hrest⟩ := exists_last_split (not_not.mp hline)
    rw [state?_of_not_mem hrest, List.find?_eq_none] at hnone
    exact ⟨front, rest, rfl, hrest, fun c hc => by simpa using hnone c hc⟩
  · rintro (hline | ⟨front, rest, rfl, hrest, hspace⟩)
    · rw [state?, afterLast?_eq_none_iff.mpr hline]
      rfl
    · rw [state?_of_not_mem hrest, List.find?_eq_none]
      exact fun c hc => by simp [hspace c hc]

/-- White space at the ends of a line does not matter. -/
lemma state?_trim (line : List Char) : state? (trim line) = state? line := by
  obtain ⟨lead, tail, hsplit, hlead, htail⟩ := exists_trim_eq line
  have hout {gap : List Char} (h : ∀ c ∈ gap, isSpace c = true) : ')' ∉ gap :=
    fun hmem => absurd (h _ hmem) (by decide)
  by_cases hline : ')' ∈ trim line
  · obtain ⟨front, rest, htrim, hrest⟩ := exists_last_split hline
    have htailNone : tail.find? (fun c => !isSpace c) = none :=
      List.find?_eq_none.mpr fun c hc => by simp [htail c hc]
    have hbehind : ')' ∉ rest ++ tail := by simp [hrest, hout htail]
    conv_rhs => rw [hsplit, htrim, List.append_assoc, List.cons_append, ← List.append_assoc,
      state?_of_not_mem hbehind, List.find?_append, htailNone, Option.or_none]
    rw [htrim, state?_of_not_mem hrest]
  · have hwhole : ')' ∉ line := by
      rw [hsplit]
      simp [hline, hout hlead, hout htail]
    rw [state?_eq_none_iff.mpr (.inl hline), state?_eq_none_iff.mpr (.inl hwhole)]

/-- The state of a process, given what the reading of its file comes to. -/
def stateOf (root : Rootfs) (pid : Nat) (content : Except Fault Bytes) : Except Error Char :=
  match content with
  | .error fault => .error (.read (processPath root pid "stat") fault)
  | .ok bytes => match decode? bytes with
    | none => .error (.read (processPath root pid "stat") .notText)
    | some text => match state? (trim text) with
      | some c => .ok c
      | none => .error (.state pid (String.ofList (trim text)))

lemma processState_eq (files : Tree) (root : Rootfs) (pid : Nat) :
    processState files root pid = stateOf root pid (files.read (processPath root pid "stat")) := by
  rw [processState, readTrimmed, Tree.readText]
  rcases files.read (processPath root pid "stat") with fault | bytes
  · rfl
  · rcases hdecode : decode bytes with e | text
    · simp only [stateOf, decode?, bind, Except.bind, hdecode]
      rfl
    · simp only [stateOf, decode?, bind, Except.bind, hdecode]
      rfl

/-- The state that a line gives is read unless the command is no text. -/
lemma stateOf_bytes (root : Rootfs) (pid : Nat) (s : Stat) :
    stateOf root pid (.ok (s.bytes pid)) =
      if s.isText then .ok s.state
      else .error (.read (processPath root pid "stat") .notText) := by
  rw [stateOf, Stat.bytes, Stat.back, decode?_between _ _ (by decide), Stat.isText]
  rcases decode? s.command with _ | name
  · rfl
  · simp only [Option.map_some, Option.isSome_some, if_true]
    rw [← List.append_assoc, state?_trim,
      state?_of_visible s.state_visible s.state_ne s.numbers_ok]

lemma processState_of_readText {files : Tree} {root : Rootfs} {pid : Nat} {text : List Char}
    (h : files.readText (processPath root pid "stat") = .ok text) :
    processState files root pid =
      (state? text).elim (.error (.state pid (String.ofList (trim text)))) .ok := by
  have htrimmed : readTrimmed files (processPath root pid "stat") = .ok (trim text) := by
    rw [readTrimmed, h]
    rfl
  simp only [processState, htrimmed, bind, Except.bind, state?_trim]
  rcases state? text with _ | c <;> rfl

/-- A line on a process whose command is text. -/
def lineText (pid command : List Char) (state : Char) (rest : List Char) : List Char :=
  pid ++ ' ' :: '(' :: (command ++ ')' :: ' ' :: state :: rest)

/-- The state is read past any command, also from a line that was trimmed. A line has no state if
and only if it has no closing parenthesis or nothing but white space behind the last one. What is
said of a process is what the text of its file says, without the trimming. -/
theorem state?_lineText :
    (∀ (pid command rest : List Char) (state : Char),
      isSpace state = false → state ≠ ')' → ')' ∉ rest →
      state? (lineText pid command state rest) = some state ∧
        state? (trim (lineText pid command state rest)) = some state) ∧
    (∀ line, state? line = none ↔ ')' ∉ line ∨ ∃ front rest,
      line = front ++ ')' :: rest ∧ ')' ∉ rest ∧ ∀ c ∈ rest, isSpace c = true) ∧
    (∀ line, state? (trim line) = state? line) ∧
    ∀ (files : Tree) (root : Rootfs) (pid : Nat) (text : List Char),
      files.readText (processPath root pid "stat") = .ok text →
      processState files root pid =
        (state? text).elim (.error (.state pid (String.ofList (trim text)))) .ok := by
  refine ⟨fun pid command rest state hvisible hne hrest => ?_, fun _ => state?_eq_none_iff,
    state?_trim, fun _ _ _ _ => processState_of_readText⟩
  have hline : state? (lineText pid command state rest) = some state := by
    have hassoc : lineText pid command state rest =
        (pid ++ ' ' :: '(' :: command) ++ ')' :: ' ' :: state :: rest := by
      simp [lineText]
    rw [hassoc, state?_of_visible hvisible hne hrest]
  exact ⟨hline, (state?_trim _).trans hline⟩

/-- A command with parentheses and a line feed, and a line that ends behind its command. -/
theorem state?_lineText_parentheses :
    state? (trim "7 (weird) (na\nme)) R 1 7\n".toList) = some 'R' ∧
      state? "7 (weird) \n".toList = none := by
  obtain ⟨hstate, hnone, -⟩ := state?_lineText
  constructor
  · exact (hstate ['7'] "weird) (na\nme)".toList " 1 7\n".toList 'R' (by decide) (by decide)
      (by decide +kernel)).2
  · have hsplit : "7 (weird) \n".toList = "7 (weird".toList ++ ')' :: [' ', '\n'] := by
      decide +kernel
    have hspace : ([' ', '\n'].all isSpace) = true := by decide
    exact (hnone _).mpr (.inr ⟨_, _, hsplit, by decide, List.all_eq_true.mp hspace⟩)

end NodeWatch.Procfs

import Mathlib.Computability.Language
import NodeWatch.Proofs.Text.Search

/-!
# Patterns

A pattern is a regular language. It occurs in a text where one of its words stands there, and a
search that tries the places of the text from the left finds the first place at which a word starts
(`isSome_firstMatch?_iff`, `firstMatch?_eq_some_iff_leftmost`). So a search is right if it is right
at each place.
-/

namespace NodeWatch.Text

open Computability

/-- One character of a class. -/
def oneOf (p : Char → Bool) : Language Char :=
  {w | ∃ c, p c = true ∧ w = [c]}

/-- One or more characters of a class. -/
def manyOf (p : Char → Bool) : Language Char :=
  oneOf p * (oneOf p)∗

/-- Just one text. -/
def exactly (s : String) : Language Char :=
  {s.toList}

/-- Any character but a line feed. -/
def dot : Language Char :=
  oneOf (· ≠ '\n')

/-- Whether a word of the language stands at the front of a text. -/
def Starts (L : Language Char) (s : List Char) : Prop :=
  ∃ w ∈ L, w <+: s

/-- Whether a word of the language stands somewhere in a text. -/
def Occurs (L : Language Char) (s : List Char) : Prop :=
  ∃ w ∈ L, w <:+: s

/-- The leftmost place of a text at which a word of the language stands: what comes before it, and
the rest of the text. -/
structure Leftmost (L : Language Char) (s before rest : List Char) : Prop where
  split : s = before ++ rest
  starts : Starts L rest
  first : ∀ before' rest', s = before' ++ rest' → Starts L rest' → before.length ≤ before'.length

/-- There is only one leftmost place. -/
lemma Leftmost.unique {L : Language Char} {s before rest before' rest' : List Char}
    (h : Leftmost L s before rest) (h' : Leftmost L s before' rest') :
    before = before' ∧ rest = rest' :=
  List.append_inj (h.split.symm.trans h'.split)
    (Nat.le_antisymm (h.first before' rest' h'.split h'.starts)
      (h'.first before rest h.split h.starts))

/-- The leftmost place is behind a front at none of whose places a word starts. -/
lemma leftmost_of_suffixes {L : Language Char} {before rest : List Char} (hrest : Starts L rest)
    (hbefore : ∀ c u, c :: u <:+ before → ¬ Starts L (c :: (u ++ rest))) :
    Leftmost L (before ++ rest) before rest where
  split := rfl
  starts := hrest
  first := by
    intro before' rest' hsplit hstarts
    rcases List.append_eq_append_iff.mp hsplit with ⟨u, rfl, -⟩ | ⟨u, rfl, rfl⟩
    · simp
    · rcases u with _ | ⟨c, u⟩
      · simp
      · exact absurd hstarts (hbefore c u (List.suffix_append ..))

@[simp] lemma mem_exactly {s : String} {w : List Char} : w ∈ exactly s ↔ w = s.toList := Iff.rfl

@[simp] lemma mem_oneOf {p : Char → Bool} {w : List Char} :
    w ∈ oneOf p ↔ ∃ c, p c = true ∧ w = [c] := Iff.rfl

/-- Any number of characters of a class. -/
@[simp] lemma mem_oneOf_kstar {p : Char → Bool} {w : List Char} :
    w ∈ (oneOf p)∗ ↔ ∀ c ∈ w, p c = true := by
  constructor
  · rintro ⟨words, rfl, hwords⟩ c hc
    obtain ⟨word, hword, hmem⟩ := List.mem_flatten.mp hc
    obtain ⟨c', hc', rfl⟩ := hwords word hword
    rwa [List.mem_singleton.mp hmem]
  · intro hall
    refine Language.mem_kstar.mpr ⟨w.map fun c => [c], ?_, fun word hword => ?_⟩
    · rw [← List.flatMap_def, List.flatMap_singleton']
    · obtain ⟨c, hc, rfl⟩ := List.mem_map.mp hword
      exact ⟨c, hall c hc, rfl⟩

@[simp] lemma mem_manyOf {p : Char → Bool} {w : List Char} :
    w ∈ manyOf p ↔ w ≠ [] ∧ ∀ c ∈ w, p c = true := by
  rw [manyOf, Language.mem_mul]
  constructor
  · rintro ⟨_, ⟨c, hc, rfl⟩, more, hmore, rfl⟩
    refine ⟨List.cons_ne_nil c more, fun c' hc' => ?_⟩
    rcases List.mem_cons.mp hc' with rfl | hc'
    · exact hc
    · exact mem_oneOf_kstar.mp hmore c' hc'
  · rintro ⟨hne, hall⟩
    obtain ⟨c, more, rfl⟩ := List.exists_cons_of_ne_nil hne
    rw [List.forall_mem_cons] at hall
    exact ⟨[c], ⟨c, hall.1, rfl⟩, more, mem_oneOf_kstar.mpr hall.2, rfl⟩

@[simp] lemma mem_dot_kstar {w : List Char} : w ∈ dot∗ ↔ '\n' ∉ w := by
  rw [dot, mem_oneOf_kstar]
  constructor
  · intro hall hmem
    simpa using hall _ hmem
  · intro hnot c hc
    exact decide_eq_true fun heq => hnot (heq ▸ hc)

lemma starts_mul_iff {L M : Language Char} {s : List Char} :
    Starts (L * M) s ↔ ∃ front rest, s = front ++ rest ∧ front ∈ L ∧ Starts M rest := by
  constructor
  · rintro ⟨w, hw, tail, rfl⟩
    obtain ⟨front, hfront, word, hword, rfl⟩ := Language.mem_mul.mp hw
    exact ⟨front, word ++ tail, List.append_assoc .., hfront, word, hword, tail, rfl⟩
  · rintro ⟨front, rest, rfl, hfront, word, hword, tail, rfl⟩
    exact ⟨front ++ word, Language.append_mem_mul hfront hword, tail, List.append_assoc ..⟩

lemma starts_exactly_iff {t : String} {s : List Char} :
    Starts (exactly t) s ↔ ∃ rest, s = t.toList ++ rest := by
  constructor
  · rintro ⟨w, rfl, rest, rfl⟩
    exact ⟨rest, rfl⟩
  · rintro ⟨rest, rfl⟩
    exact ⟨t.toList, rfl, rest, rfl⟩

lemma starts_exactly_mul_iff {t : String} {L : Language Char} {s : List Char} :
    Starts (exactly t * L) s ↔ ∃ rest, s = t.toList ++ rest ∧ Starts L rest := by
  simp [starts_mul_iff]

lemma exactly_mul_exactly (t u : String) : exactly t * exactly u = exactly (t ++ u) := by
  ext w
  simp [Language.mem_mul, eq_comm]

lemma starts_kstar (p : Char → Bool) (s : List Char) : Starts (oneOf p)∗ s :=
  ⟨[], Language.nil_mem_kstar _, s, rfl⟩

lemma starts_add_iff {L M : Language Char} {s : List Char} :
    Starts (L + M) s ↔ Starts L s ∨ Starts M s := by
  simp only [Starts, Language.mem_add, or_and_right, exists_or]

lemma occurs_iff_starts {L : Language Char} {s : List Char} :
    Occurs L s ↔ ∃ before rest, s = before ++ rest ∧ Starts L rest := by
  constructor
  · rintro ⟨w, hw, before, after, rfl⟩
    exact ⟨before, w ++ after, List.append_assoc .., w, hw, after, rfl⟩
  · rintro ⟨before, rest, rfl, w, hw, after, rfl⟩
    exact ⟨w, hw, before, after, List.append_assoc ..⟩

lemma Leftmost.occurs {L : Language Char} {s before rest : List Char}
    (h : Leftmost L s before rest) : Occurs L s :=
  occurs_iff_starts.mpr ⟨before, rest, h.split, h.starts⟩

lemma occurs_add_iff {L M : Language Char} {s : List Char} :
    Occurs (L + M) s ↔ Occurs L s ∨ Occurs M s := by
  simp only [Occurs, Language.mem_add, or_and_right, exists_or]

lemma occurs_exactly_mul_iff {t : String} {L : Language Char} {s : List Char} :
    Occurs (exactly t * L) s ↔ ∃ before rest, s = before ++ (t.toList ++ rest) ∧ Starts L rest := by
  simp only [occurs_iff_starts, starts_exactly_mul_iff]
  constructor
  · rintro ⟨before, _, rfl, rest, rfl, hrest⟩
    exact ⟨before, rest, rfl, hrest⟩
  · rintro ⟨before, rest, rfl, hrest⟩
    exact ⟨before, _, rfl, rest, rfl, hrest⟩

lemma contains_iff_occurs {t : String} {s : List Char} :
    contains t.toList s = true ↔ Occurs (exactly t) s := by
  rw [contains_iff, occurs_iff_starts]
  constructor
  · rintro ⟨before, rest, rfl⟩
    exact ⟨before, _, rfl, starts_exactly_iff.mpr ⟨rest, rfl⟩⟩
  · rintro ⟨before, _, rfl, hrest⟩
    obtain ⟨rest, rfl⟩ := starts_exactly_iff.mp hrest
    exact ⟨before, rest, rfl⟩

/-- A run of characters of a class ends where another character follows. -/
lemma takeWhile_append_cons {p : Char → Bool} {run : List Char} (hrun : ∀ c ∈ run, p c = true)
    {c : Char} (hc : p c = false) (rest : List Char) :
    (run ++ c :: rest).takeWhile p = run := by
  rw [List.takeWhile_append_of_pos hrun, List.takeWhile_cons_of_neg (by simp [hc]),
    List.append_nil]

lemma dropWhile_append_cons {p : Char → Bool} {run : List Char} (hrun : ∀ c ∈ run, p c = true)
    {c : Char} (hc : p c = false) (rest : List Char) :
    (run ++ c :: rest).dropWhile p = c :: rest := by
  rw [List.dropWhile_append_of_pos hrun, List.dropWhile_cons_of_neg (by simp [hc])]

lemma takeWhile_append_of_not_mem {c : Char} {front : List Char} (hc : c ∉ front)
    (rest : List Char) :
    (front ++ rest).takeWhile (· ≠ c) = front ++ rest.takeWhile (· ≠ c) :=
  List.takeWhile_append_of_pos fun _ hd => decide_eq_true fun heq => hc (heq ▸ hd)

/-- A run of characters of a class, and then a text that begins with another character. -/
lemma starts_manyOf_exactly_iff {p : Char → Bool} {t : String} {c : Char} {word : List Char}
    (ht : t.toList = c :: word) (hc : p c = false) (s : List Char) :
    ((s.head?.map p).getD false && t.toList.isPrefixOf (s.dropWhile p)) = true ↔
      Starts (manyOf p * exactly t) s := by
  rw [starts_mul_iff, Bool.and_eq_true, List.isPrefixOf_iff_prefix]
  constructor
  · rintro ⟨hhead, rest, hrest⟩
    refine ⟨s.takeWhile p, s.dropWhile p, (List.takeWhile_append_dropWhile ..).symm, ?_,
      starts_exactly_iff.mpr ⟨rest, hrest.symm⟩⟩
    refine mem_manyOf.mpr ⟨?_, fun c hc => List.all_eq_true.mp List.all_takeWhile c hc⟩
    rcases s with _ | ⟨d, s⟩
    · cases hhead
    · rw [List.takeWhile_cons_of_pos (by simpa using hhead)]
      exact List.cons_ne_nil d _
  · rintro ⟨run, _, rfl, hrun, hrest⟩
    obtain ⟨hne, hall⟩ := mem_manyOf.mp hrun
    obtain ⟨rest, rfl⟩ := starts_exactly_iff.mp hrest
    obtain ⟨d, run, rfl⟩ := List.exists_cons_of_ne_nil hne
    have hdrop := dropWhile_append_cons hall hc (word ++ rest)
    rw [← List.cons_append, ← ht] at hdrop
    rw [hdrop]
    exact ⟨by simpa using hall d (by simp), rest, rfl⟩

/-! ### Searches -/

section

variable {β : Type} {f : List Char → Option β} {L : Language Char}

/-- A search finds something if it is right at each place and the pattern occurs. -/
lemma isSome_firstMatch?_iff (hf : ∀ s, (f s).isSome = true ↔ Starts L s) (s : List Char) :
    (firstMatch? f s).isSome = true ↔ Occurs L s := by
  rw [← Option.not_isNone, Bool.not_eq_true', ← Bool.not_eq_true, Option.isNone_iff_eq_none,
    firstMatch?_eq_none_iff, occurs_iff_starts]
  simp only [← hf, not_forall, ← Option.ne_none_iff_isSome, exists_prop]

lemma firstMatch?_eq_none_iff_not_occurs (hf : ∀ s, (f s).isSome = true ↔ Starts L s)
    {s : List Char} : firstMatch? f s = none ↔ ¬ Occurs L s := by
  rw [← isSome_firstMatch?_iff hf, Option.not_isSome_iff_eq_none]

/-- What is found is found at the leftmost place of the pattern. -/
lemma firstMatch?_eq_some_iff_leftmost (hf : ∀ s, (f s).isSome = true ↔ Starts L s) {s : List Char}
    {b : β} :
    firstMatch? f s = some b ↔ ∃ before rest, Leftmost L s before rest ∧ f rest = some b := by
  have hfound : ∀ {b}, firstMatch? f s = some b →
      ∃ before rest, Leftmost L s before rest ∧ f rest = some b := by
    intro b h
    obtain ⟨before, rest, hsplit, hrest, hfirst⟩ := firstMatch?_eq_some h
    have hstarts : Starts L rest := (hf rest).mp (by rw [hrest]; rfl)
    refine ⟨before, rest, ⟨hsplit, hstarts, fun before' rest' hsplit' hstarts' => ?_⟩, hrest⟩
    refine hfirst before' rest' hsplit' ?_
    rw [Option.ne_none_iff_isSome]
    exact (hf rest').mpr hstarts'
  refine ⟨hfound, ?_⟩
  rintro ⟨before, rest, hleft, hvalue⟩
  obtain ⟨b', hb'⟩ := Option.isSome_iff_exists.mp ((isSome_firstMatch?_iff hf s).mpr hleft.occurs)
  obtain ⟨before', rest', hleft', hvalue'⟩ := hfound hb'
  rw [← (hleft.unique hleft').2, hvalue] at hvalue'
  rw [hb', hvalue']

end

/-- Whether no word of the language has a line feed. -/
def OneLine (L : Language Char) : Prop :=
  ∀ w ∈ L, '\n' ∉ w

lemma OneLine.mul {L M : Language Char} (hL : OneLine L) (hM : OneLine M) : OneLine (L * M) := by
  intro w hw
  obtain ⟨front, hfront, rest, hrest, rfl⟩ := Language.mem_mul.mp hw
  rw [List.mem_append]
  rintro (hmem | hmem)
  · exact hL front hfront hmem
  · exact hM rest hrest hmem

lemma oneLine_exactly {t : String} (ht : '\n' ∉ t.toList) : OneLine (exactly t) := by
  rintro w rfl
  exact ht

lemma oneLine_dot_kstar : OneLine dot∗ := fun _ => mem_dot_kstar.mp

lemma oneLine_manyOf {p : Char → Bool} (hp : p '\n' = false) : OneLine (manyOf p) := by
  intro w hw hmem
  exact absurd ((mem_manyOf.mp hw).2 _ hmem) (by simp [hp])

/-- A pattern without line feeds stands in one stretch. -/
lemma OneLine.starts_takeWhile_iff {L : Language Char} (hL : OneLine L) {s : List Char} :
    Starts L (s.takeWhile (· ≠ '\n')) ↔ Starts L s := by
  constructor
  · rintro ⟨w, hw, hprefix⟩
    exact ⟨w, hw, hprefix.trans (List.takeWhile_prefix _)⟩
  · rintro ⟨w, hw, rest, rfl⟩
    refine ⟨w, hw, ?_⟩
    rw [List.takeWhile_append_of_pos fun c hc => ?_]
    · exact List.prefix_append w _
    · exact decide_eq_true fun heq => hL w hw (heq ▸ hc)

/-- In one stretch, any text may come before what is looked for. -/
lemma starts_dot_kstar_mul_iff {L : Language Char} {s : List Char} (hs : '\n' ∉ s) :
    Starts (dot∗ * L) s ↔ Occurs L s := by
  rw [starts_mul_iff, occurs_iff_starts]
  constructor
  · rintro ⟨front, rest, rfl, -, hrest⟩
    exact ⟨front, rest, rfl, hrest⟩
  · rintro ⟨front, rest, rfl, hrest⟩
    exact ⟨front, rest, rfl, mem_dot_kstar.mpr fun hmem => hs (List.mem_append_left _ hmem), hrest⟩

lemma newline_not_mem_stretch (s : List Char) : '\n' ∉ s.takeWhile (· ≠ '\n') := by
  intro hmem
  simpa using List.all_eq_true.mp List.all_takeWhile _ hmem

section

variable {β : Type}

/-- What `g` makes of the rest of the first stretch of a text that starts with a heading. -/
def underHeading? (heading : String) (g : List Char → Option β) (s : List Char) : Option β :=
  (heading.toList.isPrefixOf? (s.takeWhile (· ≠ '\n'))).bind g

lemma underHeading?_eq_some_iff {heading : String} {g : List Char → Option β} {s : List Char}
    {b : β} :
    underHeading? heading g s = some b ↔
      ∃ rest, s.takeWhile (· ≠ '\n') = heading.toList ++ rest ∧ g rest = some b := by
  simp only [underHeading?, Option.bind_eq_some_iff, isPrefixOf?_eq_some_iff]

/-- A question about the rest of a stretch is a question about the place of the heading. -/
lemma isSome_underHeading?_iff {heading : String} {g : List Char → Option β} {L : Language Char}
    (hline : OneLine (exactly heading * L))
    (hg : ∀ rest, '\n' ∉ rest → ((g rest).isSome = true ↔ Starts L rest)) (s : List Char) :
    (underHeading? heading g s).isSome = true ↔ Starts (exactly heading * L) s := by
  rw [← hline.starts_takeWhile_iff, underHeading?, starts_exactly_mul_iff]
  have hstretch := newline_not_mem_stretch s
  generalize s.takeWhile (· ≠ '\n') = stretch at hstretch
  constructor
  · intro h
    obtain ⟨b, hb⟩ := Option.isSome_iff_exists.mp h
    obtain ⟨rest, hrest, hvalue⟩ := Option.bind_eq_some_iff.mp hb
    have hsplit := isPrefixOf?_eq_some_iff.mp hrest
    refine ⟨rest, hsplit, (hg rest fun hmem => hstretch ?_).mp (by rw [hvalue]; rfl)⟩
    rw [hsplit]
    exact List.mem_append_right _ hmem
  · rintro ⟨rest, rfl, hrest⟩
    rw [isPrefixOf?_append, Option.bind_some]
    exact (hg rest fun hmem => hstretch (List.mem_append_right _ hmem)).mpr hrest

/-- Looking for the heading in each stretch and going on from there is asking at every place. -/
lemma findSome?_after?_eq {heading : String} {g : List Char → Option β}
    (hg : ∀ before rest, (g rest).isSome = true → (g (before ++ rest)).isSome = true)
    (s : List Char) :
    (stretches s).findSome? (fun stretch => (after? heading.toList stretch).bind g) =
      firstMatch? (underHeading? heading g) s := by
  refine Eq.trans ?_ (findSome?_stretches (fun s => (heading.toList.isPrefixOf? s).bind g) s)
  exact congrArg (fun f => (stretches s).findSome? f) (funext (after?_bind hg heading.toList))

end

/-- Something, if a text stands somewhere in another one. -/
def contained? (t : String) (s : List Char) : Option Unit :=
  if contains t.toList s then some () else none

lemma isSome_contained? (t : String) (s : List Char) :
    (contained? t s).isSome = contains t.toList s := by
  rw [contained?]
  split_ifs with h
  · exact h.symm
  · exact (Bool.eq_false_iff.mpr h).symm

/-- Looking in each stretch for one text and then for another is asking for both at every place. -/
lemma any_stretches_eq (first second : String) (s : List Char) :
    ((stretches s).any fun stretch =>
        ((after? first.toList stretch).map (contains second.toList)).getD false) =
      (firstMatch? (underHeading? first (contained? second)) s).isSome := by
  have hmono : ∀ front rest : List Char,
      (contained? second rest).isSome = true →
        (contained? second (front ++ rest)).isSome = true := by
    intro front rest hsome
    rw [isSome_contained?] at hsome ⊢
    obtain ⟨before, after, rfl⟩ := contains_iff.mp hsome
    exact contains_iff.mpr ⟨front ++ before, after, (List.append_assoc ..).symm⟩
  rw [← findSome?_after?_eq hmono, List.isSome_findSome?]
  refine congrArg (fun f => (stretches s).any f) (funext fun stretch => ?_)
  rcases after? first.toList stretch with _ | rest
  · rfl
  · exact (isSome_contained? second rest).symm

/-- Both are found where one stands before the other without a line feed between them. -/
lemma any_stretches_iff {first second : String} (hfirst : '\n' ∉ first.toList)
    (hsecond : '\n' ∉ second.toList) (s : List Char) :
    ((stretches s).any fun stretch =>
        ((after? first.toList stretch).map (contains second.toList)).getD false) = true ↔
      Occurs (exactly first * (dot∗ * exactly second)) s := by
  have hline := (oneLine_exactly hfirst).mul (oneLine_dot_kstar.mul (oneLine_exactly hsecond))
  rw [any_stretches_eq]
  refine isSome_firstMatch?_iff (isSome_underHeading?_iff hline fun rest hrest => ?_) s
  rw [isSome_contained?, contains_iff_occurs, starts_dot_kstar_mul_iff hrest]

end NodeWatch.Text

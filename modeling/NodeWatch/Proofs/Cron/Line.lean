import NodeWatch.Proofs.Cron.Entry

/-!
# What comes of a line

Every line is an entry, or says nothing of a command, or has too few fields, or has no timestamp,
and what the line says decides which (`Entry.parse_cases`). The main statement is
`Entry.parse_outcomes`.
-/

namespace NodeWatch.Cron

open Text

/-- The words of an entry before the marker, each with one blank and as many more as given after
it. -/
def leading (t : Timestamp) (host tag user : List Char) (blanks : Nat → Nat) : List Char :=
  spread ((t.words ++ [host, tag ++ [':'], '(' :: (user ++ [')'])]).mapIdx fun i word =>
    (word, blanks i))

lemma exists_spread_eq {words : List (List Char × Nat)} (hne : words ≠ []) :
    ∃ s, spread words = s ++ [' '] := by
  obtain ⟨words, ⟨word, blanks⟩, rfl⟩ := words.eq_nil_or_concat'.resolve_left hne
  refine ⟨spread words ++ (word ++ List.replicate blanks ' '), ?_⟩
  simp [spread, List.replicate_succ']

/-- A word between others stands between blanks. -/
lemma isInfix_of_spread {words others : List (List Char × Nat)} {word s : List Char} {blanks : Nat}
    (hwords : words ≠ []) (hothers : others ≠ [])
    (h : spread (words ++ (word, blanks) :: others) = s ++ [' ']) :
    ' ' :: (word ++ [' ']) <:+: s := by
  obtain ⟨u, hu⟩ := exists_spread_eq hwords
  obtain ⟨v, hv⟩ := exists_spread_eq hothers
  refine ⟨u, List.replicate blanks ' ' ++ v, List.append_cancel_right (h.symm.trans ?_).symm⟩
  rw [spread, List.flatMap_append, ← spread, ← spread, hu, spread_cons, hv, List.replicate_succ]
  simp

/-- A host of the same name as the marker is taken for it. -/
lemma isInfix_of_host {t : Timestamp} {tag user before : List Char} {blanks : Nat → Nat}
    (h : leading t "CMD".toList tag user blanks = before ++ [' ']) :
    " CMD ".toList <:+: before := by
  have hspread : spread ((t.words.mapIdx fun i word => (word, blanks i)) ++
      ("CMD".toList, blanks 3) :: [(tag ++ [':'], blanks 4), ('(' :: (user ++ [')']), blanks 5)]) =
        before ++ [' '] := h
  exact isInfix_of_spread (by simp [Timestamp.words]) (by simp) hspread

/-- An entry is read as such, whatever its command is. -/
lemma Entry.parse_leading {t : Timestamp} {host tag user before : List Char}
    {blanks : Nat → Nat} (ht : t.IsValid) (hhost : IsWord host) (htag : isSolid tag = true)
    (huser : isSolid user = true) (hleading : leading t host tag user blanks = before ++ [' '])
    (hbefore : ¬ " CMD ".toList <:+: before) (rest : List Char) :
    parse (before ++ (" CMD ".toList ++ rest)) = .ok (some ⟨t, String.ofList (trim rest)⟩) := by
  have hother : host ≠ "CMD".toList := by
    rintro rfl
    exact hbefore (isInfix_of_host hleading)
  have hparse := parse_append ⟨host, tag, user, blanks, ⟨hhost, hother⟩, htag, huser⟩ ht rest
  have hline : before ++ (" CMD ".toList ++ rest) =
      leading t host tag user blanks ++ ("CMD".toList ++ ' ' :: rest) := by
    rw [hleading]
    simp
  rw [hline]
  exact hparse

namespace Entry

/-- The text that is read as the timestamp of a line. -/
def stamp (line : List Char) : List Char :=
  [' '].intercalate ((fields line).take 3)

/-- What can come of a line, and when. -/
lemma parse_cases (line : List Char) :
    (¬ " CMD ".toList <:+: line ∧ parse line = .ok none) ∨
    " CMD ".toList <:+: line ∧
      (((fields line).length < leastFields ∧
          parse line = .error (.fields (fields line).length (String.ofList line))) ∨
        leastFields ≤ (fields line).length ∧
          ((∃ t rest, t.IsGiven (stamp line) ∧ after? " CMD ".toList line = some rest ∧
              parse line = .ok (some ⟨t, String.ofList (trim rest)⟩)) ∨
            (∀ t : Timestamp, ¬ t.IsGiven (stamp line)) ∧
              ∃ cause, parse line = .error (.timestamp (String.ofList (stamp line)) cause))) := by
  rcases hafter : after? " CMD ".toList line with _ | rest
  · exact .inl ⟨after?_eq_none_iff.mp hafter, by rw [parse, hafter]⟩
  refine .inr ⟨contains_iff_isInfix.mp (by rw [contains, hafter]; rfl), ?_⟩
  rcases Nat.lt_or_ge (fields line).length leastFields with hfew | hmany
  · refine .inl ⟨hfew, ?_⟩
    rw [parse, hafter]
    simp only [if_pos hfew]
  refine .inr ⟨hmany, ?_⟩
  rcases hstamp : Timestamp.parse (stamp line) with cause | t
  · refine .inr ⟨fun t ht => ?_, cause, ?_⟩
    · cases hstamp.symm.trans (Timestamp.parse_eq_ok_iff.mpr ht)
    · rw [parse, hafter]
      simp only [if_neg (Nat.not_lt.mpr hmany)]
      rw [← stamp, hstamp]
  · refine .inl ⟨t, rest, Timestamp.parse_eq_ok_iff.mp hstamp, rfl, ?_⟩
    rw [parse, hafter]
    simp only [if_neg (Nat.not_lt.mpr hmany)]
    rw [← stamp, hstamp]

/-- The line `Mon D HH:MM:SS host tag: (user) CMD (command)` is read as that time and the text after
the marker, if the marker does not occur before. Of every line, the marker, the number of fields, and
the first three fields decide which of four things comes. -/
theorem parse_outcomes :
    (∀ (t : Timestamp) (host tag user before rest : List Char) (blanks : Nat → Nat), t.IsValid →
      IsWord host → isSolid tag = true → isSolid user = true →
        leading t host tag user blanks = before ++ [' '] → ¬ " CMD ".toList <:+: before →
          parse (before ++ (" CMD ".toList ++ rest)) =
            .ok (some ⟨t, String.ofList (trim rest)⟩)) ∧
    ∀ line,
      (parse line = .ok none ↔ ¬ " CMD ".toList <:+: line) ∧
      (∀ n text, parse line = .error (.fields n text) ↔ " CMD ".toList <:+: line ∧
        {x | IsRun (fun c => !isSpace c) line x}.encard = n ∧ n < 7 ∧ text = String.ofList line) ∧
      (∀ text, (∃ cause, parse line = .error (.timestamp text cause)) ↔ " CMD ".toList <:+: line ∧
        7 ≤ {x | IsRun (fun c => !isSpace c) line x}.encard ∧ text = String.ofList (stamp line) ∧
          ∀ t : Timestamp, ¬ t.IsGiven (stamp line)) ∧
      ∀ e, parse line = .ok (some e) ↔ 7 ≤ {x | IsRun (fun c => !isSpace c) line x}.encard ∧
        e.timestamp.IsGiven (stamp line) ∧ ∃ before rest,
          line = before ++ (" CMD ".toList ++ rest) ∧
          (∀ before' rest', line = before' ++ (" CMD ".toList ++ rest') →
            before.length ≤ before'.length) ∧
          e.command = String.ofList (trim rest) := by
  refine ⟨fun t host tag user before rest blanks ht hhost htag huser hleading hbefore =>
    parse_leading ht hhost htag huser hleading hbefore rest, fun line => ?_⟩
  have hafter (e : Entry) : (∃ before rest, line = before ++ (" CMD ".toList ++ rest) ∧
      (∀ before' rest', line = before' ++ (" CMD ".toList ++ rest') →
        before.length ≤ before'.length) ∧ e.command = String.ofList (trim rest)) ↔
      ∃ rest, after? " CMD ".toList line = some rest ∧ e.command = String.ofList (trim rest) := by
    simp only [after?_eq_some_iff]
    grind
  have hmany : (7 : ℕ∞) ≤ (fields line).length ↔ leastFields ≤ (fields line).length :=
    Nat.cast_le (α := ℕ∞) (m := 7)
  simp only [hafter]
  rw [encard_isRun, ← fields, hmany]
  simp only [Nat.cast_inj]
  have hcases := parse_cases line
  generalize " CMD ".toList = marker at hcases ⊢
  rcases hcases with ⟨hmarker, hparse⟩ | ⟨hmarker, ⟨hcount, hparse⟩ |
    ⟨hcount, ⟨t, rest, ht, hrest, hparse⟩ | ⟨hno, cause, hparse⟩⟩⟩ <;> rw [hparse]
  · simp [hmarker, after?_eq_none_iff.mpr hmarker]
  · have hcount' := Nat.not_le.mpr hcount
    refine ⟨by simp [hmarker], fun n text => ⟨?_, ?_⟩, by simp [hcount'], by simp [hcount']⟩
    · rintro ⟨⟩
      exact ⟨hmarker, rfl, hcount, rfl⟩
    · rintro ⟨-, rfl, -, rfl⟩
      rfl
  · have hcount' := Nat.not_lt.mpr hcount
    refine ⟨by simp [hmarker], fun n text => ⟨?_, ?_⟩, fun text => ⟨?_, ?_⟩,
      fun e => ⟨?_, ?_⟩⟩
    · rintro ⟨⟩
    · rintro ⟨-, rfl, hlt, -⟩
      exact absurd hlt hcount'
    · rintro ⟨_, ⟨⟩⟩
    · rintro ⟨-, -, -, hno⟩
      exact absurd ht (hno t)
    · rintro ⟨⟩
      exact ⟨hcount, ht, rest, hrest, rfl⟩
    · rintro ⟨-, he, rest', hrest', hcommand⟩
      obtain rfl : rest = rest' := Option.some.inj (hrest.symm.trans hrest')
      rw [← hcommand, ht.unique he]
  · have hcount' := Nat.not_lt.mpr hcount
    refine ⟨by simp [hmarker], fun n text => ⟨?_, ?_⟩, fun text => ⟨?_, ?_⟩,
      fun e => ⟨?_, fun he => absurd he.2.1 (hno _)⟩⟩
    · rintro ⟨⟩
    · rintro ⟨-, rfl, hlt, -⟩
      exact absurd hlt hcount'
    · rintro ⟨_, ⟨⟩⟩
      exact ⟨hmarker, hcount, rfl, hno⟩
    · rintro ⟨-, -, rfl, -⟩
      exact ⟨cause, rfl⟩
    · rintro ⟨⟩

/-- A leap second of a leap day, and a command that has the marker in it. -/
theorem parse_outcomes_leapDay :
    let t : Timestamp := ⟨2, 29, 23, 59, 60⟩
    t.IsValid ∧
    parse "Feb 29   23:59:60 host CROND[1]: () CMD  (a CMD (b)) ".toList =
      .ok (some ⟨t, "(a CMD (b))"⟩) := by
  intro t
  have ht : t.IsValid := ⟨by decide, by decide, by decide, by decide, by decide⟩
  have hhost : IsWord "host".toList := ⟨by decide, by decide⟩
  have hbefore : ¬ " CMD ".toList <:+: "Feb 29   23:59:60 host CROND[1]: ()".toList := fun h =>
    absurd (contains_iff_isInfix.mpr h) (by decide +kernel)
  have hread := parse_outcomes.1 t "host".toList "CROND[1]".toList [] _ " (a CMD (b)) ".toList
    (fun i => if i = 1 then 2 else 0) ht hhost (by decide) (by decide) (by decide +kernel) hbefore
  exact ⟨ht, hread.trans (by decide +kernel)⟩

end Entry

end NodeWatch.Cron

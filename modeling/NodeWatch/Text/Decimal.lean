import NodeWatch.Number.Word

/-!
# Decimal numerals

Numerals as the kernel and the configuration write them: ASCII digits, in any number, with an
optional sign, in a range that the reader fixes. Printing gives no leading zeros and no `+`.
-/

namespace NodeWatch.Text

/-- The value of a non-empty sequence of ASCII digits. -/
def digits? (s : List Char) : Option Nat :=
  if s.isEmpty || s.any (fun c => !c.isDigit) then none
  else some (s.foldl (fun n c => 10 * n + (c.toNat - '0'.toNat)) 0)

/-- A numeral below `bound`, with an optional `+` before the digits. -/
def unsigned? (bound : Nat) (s : List Char) : Option Nat :=
  let body := match s with
    | '+' :: digits => digits
    | digits => digits
  (digits? body).filter (· < bound)

/-- A numeral from `-bound` up to but not including `bound`, with an optional sign. -/
def signed? (bound : Nat) (s : List Char) : Option Int :=
  match s with
  | '-' :: digits => ((digits? digits).filter (· ≤ bound)).map fun n => -(n : Int)
  | '+' :: digits => ((digits? digits).filter (· < bound)).map fun n => (n : Int)
  | digits => ((digits? digits).filter (· < bound)).map fun n => (n : Int)

/-- Counters and sizes are numbers of 64 bits. -/
def count? (s : List Char) : Option Nat :=
  unsigned? Word.limit64 s

def decimal (n : Nat) : List Char :=
  Nat.toDigits 10 n

/-- The digits of `n`, filled up to `width` characters on the left. -/
def padded (width : Nat) (fill : Char) (n : Nat) : List Char :=
  (decimal n).leftpad width fill

/-- The digits of `n` to the base 16, in lower case. -/
def hexadecimal (n : Nat) : List Char :=
  Nat.toDigits 16 n

end NodeWatch.Text

import NodeWatch.Text.Decimal
import NodeWatch.Text.Search

/-!
# Listen addresses

An address to listen on is written `0.0.0.0:3000` for IPv4 and `[::1]:3000` for IPv6. The IPv6
address may have a numeric scope after a percent sign, one gap `::` for groups that are zero, and its
last two groups may be an IPv4 address. Each reader gives a value and the text after it.
-/

namespace NodeWatch

open Text

inductive ListenAddress where
  | v4 (octets : List Nat) (tcpPort : Nat)
  /-- Eight groups of 16 bits. -/
  | v6 (groups : List Nat) (scope tcpPort : Nat)
  deriving DecidableEq, Repr

namespace ListenAddress

def hexValue? (c : Char) : Option Nat :=
  if c.isDigit then some (c.toNat - '0'.toNat)
  else if 'a' ≤ c ∧ c ≤ 'f' then some (c.toNat - 'a'.toNat + 10)
  else if 'A' ≤ c ∧ c ≤ 'F' then some (c.toNat - 'A'.toNat + 10)
  else none

/-- Reads a decimal number up to `greatest`, of any length. -/
def readDecimal (greatest : Nat) (s : List Char) : Option (Nat × List Char) := do
  let n ← digits? (s.takeWhile Char.isDigit)
  guard (n ≤ greatest)
  pure (n, s.dropWhile Char.isDigit)

def readChar (c : Char) (s : List Char) : Option (List Char) :=
  [c].isPrefixOf? s

/-- Reads a number up to 255 of at most three digits, without a leading zero. -/
def readOctet (s : List Char) : Option (Nat × List Char) := do
  let digits := s.takeWhile Char.isDigit
  guard (digits.length ≤ 3 && (digits.head? != some '0' || digits.length == 1))
  readDecimal 255 s

def readV4 (s : List Char) : Option (List Nat × List Char) := do
  let (a, s) ← readOctet s
  let (b, s) ← readOctet (← readChar '.' s)
  let (c, s) ← readOctet (← readChar '.' s)
  let (d, s) ← readOctet (← readChar '.' s)
  pure ([a, b, c, d], s)

/-- Reads a group of one to four hexadecimal digits. -/
def readGroup (s : List Char) : Option (Nat × List Char) := do
  let digits := s.takeWhile fun c => (hexValue? c).isSome
  guard (1 ≤ digits.length && digits.length ≤ 4)
  pure (digits.foldl (fun n c => 16 * n + (hexValue? c).getD 0) 0, s.drop digits.length)

/-- Reads what stands between groups: a colon, except before the first one. -/
def readSeparator (isFirst : Bool) (s : List Char) : Option (List Char) :=
  if isFirst then some s else readChar ':' s

/-- Reads up to `limit` groups: the groups, whether the last two are an IPv4 address, and the rest
of the text. -/
def readGroups (isFirst : Bool) : Nat → List Char → List Nat × Bool × List Char
  | 0, s => ([], false, s)
  | limit + 1, s =>
    let v4 := if limit = 0 then none else (readSeparator isFirst s).bind readV4
    match v4 with
    | some ([a, b, c, d], rest) => ([256 * a + b, 256 * c + d], true, rest)
    | _ => match (readSeparator isFirst s).bind readGroup with
      | some (group, rest) =>
        let (groups, endsInV4, rest) := readGroups false limit rest
        (group :: groups, endsInV4, rest)
      | none => ([], false, s)

/-- Reads the eight groups of an IPv6 address; the gap fills up what is missing, if only nothing. -/
def readV6 (s : List Char) : Option (List Nat × List Char) := do
  let (head, endsInV4, s) := readGroups true 8 s
  if head.length = 8 then pure (head, s)
  else
    guard (!endsInV4)
    let s ← [':', ':'].isPrefixOf? s
    let (tail, _, s) := readGroups true (7 - head.length) s
    pure (head ++ List.replicate (8 - head.length - tail.length) 0 ++ tail, s)

def readPort (s : List Char) : Option (Nat × List Char) := do
  readDecimal 65535 (← readChar ':' s)

def readScope (s : List Char) : Nat × List Char :=
  match (readChar '%' s).bind (readDecimal (Word.limit32 - 1)) with
  | some read => read
  | none => (0, s)

def readSocketV4 (s : List Char) : Option (ListenAddress × List Char) := do
  let (octets, s) ← readV4 s
  let (tcpPort, s) ← readPort s
  pure (.v4 octets tcpPort, s)

def readSocketV6 (s : List Char) : Option (ListenAddress × List Char) := do
  let (groups, s) ← readV6 (← readChar '[' s)
  let (scope, s) := readScope s
  let (tcpPort, s) ← readPort (← readChar ']' s)
  pure (.v6 groups scope tcpPort, s)

/-- Reads an address that is the whole text. -/
def parse? (s : String) : Option ListenAddress :=
  match (readSocketV4 s.toList).or (readSocketV6 s.toList) with
  | some (address, []) => some address
  | _ => none

def dotted (octets : List Nat) : String :=
  ".".intercalate (octets.map toString)

def groupText (group : Nat) : String :=
  String.ofList (hexadecimal group)

def groupsText (groups : List Nat) : String :=
  ":".intercalate (groups.map groupText)

/-- The length of the run of zeros at the front. -/
def zeroRun (groups : List Nat) : Nat :=
  (groups.takeWhile (· == 0)).length

/-- Start and length of the longest run of zeros, the first one of equal ones; `start` groups stand
before the list. -/
def longestRun (start : Nat) : List Nat → Nat × Nat
  | [] => (start, 0)
  | group :: groups =>
    let later := longestRun (start + 1) groups
    let here := zeroRun (group :: groups)
    if later.2 ≤ here then (start, here) else later

/-- An IPv6 address: the form for a mapped IPv4 address, or groups with the longest run of at least
two zeros left out. -/
def v6Text (groups : List Nat) : String :=
  match groups with
  | [0, 0, 0, 0, 0, 0xFFFF, high, low] =>
    "::ffff:" ++ dotted [high / 256, high % 256, low / 256, low % 256]
  | groups =>
    let (start, length) := longestRun 0 groups
    if length < 2 then groupsText groups
    else groupsText (groups.take start) ++ "::" ++ groupsText (groups.drop (start + length))

def toText : ListenAddress → String
  | v4 octets tcpPort => s!"{dotted octets}:{tcpPort}"
  | v6 groups 0 tcpPort => s!"[{v6Text groups}]:{tcpPort}"
  | v6 groups scope tcpPort => s!"[{v6Text groups}%{scope}]:{tcpPort}"

end ListenAddress

end NodeWatch

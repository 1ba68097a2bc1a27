/-!
# JSON values

The values that conditions, statistics and custom resources are written as, and their text: no white
space, members in order, and in a string only the quote, the backslash and the control characters
escaped.
-/

namespace NodeWatch.Json

inductive Value where
  | text (s : String)
  | integer (i : Int)
  | flag (b : Bool)
  | list (items : List Value)
  | object (members : List (String × Value))

/-- How one character of a string is written. -/
def escape (c : Char) : List Char :=
  match c with
  | '"' => ['\\', '"']
  | '\\' => ['\\', '\\']
  | '\x08' => ['\\', 'b']
  | '\x0c' => ['\\', 'f']
  | '\n' => ['\\', 'n']
  | '\r' => ['\\', 'r']
  | '\t' => ['\\', 't']
  | c =>
    if c.toNat < 0x20 then ['\\', 'u', '0', '0', Nat.digitChar (c.toNat / 16),
      Nat.digitChar (c.toNat % 16)]
    else [c]

def quote (s : String) : List Char :=
  '"' :: s.toList.flatMap escape ++ ['"']

def integerText (i : Int) : List Char :=
  match i with
  | .ofNat n => Nat.toDigits 10 n
  | .negSucc n => '-' :: Nat.toDigits 10 (n + 1)

/-- Elements with commas between them. -/
def commaSeparated : List (List Char) → List Char
  | [] => []
  | [piece] => piece
  | piece :: pieces => piece ++ ',' :: commaSeparated pieces

mutual

def Value.write : Value → List Char
  | .text s => quote s
  | .integer i => integerText i
  | .flag true => ['t', 'r', 'u', 'e']
  | .flag false => ['f', 'a', 'l', 's', 'e']
  | .list items => '[' :: commaSeparated (writeItems items) ++ [']']
  | .object members => '\x7b' :: commaSeparated (writeMembers members) ++ ['\x7d']

def writeItems : List Value → List (List Char)
  | [] => []
  | item :: items => item.write :: writeItems items

def writeMembers : List (String × Value) → List (List Char)
  | [] => []
  | (name, value) :: members => (quote name ++ ':' :: value.write) :: writeMembers members

end

/-- The text of a value. -/
def Value.toText (v : Value) : String :=
  String.ofList v.write

end NodeWatch.Json

import NodeWatch.Json.Literal

/-!
# The structure of a JSON text

A text is read from left to right into a tree, up to its first fault. The fault stays in the tree at
its place, so that a reader that walks the tree in order meets what is wrong with the text and what
does not fit its expectations in the order in which they stand.
-/

namespace NodeWatch.Json

/-- What stands where a value is expected. The `fault` of a list or an object stands after its last
element. -/
inductive Tree where
  | text (l : Literal)
  | number (n : Number)
  | word (w : Except Fault Word)
  | list (items : List Tree) (fault : Option Fault)
  | object (members : List (Tree × Tree)) (fault : Option Fault)
  /-- No value starts here. -/
  | missing (fault : Fault)

/-- JSON knows four characters of white space. -/
def isBlank (c : Char) : Bool :=
  c == ' ' || c == '\n' || c == '\t' || c == '\r'

def skipBlank (s : List Char) : List Char :=
  s.dropWhile isBlank

namespace Tree

/-- Reads a string, a number or a word; the rest is `none` after a fault. -/
def literal (s : List Char) : Tree × Option (List Char) :=
  let word (letters : String) (w : Word) (s : List Char) : Tree × Option (List Char) :=
    match expect letters.toList s with
    | .ok rest => (.word (.ok w), some rest)
    | .error fault => (.word (.error fault), none)
  match s with
  | [] => (.missing .truncated, none)
  | '"' :: s =>
    let (l, rest) := Literal.scan s
    (.text l, if l.ending.isSome then none else some rest)
  | 'n' :: s => word "ull" .null s
  | 't' :: s => word "rue" .true s
  | 'f' :: s => word "alse" .false s
  | c :: s =>
    if c == '-' || c.isDigit then
      let (n, rest) := Number.scan (c :: s)
      (.number n, rest)
    else (.missing .malformed, none)

/-- The key at the front of `s`. Only the start of a list or an object is looked at: neither is a
key. -/
def key (s : List Char) : Tree × Option (List Char) :=
  match s with
  | '[' :: _ => (.list [] none, none)
  | '\x7b' :: _ => (.object [] none, none)
  | s => literal s

mutual

/-- Reads a value; every nested value takes one unit of `fuel`. -/
def value (fuel : Nat) (s : List Char) : Tree × Option (List Char) :=
  match fuel with
  | 0 => (.missing .malformed, none)
  | fuel + 1 => match skipBlank s with
    | '[' :: s => match skipBlank s with
      | [] => (.list [] (some .truncated), none)
      | ']' :: rest => (.list [] none, some rest)
      | s =>
        let (items, fault, rest) := items fuel s
        (.list items fault, rest)
    | '\x7b' :: s => match skipBlank s with
      | [] => (.object [] (some .truncated), none)
      | '\x7d' :: rest => (.object [] none, some rest)
      | s =>
        let (members, fault, rest) := members fuel s
        (.object members fault, rest)
    | s => literal s

/-- Reads the items of a list from its next item on. -/
def items (fuel : Nat) (s : List Char) : List Tree × Option Fault × Option (List Char) :=
  match fuel with
  | 0 => ([], some .malformed, none)
  | fuel + 1 => match value fuel s with
    | (item, none) => ([item], none, none)
    | (item, some rest) => match skipBlank rest with
      | ',' :: rest =>
        let (items, fault, rest) := items fuel rest
        (item :: items, fault, rest)
      | ']' :: rest => ([item], none, some rest)
      | rest => ([item], some (faultAt rest), none)

/-- Reads the members of an object from its next member on. -/
def members (fuel : Nat) (s : List Char) :
    List (Tree × Tree) × Option Fault × Option (List Char) :=
  match fuel with
  | 0 => ([], some .malformed, none)
  | fuel + 1 => match key (skipBlank s) with
    | (name, none) => ([(name, .missing .malformed)], none, none)
    | (name, some rest) => match skipBlank rest with
      | ':' :: rest => match value fuel rest with
        | (item, none) => ([(name, item)], none, none)
        | (item, some rest) => match skipBlank rest with
          | ',' :: rest =>
            let (members, fault, rest) := members fuel rest
            ((name, item) :: members, fault, rest)
          | '\x7d' :: rest => ([(name, item)], none, some rest)
          | rest => ([(name, item)], some (faultAt rest), none)
      | rest => ([(name, .missing (faultAt rest))], none, none)

end

/-- The tree of a text, and what follows it if it has no fault. -/
def ofText (s : List Char) : Tree × Option (List Char) :=
  value (2 * s.length + 2) s

mutual

/-- The first fault that shows when the value is skipped. -/
def skip : Tree → Except Fault Unit
  | .text l => match l.ending with
    | some fault => .error fault
    | none => .ok ()
  | .number (.broken _) => .error .malformed
  | .number _ => .ok ()
  | .word (.error fault) => .error fault
  | .word (.ok _) => .ok ()
  | .list items fault => do
    skipItems items
    match fault with
    | some fault => .error fault
    | none => .ok ()
  | .object members fault => do
    skipMembers members
    match fault with
    | some fault => .error fault
    | none => .ok ()
  | .missing fault => .error fault

def skipItems : List Tree → Except Fault Unit
  | [] => .ok ()
  | item :: items => do
    skip item
    skipItems items

def skipMembers : List (Tree × Tree) → Except Fault Unit
  | [] => .ok ()
  | (.text l, item) :: members => do
    skip (.text l)
    skip item
    skipMembers members
  | (.missing fault, _) :: _ => .error fault
  | (_, _) :: _ => .error .malformed

end

end Tree

end NodeWatch.Json

import NodeWatch.Json.Tree
import NodeWatch.Json.Value

/-!
# Shapes of JSON values

A shape reads a tree as a value it expects. Records may come as objects, with members in any order
and unknown ones skipped, or as lists of their fields in order. The first fault decides: what is
wrong with the text is met in the order of the text, and so is what does not fit.
-/

namespace NodeWatch.Json

/-- A reader of trees. -/
abbrev Shape := Tree → Except Fault Value

namespace Shape

/-- The fault of a tree that has not the kind of the expected value. A literal is read first, and a
fault in it shows. -/
def mismatch : Tree → Fault
  | .text l => match l.read with
    | .error fault => fault
    | .ok _ => .mismatched
  | .number (.broken fault) => fault
  | .number .huge => .malformed
  | .number _ => .mismatched
  | .word (.error fault) => fault
  | .word (.ok _) => .mismatched
  | .list _ _ => .mismatched
  | .object _ _ => .mismatched
  | .missing fault => fault

/-- Fails with the fault that stands at the end of a list or an object, if there is one. -/
def ended : Option Fault → Except Fault Unit
  | some fault => .error fault
  | none => .ok ()

def text : Shape
  | .text l => l.read.map .text
  | tree => .error (mismatch tree)

/-- An integer of 64 bits. -/
def integer : Shape
  | .number (.integer i) =>
    if -(Word.limit63 : Int) ≤ i ∧ i < Word.limit63 then .ok (.integer i) else .error .mismatched
  | tree => .error (mismatch tree)

def flag : Shape
  | .word (.ok .true) => .ok (.flag true)
  | .word (.ok .false) => .ok (.flag false)
  | tree => .error (mismatch tree)

/-- One of `names`, as a string, or as the key of an object whose only member is null. A key that does
not start as a string is no key, whatever it is. -/
def choice (names : List String) : Shape
  | .text l => do
    let name ← l.read
    if names.contains name then .ok (.text name) else .error .mismatched
  | .object [] fault => .error (fault.getD .malformed)
  | .object ((.text l, item) :: members) fault => do
    let name ← l.read
    if !names.contains name then throw .mismatched
    match item with
    | .word (.ok .null) => pure ()
    | item => throw (mismatch item)
    if !members.isEmpty then throw .malformed
    ended fault
    pure (.text name)
  | .missing fault => .error fault
  | _ => .error .malformed

def list (shape : Shape) : Shape
  | .list items fault => do
    let values ← items.mapM shape
    ended fault
    pure (.list values)
  | tree => .error (mismatch tree)

/-- Reads the fields of a record from the items of a list, in order. -/
def recordItems : List (String × Shape) → List Tree → Option Fault →
    Except Fault (List (String × Value))
  | [], [], fault => do
    ended fault
    pure []
  | [], _ :: _, _ => .error .malformed
  | _ :: _, [], fault => do
    ended fault
    throw .mismatched
  | (name, shape) :: fields, item :: items, fault => do
    let value ← shape item
    let values ← recordItems fields items fault
    pure ((name, value) :: values)

/-- Reads the members of an object into the fields found so far; a field may come once. -/
def recordMembers (fields : List (String × Shape)) :
    List (Tree × Tree) → Option Fault → List (String × Value) →
    Except Fault (List (String × Value))
  | [], fault, found => do
    ended fault
    pure found
  | (.text l, item) :: members, fault, found => do
    let name ← l.read
    match fields.lookup name with
    | some shape =>
      if (found.lookup name).isSome then throw .mismatched
      let value ← shape item
      recordMembers fields members fault (found ++ [(name, value)])
    | none =>
      item.skip
      recordMembers fields members fault found
  | (.missing fault, _) :: _, _, _ => .error fault
  | (_, _) :: _, _, _ => .error .malformed

/-- A record with the given fields, all of them required. -/
def record (fields : List (String × Shape)) : Shape
  | .list items fault => (recordItems fields items fault).map .object
  | .object members fault => do
    let found ← recordMembers fields members fault []
    let values ← fields.mapM fun (name, _) =>
      match found.lookup name with
      | some value => Except.ok (name, value)
      | none => Except.error .mismatched
    pure (.object values)
  | tree => .error (mismatch tree)

/-- Reads a text that holds a value of the shape and nothing else. -/
def parse (shape : Shape) (s : String) : Except Fault Value := do
  let (tree, rest) := Tree.ofText s.toList
  let value ← shape tree
  match (rest.map skipBlank).getD [] with
  | [] => pure value
  | _ :: _ => throw .malformed

end Shape

end NodeWatch.Json

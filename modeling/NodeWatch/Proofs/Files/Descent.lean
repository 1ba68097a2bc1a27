import Mathlib.Tactic.Common
import NodeWatch.Files.Tree
import NodeWatch.Proofs.Text.Utf8

/-!
# Descent through directories

A path whose names lead through directories only, without links, is resolved by looking up one name
after the other (`resolve_of_descend?`).
-/

namespace NodeWatch.Files

open Text

def Node.isLink : Node → Bool
  | link _ => true
  | _ => false

namespace Tree

variable {t : Tree} {i j : Inode} {names : List Bytes}

/-- What a name leads to in a directory, unless that is a link. -/
def enter? (t : Tree) (i : Inode) (name : Bytes) : Option Inode := do
  let entries ← t.entries? i
  let j ← entries.lookup name
  if name = [dot] ∨ name = [dot, dot] ∨ longestName < name.length ∨ (t.node? j).any Node.isLink
    then none
    else some j

/-- Where the names lead from a directory. -/
def descend? (t : Tree) : Inode → List Bytes → Option Inode
  | i, [] => some i
  | i, name :: rest => (t.enter? i name).bind fun j => t.descend? j rest

lemma walk_of_enter? {name : Bytes} (h : t.enter? i name = some j) (follow : Bool) (links : Nat)
    (trail : List Inode) (rest : List Bytes) :
    t.walk follow links (i :: trail) (name :: rest) =
      t.walk follow links (j :: i :: trail) rest := by
  obtain ⟨entries, hentries, h⟩ := Option.bind_eq_some_iff.mp h
  obtain ⟨k, hlookup, h⟩ := Option.bind_eq_some_iff.mp h
  split_ifs at h with hbad
  obtain rfl : k = j := Option.some.inj h
  simp only [not_or] at hbad
  obtain ⟨hdot, hdots, hlength, hlink⟩ := hbad
  rw [walk]
  simp only [List.headD_cons, hentries, beq_iff_eq, hdot, hdots, hlength, hlookup, if_false]
  rcases hnode : t.node? k with _ | data | entries | target
  case some.link => simp [hnode, Node.isLink] at hlink
  all_goals rfl

lemma walk_of_descend? (h : t.descend? i names = some j) (follow : Bool) (links : Nat)
    (trail : List Inode) : t.walk follow links (i :: trail) names = .ok j := by
  induction names generalizing i trail with
  | nil =>
    rw [walk]
    exact congrArg Except.ok (Option.some.inj h)
  | cons name rest ih =>
    obtain ⟨k, hk, hrest⟩ := Option.bind_eq_some_iff.mp h
    rw [walk_of_enter? hk, ih hrest]

/-- A path as programs give them: not too long, and without zero bytes. -/
def IsPlain (path : Path) : Prop :=
  path.bytes ≠ [] ∧ 0 ∉ path.bytes ∧ path.bytes.length < pathLimit

instance (path : Path) : Decidable (IsPlain path) :=
  inferInstanceAs (Decidable (_ ∧ _ ∧ _))

lemma resolve_of_descend? {path : Path} (hpath : IsPlain path)
    (h : t.descend? 0 (steps path) = some i) : t.resolve path = .ok i := by
  obtain ⟨hne, hzero, hlength⟩ := hpath
  rw [resolve, locate, if_neg (by simpa using hzero), if_neg (by simpa using hne),
    if_neg (Nat.not_le.mpr hlength), walk_of_descend? h]

lemma read_of_descend? {path : Path} {data : Bytes} (hpath : IsPlain path)
    (h : (t.descend? 0 (steps path)).bind t.data? = some data) : t.read path = .ok data := by
  obtain ⟨i, hi, hdata⟩ := Option.bind_eq_some_iff.mp h
  simp [read, resolve_of_descend? hpath hi, hdata, bind, Except.bind, pure, Except.pure]

lemma readText_of_read {path : Path} {s : List Char} (h : t.read path = .ok (encode s)) :
    t.readText path = .ok s := by
  simp [readText, h, decode, decodeAt_encode, bind, Except.bind, pure, Except.pure]

lemma list_of_descend? {path : Path} {entries : List (Bytes × Inode)} (hpath : IsPlain path)
    (h : (t.descend? 0 (steps path)).bind t.entries? = some entries) :
    t.list path = .ok (entries.map Prod.fst) := by
  obtain ⟨i, hi, hentries⟩ := Option.bind_eq_some_iff.mp h
  simp [list, resolve_of_descend? hpath hi, hentries, bind, Except.bind, pure, Except.pure]

end Tree

end NodeWatch.Files

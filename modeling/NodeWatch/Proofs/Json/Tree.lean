import NodeWatch.Json.Tree
import NodeWatch.Proofs.Json.Literal

/-!
# Reading values back

The text of a value is read as the tree of the value, without any fault (`ofText_write`). The proof
goes by the fuel, since the reader of a list or an object and the reader of a value call each other,
each with one unit less.
-/

namespace NodeWatch.Json

mutual

/-- The tree that the text of a value has. -/
def Value.tree : Value → Tree
  | .text s => .text (.ofText s)
  | .integer i => .number (.integer i)
  | .flag true => .word (.ok .true)
  | .flag false => .word (.ok .false)
  | .list items => .list (treeItems items) none
  | .object members => .object (treeMembers members) none

def treeItems : List Value → List Tree
  | [] => []
  | item :: items => item.tree :: treeItems items

def treeMembers : List (String × Value) → List (Tree × Tree)
  | [] => []
  | (name, value) :: members => (.text (.ofText name), value.tree) :: treeMembers members

end

mutual

/-- Whether all integers in a value have 64 bits, with a sign or without. -/
def Value.InRange : Value → Prop
  | .integer i => -(Word.limit63 : Int) ≤ i ∧ i < Word.limit64
  | .list items => InRangeItems items
  | .object members => InRangeMembers members
  | _ => True

def InRangeItems : List Value → Prop
  | [] => True
  | item :: items => item.InRange ∧ InRangeItems items

def InRangeMembers : List (String × Value) → Prop
  | [] => True
  | (_, value) :: members => value.InRange ∧ InRangeMembers members

end

/-- Whether a text starts with a character that neither is a blank nor ends a list. -/
def IsFront (s : List Char) : Prop :=
  ∃ c t, s = c :: t ∧ isBlank c = false ∧ c ≠ ']'

lemma IsFront.append {s : List Char} (h : IsFront s) (t : List Char) : IsFront (s ++ t) := by
  obtain ⟨c, s, rfl, hblank, hne⟩ := h
  exact ⟨c, s ++ t, rfl, hblank, hne⟩

lemma IsFront.skipBlank {s : List Char} (h : IsFront s) : skipBlank s = s := by
  obtain ⟨c, s, rfl, hblank, -⟩ := h
  exact List.dropWhile_cons_of_neg (by simp [hblank])

lemma isFront_integerText (i : Int) : IsFront (integerText i) := by
  obtain ⟨c, s, hi, hc⟩ := exists_integerText i
  have hne : ∀ d : Char, d ≠ '-' → d.isDigit = false → c ≠ d := by
    rintro d hminus hdigit rfl
    rcases hc with rfl | hc
    · exact hminus rfl
    · exact absurd hc (by simp [hdigit])
  refine ⟨c, s, hi, ?_, hne ']' (by decide) (by decide)⟩
  simp [isBlank, hne]

lemma isFront_write (v : Value) : IsFront v.write := by
  match v with
  | .text s => exact ⟨'"', _, by rw [Value.write, quote, List.cons_append], by decide, by decide⟩
  | .integer i => exact isFront_integerText i
  | .flag true => exact ⟨'t', _, rfl, by decide, by decide⟩
  | .flag false => exact ⟨'f', _, rfl, by decide, by decide⟩
  | .list items => exact ⟨'[', _, by rw [Value.write, List.cons_append], by decide, by decide⟩
  | .object members =>
    exact ⟨'\x7b', _, by rw [Value.write, List.cons_append], by decide, by decide⟩

lemma isFront_writeItems (item : Value) (items : List Value) :
    IsFront (commaSeparated (writeItems (item :: items))) := by
  rw [writeItems]
  rcases writeItems items with _ | ⟨piece, pieces⟩
  · exact isFront_write item
  · exact (isFront_write item).append _

lemma exists_writeMembers (member : String × Value) (members : List (String × Value)) :
    ∃ s, commaSeparated (writeMembers (member :: members)) = '"' :: s := by
  obtain ⟨name, v⟩ := member
  rw [writeMembers]
  rcases writeMembers members with _ | ⟨piece, pieces⟩ <;> exact ⟨_, rfl⟩

lemma skipBlank_comma (s : List Char) : skipBlank (',' :: s) = ',' :: s := rfl

lemma skipBlank_colon (s : List Char) : skipBlank (':' :: s) = ':' :: s := rfl

lemma value_eq_literal {s : List Char} (hfront : IsFront s) (hlist : s.head? ≠ some '[')
    (hobject : s.head? ≠ some '\x7b') (fuel : Nat) :
    Tree.value (fuel + 1) s = Tree.literal s := by
  rw [Tree.value, hfront.skipBlank]
  split
  · exact absurd rfl hlist
  · exact absurd rfl hobject
  · rfl

lemma value_list {s : List Char} (hfront : IsFront s) (fuel : Nat) :
    Tree.value (fuel + 1) ('[' :: s) =
      (.list (Tree.items fuel s).1 (Tree.items fuel s).2.1, (Tree.items fuel s).2.2) := by
  have hopen : skipBlank ('[' :: s) = '[' :: s := rfl
  have hskip := hfront.skipBlank
  obtain ⟨c, t, rfl, -, hc⟩ := hfront
  rw [Tree.value, hopen]
  simp only [hskip]
  split
  · contradiction
  · cases ‹_ :: _ = _ :: _›
    exact absurd rfl hc
  · rfl

lemma value_object (s : List Char) (fuel : Nat) :
    Tree.value (fuel + 1) ('\x7b' :: '"' :: s) =
      (.object (Tree.members fuel ('"' :: s)).1 (Tree.members fuel ('"' :: s)).2.1,
        (Tree.members fuel ('"' :: s)).2.2) := by
  rw [Tree.value]
  rfl

lemma literal_quote (s : String) (rest : List Char) :
    Tree.literal (quote s ++ rest) = (.text (.ofText s), some rest) := by
  rw [quote, List.cons_append, List.cons_append, List.append_assoc, Tree.literal,
    List.singleton_append, scan_flatMap_escape]
  rfl

lemma key_quote (name : String) (s : List Char) :
    Tree.key (skipBlank (quote name ++ s)) = (.text (.ofText name), some s) :=
  literal_quote name s

lemma literal_number {c : Char} (hc : c = '-' ∨ c.isDigit = true) (s : List Char) :
    Tree.literal (c :: s) = (.number (Number.scan (c :: s)).1, (Number.scan (c :: s)).2) := by
  rw [Tree.literal]
  · rw [if_pos (by simpa using hc)]
  all_goals
    rintro rfl
    revert hc
    decide

lemma literal_integerText {i : Int} (hi : (Value.integer i).InRange) {rest : List Char}
    (hrest : IsEnd rest) :
    Tree.literal (integerText i ++ rest) = (.number (.integer i), some rest) := by
  have hscan := scan_integerText hi.1 hi.2 hrest
  obtain ⟨c, s, hi, hc⟩ := exists_integerText i
  rw [hi, List.cons_append] at hscan ⊢
  rw [literal_number hc, hscan]

lemma writeItems_cons_cons (item next : Value) (items : List Value) (s : List Char) :
    commaSeparated (writeItems (item :: next :: items)) ++ s =
      item.write ++ ',' :: (commaSeparated (writeItems (next :: items)) ++ s) := by
  simp [writeItems, commaSeparated]

lemma writeMembers_singleton (name : String) (v : Value) (s : List Char) :
    commaSeparated (writeMembers [(name, v)]) ++ s = quote name ++ ':' :: (v.write ++ s) := by
  simp [writeMembers, commaSeparated]

lemma writeMembers_cons_cons (name : String) (v : Value) (next : String × Value)
    (members : List (String × Value)) (s : List Char) :
    commaSeparated (writeMembers ((name, v) :: next :: members)) ++ s =
      quote name ++ ':' ::
        (v.write ++ ',' :: (commaSeparated (writeMembers (next :: members)) ++ s)) := by
  simp [writeMembers, commaSeparated]

/-! ### Whole values -/

mutual

lemma value_write (fuel : Nat) (v : Value) (hv : v.InRange) (hfuel : 2 * v.write.length ≤ fuel)
    {rest : List Char} (hrest : IsEnd rest) :
    Tree.value fuel (v.write ++ rest) = (v.tree, some rest) := by
  have hfront := (isFront_write v).append rest
  have hlength : 0 < v.write.length := by
    obtain ⟨c, t, h, -⟩ := isFront_write v
    simp [h]
  match fuel with
  | 0 => omega
  | fuel + 1 =>
    match v with
    | .text s =>
      rw [value_eq_literal hfront (by simp [Value.write, quote]) (by simp [Value.write, quote])]
      exact literal_quote s rest
    | .integer i =>
      rw [value_eq_literal hfront]
      · exact literal_integerText hv hrest
      all_goals
        obtain ⟨c, s, hi, hc⟩ := exists_integerText i
        rw [Value.write, hi]
        rintro ⟨rfl⟩
        revert hc
        decide
    | .flag true => rfl
    | .flag false => rfl
    | .list [] => rfl
    | .list (item :: items) =>
      have hfuel : 2 * (commaSeparated (writeItems (item :: items))).length + 1 ≤ fuel := by
        simp only [Value.write, List.cons_append, List.length_cons, List.length_append] at hfuel
        omega
      have hinner := items_write fuel item items hv hfuel rest
      rw [Value.write, List.cons_append, List.cons_append, List.append_assoc,
        value_list ((isFront_writeItems item items).append _), List.singleton_append, hinner]
      rfl
    | .object [] => rfl
    | .object (member :: members) =>
      have hfuel : 2 * (commaSeparated (writeMembers (member :: members))).length + 1 ≤ fuel := by
        simp only [Value.write, List.cons_append, List.length_cons, List.length_append] at hfuel
        omega
      have hinner := members_write fuel member members hv hfuel rest
      obtain ⟨s, hs⟩ := exists_writeMembers member members
      rw [Value.write, List.cons_append, List.cons_append, List.append_assoc,
        List.singleton_append]
      rw [hs, List.cons_append] at hinner ⊢
      rw [value_object, hinner]
      rfl

lemma items_write (fuel : Nat) (item : Value) (items : List Value)
    (hitems : InRangeItems (item :: items))
    (hfuel : 2 * (commaSeparated (writeItems (item :: items))).length + 1 ≤ fuel)
    (rest : List Char) :
    Tree.items fuel (commaSeparated (writeItems (item :: items)) ++ ']' :: rest) =
      (treeItems (item :: items), none, some rest) := by
  match fuel with
  | 0 => omega
  | fuel + 1 =>
    match items with
    | [] =>
      have hitem := value_write fuel item hitems.1
        (by simpa [writeItems, commaSeparated] using hfuel) (isEnd_bracket rest)
      rw [Tree.items]
      simp only [writeItems, commaSeparated, hitem]
      rfl
    | next :: items =>
      have hlength := congrArg List.length (writeItems_cons_cons item next items [])
      simp only [List.append_nil, List.length_append, List.length_cons] at hlength
      have hitem := value_write fuel item hitems.1 (by omega)
        (isEnd_comma (commaSeparated (writeItems (next :: items)) ++ ']' :: rest))
      have hmore := items_write fuel next items hitems.2 (by omega) rest
      rw [Tree.items, writeItems_cons_cons, hitem]
      simp only [skipBlank_comma, hmore]
      rfl

lemma members_write (fuel : Nat) (member : String × Value) (members : List (String × Value))
    (hmembers : InRangeMembers (member :: members))
    (hfuel : 2 * (commaSeparated (writeMembers (member :: members))).length + 1 ≤ fuel)
    (rest : List Char) :
    Tree.members fuel (commaSeparated (writeMembers (member :: members)) ++ '\x7d' :: rest) =
      (treeMembers (member :: members), none, some rest) := by
  obtain ⟨name, v⟩ := member
  match fuel with
  | 0 => omega
  | fuel + 1 =>
    match members with
    | [] =>
      have hlength := congrArg List.length (writeMembers_singleton name v [])
      simp only [List.append_nil, List.length_append, List.length_cons] at hlength
      have hvalue := value_write fuel v hmembers.1 (by omega) (isEnd_brace rest)
      rw [Tree.members, writeMembers_singleton, key_quote]
      simp only [skipBlank_colon, hvalue]
      rfl
    | next :: members =>
      have hlength := congrArg List.length (writeMembers_cons_cons name v next members [])
      simp only [List.append_nil, List.length_append, List.length_cons] at hlength
      have hvalue := value_write fuel v hmembers.1 (by omega)
        (isEnd_comma (commaSeparated (writeMembers (next :: members)) ++ '\x7d' :: rest))
      have hmore := members_write fuel next members hmembers.2 (by omega) rest
      rw [Tree.members, writeMembers_cons_cons, key_quote]
      simp only [skipBlank_colon, hvalue, skipBlank_comma, hmore]
      rfl

end

theorem ofText_write {v : Value} (hv : v.InRange) : Tree.ofText v.write = (v.tree, some []) := by
  have h := value_write (2 * v.write.length + 2) v hv (by omega) isEnd_nil
  rwa [List.append_nil] at h

mutual

/-- A value that was written can be skipped. -/
lemma skip_tree (v : Value) : v.tree.skip = .ok () := by
  match v with
  | .text s => rfl
  | .integer i => rfl
  | .flag true => rfl
  | .flag false => rfl
  | .list items =>
    rw [Value.tree, Tree.skip, skipItems_treeItems items]
    rfl
  | .object members =>
    rw [Value.tree, Tree.skip, skipMembers_treeMembers members]
    rfl

lemma skipItems_treeItems (items : List Value) : Tree.skipItems (treeItems items) = .ok () := by
  match items with
  | [] => rfl
  | item :: items =>
    rw [treeItems, Tree.skipItems, skip_tree item, skipItems_treeItems items]
    rfl

lemma skipMembers_treeMembers (members : List (String × Value)) :
    Tree.skipMembers (treeMembers members) = .ok () := by
  match members with
  | [] => rfl
  | (name, v) :: members =>
    rw [treeMembers, Tree.skipMembers, skip_tree v, skipMembers_treeMembers members]
    rfl

end

end NodeWatch.Json

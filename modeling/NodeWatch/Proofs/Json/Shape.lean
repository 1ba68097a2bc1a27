import Mathlib.Data.List.Forall2
import NodeWatch.Json.Shape
import NodeWatch.Proofs.Json.Tree
import NodeWatch.Table

/-!
# Shapes read what was written

A shape reads a value if it gives the value for the tree of its text. Literals, lists and records
are read if their parts are. A record is also read from an object that has other members among its
own (`record_tree`).
-/

namespace NodeWatch.Json

namespace Shape

/-- Whether a shape reads a value back. -/
def Reads (shape : Shape) (v : Value) : Prop :=
  shape v.tree = .ok v

lemma reads_text (s : String) : text.Reads (.text s) := by
  rw [Reads, Value.tree, text, read_ofText]
  rfl

lemma reads_integer {i : Int} (hlow : -(Word.limit63 : Int) ≤ i) (hhigh : i < Word.limit63) :
    integer.Reads (.integer i) := by
  rw [Reads, Value.tree, integer, if_pos ⟨hlow, hhigh⟩]

lemma reads_flag (b : Bool) : flag.Reads (.flag b) := by
  cases b <;> rfl

lemma reads_choice {names : List String} {name : String} (h : name ∈ names) :
    (choice names).Reads (.text name) := by
  rw [Reads, Value.tree, choice, read_ofText]
  simp [bind, Except.bind, h]

lemma mapM_treeItems {shape : Shape} {items : List Value} (h : ∀ item ∈ items, shape.Reads item) :
    (treeItems items).mapM shape = .ok items := by
  induction items with
  | nil => rfl
  | cons item items ih =>
    have hitem : shape item.tree = .ok item := h item (List.mem_cons_self ..)
    rw [treeItems, List.mapM_cons, hitem, ih fun item hmem => h item (List.mem_cons_of_mem _ hmem)]
    rfl

lemma reads_list {shape : Shape} {items : List Value} (h : ∀ item ∈ items, shape.Reads item) :
    (list shape).Reads (.list items) := by
  rw [Reads, Value.tree, list, mapM_treeItems h]
  rfl

variable {fields : List (String × Shape)}

/-- The members of an object that a record has fields for. -/
def known (fields : List (String × Shape)) (members : List (String × Value)) :
    List (String × Value) :=
  members.filter fun m => (fields.lookup m.1).isSome

/-- Members are found in the order in which they stand, and unknown ones are skipped. -/
lemma recordMembers_treeMembers {members found : List (String × Value)}
    (hreads : ∀ m ∈ members, ∀ shape, fields.lookup m.1 = some shape → shape.Reads m.2)
    (hdistinct : ((found ++ known fields members).map Prod.fst).Nodup) :
    recordMembers fields (treeMembers members) none found =
      .ok (found ++ known fields members) := by
  induction members generalizing found with
  | nil => rw [treeMembers, recordMembers, known, List.filter_nil, List.append_nil]; rfl
  | cons m members ih =>
    obtain ⟨name, v⟩ := m
    have hrest := fun m hm => hreads m (List.mem_cons_of_mem _ hm)
    rw [treeMembers, recordMembers, read_ofText]
    rcases hshape : fields.lookup name with _ | shape
    · have hknown : known fields ((name, v) :: members) = known fields members := by
        simp [known, hshape]
      rw [hknown] at hdistinct ⊢
      simp only [bind, Except.bind, hshape, skip_tree]
      exact ih hrest hdistinct
    · have hknown : known fields ((name, v) :: members) = (name, v) :: known fields members := by
        simp [known, hshape]
      have hread : shape v.tree = .ok v := hreads (name, v) (List.mem_cons_self ..) shape hshape
      have hnew : found.lookup name = none := by
        rw [hknown, List.map_append, List.nodup_append] at hdistinct
        refine List.lookup_eq_none_iff.mpr fun entry hentry => ?_
        have hne := hdistinct.2.2 entry.1 (List.mem_map_of_mem hentry) name (by simp)
        simpa using Ne.symm hne
      rw [hknown, ← List.singleton_append, ← List.append_assoc] at hdistinct ⊢
      simp only [bind, Except.bind, hshape, hnew, hread]
      exact ih hrest hdistinct

/-- The members found are put in the order of the fields. -/
lemma mapM_lookup {found values : List (String × Value)}
    (hfound : ∀ m ∈ values, found.lookup m.1 = some m.2)
    (hnames : values.map Prod.fst = fields.map Prod.fst) :
    (fields.mapM fun field => match found.lookup field.1 with
      | some value => Except.ok (field.1, value)
      | none => Except.error Fault.mismatched) = .ok values := by
  induction fields generalizing values with
  | nil =>
    rw [List.map_eq_nil_iff.mp hnames]
    rfl
  | cons field fields ih =>
    rcases values with _ | ⟨⟨name, v⟩, values⟩
    · cases hnames
    · obtain ⟨rfl, hrest⟩ := List.cons.inj hnames
      have hv := hfound (field.1, v) (List.mem_cons_self ..)
      rw [List.mapM_cons, ih (fun m hm => hfound m (List.mem_cons_of_mem _ hm)) hrest]
      simp only [hv]
      rfl

/-- Whether a member is one of a field, and its value is read. -/
def IsFieldOf (m : String × Value) (field : String × Shape) : Prop :=
  m.1 = field.1 ∧ field.2.Reads m.2

section

variable {members : List (String × Value)} (hmembers : List.Forall₂ IsFieldOf members fields)
include hmembers

lemma names_eq : members.map Prod.fst = fields.map Prod.fst := by
  induction hmembers with
  | nil => rfl
  | cons h _ ih => rw [List.map_cons, List.map_cons, h.1, ih]

lemma exists_field {m : String × Value} (hm : m ∈ members) : ∃ field ∈ fields, IsFieldOf m field := by
  induction hmembers with
  | nil => cases hm
  | cons h _ ih =>
    rcases List.mem_cons.mp hm with rfl | hm
    · exact ⟨_, List.mem_cons_self .., h⟩
    · obtain ⟨field, hfield, h⟩ := ih hm
      exact ⟨field, List.mem_cons_of_mem _ hfield, h⟩

lemma lookup_field (hdistinct : (fields.map Prod.fst).Nodup) {m : String × Value}
    (hm : m ∈ members) : ∃ shape, fields.lookup m.1 = some shape ∧ shape.Reads m.2 := by
  obtain ⟨⟨name, shape⟩, hfield, rfl, hreads⟩ := exists_field hmembers hm
  exact ⟨shape, ((Table.mk fields hdistinct).get?_eq_some_iff).mpr hfield, hreads⟩

/-- A record is read from its own members, whatever other members stand among them. -/
lemma record_tree (hdistinct : (fields.map Prod.fst).Nodup) {all : List (String × Value)}
    (hknown : known fields all = members) :
    record fields (Value.object all).tree = .ok (.object members) := by
  have hreads : ∀ m ∈ all, ∀ shape, fields.lookup m.1 = some shape → shape.Reads m.2 := by
    intro m hm shape hshape
    have hmem : m ∈ members := hknown ▸ List.mem_filter.mpr ⟨hm, by rw [hshape]; rfl⟩
    obtain ⟨_, hfield, hreads⟩ := lookup_field hmembers hdistinct hmem
    rw [hfield] at hshape
    exact Option.some.inj hshape ▸ hreads
  rw [← names_eq hmembers] at hdistinct
  have hread : recordMembers fields (treeMembers all) none [] = .ok (known fields all) :=
    recordMembers_treeMembers hreads (by rwa [hknown])
  have hfound : ∀ m ∈ members, members.lookup m.1 = some m.2 :=
    fun m hm => ((Table.mk members hdistinct).get?_eq_some_iff).mpr hm
  rw [Value.tree, record, hread, hknown]
  exact congrArg (fun found : Except Fault _ => found >>= fun values => pure (Value.object values))
    (mapM_lookup hfound (names_eq hmembers))

lemma known_self (hdistinct : (fields.map Prod.fst).Nodup) : known fields members = members := by
  refine List.filter_eq_self.mpr fun m hm => ?_
  obtain ⟨shape, hshape, -⟩ := lookup_field hmembers hdistinct hm
  rw [hshape]
  rfl

lemma reads_record (hdistinct : (fields.map Prod.fst).Nodup) :
    (record fields).Reads (.object members) :=
  record_tree hmembers hdistinct (known_self hmembers hdistinct)

end

lemma parse_toText {shape : Shape} {v w : Value} (hv : v.InRange) (h : shape v.tree = .ok w) :
    shape.parse v.toText = .ok w := by
  rw [parse, Value.toText, String.toList_ofList, ofText_write hv]
  simp only [bind, Except.bind, h]
  rfl

end Shape

end NodeWatch.Json

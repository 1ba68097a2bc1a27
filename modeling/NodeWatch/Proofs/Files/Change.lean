import Mathlib.Tactic.Common
import NodeWatch.Files.Change

/-!
# Changes that take nothing away

Renaming, removing and replacing concern directories. A file loses content only if it is written
anew in place or cut; all other changes extend the tree, as far as the contents of files go.
-/

namespace NodeWatch.Files

open Text

namespace Tree

/-- Every file is still there, and has at most grown. -/
def Extends (t t' : Tree) : Prop :=
  ∀ i data, t.data? i = some data → ∃ data', t'.data? i = some data' ∧ data <+: data'

lemma Extends.refl (t : Tree) : t.Extends t :=
  fun _ data hdata => ⟨data, hdata, List.prefix_refl data⟩

lemma Extends.trans {t t' t'' : Tree} (h : t.Extends t') (h' : t'.Extends t'') : t.Extends t'' := by
  intro i data hdata
  obtain ⟨data', hdata', hgrown⟩ := h i data hdata
  obtain ⟨data'', hdata'', hgrown'⟩ := h' i data' hdata'
  exact ⟨data'', hdata'', hgrown.trans hgrown'⟩

lemma data?_setNode_of_ne (t : Tree) {i j : Inode} (hj : j ≠ i) (node : Node) :
    (t.setNode i node).data? j = t.data? j := by
  have hnode : (t.setNode i node).node? j = t.node? j := by
    simp only [setNode, node?]
    exact Array.getElem?_setIfInBounds_ne (Ne.symm hj)
  simp only [data?, hnode]

lemma data?_setNode_self (t : Tree) {i : Inode} {data : Bytes} (hdata : t.data? i = some data)
    (data' : Bytes) : (t.setNode i (.file data')).data? i = some data' := by
  have hlt : i < t.nodes.size := by
    by_contra hge
    simp [data?, node?, Array.getElem?_eq_none (Nat.le_of_not_lt hge)] at hdata
  simp [data?, node?, setNode, hlt]

/-- The number of a directory is not the number of a file. -/
lemma extends_setNode_directory {t : Tree} {i : Inode} {entries : List (Bytes × Inode)}
    (hentries : t.entries? i = some entries) (node : Node) : t.Extends (t.setNode i node) := by
  intro j data hdata
  have hj : j ≠ i := by
    rintro rfl
    unfold entries? at hentries
    unfold data? at hdata
    split at hentries <;> simp_all
  exact ⟨data, by rw [t.data?_setNode_of_ne hj, hdata], List.prefix_refl data⟩

lemma extends_setNode_file {t : Tree} {i : Inode} {old new : Bytes} (hold : t.data? i = some old)
    (hgrown : old <+: new) : t.Extends (t.setNode i (.file new)) := by
  intro j data hdata
  by_cases hj : j = i
  · subst hj
    rw [hold] at hdata
    cases hdata
    exact ⟨new, t.data?_setNode_self hold new, hgrown⟩
  · exact ⟨data, by rw [t.data?_setNode_of_ne hj, hdata], List.prefix_refl data⟩

lemma extends_push (t : Tree) (node : Node) : t.Extends ⟨t.nodes.push node⟩ := by
  intro i data hdata
  have hlt : i < t.nodes.size := by
    by_contra hge
    simp [data?, node?, Array.getElem?_eq_none (Nat.le_of_not_lt hge)] at hdata
  refine ⟨data, ?_, List.prefix_refl data⟩
  rw [← hdata]
  simp [data?, node?, Array.getElem?_push_lt, hlt]

lemma extends_mapEntries (t : Tree) (i : Inode)
    (f : List (Bytes × Inode) → List (Bytes × Inode)) : t.Extends (t.mapEntries i f) := by
  unfold mapEntries
  split
  · next entries hentries => exact extends_setNode_directory hentries _
  · exact .refl t

lemma extends_unlink (t : Tree) (path : Path) : t.Extends (t.unlink path) := by
  unfold unlink
  split
  · exact .refl t
  · split
    · exact t.extends_mapEntries _ _
    · exact .refl t

lemma extends_link (t : Tree) (path : Path) (i : Inode) : t.Extends (t.link path i) := by
  unfold link
  split
  · exact .refl t
  · split
    · exact t.extends_mapEntries _ _
    · exact .refl t

lemma extends_create (t : Tree) (path : Path) (node : Node) : t.Extends (t.create path node) :=
  (t.extends_push node).trans (extends_link _ path t.nodes.size)

lemma extends_makeDirectories (t : Tree) (path : Path) : t.Extends (t.makeDirectories path) := by
  refine List.foldlRecOn (motive := fun t' => t.Extends t') _ _ (.refl t) fun t' h n _ => ?_
  refine h.trans ?_
  simp only
  split
  · exact t'.extends_create _ _
  · exact .refl t'

lemma extends_makeParent (t : Tree) (path : Path) : t.Extends (t.makeParent path) := by
  unfold makeParent
  split
  · exact t.extends_makeDirectories _
  · exact .refl t

lemma read_eq_ok {t : Tree} {path : Path} {i : Inode} {data : Bytes}
    (hfile : t.resolve path = .ok i) (hdata : t.data? i = some data) : t.read path = .ok data := by
  simp [read, hfile, hdata, bind, Except.bind, pure, Except.pure]

lemma extends_mapData {t : Tree} {path : Path} {f : Bytes → Bytes}
    (hf : ∀ data, t.read path = .ok data → data <+: f data) : t.Extends (t.mapData path f) := by
  unfold mapData
  split
  · next i hfile =>
    split
    · next data hdata => exact extends_setNode_file hdata (hf data (read_eq_ok hfile hdata))
    · exact .refl t
  · exact .refl t

/-- Whether a change takes content away from a file. -/
def truncates (t : Tree) : Change → Bool
  | .write path data => match (t.makeParent path).read path with
    | .ok old => !old.isPrefixOf data
    | .error _ => false
  | .resize path length => match t.read path with
    | .ok old => length < old.length
    | .error _ => false
  | _ => false

/-- A change that does not truncate extends the tree. -/
lemma extends_apply {t : Tree} {c : Change} (hkeeps : t.truncates c = false) :
    t.Extends (t.apply c) := by
  cases c with
  | write path data =>
    refine (t.extends_makeParent path).trans ?_
    simp only [apply]
    split
    · next i hfile =>
      split
      · next old hold =>
        refine extends_setNode_file hold ?_
        simpa [truncates, read_eq_ok hfile hold] using hkeeps
      · exact .refl _
    · exact extends_create _ _ _
    · exact .refl _
  | makeDirectory path => exact t.extends_makeDirectories path
  | makeLink path target => exact (t.extends_makeParent path).trans (extends_create _ _ _)
  | append path data => exact extends_mapData fun old _ => List.prefix_append old data
  | resize path length =>
    refine extends_mapData fun old hold => ?_
    have hle : old.length ≤ length := by simpa [truncates, hold] using hkeeps
    rw [List.take_of_length_le hle]
    exact List.prefix_append old _
  | rename path target =>
    simp only [apply]
    split
    · exact (t.extends_unlink path).trans (extends_link _ _ _)
    · exact .refl t
  | remove path => exact t.extends_unlink path

end Tree

end NodeWatch.Files

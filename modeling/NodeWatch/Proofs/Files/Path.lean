import NodeWatch.Files.Path
import NodeWatch.Proofs.Text.Runs
import NodeWatch.Proofs.Text.Utf8

/-!
# Components of joined paths

A relative path that is joined to another one adds its names behind the components of that one. An
absolute path takes its place.
-/

namespace NodeWatch.Files.Path

open Text

variable (p : Path) {q : Path}

lemma names_eq_runs : p.names = runs (· != slash) p.bytes := by
  have hgap : (fun b : UInt8 => !(b != slash)) = (· == slash) :=
    funext fun b => by rw [bne, Bool.not_not]
  rw [names, runs, hgap]
  rfl

lemma mem_of_mem_names {name : Bytes} {b : UInt8} (hname : name ∈ p.names) (hb : b ∈ name) :
    b ∈ p.bytes :=
  mem_of_mem_runs (p.names_eq_runs ▸ hname) hb

/-- A slash ends the names before it. -/
lemma runs_slash (s t : Bytes) :
    runs (· != slash) (s ++ slash :: t) = runs (· != slash) s ++ runs (· != slash) t :=
  runs_append_cons_of_neg (by decide) s t

lemma join_of_isAbsolute (hq : q.isAbsolute = true) : p.join q = q := by
  rw [join, if_pos hq]

/-- Between a path and a relative one stands a slash, unless there is one or no path at all. -/
lemma bytes_join (hq : q.isAbsolute = false) :
    (p.bytes = [] ∧ (p.join q).bytes = q.bytes) ∨
      (∃ front, p.bytes = front ++ [slash] ∧ (p.join q).bytes = front ++ slash :: q.bytes) ∨
        p.bytes ≠ [] ∧ (p.join q).bytes = p.bytes ++ slash :: q.bytes := by
  rw [join, if_neg (by simp [hq])]
  split_ifs with h
  · rw [Bool.or_eq_true, List.isEmpty_iff, endsWithSlash, beq_iff_eq,
      List.getLast?_eq_some_iff] at h
    rcases h with hempty | ⟨front, hfront⟩
    · exact .inl ⟨hempty, by simp [hempty]⟩
    · exact .inr (.inl ⟨front, hfront, by simp [hfront]⟩)
  · rw [Bool.or_eq_true, List.isEmpty_iff, not_or] at h
    exact .inr (.inr ⟨h.1, rfl⟩)

lemma isAbsolute_join (hq : q.isAbsolute = false) : (p.join q).isAbsolute = p.isAbsolute := by
  rcases p.bytes_join hq with ⟨hempty, hjoin⟩ | ⟨front, hfront, hjoin⟩ | ⟨hne, hjoin⟩
  · rw [isAbsolute, hjoin, ← isAbsolute, hq, isAbsolute, hempty]
    rfl
  · rw [isAbsolute, isAbsolute, hjoin, hfront]
    rcases front with _ | ⟨b, front⟩ <;> rfl
  · rw [isAbsolute, isAbsolute, hjoin, List.head?_append_of_ne_nil _ hne]

lemma names_join (hq : q.isAbsolute = false) : (p.join q).names = p.names ++ q.names := by
  rw [names_eq_runs, names_eq_runs, names_eq_runs]
  rcases p.bytes_join hq with ⟨hempty, hjoin⟩ | ⟨front, hfront, hjoin⟩ | ⟨-, hjoin⟩
  · rw [hjoin, hempty, runs_nil, List.nil_append]
  · rw [hjoin, hfront, runs_slash, runs_slash, runs_nil, List.append_nil]
  · rw [hjoin, runs_slash]

/-- A path without a component `.` has its names as components. -/
lemma components_of_not_mem (hdot : [dot] ∉ q.names) : q.components = q.names := by
  rw [components]
  rcases hnames : q.names with _ | ⟨first, rest⟩
  · rfl
  · rw [hnames, List.mem_cons, not_or] at hdot
    have hrest : rest.filter (· != [dot]) = rest :=
      List.filter_eq_self.mpr fun name hname => by
        simpa using fun heq : name = [dot] => hdot.2 (heq ▸ hname)
    simp [hrest, Ne.symm hdot.1]

lemma components_join (hq : q.isAbsolute = false) (hdot : [dot] ∉ q.names) :
    (p.join q).components = p.components ++ q.names := by
  rcases hnames : p.names with _ | ⟨first, rest⟩
  · have hjoin : (p.join q).names = q.names := by rw [p.names_join hq, hnames, List.nil_append]
    rw [components_of_not_mem (hjoin ▸ hdot), hjoin, components, hnames, List.nil_append]
  · have hrest : q.names.filter (· != [dot]) = q.names :=
      List.filter_eq_self.mpr fun name hname => by
        simpa using fun heq : name = [dot] => hdot (heq ▸ hname)
    rw [components, p.names_join hq, components, hnames, p.isAbsolute_join hq]
    simp [hrest]

end NodeWatch.Files.Path

/-!
# Tables

A table gives each of its keys one value. Setting a key replaces its value, and erasing a key takes
it out; all other keys stay as they are.
-/

namespace NodeWatch

structure Table (κ ν : Type) where
  /-- The entries, the one set last first. -/
  entries : List (κ × ν) := []
  /-- No key occurs twice. -/
  distinct : (entries.map Prod.fst).Nodup := by simp

namespace Table

section Entries

variable {κ ν : Type}

/-- How many keys there are. -/
def size (t : Table κ ν) : Nat :=
  t.entries.length

def values (t : Table κ ν) : List ν :=
  t.entries.map Prod.snd

end Entries

variable {κ ν : Type} [BEq κ]

def get? (t : Table κ ν) (k : κ) : Option ν :=
  t.entries.lookup k

def erase (t : Table κ ν) (k : κ) : Table κ ν where
  entries := t.entries.filter fun entry => entry.1 != k
  distinct := t.distinct.sublist (List.filter_sublist.map Prod.fst)

variable [LawfulBEq κ]

theorem not_mem_keys_erase (t : Table κ ν) (k : κ) : k ∉ (t.erase k).entries.map Prod.fst := by
  simp [erase]

def set (t : Table κ ν) (k : κ) (v : ν) : Table κ ν where
  entries := (k, v) :: (t.erase k).entries
  distinct := List.nodup_cons.2 ⟨t.not_mem_keys_erase k, (t.erase k).distinct⟩

@[simp] theorem get?_erase_self (t : Table κ ν) (k : κ) : (t.erase k).get? k = none := by
  simp only [erase, get?, List.lookup_eq_none_iff]
  intro entry h
  simpa using Ne.symm (bne_iff_ne.1 (List.mem_filter.1 h).2)

theorem get?_erase_of_ne (t : Table κ ν) {k l : κ} (h : k ≠ l) :
    (t.erase l).get? k = t.get? k := by
  simp only [erase, get?]
  induction t.entries with
  | nil => rfl
  | cons entry entries ih =>
    obtain ⟨key, value⟩ := entry
    by_cases hkey : key = l
    · have hne : (k == l) = false := by simpa using h
      simp [hkey, List.lookup_cons, ih, hne]
    · simp [hkey, List.lookup_cons, ih]

@[simp] theorem get?_set_self (t : Table κ ν) (k : κ) (v : ν) : (t.set k v).get? k = some v := by
  simp [set, get?]

theorem get?_set_of_ne (t : Table κ ν) {k l : κ} (h : k ≠ l) (v : ν) :
    (t.set l v).get? k = t.get? k := by
  have hne : (k == l) = false := by simpa using h
  rw [← t.get?_erase_of_ne h]
  simp [set, get?, List.lookup_cons, hne]

/-- As no key occurs twice, looking finds every entry. -/
theorem get?_eq_some_iff (t : Table κ ν) {k : κ} {v : ν} :
    t.get? k = some v ↔ (k, v) ∈ t.entries := by
  rw [get?, List.lookup_eq_some_iff]
  constructor
  · rintro ⟨s, u, h, _⟩
    simp [h]
  · intro h
    obtain ⟨s, u, hsplit⟩ := List.append_of_mem h
    refine ⟨s, u, hsplit, fun entry hentry => ?_⟩
    have hdistinct := t.distinct
    rw [hsplit, List.map_append, List.map_cons, List.nodup_append] at hdistinct
    have hne := hdistinct.2.2 entry.1 (List.mem_map_of_mem hentry) k (by simp)
    simpa using Ne.symm hne

theorem mem_values (t : Table κ ν) {v : ν} : v ∈ t.values ↔ ∃ k, t.get? k = some v := by
  simp [values, get?_eq_some_iff]

end Table

end NodeWatch

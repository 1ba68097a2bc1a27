import Mathlib.Algebra.GroupWithZero.Nat
import Mathlib.Data.List.Sort
import Mathlib.Data.String.Basic
import NodeWatch.Proofs.Encoding
import NodeWatch.Proofs.Plugin.Registry
import NodeWatch.Status

/-!
# What the status shows of plugins

The list of custom resources is sorted by their names, and resources of one name stay in the order in
which the registry lists their plugins. So the list shows that order where two plugins provide
different resources of one name, and only there. The main statement is `crds_of_holds`.
-/

namespace NodeWatch.Status

open Json Plugin

section

variable {α κ : Type} [LinearOrder κ] (key : α → κ)

/-- A stable sort leaves what has the same key in place. -/
lemma filter_mergeSort (l : List α) (k : κ) :
    (l.mergeSort fun a b => key a ≤ key b).filter (key · = k) = l.filter (key · = k) := by
  have htrans (a b c : α) (hab : decide (key a ≤ key b) = true)
      (hbc : decide (key b ≤ key c) = true) : decide (key a ≤ key c) = true := by
    rw [decide_eq_true_eq] at *
    exact hab.trans hbc
  have htotal (a b : α) : (decide (key a ≤ key b) || decide (key b ≤ key a)) = true := by
    simpa using le_total (key a) (key b)
  have hkey {a : α} (ha : a ∈ l.filter (key · = k)) : key a = k := by
    simpa using (List.mem_filter.mp ha).2
  have hsame : (l.filter (key · = k)).Pairwise fun a b => decide (key a ≤ key b) = true :=
    List.pairwise_of_forall_mem_list fun a ha b hb => by simp [hkey ha, hkey hb]
  have hsublist := (List.sublist_mergeSort htrans htotal hsame List.filter_sublist).filter
    (key · = k)
  simp only [List.filter_filter, Bool.and_self] at hsublist
  exact (hsublist.eq_of_length ((List.mergeSort_perm l _).filter _).length_eq.symm).symm

/-- What is sorted by a key is determined by what each key has. -/
lemma eq_of_filter {l l' : List α} (hl : l.Pairwise fun a b => key a ≤ key b)
    (hl' : l'.Pairwise fun a b => key a ≤ key b)
    (h : ∀ k, l.filter (key · = k) = l'.filter (key · = k)) : l = l' := by
  induction l generalizing l' with
  | nil =>
    rcases l' with _ | ⟨b, l'⟩
    · rfl
    · simpa using h (key b)
  | cons a l ih =>
    rcases l' with _ | ⟨b, l'⟩
    · simpa using h (key a)
    have hhead {c d : α} {t u : List α} (ht : (c :: t).Pairwise fun a b => key a ≤ key b)
        (hfilter : (c :: t).filter (key · = key d) = (d :: u).filter (key · = key d)) :
        key c ≤ key d := by
      have hmem : d ∈ (c :: t).filter (key · = key d) := by
        rw [hfilter]
        simp
      rcases List.mem_cons.mp (List.mem_filter.mp hmem).1 with rfl | hd
      · exact le_rfl
      · exact List.rel_of_pairwise_cons ht hd
    have hkey : key a = key b := le_antisymm (hhead hl (h _)) (hhead hl' (h _).symm)
    have hfirst := h (key a)
    simp only [List.filter_cons, hkey, decide_true, if_true, List.cons.injEq] at hfirst
    obtain rfl := hfirst.1
    refine congrArg _ (ih hl.of_cons hl'.of_cons fun k => ?_)
    have hk := h k
    by_cases ha : key a = k <;> simpa [List.filter_cons, ha] using hk

end

/-- Registries that hold the plugins entered so far. A registry may list them in another order at any
time. -/
inductive Holds : List Plugin → Registry → Prop
  | nil : Holds [] {}
  | register {plugins : List Plugin} {r r' : Registry} (p : Plugin) :
      Holds plugins r → r.register p = .ok r' → Holds (plugins ++ [p]) r'
  | reorder {plugins : List Plugin} {r r' : Registry} :
      Holds plugins r → r'.plugins.Perm r.plugins → Holds plugins r'

/-- The resources of one name that a plugin provides. -/
def named (name : String) (p : Plugin) : List Crd :=
  (p.crds.getD []).filter (·.name = name)

/-- Whether the list is the same for all registries that hold the plugins, whatever the order in
which they were entered. -/
def IsCanonical (plugins : List Plugin) : Prop :=
  ∀ others r r', plugins.Perm others → Holds plugins r → Holds others r' → crds r = crds r'

/-- Whether it makes no difference which of two plugins comes first. -/
def Agree (plugins : List Plugin) : Prop :=
  ∀ p ∈ plugins, ∀ q ∈ plugins, ∀ name, named name p ++ named name q = named name q ++ named name p

section

variable {plugins others : List Plugin} {r r' : Registry}

lemma Holds.perm (h : Holds plugins r) : r.plugins.Perm plugins := by
  induction h with
  | nil => exact .nil
  | register p h hregister ih =>
    obtain ⟨-, -, rfl⟩ := (Registry.register_eq_ok_iff _ p).mp hregister
    exact ih.append_right [p]
  | reorder h hperm ih => exact hperm.trans ih

lemma Holds.names (h : Holds plugins r) :
    (plugins.map Plugin.name).Nodup ∧ ∀ p ∈ plugins, p.name ≠ "" := by
  induction h with
  | nil => simp
  | register p h hregister ih =>
    obtain ⟨hne, hnew, rfl⟩ := (Registry.register_eq_ok_iff _ p).mp hregister
    rw [Registry.get?_eq_none_iff, (h.perm.map Plugin.name).mem_iff] at hnew
    refine ⟨?_, List.forall_mem_append.mpr ⟨ih.2, List.forall_mem_singleton.mpr hne⟩⟩
    rw [List.map_append, List.map_singleton, ← List.concat_eq_append]
    exact ih.1.concat hnew
  | reorder h hperm ih => exact ih

lemma holds_of_names (hnodup : (plugins.map Plugin.name).Nodup)
    (hne : ∀ p ∈ plugins, p.name ≠ "") : Holds plugins ⟨plugins⟩ := by
  induction plugins using List.reverseRecOn with
  | nil => exact .nil
  | append_singleton plugins p ih =>
    obtain ⟨hold, hnew⟩ := List.forall_mem_append.mp hne
    rw [List.map_append, List.map_singleton, List.nodup_append_comm, List.singleton_append,
      List.nodup_cons] at hnodup
    refine (ih hnodup.2 hold).register p ((Registry.register_eq_ok_iff _ p).mpr
      ⟨hnew p (List.mem_singleton_self p), ?_, rfl⟩)
    exact (Registry.get?_eq_none_iff _).mpr hnodup.1

/-- Plugins that were entered in some order can be entered in any. -/
lemma Holds.permute (h : Holds plugins r) (hperm : plugins.Perm others) : ∃ r', Holds others r' := by
  obtain ⟨hnodup, hne⟩ := h.names
  exact ⟨_, holds_of_names ((hperm.map _).nodup_iff.mp hnodup)
    fun p hp => hne p (hperm.mem_iff.mpr hp)⟩

lemma pairwise_crds (r : Registry) : (crds r).Pairwise fun d e => d.name ≤ e.name := by
  have hsorted := List.pairwise_mergeSort' (fun d e : Crd => d.name ≤ e.name) r.crds
  exact hsorted

lemma filter_crds (r : Registry) (name : String) :
    (crds r).filter (·.name = name) = r.plugins.flatMap (named name) := by
  rw [crds, filter_mergeSort Crd.name, Registry.crds, List.filter_flatMap]
  rfl

lemma Holds.count_crds (h : Holds plugins r) (d : Crd) :
    (crds r).count d = (plugins.map fun p => (p.crds.getD []).count d).sum := by
  rw [crds, (List.mergeSort_perm _ _).count_eq, Registry.crds, List.count_flatMap]
  exact (h.perm.map _).sum_nat

/-- Lists that commute can be put together in any order. -/
lemma flatMap_perm {α β : Type} {f : α → List β} {l l' : List α} (hperm : l.Perm l')
    (h : ∀ a ∈ l, ∀ b ∈ l, f a ++ f b = f b ++ f a) : l.flatMap f = l'.flatMap f := by
  induction hperm with
  | nil => rfl
  | cons a hperm ih =>
    rw [List.flatMap_cons, List.flatMap_cons, ih fun b hb c hc =>
      h b (List.mem_cons_of_mem a hb) c (List.mem_cons_of_mem a hc)]
  | swap a b l =>
    simp only [List.flatMap_cons, ← List.append_assoc]
    rw [h b (by simp) a (by simp)]
  | trans hfirst _ ih ih' =>
    rw [ih h, ih' fun a ha b hb => h a (hfirst.mem_iff.mpr ha) b (hfirst.mem_iff.mpr hb)]

lemma isCanonical_of_agree (h : Agree plugins) : IsCanonical plugins := by
  intro others r r' hperm hr hr'
  refine eq_of_filter Crd.name (pairwise_crds r) (pairwise_crds r') fun name => ?_
  rw [filter_crds, filter_crds]
  have hregistries : r.plugins.Perm r'.plugins := hr.perm.trans (hperm.trans hr'.perm.symm)
  exact flatMap_perm hregistries fun p hp q hq =>
    h p (hr.perm.mem_iff.mp hp) q (hr.perm.mem_iff.mp hq) name

/-- If it makes a difference which of two plugins comes first, the list shows it. -/
lemma agree_of_isCanonical (hr : Holds plugins r) (h : IsCanonical plugins) :
    Agree plugins := by
  intro p hp q hq name
  by_cases hpq : p = q
  · rw [hpq]
  have hrest : q ∈ plugins.erase p := (List.mem_erase_of_ne (Ne.symm hpq)).mpr hq
  have hfirst : plugins.Perm (p :: q :: (plugins.erase p).erase q) :=
    (List.perm_cons_erase hp).trans ((List.perm_cons_erase hrest).cons p)
  have hp' : Holds plugins ⟨p :: q :: (plugins.erase p).erase q⟩ :=
    hr.reorder (hfirst.symm.trans hr.perm.symm)
  have hq' : Holds plugins ⟨q :: p :: (plugins.erase p).erase q⟩ :=
    hr.reorder ((List.Perm.swap _ _ _).trans (hfirst.symm.trans hr.perm.symm))
  have hcrds := congrArg (List.filter (·.name = name)) (h plugins _ _ (.refl _) hp' hq')
  simpa only [filter_crds, List.flatMap_cons, ← List.append_assoc, List.append_cancel_right_eq]
    using hcrds

end

lemma toValue_injective : Function.Injective Crd.toValue := by
  intro d e h
  exact Option.some.inj (by rw [← Crd.ofValue?_toValue d, h, Crd.ofValue?_toValue])

lemma inRange_list (ds : List Crd) : (Value.list (ds.map Crd.toValue)).InRange := by
  rw [Value.InRange]
  induction ds with
  | nil => exact trivial
  | cons d ds ih => exact ⟨d.inRange_toValue, ih⟩

/-- Different lists have different texts. -/
lemma toText_list_injective {ds es : List Crd}
    (h : (Value.list (ds.map Crd.toValue)).toText = (Value.list (es.map Crd.toValue)).toText) :
    ds = es := by
  have hread (fs : List Crd) : (Shape.list Crd.shape).parse
      (Value.list (fs.map Crd.toValue)).toText = .ok (.list (fs.map Crd.toValue)) :=
    Shape.parse_toText (inRange_list fs) (Shape.reads_list fun value hvalue => by
      obtain ⟨d, -, rfl⟩ := List.mem_map.mp hvalue
      exact d.reads_toValue)
  have hlists := hread ds
  rw [h, hread es] at hlists
  exact toValue_injective.list_map (Value.list.inj (Except.ok.inj hlists)).symm

lemma respond_crds_eq_iff (stats stats' : Stats) (r r' : Registry) :
    respond stats r "GET" "/crds" = respond stats' r' "GET" "/crds" ↔ crds r = crds r' := by
  constructor
  · intro h
    exact toText_list_injective (congrArg Response.body h)
  · intro h
    simp only [respond, content?, h]

/-- For a registry that holds plugins:

* the list has every resource as often as the plugins provide it, and is sorted by name; those of one
  name stay in the order of the registry;
* the plugins can be entered in any order, and the list is the same for every order if and only if
  it makes no difference, for the resources of any one name, which of two plugins comes first;
* the response shows the list, and nothing else. -/
theorem crds_of_holds {plugins : List Plugin} {r : Registry} (h : Holds plugins r) :
    (∀ d, (crds r).count d = (plugins.map fun p => (p.crds.getD []).count d).sum) ∧
    ((crds r).Pairwise fun d e => d.name ≤ e.name) ∧
    (∀ name, (crds r).filter (·.name = name) = r.plugins.flatMap (named name)) ∧
    (∀ others, plugins.Perm others → ∃ r', Holds others r') ∧
    (IsCanonical plugins ↔ Agree plugins) ∧
    ∀ stats stats' r',
      respond stats r "GET" "/crds" = respond stats' r' "GET" "/crds" ↔ crds r = crds r' :=
  ⟨h.count_crds, pairwise_crds r, filter_crds r, fun _ => h.permute,
    ⟨agree_of_isCanonical h, isCanonical_of_agree⟩,
    fun stats stats' r' => respond_crds_eq_iff stats stats' r r'⟩

/-- A plugin that provides one resource. -/
def providing (name kind plural version : String) : Plugin where
  name
  monitors := []
  crds := some [.single "example.com" kind plural .cluster version]

/-- Two plugins that provide the same resource, and one that provides another. -/
def agreeing : List Plugin :=
  [providing "a" "Foo" "foos" "v1", providing "b" "Bar" "bars" "v1", providing "c" "Foo" "foos" "v1"]

theorem crds_of_holds_agreeing :
    Holds agreeing ⟨agreeing⟩ ∧ IsCanonical agreeing ∧
      (crds ⟨agreeing⟩).count (.single "example.com" "Foo" "foos" .cluster "v1") = 2 := by
  have h : Holds agreeing ⟨agreeing⟩ := holds_of_names (by decide) (by decide)
  obtain ⟨hcount, -, -, -, hcanonical, -⟩ := crds_of_holds h
  refine ⟨h, hcanonical.mpr fun p hp q hq name => ?_, ?_⟩
  · simp only [agreeing, List.mem_cons, List.not_mem_nil, or_false] at hp hq
    by_cases hbar : (Crd.single "example.com" "Bar" "bars" .cluster "v1").name = name
    · subst hbar
      rcases hp with rfl | rfl | rfl <;> rcases hq with rfl | rfl | rfl <;> decide
    · have hnone : named name (providing "b" "Bar" "bars" "v1") = [] := by
        simpa [named, providing] using hbar
      rcases hp with rfl | rfl | rfl <;> rcases hq with rfl | rfl | rfl <;>
        first | rfl | rw [hnone, List.append_nil, List.nil_append]
  · rw [hcount]
    decide

/-- Two plugins that provide different resources of one name. -/
def disagreeing : List Plugin :=
  [providing "a" "Foo" "foos" "v1", providing "b" "Other" "foos" "v1"]

theorem not_isCanonical_disagreeing :
    Holds disagreeing ⟨disagreeing⟩ ∧ Holds disagreeing.reverse ⟨disagreeing.reverse⟩ ∧
    (crds ⟨disagreeing⟩).map Crd.kind = ["Foo", "Other"] ∧
    (crds ⟨disagreeing.reverse⟩).map Crd.kind = ["Other", "Foo"] ∧
    ¬ ∀ plugins, IsCanonical plugins := by
  have h : Holds disagreeing ⟨disagreeing⟩ := holds_of_names (by decide) (by decide)
  have h' : Holds disagreeing.reverse ⟨disagreeing.reverse⟩ := holds_of_names (by decide) (by decide)
  have hkinds : (crds ⟨disagreeing⟩).map Crd.kind = ["Foo", "Other"] := by
    rw [crds, List.mergeSort_of_pairwise (by decide)]
    rfl
  have hkinds' : (crds ⟨disagreeing.reverse⟩).map Crd.kind = ["Other", "Foo"] := by
    rw [crds, List.mergeSort_of_pairwise (by decide)]
    rfl
  refine ⟨h, h', hkinds, hkinds', fun hall => ?_⟩
  have hlists := hall disagreeing _ _ _ (List.reverse_perm _).symm h h'
  rw [hlists, hkinds'] at hkinds
  exact absurd hkinds (by decide)

end NodeWatch.Status

import Mathlib.Data.Set.Card
import NodeWatch.Text.Space

/-!
# Maximal runs

The runs of a sequence are told apart by where they stand: a run consists of elements that satisfy a
predicate, and there is no such element directly before or after it. `runs` lists as many runs as
there are (`encard_isRun`).
-/

namespace NodeWatch.Text

variable {α : Type} {p : α → Bool} {t u : List α} {a : α}

/-- A part of a sequence, with what stands before and after it. -/
structure Place (α : Type) where
  before : List α
  run : List α
  after : List α

/-- A maximal non-empty run of elements that satisfy `p`. -/
structure IsRun (p : α → Bool) (s : List α) (x : Place α) : Prop where
  split : s = x.before ++ (x.run ++ x.after)
  ne_nil : x.run ≠ []
  all : ∀ a ∈ x.run, p a = true
  left : ∀ a ∈ x.before.getLast?, p a = false
  right : ∀ a ∈ x.after.head?, p a = false

lemma runs_nil : runs p [] = [] := by
  simp [runs]

lemma runs_cons_of_neg (ha : p a = false) (s : List α) : runs p (a :: s) = runs p s := by
  rw [runs, List.splitOnP_cons_eq_if_modifyHead, if_pos (by simp [ha])]
  rfl

lemma runs_append_of_pos (hne : u ≠ []) (hu : ∀ a ∈ u, p a = true)
    (ht : ∀ a ∈ t.head?, p a = false) : runs p (u ++ t) = u :: runs p t := by
  rcases t with _ | ⟨a, t⟩
  · have hsplit : u.splitOnP (fun a => !p a) = [u] :=
      List.splitOnP_eq_singleton fun a ha => by simp [hu a ha]
    simp [runs, hsplit, hne]
  · have ha : p a = false := ht a rfl
    have hsplit : (u ++ a :: t).splitOnP (fun a => !p a) = u :: t.splitOnP fun a => !p a :=
      List.splitOnP_append_cons_of_forall_mem (fun b hb => by simp [hu b hb]) a (by simp [ha]) t
    rw [runs_cons_of_neg ha, runs, hsplit, List.filter_cons_of_pos (by simpa using hne), runs]

/-- A sequence that starts with such an element starts with a run. -/
lemma exists_run_append (ha : p a = true) (t : List α) :
    ∃ u rest, a :: t = u ++ rest ∧ u ≠ [] ∧ (∀ b ∈ u, p b = true) ∧
      ∀ b ∈ rest.head?, p b = false := by
  refine ⟨(a :: t).takeWhile p, (a :: t).dropWhile p, List.takeWhile_append_dropWhile.symm,
    by simp [ha], List.all_eq_true.mp List.all_takeWhile, fun b hb => ?_⟩
  have hhead := List.head?_dropWhile_not p (a :: t)
  rw [Option.mem_def.mp hb] at hhead
  exact hhead

/-- A sequence is built from its end, element by element where there is no run, and run by run. -/
@[elab_as_elim]
lemma runs_induction (p : α → Bool) {motive : List α → Prop} (nil : motive [])
    (gap : ∀ a t, p a = false → motive t → motive (a :: t))
    (run : ∀ u t, u ≠ [] → (∀ a ∈ u, p a = true) → (∀ a ∈ t.head?, p a = false) → motive t →
      motive (u ++ t)) (s : List α) : motive s := by
  induction hn : s.length using Nat.strong_induction_on generalizing s with
  | _ n ih =>
    rcases s with _ | ⟨a, t⟩
    · exact nil
    · rcases ha : p a with _ | _
      · exact gap a t ha (ih t.length (by simp [← hn]) t rfl)
      · obtain ⟨u, rest, hsplit, hne, hu, hrest⟩ := exists_run_append ha t
        have hlength : rest.length < n := by
          have hpos := List.length_pos_iff.mpr hne
          rw [hsplit, List.length_append] at hn
          omega
        rw [hsplit]
        exact run u rest hne hu hrest (ih rest.length hlength rest rfl)

lemma runs_gap_append {gap : List α} (h : ∀ a ∈ gap, p a = false) (s : List α) :
    runs p (gap ++ s) = runs p s := by
  induction gap with
  | nil => rfl
  | cons a gap ih =>
    obtain ⟨ha, hgap⟩ := List.forall_mem_cons.mp h
    rw [List.cons_append, runs_cons_of_neg ha, ih hgap]

lemma runs_append_gap {gap : List α} (h : ∀ a ∈ gap, p a = false) (s : List α) :
    runs p (s ++ gap) = runs p s := by
  induction s using runs_induction p with
  | nil => simpa using runs_gap_append h []
  | gap a t ha ih => rw [List.cons_append, runs_cons_of_neg ha, runs_cons_of_neg ha, ih]
  | run u t hne hu ht ih =>
    have hend : ∀ a ∈ (t ++ gap).head?, p a = false := by
      intro a ha
      rcases t with _ | ⟨b, t⟩
      · exact h a (List.mem_of_mem_head? ha)
      · exact ht a ha
    rw [List.append_assoc, runs_append_of_pos hne hu hend, runs_append_of_pos hne hu ht, ih]

/-- A gap ends the runs before it. -/
lemma runs_append_cons_of_neg (ha : p a = false) (s t : List α) :
    runs p (s ++ a :: t) = runs p s ++ runs p t := by
  induction s using runs_induction p with
  | nil => rw [List.nil_append, runs_cons_of_neg ha, runs_nil, List.nil_append]
  | gap b s hb ih => rw [List.cons_append, runs_cons_of_neg hb, runs_cons_of_neg hb, ih]
  | run u s hne hu hs ih =>
    have hend : ∀ b ∈ (s ++ a :: t).head?, p b = false := by
      intro b hb
      rcases s with _ | ⟨c, s⟩
      · cases hb
        exact ha
      · exact hs b hb
    rw [List.append_assoc, runs_append_of_pos hne hu hend, runs_append_of_pos hne hu hs, ih,
      List.cons_append]

namespace Place

/-- The same stretch of a sequence with more in front. -/
def behind (u : List α) (x : Place α) : Place α :=
  { x with before := u ++ x.before }

lemma behind_injective (u : List α) : Function.Injective (behind u) := by
  rintro ⟨before, run, after⟩ ⟨before', run', after'⟩ h
  simpa [behind] using h

end Place

/-- Runs behind a front stay runs, unless the front ends in the middle of one. -/
lemma isRun_behind_iff {x : Place α}
    (h : (∀ a ∈ u.getLast?, p a = false) ∨ ∀ a ∈ t.head?, p a = false) :
    IsRun p (u ++ t) (x.behind u) ↔ IsRun p t x := by
  constructor
  · intro hx
    have hsplit : u ++ t = u ++ (x.before ++ (x.run ++ x.after)) := by
      simpa only [Place.behind, List.append_assoc] using hx.split
    refine ⟨List.append_cancel_left hsplit, hx.ne_nil, hx.all, fun a ha => hx.left a ?_, hx.right⟩
    rw [Place.behind, List.getLast?_append, Option.mem_def.mp ha]
    rfl
  · intro hx
    refine ⟨?_, hx.ne_nil, hx.all, fun a ha => ?_, hx.right⟩
    · rw [Place.behind, List.append_assoc, ← hx.split]
    · rw [Place.behind, List.getLast?_append] at ha
      rcases hbefore : x.before.getLast? with _ | b
      · rw [hbefore, Option.none_or] at ha
        rcases h with hfront | hrest
        · exact hfront a ha
        · -- the run would start what follows the front
          obtain ⟨b, run, hrun⟩ := List.exists_cons_of_ne_nil hx.ne_nil
          have hhead : b ∈ t.head? := by
            rw [hx.split, List.getLast?_eq_none_iff.mp hbefore, hrun]
            rfl
          have hb := hx.all b (hrun ▸ List.mem_cons_self)
          rw [hrest b hhead] at hb
          cases hb
      · rw [hbefore, Option.some_or] at ha
        exact hx.left a (hbefore ▸ ha)

lemma setOf_isRun_nil : {x | IsRun p [] x} = ∅ := by
  refine Set.eq_empty_of_forall_notMem fun x hx => hx.ne_nil ?_
  exact (List.append_eq_nil_iff.mp (List.append_eq_nil_iff.mp hx.split.symm).2).1

lemma setOf_isRun_cons_of_neg (ha : p a = false) :
    {x | IsRun p (a :: t) x} = Place.behind [a] '' {x | IsRun p t x} := by
  have hbehind {x : Place α} : IsRun p ([a] ++ t) (x.behind [a]) ↔ IsRun p t x :=
    isRun_behind_iff (.inl fun b hb => by cases hb; exact ha)
  ext ⟨before, run, after⟩
  constructor
  · intro hx
    rcases List.cons_eq_append_iff.mp hx.split with ⟨-, hrun⟩ | ⟨before', rfl, -⟩
    · obtain ⟨b, run', rfl⟩ := List.exists_cons_of_ne_nil hx.ne_nil
      obtain rfl : b = a := (List.cons_eq_cons.mp hrun).1
      have hb := hx.all b List.mem_cons_self
      rw [ha] at hb
      cases hb
    · exact ⟨⟨before', run, after⟩, hbehind.mp hx, rfl⟩
  · rintro ⟨y, hy, hxy⟩
    rw [← hxy]
    exact hbehind.mpr hy

lemma takeWhile_append_of_head (hu : ∀ a ∈ u, p a = true) (ht : ∀ a ∈ t.head?, p a = false) :
    (u ++ t).takeWhile p = u := by
  rw [List.takeWhile_append_of_pos hu]
  rcases t with _ | ⟨a, t⟩
  · simp
  · simp [ht a rfl]

lemma setOf_isRun_append (hne : u ≠ []) (hu : ∀ a ∈ u, p a = true)
    (ht : ∀ a ∈ t.head?, p a = false) :
    {x | IsRun p (u ++ t) x} = insert ⟨[], u, t⟩ (Place.behind u '' {x | IsRun p t x}) := by
  have hbehind {x : Place α} : IsRun p (u ++ t) (x.behind u) ↔ IsRun p t x :=
    isRun_behind_iff (.inr ht)
  ext ⟨before, run, after⟩
  rw [Set.mem_insert_iff]
  constructor
  · intro hx
    rcases List.append_eq_append_iff.mp hx.split with ⟨between, hbefore, -⟩ | ⟨c, hc, hrun⟩
    · obtain rfl : before = u ++ between := hbefore
      exact .inr ⟨⟨between, run, after⟩, hbehind.mp hx, rfl⟩
    · rcases before.eq_nil_or_concat with rfl | ⟨front, b, rfl⟩
      · -- both are what comes before the first element that does not satisfy the predicate
        obtain rfl : u = c := hc
        have htake := congrArg (List.takeWhile p) hrun
        rw [takeWhile_append_of_head hx.all hx.right, takeWhile_append_of_head hu ht] at htake
        obtain rfl : run = u := htake
        obtain rfl : after = t := List.append_cancel_left hrun
        exact .inl rfl
      · have hb : p b = false := hx.left b (by simp)
        rw [hu b (by rw [hc]; simp)] at hb
        cases hb
  · rintro (h | ⟨y, hy, hxy⟩)
    · cases h
      exact ⟨rfl, hne, hu, by simp, ht⟩
    · rw [← hxy]
      exact hbehind.mpr hy

/-- As many runs are listed as there are. -/
theorem encard_isRun (p : α → Bool) (s : List α) :
    {x | IsRun p s x}.encard = (runs p s).length := by
  induction s using runs_induction p with
  | nil =>
    rw [setOf_isRun_nil, runs_nil, Set.encard_empty]
    rfl
  | gap a t ha ih =>
    rw [setOf_isRun_cons_of_neg ha, (Place.behind_injective _).encard_image, ih,
      runs_cons_of_neg ha]
  | run u t hne hu ht ih =>
    have hfirst : (⟨[], u, t⟩ : Place α) ∉ Place.behind u '' {x | IsRun p t x} := by
      rintro ⟨x, -, hx⟩
      exact hne (List.append_eq_nil_iff.mp (congrArg Place.before hx)).1
    rw [setOf_isRun_append hne hu ht, Set.encard_insert_of_notMem hfirst,
      (Place.behind_injective _).encard_image, ih, runs_append_of_pos hne hu ht]
    rfl

/-- What is listed is what stands somewhere. -/
lemma mem_runs_iff {s : List α} : u ∈ runs p s ↔ ∃ x, IsRun p s x ∧ x.run = u := by
  have himage : Place.run '' {x | IsRun p s x} = {u | u ∈ runs p s} := by
    induction s using runs_induction p with
    | nil => simp [setOf_isRun_nil, runs_nil]
    | gap a t ha ih =>
      rw [setOf_isRun_cons_of_neg ha, runs_cons_of_neg ha, ← ih, Set.image_image]
      rfl
    | run v t hne hv ht ih =>
      rw [setOf_isRun_append hne hv ht, runs_append_of_pos hne hv ht, Set.image_insert_eq,
        Set.image_image]
      refine (congrArg (insert v) ih).trans ?_
      ext w
      simp
  exact (Set.ext_iff.mp himage u).symm

lemma mem_of_mem_runs {s : List α} (h : u ∈ runs p s) (ha : a ∈ u) : a ∈ s := by
  obtain ⟨x, hx, rfl⟩ := mem_runs_iff.mp h
  rw [hx.split]
  exact List.mem_append_right _ (List.mem_append_left _ ha)

end NodeWatch.Text

import Mathlib.Algebra.Order.Field.Power
import Mathlib.Data.Rat.Floor
import Mathlib.Tactic.Linarith
import NodeWatch.Number.Double

/-!
# Rounding to doubles

No double is nearer to a number than the one that it is rounded to (`abs_nearest_sub_le_abs`).
Rounding moves a number by at most one part in `2 ^ 53` (`abs_nearest_sub_le`) and leaves small
integers alone (`nearest_natCast`). What is rounded to a given double or more is what reaches the
middle between that double and the one below it (`le_nearest_iff`).
-/

namespace NodeWatch.Double

variable {q r : ℚ} {e k : ℤ}

/-- In the middle between two integers, only the even one is reached. -/
lemma le_roundEven_iff :
    k ≤ roundEven r ↔ (k : ℚ) - 1 / 2 < r ∨ (k : ℚ) - 1 / 2 = r ∧ k % 2 = 0 := by
  have hfloor : (r.floor : ℚ) ≤ r := Rat.floor_le r
  have hceil : r < (r.floor : ℚ) + 1 := by exact_mod_cast Rat.lt_floor_add_one r
  simp only [roundEven, beq_iff_eq]
  generalize r.floor = n at *
  have hbelow (h : (k : ℚ) < n + 1) : k ≤ n := Int.le_of_lt_add_one (by exact_mod_cast h)
  split_ifs with hlow hhigh heven
  · constructor
    · intro h
      have hk : (k : ℚ) ≤ n := by exact_mod_cast h
      exact .inl (by linarith)
    · rintro (h | ⟨h, -⟩) <;> exact hbelow (by linarith)
  · constructor
    · intro h
      have hk : (k : ℚ) ≤ n + 1 := by exact_mod_cast h
      exact .inl (by linarith)
    · rintro (h | ⟨h, -⟩) <;>
        exact Int.le_of_lt_add_one (by exact_mod_cast (by linarith : (k : ℚ) < n + 1 + 1))
  all_goals
    have hmiddle : r = n + 1 / 2 := by linarith
  · constructor
    · intro h
      have hk : (k : ℚ) ≤ n := by exact_mod_cast h
      exact .inl (by linarith)
    · rintro (h | ⟨h, hk⟩)
      · exact hbelow (by linarith)
      · have hnext : k = n + 1 := by exact_mod_cast (by linarith : (k : ℚ) = n + 1)
        omega
  · constructor
    · intro h
      rcases h.lt_or_eq with hlt | rfl
      · have hk : (k : ℚ) < n + 1 := by exact_mod_cast hlt
        exact .inl (by linarith)
      · exact .inr ⟨by push_cast; linarith, by omega⟩
    · rintro (h | ⟨h, -⟩) <;>
        exact Int.le_of_lt_add_one (by exact_mod_cast (by linarith : (k : ℚ) < n + 1 + 1))

lemma le_roundEven (h : (k : ℚ) ≤ r) : k ≤ roundEven r :=
  le_roundEven_iff.mpr (.inl (by linarith))

lemma roundEven_le (h : r ≤ k) : roundEven r ≤ k := by
  by_contra hlt
  rcases le_roundEven_iff.mp (Int.add_one_le_of_lt (not_le.mp hlt)) with hr | ⟨hr, -⟩ <;>
    push_cast at hr <;> linarith

lemma roundEven_intCast (k : ℤ) : roundEven k = k :=
  le_antisymm (roundEven_le le_rfl) (le_roundEven le_rfl)

lemma abs_roundEven_sub_le (r : ℚ) : |(roundEven r : ℚ) - r| ≤ 1 / 2 := by
  have hlow : (roundEven r : ℚ) - 1 / 2 ≤ r :=
    (le_roundEven_iff.mp le_rfl).elim le_of_lt fun h => h.1.le
  have hhigh : r ≤ (roundEven r : ℚ) + 1 / 2 := by
    by_contra hlt
    have hnext : roundEven r + 1 ≤ roundEven r :=
      le_roundEven_iff.mpr (.inl (by push_cast; linarith))
    omega
  rw [abs_le]
  constructor <;> linarith

/-- No integer is nearer. -/
lemma abs_roundEven_sub_le_abs (r : ℚ) (k : ℤ) : |(roundEven r : ℚ) - r| ≤ |(k : ℚ) - r| := by
  have hhalf := abs_roundEven_sub_le r
  rcases lt_trichotomy k (roundEven r) with hlt | rfl | hgt
  · have hstep : (k : ℚ) + 1 ≤ roundEven r := by exact_mod_cast hlt
    have hbelow : (k : ℚ) - r ≤ -(1 / 2) := by linarith [(abs_le.mp hhalf).2]
    rw [abs_of_nonpos (by linarith : (k : ℚ) - r ≤ 0)]
    linarith
  · exact le_rfl
  · have hstep : (roundEven r : ℚ) + 1 ≤ k := by exact_mod_cast hgt
    have habove : 1 / 2 ≤ (k : ℚ) - r := by linarith [(abs_le.mp hhalf).1]
    rw [abs_of_nonneg (by linarith : 0 ≤ (k : ℚ) - r)]
    linarith

lemma two_zpow_add (e : ℤ) (m : ℕ) : (2 : ℚ) ^ (e + m) = 2 ^ m * 2 ^ e := by
  rw [zpow_add₀ (by norm_num), zpow_natCast, mul_comm]

/-- The binary logarithms of numerator and denominator give the binade or the one above. -/
lemma log2_bounds (hq : 0 < q) :
    (2 : ℚ) ^ ((q.num.toNat.log2 : ℤ) - q.den.log2 - 1) < q ∧
      q < (2 : ℚ) ^ ((q.num.toNat.log2 : ℤ) - q.den.log2 + 1) := by
  have hnum : 0 < q.num := Rat.num_pos.mpr hq
  have hcast : ((q.num.toNat : ℕ) : ℚ) = q.num := by
    exact_mod_cast Int.toNat_of_nonneg hnum.le
  have hq_eq : q = q.num.toNat / q.den := by rw [hcast, Rat.num_div_den]
  have hden : (0 : ℚ) < q.den := by exact_mod_cast q.den_pos
  have hnum_low : (2 : ℚ) ^ q.num.toNat.log2 ≤ q.num.toNat := by
    exact_mod_cast Nat.log2_self_le (by omega)
  have hnum_high : (q.num.toNat : ℚ) < 2 ^ (q.num.toNat.log2 + 1) := by
    exact_mod_cast Nat.lt_log2_self
  have hden_low : (2 : ℚ) ^ q.den.log2 ≤ q.den := by
    exact_mod_cast Nat.log2_self_le q.den_pos.ne'
  have hden_high : (q.den : ℚ) < 2 ^ (q.den.log2 + 1) := by
    exact_mod_cast Nat.lt_log2_self
  generalize q.num.toNat = a at *
  generalize q.den = b at *
  generalize a.log2 = m at *
  generalize b.log2 = n at *
  subst hq_eq
  constructor
  · rw [lt_div_iff₀ hden]
    calc (2 : ℚ) ^ ((m : ℤ) - n - 1) * b
        < 2 ^ ((m : ℤ) - n - 1) * 2 ^ (n + 1) := by gcongr
      _ = 2 ^ m := by
        rw [← zpow_natCast, ← zpow_natCast, ← zpow_add₀ (by norm_num)]
        congr 1
        push_cast
        ring
      _ ≤ a := hnum_low
  · rw [div_lt_iff₀ hden]
    calc (a : ℚ) < 2 ^ (m + 1) := hnum_high
      _ = 2 ^ ((m : ℤ) - n + 1) * 2 ^ n := by
        rw [← zpow_natCast, ← zpow_natCast, ← zpow_add₀ (by norm_num)]
        congr 1
        push_cast
        ring
      _ ≤ 2 ^ ((m : ℤ) - n + 1) * b := by gcongr

lemma zpow_binade_le (hq : 0 < q) : (2 : ℚ) ^ binade q ≤ q := by
  simp only [binade]
  split_ifs with h
  · exact h
  · exact (log2_bounds hq).1.le

lemma lt_zpow_binade (hq : 0 < q) : q < (2 : ℚ) ^ (binade q + 1) := by
  simp only [binade]
  split_ifs with h
  · exact (log2_bounds hq).2
  · rw [sub_add_cancel]
    exact not_le.mp h

lemma le_binade_iff (hq : 0 < q) : e ≤ binade q ↔ (2 : ℚ) ^ e ≤ q := by
  constructor
  · intro h
    exact (zpow_le_zpow_right₀ (by norm_num) h).trans (zpow_binade_le hq)
  · intro h
    have hlt : (2 : ℚ) ^ e < 2 ^ (binade q + 1) := h.trans_lt (lt_zpow_binade hq)
    exact Int.le_of_lt_add_one ((zpow_lt_zpow_iff_right₀ (by norm_num)).mp hlt)

/-! ### Doubles -/

lemma nearest_zero : nearest 0 = 0 := by
  simp [nearest]

/-- The distance between the doubles around `q`. -/
def ulp (q : ℚ) : ℚ :=
  2 ^ (binade q - 52)

lemma ulp_pos (q : ℚ) : 0 < ulp q :=
  zpow_pos (by norm_num) _

lemma zpow_binade (q : ℚ) : (2 : ℚ) ^ binade q = 2 ^ 52 * ulp q := by
  have h := two_zpow_add (binade q - 52) 52
  rwa [Nat.cast_ofNat, sub_add_cancel] at h

lemma zpow_binade_add_one (q : ℚ) : (2 : ℚ) ^ (binade q + 1) = 2 ^ 53 * ulp q := by
  rw [zpow_add_one₀ (by norm_num), zpow_binade]
  ring

lemma nearest_of_pos (hq : 0 < q) : nearest q = roundEven (q / ulp q) * ulp q := by
  simp only [nearest, if_neg (not_le.mpr hq), ulp]

lemma le_roundEven_div_ulp (hq : 0 < q) : 2 ^ 52 ≤ roundEven (q / ulp q) := by
  refine le_roundEven ?_
  rw [le_div_iff₀ (ulp_pos q), Int.cast_pow, Int.cast_ofNat, ← zpow_binade]
  exact zpow_binade_le hq

lemma roundEven_div_ulp_le (hq : 0 < q) : roundEven (q / ulp q) ≤ 2 ^ 53 := by
  refine roundEven_le ?_
  rw [div_le_iff₀ (ulp_pos q), Int.cast_pow, Int.cast_ofNat, ← zpow_binade_add_one]
  exact (lt_zpow_binade hq).le

/-- Powers of two are doubles, so no rounding goes past them. -/
lemma zpow_le_nearest (hq : 0 < q) (h : (2 : ℚ) ^ e ≤ q) : (2 : ℚ) ^ e ≤ nearest q := by
  have hcast : (2 ^ 52 : ℚ) ≤ roundEven (q / ulp q) := by exact_mod_cast le_roundEven_div_ulp hq
  calc (2 : ℚ) ^ e ≤ 2 ^ binade q := zpow_le_zpow_right₀ (by norm_num) ((le_binade_iff hq).mpr h)
    _ = 2 ^ 52 * ulp q := zpow_binade q
    _ ≤ roundEven (q / ulp q) * ulp q := mul_le_mul_of_nonneg_right hcast (ulp_pos q).le
    _ = nearest q := (nearest_of_pos hq).symm

lemma nearest_le_zpow (hq : 0 < q) (h : q < (2 : ℚ) ^ e) : nearest q ≤ (2 : ℚ) ^ e := by
  have hcast : (roundEven (q / ulp q) : ℚ) ≤ 2 ^ 53 := by exact_mod_cast roundEven_div_ulp_le hq
  have hbinade : binade q + 1 ≤ e := by
    by_contra hlt
    exact absurd h (not_lt.mpr ((le_binade_iff hq).mp (by omega)))
  calc nearest q = roundEven (q / ulp q) * ulp q := nearest_of_pos hq
    _ ≤ 2 ^ 53 * ulp q := mul_le_mul_of_nonneg_right hcast (ulp_pos q).le
    _ = 2 ^ (binade q + 1) := (zpow_binade_add_one q).symm
    _ ≤ 2 ^ e := zpow_le_zpow_right₀ (by norm_num) hbinade

/-- Rounding moves a number by at most half the distance between doubles. -/
lemma abs_nearest_sub_le (hq : 0 ≤ q) : |nearest q - q| ≤ q / 2 ^ 53 := by
  rcases hq.eq_or_lt with rfl | hq
  · simp [nearest_zero]
  · have hmove : nearest q - q = (roundEven (q / ulp q) - q / ulp q) * ulp q := by
      rw [nearest_of_pos hq, sub_mul, div_mul_cancel₀ _ (ulp_pos q).ne']
    calc |nearest q - q| = |roundEven (q / ulp q) - q / ulp q| * ulp q := by
          rw [hmove, abs_mul, abs_of_pos (ulp_pos q)]
      _ ≤ 1 / 2 * ulp q :=
          mul_le_mul_of_nonneg_right (abs_roundEven_sub_le _) (ulp_pos q).le
      _ = 2 ^ binade q / 2 ^ 53 := by
          rw [zpow_binade]
          ring
      _ ≤ q / 2 ^ 53 := by
          gcongr
          exact zpow_binade_le hq

/-- The numbers with 53 significant bits. -/
def IsDouble (x : ℚ) : Prop :=
  ∃ n e : ℤ, |n| ≤ 2 ^ 53 ∧ x = n * 2 ^ e

lemma isDouble_nearest (hq : 0 ≤ q) : IsDouble (nearest q) := by
  rcases hq.eq_or_lt with rfl | hq
  · exact ⟨0, 0, by norm_num, by simp [nearest_zero]⟩
  · have hpos : 0 ≤ roundEven (q / ulp q) :=
      le_roundEven (by exact_mod_cast (div_pos hq (ulp_pos q)).le)
    refine ⟨_, _, ?_, nearest_of_pos hq⟩
    rw [abs_of_nonneg hpos]
    exact roundEven_div_ulp_le hq

/-- No double is nearer. -/
theorem abs_nearest_sub_le_abs (hq : 0 ≤ q) {x : ℚ} (hx : IsDouble x) :
    |nearest q - q| ≤ |x - q| := by
  rcases hq.eq_or_lt with rfl | hq
  · simp [nearest_zero]
  · have hmultiple (k : ℤ) : |nearest q - q| ≤ |k * ulp q - q| := by
      have hscale (m : ℚ) : |m * ulp q - q| = |m - q / ulp q| * ulp q := by
        rw [← abs_of_pos (ulp_pos q), ← abs_mul, abs_of_pos (ulp_pos q), sub_mul,
          div_mul_cancel₀ _ (ulp_pos q).ne']
      rw [nearest_of_pos hq, hscale, hscale]
      exact mul_le_mul_of_nonneg_right (abs_roundEven_sub_le_abs _ k) (ulp_pos q).le
    obtain ⟨n, e, hn, rfl⟩ := hx
    rcases le_or_gt (binade q - 52) e with hle | hlt
    · -- the double is a multiple of the distance between the doubles around `q`
      obtain ⟨m, hm⟩ : ∃ m : ℕ, e = binade q - 52 + m := ⟨(e - (binade q - 52)).toNat, by omega⟩
      have hx : (n : ℚ) * 2 ^ e = ((n * 2 ^ m : ℤ) : ℚ) * ulp q := by
        rw [hm, two_zpow_add, ulp]
        push_cast
        ring
      rw [hx]
      exact hmultiple _
    · -- the double is not above the binade of `q`, which starts with a double
      have hbound : (n : ℚ) * 2 ^ e ≤ 2 ^ binade q := by
        have hn' : (n : ℚ) ≤ 2 ^ 53 := by exact_mod_cast (le_abs_self n).trans hn
        calc (n : ℚ) * 2 ^ e ≤ 2 ^ 53 * 2 ^ e := by gcongr
          _ = 2 ^ (e + 53) := (two_zpow_add e 53).symm
          _ ≤ 2 ^ binade q := zpow_le_zpow_right₀ (by norm_num) (by omega)
      have hstart := hmultiple (2 ^ 52)
      rw [Int.cast_pow, Int.cast_ofNat, ← zpow_binade,
        abs_of_nonpos (sub_nonpos.mpr (zpow_binade_le hq))] at hstart
      rw [abs_of_nonpos (a := (n : ℚ) * 2 ^ e - q) (by linarith [zpow_binade_le hq])]
      linarith

/-- Small integers are doubles. -/
lemma nearest_natCast {n : ℕ} (hn : n < 2 ^ 53) : nearest n = n := by
  rcases n.eq_zero_or_pos with rfl | hpos
  · exact nearest_zero
  · have hq : (0 : ℚ) < n := by exact_mod_cast hpos
    have hbinade : binade n < 53 := by
      by_contra hle
      have h := (le_binade_iff hq).mp (not_lt.mp hle)
      have hnat : 2 ^ 53 ≤ n := by exact_mod_cast h
      omega
    -- the last bit stands for a fraction of one
    obtain ⟨m, hm⟩ : ∃ m : ℕ, binade n - 52 = -(m : ℤ) := ⟨(52 - binade n).toNat, by omega⟩
    have hdiv : (n : ℚ) / ulp n = ((n * 2 ^ m : ℤ) : ℚ) := by
      rw [ulp, hm, zpow_neg, div_inv_eq_mul, zpow_natCast]
      push_cast
      rfl
    rw [nearest_of_pos hq, hdiv, roundEven_intCast, ← hdiv, div_mul_cancel₀ _ (ulp_pos _).ne']

/-- Rounding keeps a count on its side of a power of two. -/
lemma two_pow_le_nearest {n m : ℕ} (h : 2 ^ m ≤ n) : (2 : ℚ) ^ m ≤ nearest n := by
  have hpos : 0 < n := (Nat.two_pow_pos m).trans_le h
  have hle : (2 : ℚ) ^ (m : ℤ) ≤ n := by exact_mod_cast h
  exact_mod_cast zpow_le_nearest (by exact_mod_cast hpos) hle

lemma nearest_pos {n : ℕ} (hn : 0 < n) : 0 < nearest n :=
  one_pos.trans_le (by simpa using two_pow_le_nearest (m := 0) hn)

/-- What reaches a double with an even last bit after rounding: all from the middle between it and
the double below it. -/
lemma le_nearest_iff (hq : 0 < q) (hlow : 2 ^ 52 < k) (hhigh : k < 2 ^ 53) (heven : k % 2 = 0) :
    (k : ℚ) * 2 ^ e ≤ nearest q ↔ ((k : ℚ) - 1 / 2) * 2 ^ e ≤ q := by
  have hpos : (0 : ℚ) < 2 ^ e := zpow_pos (by norm_num) e
  have hbottom : (2 : ℚ) ^ (e + 52) = 2 ^ 52 * 2 ^ e := two_zpow_add e 52
  have htop : (2 : ℚ) ^ (e + 53) = 2 ^ 53 * 2 ^ e := two_zpow_add e 53
  have hlow' : (2 ^ 52 : ℚ) + 1 ≤ k := by exact_mod_cast hlow
  have hhigh' : (k : ℚ) ≤ 2 ^ 53 - 1 := by
    have : k ≤ 2 ^ 53 - 1 := by omega
    exact_mod_cast this
  rcases lt_or_ge q (2 ^ (e + 52)) with hbelow | hle
  · -- `q` is below the binade of the double
    have hmiddle : q < ((k : ℚ) - 1 / 2) * 2 ^ e := by
      refine hbelow.trans_le (hbottom.trans_le ?_)
      gcongr
      linarith
    have hnearest : nearest q < k * 2 ^ e := by
      refine ((nearest_le_zpow hq hbelow).trans_eq hbottom).trans_lt ?_
      gcongr
      linarith
    exact iff_of_false (not_le.mpr hnearest) (not_le.mpr hmiddle)
  · rcases lt_or_ge q (2 ^ (e + 53)) with hin | habove
    · -- the doubles around `q` are the integers times `2 ^ e`
      have hbinade : binade q = e + 52 := by
        refine le_antisymm ?_ ((le_binade_iff hq).mpr hle)
        by_contra hlt
        exact absurd hin (not_lt.mpr ((le_binade_iff hq).mp (by omega)))
      have hulp : ulp q = 2 ^ e := by rw [ulp, hbinade, add_sub_cancel_right]
      rw [nearest_of_pos hq, hulp, mul_le_mul_iff_of_pos_right hpos, Int.cast_le, le_roundEven_iff,
        ← le_div_iff₀ hpos, le_iff_lt_or_eq]
      simp [heven]
    · -- `q` is above the binade of the double
      have hmiddle : ((k : ℚ) - 1 / 2) * 2 ^ e ≤ q := by
        refine le_trans ?_ (htop.symm.trans_le habove)
        gcongr
        linarith
      have hnearest : (k : ℚ) * 2 ^ e ≤ nearest q := by
        refine le_trans ?_ (htop.symm.trans_le (zpow_le_nearest hq habove))
        gcongr
        linarith
      exact iff_of_true hnearest hmiddle

end NodeWatch.Double

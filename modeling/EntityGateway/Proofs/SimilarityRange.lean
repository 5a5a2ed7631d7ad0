import Mathlib.Data.Rat.Floor
import Mathlib.Algebra.Order.Field.Power
import EntityGateway.Proofs.SymmetricScores

/-!
# Similarity scores from 0 to 100

A similarity is 100 for values of one normal form, and otherwise `100 * (1 - d / n)` in binary64
arithmetic, rounded half away from zero, `d` the edit distance of the normal forms and `n` the
length of the longer. Every step of that arithmetic rounds to a nearest binary64 number, and
rounding to nearest is monotone (`rounded_mono`): a larger exact value never rounds below a
smaller one. That is all the bounds below need of the arithmetic, with a few roundings of
constants evaluated once:

* `log2Floor_spec`, `nearest_eq`: the leading bit of a positive rational, and the multiple of
  its last place that `Binary64.nearest` rounds it to;
* `roundEven_mono`, `rounded_mono`: rounding to a nearest integer, and to a nearest binary64
  number, keep the order;
* `scoreOf_le`, `scoreOf_lt_of_short`: a score lies between 0 and 100, and a distance of at least
  one edit against fewer than 200 characters scores below 100; `scoreOf_one_of_long`: from 200
  characters on, one edit scores 100;
* `similarity_bounds`: a similarity is symmetric and lies between 0 and 100; it is 100 for values
  of one normal form, and when the longer normal form has fewer than 200 characters only then.
-/

namespace EntityGateway
namespace Binary64

/-! ## Leading bits -/

/-- The bit length of a positive natural number bounds it on both sides. -/
theorem log2_bounds {n : Nat} (hn : n ≠ 0) : (2 : Rat) ^ n.log2 ≤ n ∧ (n : Rat) < 2 ^ (n.log2 + 1) :=
  ⟨by exact_mod_cast Nat.log2_self_le hn, by exact_mod_cast Nat.lt_log2_self⟩

/-- The bit length of the numerator less that of the denominator places `q > 0` strictly
between the powers of two one below and one above it. -/
theorem bitLength_sub_bounds {q : Rat} (hq : 0 < q) :
    (2 : Rat) ^ ((q.num.natAbs.log2 : Int) - q.den.log2 - 1) < q ∧
      q < 2 ^ ((q.num.natAbs.log2 : Int) - q.den.log2 + 1) := by
  set N := q.num.natAbs
  set D := q.den
  have hN : (N : Rat) = q.num := by
    have : (N : Int) = q.num := Int.natAbs_of_nonneg (Rat.num_pos.2 hq).le
    exact_mod_cast this
  have hq' : q = N / D := by rw [hN]; exact (Rat.num_div_den q).symm
  obtain ⟨hNlo, hNhi⟩ := log2_bounds (Int.natAbs_ne_zero.2 (Rat.num_pos.2 hq).ne')
  obtain ⟨hDlo, hDhi⟩ := log2_bounds q.den_nz
  have hDpos : (0 : Rat) < D := by exact_mod_cast q.den_pos
  have h2 : (0 : Rat) < 2 := two_pos
  -- `q` lies strictly between `2 ^ (e - 1)` and `2 ^ (e + 1)`, `e` the difference of bit lengths
  have hlo : (2 : Rat) ^ ((N.log2 : Int) - D.log2 - 1) < q := by
    rw [hq', lt_div_iff₀ hDpos]
    calc (2 : Rat) ^ ((N.log2 : Int) - D.log2 - 1) * D
        < 2 ^ ((N.log2 : Int) - D.log2 - 1) * 2 ^ (D.log2 + 1) :=
          mul_lt_mul_of_pos_left hDhi (zpow_pos h2 _)
      _ = 2 ^ N.log2 := by
          rw [← zpow_natCast, ← zpow_add₀ h2.ne', ← zpow_natCast]
          congr 1
          push_cast
          ring
      _ ≤ N := hNlo
  have hhi : q < (2 : Rat) ^ ((N.log2 : Int) - D.log2 + 1) := by
    rw [hq', div_lt_iff₀ hDpos]
    calc (N : Rat) < 2 ^ (N.log2 + 1) := hNhi
      _ = 2 ^ ((N.log2 : Int) - D.log2 + 1) * 2 ^ D.log2 := by
          rw [← zpow_natCast, ← zpow_natCast, ← zpow_add₀ h2.ne']
          congr 1
          push_cast
          ring
      _ ≤ 2 ^ ((N.log2 : Int) - D.log2 + 1) * D :=
          mul_le_mul_of_nonneg_left hDlo (zpow_pos h2 _).le
  exact ⟨hlo, hhi⟩

/-- `log2Floor q` is the exponent of the leading bit of `q > 0`. -/
theorem log2Floor_spec {q : Rat} (hq : 0 < q) :
    (2 : Rat) ^ log2Floor q ≤ q ∧ q < 2 ^ (log2Floor q + 1) := by
  obtain ⟨hlo, hhi⟩ := bitLength_sub_bounds hq
  -- the estimate `e` is kept when `2 ^ e ≤ q`, and lowered by one otherwise
  unfold log2Floor
  dsimp only
  split_ifs with h
  · exact ⟨h, hhi⟩
  · refine ⟨hlo.le, ?_⟩
    rw [sub_add_cancel]
    exact lt_of_not_ge h

/-- The leading bit of `q > 0` does not fall as `q` grows. -/
theorem log2Floor_mono {q q' : Rat} (hq : 0 < q) (h : q ≤ q') : log2Floor q ≤ log2Floor q' := by
  by_contra hlt
  have hle : log2Floor q' + 1 ≤ log2Floor q := by omega
  have h₁ := (log2Floor_spec hq).1
  have h₂ := (log2Floor_spec (hq.trans_le h)).2
  have h₃ : (2 : Rat) ^ (log2Floor q' + 1) ≤ 2 ^ log2Floor q := zpow_le_zpow_right₀ one_le_two hle
  linarith

/-! ## Rounding to a natural number -/

theorem roundEven_eq (q : Rat) : roundEven q =
    if q - ⌊q⌋.toNat < 1 / 2 then ⌊q⌋.toNat
    else if 1 / 2 < q - ⌊q⌋.toNat then ⌊q⌋.toNat + 1
    else if ⌊q⌋.toNat % 2 = 0 then ⌊q⌋.toNat else ⌊q⌋.toNat + 1 := rfl

theorem floor_le_roundEven (q : Rat) : ⌊q⌋.toNat ≤ roundEven q := by
  rw [roundEven_eq]
  split_ifs <;> omega

theorem roundEven_le_succ (q : Rat) : roundEven q ≤ ⌊q⌋.toNat + 1 := by
  rw [roundEven_eq]
  split_ifs <;> omega

theorem roundEven_of_lt_half {q : Rat} (h : q - ⌊q⌋.toNat < 1 / 2) : roundEven q = ⌊q⌋.toNat := by
  rw [roundEven_eq, if_pos h]

theorem roundEven_of_half_lt {q : Rat} (h : 1 / 2 < q - ⌊q⌋.toNat) : roundEven q = ⌊q⌋.toNat + 1 := by
  rw [roundEven_eq, if_neg (not_lt.2 h.le), if_pos h]

theorem roundEven_natCast (n : Nat) : roundEven n = n := by
  have hf : ⌊(n : Rat)⌋.toNat = n := by rw [Int.floor_natCast, Int.toNat_natCast]
  rw [roundEven_of_lt_half (by rw [hf, sub_self]; norm_num), hf]

/-- Rounding to a nearest natural number, ties to even, is monotone. -/
theorem roundEven_mono {q q' : Rat} (h : q ≤ q') : roundEven q ≤ roundEven q' := by
  have hf : ⌊q⌋.toNat ≤ ⌊q'⌋.toNat := Int.toNat_le_toNat (Int.floor_mono h)
  rcases Nat.lt_or_eq_of_le hf with hlt | heq
  · calc roundEven q ≤ ⌊q⌋.toNat + 1 := roundEven_le_succ q
      _ ≤ ⌊q'⌋.toNat := hlt
      _ ≤ roundEven q' := floor_le_roundEven q'
  · -- one floor: the parts above it are in order, and so are the roundings
    have hr : q - ⌊q⌋.toNat ≤ q' - ⌊q'⌋.toNat := by rw [heq]; linarith
    rcases lt_trichotomy (q - ⌊q⌋.toNat) (1 / 2) with hlow | hhalf | hhigh
    · rw [roundEven_of_lt_half hlow, heq]
      exact floor_le_roundEven q'
    · rcases eq_or_lt_of_le (hhalf ▸ hr) with htie | hgt
      · have hqq : q = q' := by
          have hcast : ((⌊q⌋.toNat : Nat) : Rat) = ((⌊q'⌋.toNat : Nat) : Rat) := by rw [heq]
          linarith
        rw [hqq]
      · rw [roundEven_of_half_lt hgt, ← heq]
        exact roundEven_le_succ q
    · rw [roundEven_of_half_lt hhigh, roundEven_of_half_lt (hhigh.trans_le hr), heq]

theorem roundEven_le_of_le {q : Rat} {n : Nat} (h : q ≤ n) : roundEven q ≤ n :=
  roundEven_natCast n ▸ roundEven_mono h

theorem le_roundEven_of_le {q : Rat} {n : Nat} (h : (n : Rat) ≤ q) : n ≤ roundEven q :=
  roundEven_natCast n ▸ roundEven_mono h

/-! ## Rounding to a binary64 number -/

/-- The exponent of the last place of the binary64 numbers around `q > 0`: 52 places below its
leading bit, and never below the subnormal exponent. -/
def lastPlace (q : Rat) : Int := max (log2Floor q - 52) minExp

theorem toRat_pos (m : Nat) (e : Int) : (⟨false, m, e⟩ : Binary64).toRat = m * 2 ^ e := by
  simp [toRat]

/-- A positive rational within range rounds to its multiple of the last place nearest to it. -/
theorem nearest_eq {q : Rat} (hq : 0 < q) (hexp : lastPlace q < maxExp) :
    ∃ x, nearest false q = some x ∧ x.toRat = roundEven (q / 2 ^ lastPlace q) * 2 ^ lastPlace q := by
  have he : lastPlace q = max (log2Floor q - 52) minExp := rfl
  unfold nearest
  rw [if_neg (not_le.2 hq)]
  dsimp only
  rw [← he]
  by_cases hcarry : roundEven (q / 2 ^ lastPlace q) = Nat.pow 2 53
  · -- a carry into the next binade: the same value one place up
    rw [if_pos hcarry]
    dsimp only
    rw [if_neg (by decide), if_neg (by omega)]
    refine ⟨_, rfl, ?_⟩
    rw [toRat_pos, hcarry, zpow_add_one₀ two_ne_zero]
    push_cast
    ring
  · rw [if_neg hcarry]
    dsimp only
    split_ifs with hzero hover
    · refine ⟨_, rfl, ?_⟩
      rw [hzero, toRat_pos]
      simp
    · omega
    · exact ⟨_, rfl, toRat_pos _ _⟩

theorem nearest_neg {neg : Bool} {q : Rat} {x : Binary64} (h : nearest neg q = some x) : x.neg = neg := by
  unfold nearest at h
  split_ifs at h with hq
  · cases h
    rfl
  · dsimp only at h
    split at h <;> split_ifs at h <;> cases h <;> rfl

theorem lastPlace_mono {q q' : Rat} (hq : 0 < q) (h : q ≤ q') : lastPlace q ≤ lastPlace q' :=
  max_le_max (by have := log2Floor_mono hq h; omega) le_rfl

/-- Below `2 ^ 1023` the last place stays within the exponents of finite numbers. -/
theorem lastPlace_lt_maxExp {q : Rat} (hq : 0 < q) (h : q < 2 ^ (1023 : Nat)) : lastPlace q < maxExp := by
  have hL : log2Floor q < 1023 := by
    by_contra hge
    have h₁ : (2 : Rat) ^ ((1023 : Nat) : Int) ≤ 2 ^ log2Floor q := zpow_le_zpow_right₀ one_le_two (by omega)
    rw [zpow_natCast] at h₁
    exact lt_irrefl _ ((h₁.trans (log2Floor_spec hq).1).trans_lt h)
  simp only [lastPlace, maxExp, minExp]
  omega

/-- A positive rational is fewer than `2 ^ 53` of its last places. -/
theorem div_lastPlace_lt {q : Rat} (hq : 0 < q) : q / 2 ^ lastPlace q < 2 ^ (53 : Nat) := by
  have h2 : (0 : Rat) < 2 := two_pos
  rw [div_lt_iff₀ (zpow_pos h2 _), ← zpow_natCast, ← zpow_add₀ two_ne_zero]
  calc q < 2 ^ (log2Floor q + 1) := (log2Floor_spec hq).2
    _ ≤ 2 ^ (((53 : Nat) : Int) + lastPlace q) :=
        zpow_le_zpow_right₀ one_le_two (by simp only [lastPlace]; omega)

/-- A positive rational whose last place is 52 below its leading bit is at least `2 ^ 52` of them. -/
theorem le_div_lastPlace {q : Rat} (hq : 0 < q) (hnormal : lastPlace q = log2Floor q - 52) :
    (2 : Rat) ^ (52 : Nat) ≤ q / 2 ^ lastPlace q := by
  have h2 : (0 : Rat) < 2 := two_pos
  rw [le_div_iff₀ (zpow_pos h2 _), ← zpow_natCast, ← zpow_add₀ two_ne_zero, hnormal]
  calc (2 : Rat) ^ (((52 : Nat) : Int) + (log2Floor q - 52)) = 2 ^ log2Floor q := by
        congr 1
        push_cast
        ring
    _ ≤ q := (log2Floor_spec hq).1

end Binary64

namespace Scoring

open Binary64

theorem rounded_of_nonpos {q : Rat} (hq : q ≤ 0) : rounded q = 0 := by
  simp [rounded, nearest, hq, toRat]

theorem rounded_nonneg (q : Rat) : 0 ≤ rounded q := by
  unfold rounded
  split
  · rename_i x hx
    have hneg := nearest_neg hx
    obtain ⟨neg, m, e⟩ := x
    cases hneg
    rw [toRat_pos]
    positivity
  · rename_i hnone
    by_contra hlt
    rw [nearest, if_pos (le_of_lt (not_le.1 hlt))] at hnone
    cases hnone

theorem rounded_eq {q : Rat} (hq : 0 < q) (hexp : lastPlace q < maxExp) :
    rounded q = roundEven (q / 2 ^ lastPlace q) * 2 ^ lastPlace q := by
  obtain ⟨x, hx, hval⟩ := nearest_eq hq hexp
  simp only [rounded, hx, hval]

/-- Rounding to the nearest binary64 number is monotone below `2 ^ 1023`. -/
theorem rounded_mono {q q' : Rat} (h : q ≤ q') (hq' : q' < 2 ^ (1023 : Nat)) : rounded q ≤ rounded q' := by
  rcases le_or_gt q 0 with hq | hq
  · rw [rounded_of_nonpos hq]
    exact rounded_nonneg q'
  have hpos : 0 < q' := hq.trans_le h
  have hle := lastPlace_mono hq h
  have hexp' := lastPlace_lt_maxExp hpos hq'
  have h2 : (0 : Rat) < 2 := two_pos
  rw [rounded_eq hq (hle.trans_lt hexp'), rounded_eq hpos hexp']
  rcases hle.lt_or_eq with hlt | heq
  · -- `q'` lies in a higher binade: `q` rounds to at most `2 ^ 53` of its last places, `q'` to at
    -- least `2 ^ 52` of its own, each twice as large
    have hnormal : lastPlace q' = log2Floor q' - 52 := by
      have : minExp ≤ lastPlace q := le_max_right _ _
      simp only [lastPlace] at hlt ⊢
      omega
    have hlow : (roundEven (q / 2 ^ lastPlace q) : Rat) ≤ 2 ^ (53 : Nat) := by
      exact_mod_cast roundEven_le_of_le (by exact_mod_cast (div_lastPlace_lt hq).le)
    have hhigh : (2 : Rat) ^ (52 : Nat) ≤ roundEven (q' / 2 ^ lastPlace q') := by
      exact_mod_cast le_roundEven_of_le (by exact_mod_cast le_div_lastPlace hpos hnormal)
    calc (roundEven (q / 2 ^ lastPlace q) : Rat) * 2 ^ lastPlace q
        ≤ 2 ^ (53 : Nat) * 2 ^ lastPlace q := mul_le_mul_of_nonneg_right hlow (zpow_pos h2 _).le
      _ = 2 ^ (52 : Nat) * 2 ^ (lastPlace q + 1) := by rw [zpow_add_one₀ two_ne_zero]; ring
      _ ≤ 2 ^ (52 : Nat) * 2 ^ lastPlace q' :=
          mul_le_mul_of_nonneg_left (zpow_le_zpow_right₀ one_le_two hlt) (by positivity)
      _ ≤ roundEven (q' / 2 ^ lastPlace q') * 2 ^ lastPlace q' :=
          mul_le_mul_of_nonneg_right hhigh (zpow_pos h2 _).le
  · -- one binade: rounding the quotients by one last place is monotone
    rw [← heq]
    have hdiv : q / 2 ^ lastPlace q ≤ q' / 2 ^ lastPlace q := div_le_div_of_nonneg_right h (zpow_pos h2 _).le
    exact mul_le_mul_of_nonneg_right (by exact_mod_cast roundEven_mono hdiv) (zpow_pos h2 _).le

/-! ## Scores -/

theorem lt_two_pow_of_le_hundred {q : Rat} (h : q ≤ 100) : q < 2 ^ (1023 : Nat) :=
  calc q ≤ 100 := h
    _ < 2 ^ (7 : Nat) := by norm_num
    _ ≤ 2 ^ (1023 : Nat) := pow_le_pow_right₀ one_le_two (by norm_num)

theorem roundHalfUp_le {x : Rat} {n : Int} (h : x < n + 1 / 2) : roundHalfUp x ≤ n := by
  have hlt : ⌊x + 1 / 2⌋ < n + 1 := Int.floor_lt.2 (by push_cast; linarith)
  exact Int.lt_add_one_iff.1 hlt

theorem le_roundHalfUp {x : Rat} {n : Int} (h : n - 1 / 2 ≤ x) : n ≤ roundHalfUp x := by
  show n ≤ ⌊x + 1 / 2⌋
  rw [Int.le_floor]
  linarith

/-- The roundings of the constants the bounds meet, evaluated once. -/
theorem rounded_one : rounded 1 = 1 := by decide +kernel

theorem rounded_hundred : rounded 100 = 100 := by decide +kernel

theorem rounded_one_edit_in_199 : rounded (100 * rounded (1 - rounded (1 / 199))) < 199 / 2 := by
  decide +kernel

theorem rounded_one_edit_in_200 : 199 / 2 ≤ rounded (100 * rounded (1 - rounded (1 / 200))) := by
  decide +kernel

/-- What is left of one after a non-negative ratio rounds to at most one. -/
theorem rounded_one_sub_le {r : Rat} (hr : 0 ≤ r) : rounded (1 - r) ≤ 1 :=
  calc rounded (1 - r) ≤ rounded 1 := rounded_mono (by linarith) (lt_two_pow_of_le_hundred (by norm_num))
    _ = 1 := rounded_one

/-- A hundred times at most one rounds to at most a hundred. -/
theorem rounded_hundred_mul_le {x : Rat} (hx : x ≤ 1) : rounded (100 * x) ≤ 100 :=
  calc rounded (100 * x) ≤ rounded 100 := rounded_mono (by linarith) (lt_two_pow_of_le_hundred (by norm_num))
    _ = 100 := rounded_hundred

theorem scoreOf_eq (d n : Nat) :
    scoreOf d n = roundHalfUp (rounded (100 * rounded (1 - rounded ((d : Rat) / n)))) := rfl

/-- The three roundings of a score reverse the order of the ratios of edits to length. -/
theorem rounded_score_anti {r r' : Rat} (h : r ≤ r') (hr' : r' ≤ 1) :
    rounded (100 * rounded (1 - rounded r')) ≤ rounded (100 * rounded (1 - rounded r)) := by
  have hratio : rounded r ≤ rounded r' := rounded_mono h (lt_two_pow_of_le_hundred (by linarith))
  have hrest : rounded (1 - rounded r') ≤ rounded (1 - rounded r) :=
    rounded_mono (by linarith) (lt_two_pow_of_le_hundred (by linarith [rounded_nonneg r]))
  exact rounded_mono (by linarith)
    (lt_two_pow_of_le_hundred (by linarith [rounded_one_sub_le (rounded_nonneg r)]))

theorem scoreOf_nonneg (d n : Nat) : 0 ≤ scoreOf d n := by
  rw [scoreOf_eq]
  exact le_roundHalfUp (by linarith [rounded_nonneg (100 * rounded (1 - rounded ((d : Rat) / n)))])

/-- A score is at most 100. -/
theorem scoreOf_le (d n : Nat) : scoreOf d n ≤ 100 := by
  rw [scoreOf_eq]
  exact roundHalfUp_le (by linarith [rounded_hundred_mul_le (rounded_one_sub_le (rounded_nonneg ((d : Rat) / n)))])

/-- At least one edit against fewer than 200 characters scores below 100: the ratio is at least
`1 / 199`, whose score rounds below `99.5`. -/
theorem scoreOf_lt_of_short {d n : Nat} (hd : 1 ≤ d) (hdn : d ≤ n) (hn : n < 200) : scoreOf d n < 100 := by
  have hnpos : (0 : Rat) < n := by exact_mod_cast (show 0 < n by omega)
  have hq : (1 : Rat) / 199 ≤ d / n := by
    rw [div_le_div_iff₀ (by norm_num) hnpos]
    exact_mod_cast (show 1 * n ≤ d * 199 by omega)
  have hq1 : (d : Rat) / n ≤ 1 := (div_le_one hnpos).2 (by exact_mod_cast hdn)
  have hle : scoreOf d n ≤ 99 := by
    rw [scoreOf_eq]
    exact roundHalfUp_le (by linarith [rounded_score_anti hq hq1, rounded_one_edit_in_199])
  omega

/-- From 200 characters on, one edit scores 100: the ratio is at most `1 / 200`, whose score
rounds to `99.5` or above. -/
theorem scoreOf_one_of_long {n : Nat} (hn : 200 ≤ n) : scoreOf 1 n = 100 := by
  have hnpos : (0 : Rat) < n := by exact_mod_cast (show 0 < n by omega)
  have hq : ((1 : Nat) : Rat) / n ≤ 1 / 200 := by
    rw [div_le_div_iff₀ hnpos (by norm_num)]
    exact_mod_cast (show 1 * 200 ≤ 1 * n by omega)
  have hge : 100 ≤ scoreOf 1 n := by
    rw [scoreOf_eq]
    exact le_roundHalfUp (by linarith [rounded_score_anti hq (by norm_num), rounded_one_edit_in_200])
  exact le_antisymm (scoreOf_le 1 n) hge

/-! ## Edit distances -/

/-- No more edits are needed than the longer side has characters. -/
theorem editDist_le_max (xs ys : List Char) : editDist xs ys ≤ max xs.length ys.length := by
  fun_induction editDist xs ys with
  | case1 ys => simp
  | case2 x xs => simp
  | case3 x xs y ys ih₁ ih₂ ih₃ =>
    -- matching the first characters costs at most one edit more than the rests
    have hcost : (if x == y then 0 else 1) ≤ 1 := by split <;> omega
    have hmin := min_le_right (min (editDist xs (y :: ys) + 1) (editDist (x :: xs) ys + 1))
      (editDist xs ys + if x == y then 0 else 1)
    simp only [List.length_cons]
    omega

/-- Lists at distance zero are equal. -/
theorem eq_of_editDist_eq_zero (xs ys : List Char) (h : editDist xs ys = 0) : xs = ys := by
  fun_induction editDist xs ys with
  | case1 ys => simpa [eq_comm] using h
  | case2 x xs => simp at h
  | case3 x xs y ys ih₁ ih₂ ih₃ =>
    -- no deletion or insertion costs nothing, so the first characters match and so do the rests
    have hrest : editDist xs ys + (if x == y then 0 else 1) = 0 := by omega
    have hxy : x = y := by
      by_contra hne
      simp [hne] at hrest
    rw [hxy, ih₃ (by omega)]

theorem levenshtein_le (s t : String) : levenshtein s t ≤ max s.length t.length := by
  have h := editDist_le_max s.toList.reverse t.toList.reverse
  rw [levenshtein_eq_editDistRev, editDistRev]
  simpa only [List.length_reverse, String.length_toList] using h

theorem eq_of_levenshtein_eq_zero {s t : String} (h : levenshtein s t = 0) : s = t := by
  rw [levenshtein_eq_editDistRev, editDistRev] at h
  exact String.toList_injective (List.reverse_injective (eq_of_editDist_eq_zero _ _ h))

/-! ## Similarities -/

/-- Values of two normal forms score their distance against the longer. -/
theorem similarity_of_ne {featureType a b : String} (h : normalize featureType a ≠ normalize featureType b) :
    similarity featureType a b =
      scoreOf (levenshtein (normalize featureType a) (normalize featureType b))
        (max (normalize featureType a).length (normalize featureType b).length) := by
  have hlong : max (normalize featureType a).length (normalize featureType b).length ≠ 0 := by
    intro h0
    apply h
    have ha : (normalize featureType a).toList = [] :=
      List.eq_nil_of_length_eq_zero (by rw [String.length_toList]; omega)
    have hb : (normalize featureType b).toList = [] :=
      List.eq_nil_of_length_eq_zero (by rw [String.length_toList]; omega)
    exact String.toList_injective (ha.trans hb.symm)
  simp only [similarity, beq_iff_eq, h, if_false, hlong]

theorem similarity_of_eq {featureType a b : String} (h : normalize featureType a = normalize featureType b) :
    similarity featureType a b = 100 := by
  simp [similarity, h]

theorem similarity_nonneg (featureType a b : String) : 0 ≤ similarity featureType a b := by
  by_cases h : normalize featureType a = normalize featureType b
  · rw [similarity_of_eq h]
    omega
  · rw [similarity_of_ne h]
    exact scoreOf_nonneg _ _

theorem similarity_le (featureType a b : String) : similarity featureType a b ≤ 100 := by
  by_cases h : normalize featureType a = normalize featureType b
  · rw [similarity_of_eq h]
  · rw [similarity_of_ne h]
    exact scoreOf_le _ _

/-- Below 200 characters, a similarity of 100 means one normal form. -/
theorem eq_of_similarity_eq_hundred {featureType a b : String}
    (hshort : max (normalize featureType a).length (normalize featureType b).length < 200)
    (h : similarity featureType a b = 100) : normalize featureType a = normalize featureType b := by
  by_contra hne
  rw [similarity_of_ne hne] at h
  have hd : 1 ≤ levenshtein (normalize featureType a) (normalize featureType b) :=
    Nat.one_le_iff_ne_zero.2 fun h0 => hne (eq_of_levenshtein_eq_zero h0)
  have hlt := scoreOf_lt_of_short hd (levenshtein_le _ _) hshort
  omega

/-- **What a similarity says.** A similarity does not depend on the order of the two values and
lies between 0 and 100. It is 100 for values of one normal form, and when the longer normal form
has fewer than 200 characters, only for them. -/
theorem similarity_bounds (featureType a b : String) :
    similarity featureType a b = similarity featureType b a ∧
      0 ≤ similarity featureType a b ∧ similarity featureType a b ≤ 100 ∧
      (normalize featureType a = normalize featureType b → similarity featureType a b = 100) ∧
      (max (normalize featureType a).length (normalize featureType b).length < 200 →
        similarity featureType a b = 100 → normalize featureType a = normalize featureType b) :=
  ⟨similarity_comm featureType a b, similarity_nonneg featureType a b, similarity_le featureType a b,
    similarity_of_eq, eq_of_similarity_eq_hundred⟩

end Scoring
end EntityGateway

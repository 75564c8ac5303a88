import Appraisal.Proofs.Score.Levels
import Appraisal.Score.Weights
import Mathlib.Algebra.Order.BigOperators.Group.List
import Mathlib.Data.Real.Basic
import Mathlib.Order.Monotone.Defs

set_option autoImplicit false

namespace Appraisal.Score

/-- The reals, with `log` in the place of the logarithm of one more than a value. -/
def Reals (_log : ℝ → ℝ) : Type := ℝ

namespace Reals

variable {log : ℝ → ℝ}

noncomputable instance : Field (Reals log) := inferInstanceAs (Field ℝ)

noncomputable instance : LinearOrder (Reals log) := inferInstanceAs (LinearOrder ℝ)

instance : IsStrictOrderedRing (Reals log) := inferInstanceAs (IsStrictOrderedRing ℝ)

noncomputable instance : Arithmetic (Reals log) where
  ofNat n := n
  add x y := x + y
  sub x y := x - y
  mul x y := x * y
  div x y := x / y
  logOnePlus x := log x
  lt x y := decide (x < y)
  le x y := decide (x ≤ y)
  isFinite _ := true

end Reals

/-- As a logarithm of one more does, it is zero at zero and grows strictly from there. -/
structure GrowsFromZero (log : ℝ → ℝ) : Prop where
  zero : log 0 = 0
  strictMono : StrictMonoOn log (Set.Ici 0)

section Measures

variable {log : ℝ → ℝ} {x y cap : Reals log}

theorem zero_eq : (zero : Reals log) = 0 := Nat.cast_zero

theorem one_eq : (one : Reals log) = 1 := Nat.cast_one

theorem atMostOne_eq (x : Reals log) : atMostOne x = min x 1 := by
  have hdef : atMostOne x = if x < 1 then x else 1 := by
    rw [← one_eq]
    exact if_congr decide_eq_true_iff rfl rfl
  rw [hdef]
  split
  · next hlt => exact (min_eq_left hlt.le).symm
  · next hlt => exact (min_eq_right (not_lt.1 hlt)).symm

theorem clampUnit_eq (x : Reals log) : clampUnit x = max 0 (min x 1) := by
  have hdef : clampUnit x = if x < 0 then 0 else if 1 < x then 1 else x := by
    rw [← one_eq, ← zero_eq]
    exact if_congr decide_eq_true_iff rfl (if_congr decide_eq_true_iff rfl rfl)
  rw [hdef]
  split
  · next hneg => rw [max_eq_left (min_le_of_left_le hneg.le)]
  · next hneg =>
    have hnonneg : 0 ≤ x := not_lt.1 hneg
    split
    · next hone => rw [min_eq_right hone.le, max_eq_right zero_le_one]
    · next hone => rw [min_eq_left (not_lt.1 hone), max_eq_right hnonneg]

theorem clampUnit_mem (x : Reals log) : clampUnit x ∈ Set.Icc 0 1 := by
  rw [clampUnit_eq]
  exact ⟨le_max_left _ _, max_le zero_le_one (min_le_right _ _)⟩

theorem clampUnit_mono (h : x ≤ y) : clampUnit x ≤ clampUnit y := by
  rw [clampUnit_eq, clampUnit_eq]
  exact max_le_max_left 0 (min_le_min_right 1 h)

theorem logSaturating_eq (x cap : Reals log) : logSaturating x cap =
    if x ≤ 0 ∨ cap ≤ 0 then 0
    else min (Arithmetic.logOnePlus x / Arithmetic.logOnePlus cap) 1 := by
  rw [← atMostOne_eq, ← zero_eq]
  refine if_congr ?_ rfl rfl
  exact Bool.or_eq_true_iff.trans (or_congr decide_eq_true_iff decide_eq_true_iff)

theorem logOnePlus_mono (hlog : GrowsFromZero log) (hx : 0 ≤ x) (h : x ≤ y) :
    Arithmetic.logOnePlus x ≤ Arithmetic.logOnePlus y :=
  hlog.strictMono.monotoneOn hx (hx.trans h) h

theorem logOnePlus_nonneg (hlog : GrowsFromZero log) (hx : 0 ≤ x) :
    0 ≤ Arithmetic.logOnePlus x :=
  le_of_eq_of_le hlog.zero.symm (logOnePlus_mono hlog le_rfl hx)

theorem logSaturating_mem (hlog : GrowsFromZero log) (x cap : Reals log) :
    logSaturating x cap ∈ Set.Icc 0 1 := by
  rw [logSaturating_eq]
  split
  · exact ⟨le_rfl, zero_le_one⟩
  · next hpos =>
    obtain ⟨hx, hcap⟩ := not_or.1 hpos
    have hquotient := div_nonneg (logOnePlus_nonneg hlog (not_le.1 hx).le)
      (logOnePlus_nonneg hlog (not_le.1 hcap).le)
    exact ⟨le_min hquotient zero_le_one, min_le_right _ _⟩

theorem logSaturating_mono (hlog : GrowsFromZero log) (h : x ≤ y) :
    logSaturating x cap ≤ logSaturating y cap := by
  by_cases hx : x ≤ 0 ∨ cap ≤ 0
  · rw [logSaturating_eq x, if_pos hx]
    exact (logSaturating_mem hlog y cap).1
  · obtain ⟨hx', hcap⟩ := not_or.1 hx
    have hpos : 0 < x := not_le.1 hx'
    have hy : ¬ (y ≤ 0 ∨ cap ≤ 0) := not_or.2 ⟨not_le.2 (hpos.trans_le h), hcap⟩
    rw [logSaturating_eq x, logSaturating_eq y, if_neg hx, if_neg hy]
    exact min_le_min_right 1 (div_le_div_of_nonneg_right (logOnePlus_mono hlog hpos.le h)
      (logOnePlus_nonneg hlog (not_le.1 hcap).le))

theorem linearRamp_eq (x cap : Reals log) :
    linearRamp x cap = if cap ≤ 0 then 0 else clampUnit (x / cap) := by
  rw [← zero_eq]
  exact if_congr decide_eq_true_iff rfl rfl

theorem linearRamp_mem (x cap : Reals log) : linearRamp x cap ∈ Set.Icc 0 1 := by
  rw [linearRamp_eq]
  split
  · exact ⟨le_rfl, zero_le_one⟩
  · exact clampUnit_mem _

theorem linearRamp_mono (h : x ≤ y) : linearRamp x cap ≤ linearRamp y cap := by
  rw [linearRamp_eq, linearRamp_eq]
  split
  · exact le_rfl
  · next hcap => exact clampUnit_mono (div_le_div_of_nonneg_right h (not_le.1 hcap).le)

theorem linearDecay_eq (x window : Reals log) :
    linearDecay x window = if window ≤ 0 then 0 else clampUnit (1 - x / window) := by
  rw [← zero_eq, ← one_eq]
  exact if_congr decide_eq_true_iff rfl rfl

theorem linearDecay_mem (x window : Reals log) : linearDecay x window ∈ Set.Icc 0 1 := by
  rw [linearDecay_eq]
  split
  · exact ⟨le_rfl, zero_le_one⟩
  · exact clampUnit_mem _

theorem linearDecay_anti {window : Reals log} (h : x ≤ y) :
    linearDecay y window ≤ linearDecay x window := by
  rw [linearDecay_eq, linearDecay_eq]
  split
  · exact le_rfl
  · next hwindow =>
    exact clampUnit_mono
      (sub_le_sub_left (div_le_div_of_nonneg_right h (not_le.1 hwindow).le) 1)

theorem ofNat_mono {a b : Nat} (h : a ≤ b) :
    (Arithmetic.ofNat a : Reals log) ≤ Arithmetic.ofNat b :=
  Nat.cast_le.2 h

theorem sumOf_eq (l : List (Reals log)) : sumOf l = l.sum := by
  cases l with
  | nil => exact zero_eq
  | cons x rest =>
    change rest.foldl (· + ·) x = (x :: rest).sum
    rw [List.sum_eq_foldl, List.foldl_cons, zero_add]

end Measures

section Levels

variable {log : ℝ → ℝ} {ts : List (Threshold (Reals log))} {x y : Reals log}

theorem levelIndex_mono (h : x ≤ y) : levelIndex ts x ≤ levelIndex ts y :=
  levelIndex_le fun _ _ hlt => decide_eq_true (h.trans_lt (of_decide_eq_true hlt))

end Levels

end Appraisal.Score

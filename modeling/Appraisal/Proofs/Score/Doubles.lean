import Mathlib.Algebra.Order.Ring.Int
import Mathlib.Data.Prod.Lex
import Mathlib.Order.Compare

set_option autoImplicit false

namespace Appraisal.Doubles

open Float.Model (UnpackedFloat)
open Float.Model.UnpackedFloat

/-- The place of a number: by sign and kind, then by the exponent, then by the mantissa. -/
def place : UnpackedFloat → ℤ ×ₗ ℤ ×ₗ ℤ
  | .infinity .negative => toLex (-2, toLex (0, 0))
  | .finite .negative mantissa exponent _ => toLex (-1, toLex (-exponent, -mantissa))
  | .zero _ | .notANumber => toLex (0, toLex (0, 0))
  | .finite .positive mantissa exponent _ => toLex (1, toLex (exponent, mantissa))
  | .infinity .positive => toLex (2, toLex (0, 0))

theorem compare_toLex (k l e f m n : ℤ) :
    compare (toLex (k, toLex (e, m))) (toLex (l, toLex (f, n))) =
      (compare k l).then ((compare e f).then (compare m n)) := by
  simp only [Prod.Lex.compare_def, compareLex, compareOn, ofLex_toLex]

theorem compare_cast (m n : ℕ) : compare (m : ℤ) n = compare m n := by
  rw [← cmp_eq_compare, ← cmp_eq_compare]
  exact Nat.strictMono_cast.cmp_map_eq m n

theorem compare_neg (e f : ℤ) : compare (-e) (-f) = (compare e f).swap := by
  have hanti : StrictAnti (fun e : ℤ => -e) := fun _ _ h => Int.neg_lt_neg h
  rw [← cmp_eq_compare, ← cmp_eq_compare, cmp_swap]
  exact hanti.cmp_map_eq e f

section Finite

variable {m n : ℕ} {e f : ℤ} (hm : 0 < m) (hn : 0 < n)

theorem compare_positive : (finite .positive m e hm).compare (finite .positive n f hn) =
    some (compare (place (finite .positive m e hm)) (place (finite .positive n f hn))) := by
  refine congrArg some (Eq.trans ?_ (compare_toLex 1 1 e f m n).symm)
  rw [compare_cast]
  rfl

theorem compare_negative : (finite .negative m e hm).compare (finite .negative n f hn) =
    some (compare (place (finite .negative m e hm)) (place (finite .negative n f hn))) := by
  refine congrArg some (Eq.trans ?_ (compare_toLex (-1) (-1) (-e) (-f) (-m) (-n)).symm)
  rw [compare_neg e f, compare_neg m n, compare_cast, Ordering.swap_then]
  rfl

end Finite

theorem compare_eq (a b : UnpackedFloat) : a.compare b =
    if a.isNaN || b.isNaN then none else some (compare (place a) (place b)) := by
  rcases a with ⟨_ | _⟩ | _ | ⟨_ | _⟩ | ⟨_ | _, m, e, hm⟩ <;>
    rcases b with ⟨_ | _⟩ | _ | ⟨_ | _⟩ | ⟨_ | _, n, f, hn⟩
  case finite.positive.finite.positive => exact compare_positive hm hn
  case finite.negative.finite.negative => exact compare_negative hm hn
  -- elsewhere the sign and the kind decide
  all_goals rfl

theorem compare_eq_some_iff {a b : UnpackedFloat} {o : Ordering} : a.compare b = some o ↔
    a.isNaN = false ∧ b.isNaN = false ∧ compare (place a) (place b) = o := by
  rw [compare_eq]
  cases a.isNaN <;> cases b.isNaN <;> simp

section Order

def position (x : Float) : ℤ ×ₗ ℤ ×ₗ ℤ := place x.toModel.unpack

variable {x y z : Float}

theorem lt_iff : x < y ↔ x.isNaN = false ∧ y.isNaN = false ∧ position x < position y := by
  have hlt : x < y ↔ x.toModel.unpack.compare y.toModel.unpack = some .lt := by
    change decide (x.toModel.lt y.toModel = true) = true ↔ _
    rw [decide_eq_true_iff]
    exact beq_iff_eq
  rw [hlt, compare_eq_some_iff, compare_lt_iff_lt]
  rfl

theorem le_iff : x ≤ y ↔ x.isNaN = false ∧ y.isNaN = false ∧ position x ≤ position y := by
  have hle : x ≤ y ↔ ∃ o, x.toModel.unpack.compare y.toModel.unpack = some o ∧ o.isLE := by
    change decide (x.toModel.le y.toModel = true) = true ↔ _
    rw [decide_eq_true_iff]
    exact Option.any_eq_true _ _
  rw [hle]
  simp only [compare_eq_some_iff, exists_eq_left', and_assoc, exists_and_left,
    Ordering.isLE_iff_ne_gt, compare_le_iff_le]
  rfl

theorem lt_trans (hxy : x < y) (hyz : y < z) : x < z := by
  obtain ⟨hx, -, hxy⟩ := lt_iff.1 hxy
  obtain ⟨-, hz, hyz⟩ := lt_iff.1 hyz
  exact lt_iff.2 ⟨hx, hz, hxy.trans hyz⟩

theorem le_trans (hxy : x ≤ y) (hyz : y ≤ z) : x ≤ z := by
  obtain ⟨hx, -, hxy⟩ := le_iff.1 hxy
  obtain ⟨-, hz, hyz⟩ := le_iff.1 hyz
  exact le_iff.2 ⟨hx, hz, hxy.trans hyz⟩

theorem le_of_lt (h : x < y) : x ≤ y := by
  obtain ⟨hx, hy, h⟩ := lt_iff.1 h
  exact le_iff.2 ⟨hx, hy, h.le⟩

theorem lt_of_le_of_lt (hxy : x ≤ y) (hyz : y < z) : x < z := by
  obtain ⟨hx, -, hxy⟩ := le_iff.1 hxy
  obtain ⟨-, hz, hyz⟩ := lt_iff.1 hyz
  exact lt_iff.2 ⟨hx, hz, hxy.trans_lt hyz⟩

theorem lt_of_lt_of_le (hxy : x < y) (hyz : y ≤ z) : x < z := by
  obtain ⟨hx, -, hxy⟩ := lt_iff.1 hxy
  obtain ⟨-, hz, hyz⟩ := le_iff.1 hyz
  exact lt_iff.2 ⟨hx, hz, hxy.trans_le hyz⟩

theorem not_lt_iff (hx : x.isNaN = false) (hy : y.isNaN = false) : ¬ x < y ↔ y ≤ x := by
  simp only [lt_iff, le_iff, hx, hy, true_and, not_lt]

theorem not_le_iff (hx : x.isNaN = false) (hy : y.isNaN = false) : ¬ x ≤ y ↔ y < x := by
  simp only [lt_iff, le_iff, hx, hy, true_and, not_le]

theorem isNaN_of_isFinite (h : x.isFinite = true) : x.isNaN = false := by
  change x.toModel.unpack.isFinite = true at h
  change x.toModel.unpack.isNaN = false
  cases hx : x.toModel.unpack with
  | notANumber =>
    rw [hx] at h
    cases h
  | infinity s => rfl
  | zero s => rfl
  | finite s m e hm => rfl

end Order

theorem isNaN_unpack {spec : Float.Model.Format} (b : BitVec spec.numBits) :
    (unpack spec b).isNaN = decide (unpackExponent b = -1#_ ∧ unpackMantissa b ≠ 0#_) := by
  unfold unpack
  dsimp only
  by_cases hexponent : unpackExponent b = -1#_
  · rw [if_pos hexponent]
    by_cases hmantissa : unpackMantissa b = 0#_
    · rw [if_pos hmantissa]
      exact (decide_eq_false fun h => h.2 hmantissa).symm
    · rw [if_neg hmantissa]
      exact (decide_eq_true ⟨hexponent, hmantissa⟩).symm
  · -- the other exponents are those of zeros and finite numbers
    rw [if_neg hexponent, decide_eq_false fun h => hexponent h.1]
    by_cases hzero : unpackExponent b = 0#_
    · rw [if_pos hzero]
      by_cases hmantissa : unpackMantissa b = 0#_
      · rw [dif_pos hmantissa]
        rfl
      · rw [dif_neg hmantissa]
        rfl
    · rw [if_neg hzero]
      rfl

theorem isNaN_unpack_packComponents (s : Sign) (e : BitVec 11) (m : BitVec 52) :
    (unpack .binary64 (packComponents .binary64 s e m)).isNaN = decide (e = -1#11 ∧ m ≠ 0#52) := by
  rw [isNaN_unpack]
  simp only [unpackExponent_packComponents, unpackMantissa_packComponents]

theorem isNaN_pack (u : UnpackedFloat) : (unpack .binary64 (pack .binary64 u)).isNaN = u.isNaN := by
  fun_cases pack with
  | case1 => exact isNaN_unpack_packComponents _ _ _
  | case2 | case4 =>
    exact (isNaN_unpack_packComponents _ _ _).trans (decide_eq_false fun h => h.2 rfl)
  | case3 | case6 =>
    exact (isNaN_unpack_packComponents _ _ _).trans (decide_eq_false fun h => by simp at h)
  | case5 s m e hm bits biased hfits =>
    -- an exponent of ones only is that of the infinities, which a finite number stays below
    have hexponent : BitVec.ofNat 11 biased ≠ -1#11 := by
      intro h
      have hvalue := congrArg BitVec.toNat h
      have hones : (-1#11).toNat = 2 ^ 11 - 1 := by decide
      rw [BitVec.toNat_ofNat, hones] at hvalue
      have hfits : ¬ 2 ^ 11 ≤ biased + 1 := hfits
      omega
    exact (isNaN_unpack_packComponents _ _ _).trans (decide_eq_false fun h => hexponent h.1)

theorem isNaN_round (spec : Float.Model.Format) (s : Sign) (m : ℕ) (e : ℤ) :
    (UnpackedFloat.round spec s m e).isNaN = false := by
  unfold UnpackedFloat.round UnpackedFloat.roundWithAccuracy
  -- what is rounded is zero or finite
  exact (apply_dite UnpackedFloat.isNaN _ _ _).trans (ite_self false)

theorem isNaN_normalize (spec : Float.Model.Format) (m e : ℤ) (s : Sign) :
    (UnpackedFloat.normalize spec m e s).isNaN = false := by
  unfold UnpackedFloat.normalize
  split
  · exact isNaN_round _ _ _ _
  · rfl
  · exact isNaN_round _ _ _ _

section Sums

variable {a b : UnpackedFloat} {x y : Float}

theorem isNaN_unpacked_add (spec : Float.Model.Format) (h : a.isFinite = true ∨ b.isFinite = true) :
    (UnpackedFloat.add spec a b).isNaN = (a.isNaN || b.isNaN) := by
  rcases a with s | _ | s | ⟨s, m, e, hm⟩ <;> rcases b with r | _ | r | ⟨r, n, f, hn⟩
  case finite.finite => exact isNaN_normalize _ _ _ _
  case zero.zero => cases s <;> cases r <;> rfl
  case infinity.infinity => rcases h with h | h <;> cases h
  all_goals rfl

theorem isNaN_unpacked_sub (spec : Float.Model.Format) (h : a.isFinite = true ∨ b.isFinite = true) :
    (UnpackedFloat.sub spec a b).isNaN = (a.isNaN || b.isNaN) := by
  rcases a with s | _ | s | ⟨s, m, e, hm⟩ <;> rcases b with r | _ | r | ⟨r, n, f, hn⟩
  case finite.finite => exact isNaN_normalize _ _ _ _
  case zero.zero => cases s <;> cases r <;> rfl
  case infinity.infinity => rcases h with h | h <;> cases h
  all_goals rfl

theorem isNaN_add (h : x.isFinite = true ∨ y.isFinite = true) :
    (x + y).isNaN = (x.isNaN || y.isNaN) :=
  (isNaN_pack _).trans (isNaN_unpacked_add _ h)

theorem isNaN_sub (h : x.isFinite = true ∨ y.isFinite = true) :
    (x - y).isNaN = (x.isNaN || y.isNaN) :=
  (isNaN_pack _).trans (isNaN_unpacked_sub _ h)

end Sums

end Appraisal.Doubles

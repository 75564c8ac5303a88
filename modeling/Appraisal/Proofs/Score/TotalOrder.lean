import Appraisal.Decimal.Notation
import Appraisal.Index.Basic
import Appraisal.Proofs.Score.Doubles

set_option autoImplicit false

namespace Appraisal.Doubles

open Float.Model (UnpackedFloat)
open Float.Model.UnpackedFloat

def magnitude (x : Float) : ℕ := x.toBits.toNat % 2 ^ 63

def infiniteMagnitude : ℕ := 2047 * 2 ^ 52

def placeOf (m : ℕ) : ℤ ×ₗ ℤ ×ₗ ℤ :=
  if m = 0 then toLex (0, toLex (0, 0))
  else if m / 2 ^ 52 = 0 then toLex (1, toLex (-1074, (m : ℤ)))
  else if m / 2 ^ 52 < 2047 then
    toLex (1, toLex (((m / 2 ^ 52 : ℕ) : ℤ) - 1075, ((2 ^ 52 + m % 2 ^ 52 : ℕ) : ℤ)))
  else toLex (2, toLex (0, 0))

def mirror (p : ℤ ×ₗ ℤ ×ₗ ℤ) : ℤ ×ₗ ℤ ×ₗ ℤ :=
  toLex (-(ofLex p).1, toLex (-(ofLex (ofLex p).2).1, -(ofLex (ofLex p).2).2))

theorem toLex_lt_iff {k l e f m n : ℤ} :
    (toLex (k, toLex (e, m)) : ℤ ×ₗ ℤ ×ₗ ℤ) < toLex (l, toLex (f, n)) ↔
      k < l ∨ k = l ∧ (e < f ∨ e = f ∧ m < n) := by
  simp only [Prod.Lex.toLex_lt_toLex]

theorem placeOf_lt {m n : ℕ} (h : m < n) (hn : n ≤ infiniteMagnitude) : placeOf m < placeOf n := by
  unfold infiniteMagnitude at hn
  unfold placeOf
  split_ifs <;> rw [toLex_lt_iff] <;> omega

theorem mirror_lt {p q : ℤ ×ₗ ℤ ×ₗ ℤ} (h : p < q) : mirror q < mirror p := by
  obtain ⟨k, e, m⟩ := p
  obtain ⟨l, f, n⟩ := q
  have h : k < l ∨ k = l ∧ (e < f ∨ e = f ∧ m < n) := toLex_lt_iff.1 h
  have hmirror : -l < -k ∨ -l = -k ∧ (-f < -e ∨ -f = -e ∧ -n < -m) := by omega
  exact toLex_lt_iff.2 hmirror

theorem mirror_placeOf_zero : mirror (placeOf 0) = placeOf 0 := rfl

/-- The magnitude, counted downwards from zero behind a sign. -/
def signedMagnitude (x : Float) : ℤ :=
  if x.toBits.toNat < 2 ^ 63 then magnitude x else -magnitude x

def signedPlace (k : ℤ) : ℤ ×ₗ ℤ ×ₗ ℤ :=
  if k < 0 then mirror (placeOf k.natAbs) else placeOf k.natAbs

section SignedPlaces

variable {k l : ℤ} (hk : k.natAbs ≤ infiniteMagnitude) (hl : l.natAbs ≤ infiniteMagnitude)

include hk hl

theorem signedPlace_lt (hlt : k < l) : signedPlace k < signedPlace l := by
  have hup {m n : ℕ} (h : m < n) (hn : n ≤ infiniteMagnitude) : placeOf m < placeOf n :=
    placeOf_lt h hn
  unfold signedPlace
  split
  · next hneg =>
    have hbelow : mirror (placeOf k.natAbs) < placeOf 0 := by
      rw [← mirror_placeOf_zero]
      exact mirror_lt (hup (by omega) hk)
    split
    · exact mirror_lt (hup (by omega) hk)
    · rcases Nat.eq_zero_or_pos l.natAbs with hzero | hpos
      · rwa [hzero]
      · exact hbelow.trans (hup hpos hl)
  · rw [if_neg (by omega)]
    exact hup (by omega) hl

theorem signedPlace_lt_iff : signedPlace k < signedPlace l ↔ k < l := by
  refine ⟨fun h => ?_, signedPlace_lt hk hl⟩
  rcases lt_trichotomy k l with hlt | rfl | hgt
  · exact hlt
  · exact absurd h (lt_irrefl _)
  · exact absurd h (signedPlace_lt hl hk hgt).not_gt

theorem signedPlace_le_iff : signedPlace k ≤ signedPlace l ↔ k ≤ l := by
  rw [← not_lt, signedPlace_lt_iff hl hk, not_lt]

end SignedPlaces

section Bits

variable {b : BitVec 64}

theorem toNat_unpackExponent :
    (@unpackExponent .binary64 b).toNat = b.toNat / 2 ^ 52 % 2 ^ 11 := by
  simp [unpackExponent, Nat.shiftRight_eq_div_pow]

theorem toNat_unpackMantissa :
    (@unpackMantissa .binary64 b).toNat = b.toNat % 2 ^ 52 := by
  simp [unpackMantissa]

theorem toNat_unpackSign :
    (@unpackSign .binary64 b).toNat = b.toNat / 2 ^ 63 % 2 := by
  unfold unpackSign
  simp [Nat.shiftRight_eq_div_pow]

theorem unpackExponent_eq_ones_iff :
    @unpackExponent .binary64 b = -1#11 ↔ b.toNat % 2 ^ 63 / 2 ^ 52 = 2047 := by
  have hones : (-1#11).toNat = 2047 := by decide
  rw [← BitVec.toNat_inj, toNat_unpackExponent, hones]
  omega

theorem unpackExponent_eq_zero_iff :
    @unpackExponent .binary64 b = 0#11 ↔ b.toNat % 2 ^ 63 / 2 ^ 52 = 0 := by
  have hzero : (0#11).toNat = 0 := by decide
  rw [← BitVec.toNat_inj, toNat_unpackExponent, hzero]
  omega

theorem unpackMantissa_eq_zero_iff :
    @unpackMantissa .binary64 b = 0#52 ↔ b.toNat % 2 ^ 63 % 2 ^ 52 = 0 := by
  have hzero : (0#52).toNat = 0 := by decide
  rw [← BitVec.toNat_inj, toNat_unpackMantissa, hzero]
  omega

theorem toNat_implicit :
    (1#1 ++ @unpackMantissa .binary64 b).toNat = 2 ^ 52 + b.toNat % 2 ^ 63 % 2 ^ 52 := by
  have hlt : b.toNat % 2 ^ 52 < 2 ^ 52 := Nat.mod_lt _ (by decide)
  have hone : (1#1).toNat <<< 52 = 2 ^ 52 * 1 := by decide
  have happend := BitVec.toNat_append 1#1 (@unpackMantissa .binary64 b)
  rw [toNat_unpackMantissa] at happend
  refine happend.trans ?_
  rw [hone, ← Nat.two_pow_add_eq_or_of_lt hlt]
  omega

theorem ofBitVec_unpackSign : Sign.ofBitVec (@unpackSign .binary64 b) =
    if b.toNat < 2 ^ 63 then .positive else .negative := by
  have hzero : (0#1).toNat = 0 := by decide
  have hlt := b.isLt
  rw [Sign.ofBitVec]
  refine if_congr ?_ rfl rfl
  rw [← BitVec.toNat_inj, toNat_unpackSign, hzero]
  omega

theorem place_finite {m n : ℕ} {e f : ℤ} (hm : 0 < m) (hmn : m = n) (hef : e = f) :
    place (.finite .positive m e hm) = toLex (1, toLex (f, (n : ℤ))) ∧
      place (.finite .negative m e hm) = mirror (toLex (1, toLex (f, (n : ℤ)))) := by
  subst hmn hef
  exact ⟨rfl, rfl⟩

theorem exists_unpack (h : (unpack .binary64 b).isNaN = false) : ∃ u : Sign → UnpackedFloat,
    unpack .binary64 b = u (Sign.ofBitVec (@unpackSign .binary64 b)) ∧
      place (u .positive) = placeOf (b.toNat % 2 ^ 63) ∧
      place (u .negative) = mirror (placeOf (b.toNat % 2 ^ 63)) := by
  have hsplit := Nat.div_add_mod (b.toNat % 2 ^ 63) (2 ^ 52)
  have hbias : ((Float.Model.Format.binary64.exponentBias : ℕ) : ℤ) +
      (Float.Model.Format.binary64.mantissaBitsWithoutImplicit : ℕ) = 1075 := by decide
  rw [isNaN_unpack, decide_eq_false_iff_not] at h
  unfold unpack
  dsimp only
  rw [hbias]
  by_cases hones : @unpackExponent .binary64 b = -1#_
  · rw [if_pos hones]
    by_cases hmantissa : @unpackMantissa .binary64 b = 0#_
    · -- infinity
      rw [if_pos hmantissa]
      have hexponent := unpackExponent_eq_ones_iff.1 hones
      have hplace : placeOf (b.toNat % 2 ^ 63) = toLex (2, toLex (0, 0)) := by
        unfold placeOf
        rw [if_neg (by omega), if_neg (by omega), if_neg (by omega)]
      exact ⟨.infinity, rfl, hplace ▸ rfl, hplace ▸ rfl⟩
    · exact absurd ⟨hones, hmantissa⟩ h
  · rw [if_neg hones]
    have hones := mt unpackExponent_eq_ones_iff.2 hones
    have hexponent := toNat_unpackExponent (b := b)
    by_cases hzero : @unpackExponent .binary64 b = 0#_
    · rw [if_pos hzero]
      have hzero := unpackExponent_eq_zero_iff.1 hzero
      by_cases hmantissa : @unpackMantissa .binary64 b = 0#_
      · -- zero
        rw [dif_pos hmantissa]
        have hmantissa := unpackMantissa_eq_zero_iff.1 hmantissa
        have hplace : placeOf (b.toNat % 2 ^ 63) = toLex (0, toLex (0, 0)) := if_pos (by omega)
        exact ⟨.zero, rfl, hplace ▸ rfl, hplace ▸ rfl⟩
      · -- the smallest numbers, whose mantissas have no implicit bit
        rw [dif_neg hmantissa]
        have hmantissa := mt unpackMantissa_eq_zero_iff.2 hmantissa
        have hplace : placeOf (b.toNat % 2 ^ 63) =
            toLex (1, toLex (-1074, ((b.toNat % 2 ^ 63 : ℕ) : ℤ))) := by
          unfold placeOf
          rw [if_neg (by omega), if_pos hzero]
        rw [hplace]
        refine ⟨fun s => .finite s _ _ _, rfl, place_finite _ ?_ ?_⟩
        · rw [toNat_unpackMantissa]
          omega
        · omega
    · rw [if_neg hzero]
      have hzero := mt unpackExponent_eq_zero_iff.2 hzero
      have hlt := b.isLt
      have hplace : placeOf (b.toNat % 2 ^ 63) =
          toLex (1, toLex (((b.toNat % 2 ^ 63 / 2 ^ 52 : ℕ) : ℤ) - 1075,
            ((2 ^ 52 + b.toNat % 2 ^ 63 % 2 ^ 52 : ℕ) : ℤ))) := by
        unfold placeOf
        rw [if_neg (by omega), if_neg hzero, if_pos (by omega)]
      rw [hplace]
      refine ⟨fun s => .finite s _ _ _, rfl, place_finite _ toNat_implicit ?_⟩
      omega

theorem place_unpack (h : (unpack .binary64 b).isNaN = false) : place (unpack .binary64 b) =
    if b.toNat < 2 ^ 63 then placeOf (b.toNat % 2 ^ 63)
    else mirror (placeOf (b.toNat % 2 ^ 63)) := by
  obtain ⟨u, hu, hpositive, hnegative⟩ := exists_unpack h
  rw [hu, ofBitVec_unpackSign]
  split
  · exact hpositive
  · exact hnegative

end Bits

/-- As the standard has it: numbers as they compare, negative zero before zero, and last what is no
number, of which there is one, without a sign. -/
def TotalLe (x y : Float) : Prop :=
  y.isNaN = true ∨ x < y ∨
    (x ≤ y ∧ y ≤ x) ∧ (Decimal.isNegative x = true ∨ ¬ Decimal.isNegative y = true)

section Numbers

variable {x y : Float}

theorem isNegative_iff : Decimal.isNegative x = true ↔ 2 ^ 63 ≤ x.toBits.toNat := by
  have hlt := x.toBits.toNat_lt
  have hone : (1 : UInt64).toNat = 1 := rfl
  have hshift : (63 : UInt64).toNat % 64 = 63 := rfl
  unfold Decimal.isNegative
  rw [beq_iff_eq, ← UInt64.toNat_inj, UInt64.toNat_shiftRight, hone, hshift,
    Nat.shiftRight_eq_div_pow]
  omega

theorem position_eq (h : x.isNaN = false) : position x = signedPlace (signedMagnitude x) := by
  have hplace : position x = if x.toBits.toNat < 2 ^ 63 then placeOf (magnitude x)
      else mirror (placeOf (magnitude x)) := place_unpack h
  rw [hplace, signedMagnitude, signedPlace]
  split
  · rw [if_neg (by omega), Int.natAbs_natCast]
  · rcases Nat.eq_zero_or_pos (magnitude x) with hzero | hpos
    · rw [hzero]
      rfl
    · rw [if_pos (by omega), Int.natAbs_neg, Int.natAbs_natCast]

theorem isNaN_eq (x : Float) : x.isNaN = decide (@unpackExponent .binary64 x.toBits.toBitVec = -1#_ ∧
    @unpackMantissa .binary64 x.toBits.toBitVec ≠ 0#_) :=
  @isNaN_unpack .binary64 x.toBits.toBitVec

theorem magnitude_le (h : x.isNaN = false) : magnitude x ≤ infiniteMagnitude := by
  have hones := (@unpackExponent_eq_ones_iff x.toBits.toBitVec).not
  have hmantissa := (@unpackMantissa_eq_zero_iff x.toBits.toBitVec)
  have hlt : magnitude x < 2 ^ 63 := Nat.mod_lt _ (by decide)
  have hmagnitude : x.toBits.toBitVec.toNat % 2 ^ 63 = magnitude x := rfl
  rw [hmagnitude] at hones hmantissa
  rw [isNaN_eq, decide_eq_false_iff_not, Classical.not_and_iff_not_or_not, Ne, not_not] at h
  unfold infiniteMagnitude
  rcases h with h | h
  · have hones := hones.1 h
    omega
  · have hmantissa := hmantissa.1 h
    omega

/-- There is one double that is no number. -/
theorem bits_of_isNaN (h : x.isNaN = true) : x.toBits.toNat = infiniteMagnitude + 2 ^ 51 := by
  rw [isNaN_eq, decide_eq_true_iff] at h
  have hbits := x.toModel.valid.eq_packedNaN h.1 h.2
  change x.toModel.toBits.toBitVec.toNat = _
  rw [hbits]
  decide

theorem natAbs_signedMagnitude : (signedMagnitude x).natAbs = magnitude x := by
  unfold signedMagnitude
  split <;> omega

theorem natAbs_signedMagnitude_le (h : x.isNaN = false) :
    (signedMagnitude x).natAbs ≤ infiniteMagnitude := by
  rw [natAbs_signedMagnitude]
  exact magnitude_le h

theorem lt_iff_signed (hx : x.isNaN = false) (hy : y.isNaN = false) :
    x < y ↔ signedMagnitude x < signedMagnitude y := by
  rw [lt_iff, position_eq hx, position_eq hy,
    signedPlace_lt_iff (natAbs_signedMagnitude_le hx) (natAbs_signedMagnitude_le hy)]
  simp only [hx, hy, true_and]

theorem le_iff_signed (hx : x.isNaN = false) (hy : y.isNaN = false) :
    x ≤ y ↔ signedMagnitude x ≤ signedMagnitude y := by
  rw [le_iff, position_eq hx, position_eq hy,
    signedPlace_le_iff (natAbs_signedMagnitude_le hx) (natAbs_signedMagnitude_le hy)]
  simp only [hx, hy, true_and]

open ReportIndex (rank)

theorem rank_eq : rank x = if x.toBits.toNat < 2 ^ 63 then signedMagnitude x
    else signedMagnitude x - 1 := by
  have hlt := x.toBits.toNat_lt
  have hhalf : UInt64.size / 2 = 2 ^ 63 := rfl
  unfold rank signedMagnitude magnitude
  dsimp only
  rw [hhalf]
  split <;> omega

theorem rank_of_isNaN (h : x.isNaN = true) : rank x = infiniteMagnitude + 2 ^ 51 := by
  have hbits := bits_of_isNaN h
  unfold infiniteMagnitude at hbits ⊢
  rw [rank_eq, if_pos (by omega), signedMagnitude, if_pos (by omega), magnitude, hbits]
  rfl

theorem rank_lt_of_number (h : x.isNaN = false) : rank x < infiniteMagnitude + 2 ^ 51 := by
  have hle := magnitude_le h
  rw [rank_eq, signedMagnitude]
  split <;> omega

theorem rank_le_iff : rank x ≤ rank y ↔ TotalLe x y := by
  cases hy : y.isNaN with
  | true =>
    refine iff_of_true ?_ (.inl hy)
    rw [rank_of_isNaN hy]
    cases hx : x.isNaN with
    | true => exact (rank_of_isNaN hx).le
    | false => exact (rank_lt_of_number hx).le
  | false =>
    cases hx : x.isNaN with
    | true =>
      rw [rank_of_isNaN hx, TotalLe, lt_iff, le_iff, hx, hy]
      simpa using rank_lt_of_number hy
    | false =>
      rw [TotalLe, hy, Bool.false_eq_true, false_or, lt_iff_signed hx hy, le_iff_signed hx hy,
        le_iff_signed hy hx, isNegative_iff, isNegative_iff, rank_eq, rank_eq]
      unfold signedMagnitude
      split <;> split <;> omega

end Numbers

end Appraisal.Doubles

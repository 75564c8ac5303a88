import Appraisal.Proofs.Time.Reading

set_option autoImplicit false

namespace Appraisal.Instant

def Before (a b : Instant) : Prop :=
  a.day < b.day ∨ a.day = b.day ∧ (a.second < b.second ∨ a.second = b.second ∧ a.nano < b.nano)

def InMidnightLeap (t : Instant) : Prop := t.second + 1 = secondsPerDay ∧ nanosPerSecond ≤ t.nano

def clockUntil (a t : Instant) : Int := ({ a with day := t.day } : Instant).nanosUntil t

theorem nanosUntil_eq (a t : Instant) : a.nanosUntil t =
    (t.day - a.day) * (secondsPerDay * nanosPerSecond : Nat) + a.clockUntil t := by
  simp only [clockUntil, nanosUntil, secondsPerDay, nanosPerSecond]
  omega

variable {a b t : Instant}

/-- A leap second counts for the later second, and within a second by its fraction. -/
theorem clockUntil_cases (ha : a.Regular) (ht : t.Regular) :
    (a.second < t.second ∧ a.clockUntil t =
        (t.second - a.second) * nanosPerSecond + t.nano - (a.nano % nanosPerSecond : Nat)) ∨
      (a.second = t.second ∧ a.clockUntil t = t.nano - a.nano) ∨
      (t.second < a.second ∧ a.clockUntil t =
        (t.nano % nanosPerSecond : Nat) - a.nano - (a.second - t.second) * nanosPerSecond) := by
  have hnanoA := ha.nano_lt
  have hnanoT := ht.nano_lt
  simp only [clockUntil, nanosUntil, nanosPerSecond] at *
  rcases Nat.lt_trichotomy a.second t.second with h | h | h
  · refine .inl ⟨h, ?_⟩
    omega
  · refine .inr (.inl ⟨h, ?_⟩)
    simp [h]
  · refine .inr (.inr ⟨h, ?_⟩)
    omega

theorem nanosUntil_nonneg_of_before (ha : a.Regular) (hb : b.Regular) (ht : t.Regular)
    (h : a.Before b) (hleap : ¬ a.InMidnightLeap) (hpos : 0 ≤ b.nanosUntil t) :
    0 ≤ a.nanosUntil t := by
  have hsecondA := ha.second_lt
  have hnanoA := ha.nano_lt
  have hsecondB := hb.second_lt
  have hsecondT := ht.second_lt
  have hnanoT := ht.nano_lt
  -- no leap second starts a day
  have hstart : b.second = 0 → b.nano < nanosPerSecond := by
    have hleapB := hb.leap
    omega
  have hcasesA := clockUntil_cases ha ht
  have hcasesB := clockUntil_cases hb ht
  rw [nanosUntil_eq] at *
  simp only [Before, InMidnightLeap, secondsPerDay, nanosPerSecond] at *
  rcases hcasesA with ⟨hat, hclockA⟩ | ⟨hat, hclockA⟩ | ⟨hat, hclockA⟩ <;>
    rcases hcasesB with ⟨hbt, hclockB⟩ | ⟨hbt, hclockB⟩ | ⟨hbt, hclockB⟩ <;> omega

def addDays (a : Instant) (n : Nat) : Instant := { a with day := a.day + n }

theorem nanosUntil_addDays (a t : Instant) (n : Nat) : (a.addDays n).nanosUntil t =
    a.nanosUntil t - n * (secondsPerDay * nanosPerSecond : Nat) := by
  simp only [addDays, nanosUntil, secondsPerDay, nanosPerSecond]
  omega

theorem Before.addDays (h : a.Before b) (n : Nat) : (a.addDays n).Before (b.addDays n) := by
  simp only [Before, Instant.addDays] at *
  omega

theorem le_daysUntil_iff {n : Nat} (hn : 0 < n) :
    n ≤ a.daysUntil t ↔ 0 ≤ (a.addDays n).nanosUntil t := by
  rw [daysUntil, Nat.le_div_iff_mul_le (by decide), nanosUntil_addDays]
  simp only [secondsPerDay, nanosPerSecond]
  omega

/-- An instant that lies further back is as many days old or more, unless it is in a leap second at
the end of a day. -/
theorem daysUntil_le_of_before (ha : a.Regular) (hb : b.Regular) (ht : t.Regular)
    (h : a.Before b) (hleap : ¬ a.InMidnightLeap) : b.daysUntil t ≤ a.daysUntil t := by
  rcases Nat.eq_zero_or_pos (b.daysUntil t) with hzero | hpos
  · rw [hzero]
    exact Nat.zero_le _
  · have hb' : (b.addDays (b.daysUntil t)).Regular := ⟨hb.second_lt, hb.nano_lt, hb.leap⟩
    have ha' : (a.addDays (b.daysUntil t)).Regular := ⟨ha.second_lt, ha.nano_lt, ha.leap⟩
    rw [le_daysUntil_iff hpos]
    exact nanosUntil_nonneg_of_before ha' hb' ht (h.addDays _) hleap
      ((le_daysUntil_iff hpos).1 (Nat.le_refl _))

end Appraisal.Instant

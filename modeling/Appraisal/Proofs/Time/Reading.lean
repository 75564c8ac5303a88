import Appraisal.Time.Instant
import Mathlib.Algebra.GroupWithZero.Nat

set_option autoImplicit false

namespace Appraisal.Instant

/-- The second is one of a day, and a leap second ends a minute. -/
structure Regular (t : Instant) : Prop where
  second_lt : t.second < secondsPerDay
  nano_lt : t.nano < 2 * nanosPerSecond
  leap : nanosPerSecond ≤ t.nano → t.second % 60 = 59

theorem digitsValue_lt {digits : List Char} (h : ∀ c ∈ digits, c.isDigit = true) :
    digitsValue digits < 10 ^ digits.length := by
  have hfold (n : Nat) : digits.foldl (fun n c => n * 10 + (c.toNat - 48)) n <
      (n + 1) * 10 ^ digits.length := by
    induction digits generalizing n with
    | nil => simp
    | cons c rest ih =>
      obtain ⟨hc, hrest⟩ := List.forall_mem_cons.1 h
      have hdigit : c.toNat - 48 ≤ 9 := by
        simp only [Char.isDigit, Bool.and_eq_true, decide_eq_true_eq] at hc
        have hc' : c.toNat ≤ 57 := hc.2
        omega
      calc rest.foldl (fun n c => n * 10 + (c.toNat - 48)) (n * 10 + (c.toNat - 48))
          < (n * 10 + (c.toNat - 48) + 1) * 10 ^ rest.length := ih hrest _
        _ ≤ ((n + 1) * 10) * 10 ^ rest.length := Nat.mul_le_mul_right _ (by omega)
        _ = (n + 1) * 10 ^ (c :: rest).length := by
          rw [List.length_cons, Nat.pow_succ, Nat.mul_assoc, Nat.mul_comm 10]
  simpa [digitsValue] using hfold 0

section
variable {α β : Type} {s s' : List Char}

theorem exists_of_reading {x : Reading α} {f : α → Reading β} {b : β}
    (h : (x >>= f).run s = some (b, s')) :
    ∃ a s₁, x.run s = some (a, s₁) ∧ (f a).run s₁ = some (b, s') := by
  obtain ⟨⟨a, s₁⟩, hx, hf⟩ := Option.bind_eq_some_iff.1 h
  exact ⟨a, s₁, hx, hf⟩

theorem fraction_lt {n : Nat} (h : fraction.run s = some (n, s')) : n < nanosPerSecond := by
  obtain ⟨text, _, -, h⟩ := exists_of_reading h
  split at h
  · next r =>
    dsimp only at h
    split at h
    · cases h
    · obtain ⟨_, _, -, h⟩ := exists_of_reading h
      cases h
      have hdigits : ∀ c ∈ (r.takeWhile Char.isDigit ++ List.replicate 9 '0').take 9,
          c.isDigit = true := by
        intro c hc
        rcases List.mem_append.1 (List.mem_of_mem_take hc) with hc | hc
        · exact List.all_eq_true.1 List.all_takeWhile c hc
        · rw [List.eq_of_mem_replicate hc]
          rfl
      have hlength : ((r.takeWhile Char.isDigit ++ List.replicate 9 '0').take 9).length = 9 := by
        simp
      exact Nat.lt_of_lt_of_le (digitsValue_lt hdigits) (by rw [hlength]; decide)
  · cases h
    decide

theorem zone_mod {n : Int} (h : zone.run s = some (n, s')) : n % 60 = 0 := by
  obtain ⟨text, _, -, h⟩ := exists_of_reading h
  split at h
  · cases h
  · split at h
    · obtain ⟨_, _, -, h⟩ := exists_of_reading h
      cases h
      rfl
    · split at h
      · replace ⟨_, _, _, h⟩ := exists_of_reading h
        obtain ⟨hours, _, -, h⟩ := exists_of_reading h
        replace ⟨_, _, _, h⟩ := exists_of_reading h
        obtain ⟨minutes, _, -, h⟩ := exists_of_reading h
        dsimp only at h
        split at h
        · obtain ⟨_, _, hfailure, -⟩ := exists_of_reading h
          cases hfailure
        · cases h
          split <;> omega
      · cases h

theorem zoneOrName_mod {n : Int} (h : zoneOrName.run s = some (n, s')) : n % 60 = 0 := by
  obtain ⟨text, _, -, h⟩ := exists_of_reading h
  split at h
  · obtain ⟨_, _, -, h⟩ := exists_of_reading h
    cases h
    rfl
  · exact zone_mod h

end

theorem regular_of_seconds {seconds : Int} {nano : Nat} (hnano : nano < 2 * nanosPerSecond)
    (hleap : nanosPerSecond ≤ nano → seconds % 60 = 59) :
    Regular ⟨seconds.fdiv secondsPerDay,
      (seconds - seconds.fdiv secondsPerDay * secondsPerDay).toNat, nano⟩ := by
  simp only [secondsPerDay] at *
  rw [Int.fdiv_eq_ediv_of_nonneg _ (by decide)]
  refine ⟨?_, hnano, fun h => ?_⟩
  · simp only [secondsPerDay]
    omega
  · have hlast := hleap h
    simp only
    omega

theorem regular_of_ofLocal? {d : Date} {hour minute second nano : Nat} {zone : Int} {t : Instant}
    (hnano : nano < nanosPerSecond) (hzone : zone % 60 = 0)
    (h : ofLocal? d hour minute second nano zone = some t) : t.Regular := by
  unfold ofLocal? at h
  by_cases hleap : second = 60
  · simp only [hleap, if_true, Option.ite_none_left_eq_some, Option.ite_none_right_eq_some,
      Option.some.injEq] at h
    obtain ⟨-, -, rfl⟩ := h
    refine regular_of_seconds (by omega) fun _ => ?_
    simp only [secondsPerDay]
    omega
  · simp only [hleap, if_false, Option.ite_none_left_eq_some, Option.ite_none_right_eq_some,
      Option.some.injEq] at h
    obtain ⟨-, -, rfl⟩ := h
    refine regular_of_seconds (by omega) fun h => ?_
    omega

theorem regular_of_read? {s : String} {t : Instant} (h : read? s = some t) : t.Regular := by
  obtain ⟨⟨u, rest⟩, hreading, rfl⟩ := Option.map_eq_some_iff.1 h
  clear h
  -- the date, the hour, the minute and the second, each with a sign behind it
  iterate 11 replace ⟨_, _, _, hreading⟩ := exists_of_reading hreading
  obtain ⟨nano, _, hnano, hreading⟩ := exists_of_reading hreading
  replace ⟨_, _, _, hreading⟩ := exists_of_reading hreading
  obtain ⟨zone, _, hzone, hreading⟩ := exists_of_reading hreading
  iterate 2 replace ⟨_, _, _, hreading⟩ := exists_of_reading hreading
  split at hreading
  · split at hreading
    · next t ht =>
      cases hreading
      exact regular_of_ofLocal? (fraction_lt hnano) (zoneOrName_mod hzone) ht
    · cases hreading
  · cases hreading

end Appraisal.Instant

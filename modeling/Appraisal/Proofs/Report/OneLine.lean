import Appraisal.Data.Json.Writer
import Appraisal.Time.Instant
import Mathlib.Data.Nat.Digits.Defs

set_option autoImplicit false

namespace Appraisal

theorem newline_notMem_digitsOf (n : Nat) : '\n' ∉ Decimal.digitsOf n := by
  intro h
  have hdigit := Nat.isDigit_of_mem_toDigits (by decide) (by decide) h
  cases hdigit

theorem newline_notMem_zeros (n : Nat) : '\n' ∉ Decimal.zeros n := by
  intro h
  cases List.eq_of_mem_replicate h

theorem newline_notMem_positional {digits : List Char} (h : '\n' ∉ digits) (exponent : Int) :
    '\n' ∉ Decimal.positional digits exponent := by
  have htake (n : Nat) : '\n' ∉ digits.take n := fun hmem => h (List.mem_of_mem_take hmem)
  have hdrop (n : Nat) : '\n' ∉ digits.drop n := fun hmem => h (List.mem_of_mem_drop hmem)
  unfold Decimal.positional
  split
  · simp [h, newline_notMem_zeros]
  · dsimp only
    split
    · simp [htake, hdrop]
    · simp [h, newline_notMem_zeros]

theorem newline_notMem_signed {magnitude : List Char} (h : '\n' ∉ magnitude) (x : Float) :
    '\n' ∉ (Decimal.signed x magnitude).toList := by
  rw [Decimal.signed, String.toList_ofList]
  split <;> simp [h]

theorem newline_notMem_nonFinite {x : Float} {text : String}
    (h : Decimal.nonFinite? x = some text) : '\n' ∉ text.toList := by
  unfold Decimal.nonFinite? at h
  split at h
  · cases h
    decide
  · split at h
    · cases h
      split <;> decide
    · cases h

theorem newline_notMem_fixed (places : Nat) (x : Float) :
    '\n' ∉ (Decimal.fixed places x).toList := by
  rw [Decimal.fixed]
  split
  · next text hspecial => exact newline_notMem_nonFinite hspecial
  · refine newline_notMem_signed ?_ x
    split
    · exact newline_notMem_digitsOf _
    · refine newline_notMem_positional ?_ _
      simp [newline_notMem_digitsOf, newline_notMem_zeros]

theorem newline_notMem_escape (c : Char) : '\n' ∉ Json.escape c := by
  by_cases hc : '\n' = c
  · subst hc
    decide
  have hhex : ∀ n < 16, '\n' ≠ Json.hexDigit n := by decide
  unfold Json.escape
  split
  any_goals decide
  split
  · decide
  · split
    · decide
    · split
      · next hcontrol =>
        have hhigh := hhex (c.toNat / 16) (by omega)
        have hlow := hhex (c.toNat % 16) (by omega)
        simp [hhigh, hlow]
      · simpa using hc

theorem newline_notMem_quote (s : String) : '\n' ∉ Json.quote s := by
  simp [Json.quote, newline_notMem_escape]

theorem newline_notMem_padded (width n : Nat) : '\n' ∉ (Instant.padded width n).toList := by
  have hdigits : '\n' ∉ Nat.toDigits 10 n := newline_notMem_digitsOf n
  simp [Instant.padded, hdigits]

theorem newline_notMem_plainText (t : Instant) : '\n' ∉ t.plainText.toList := by
  have hyear (y : Int) : '\n' ∉ (Instant.yearText y).toList := by
    unfold Instant.yearText
    split
    · exact newline_notMem_padded _ _
    · split <;> simp [newline_notMem_padded]
  have hfraction : '\n' ∉ t.fractionText.toList := by
    unfold Instant.fractionText
    dsimp only
    split
    · decide
    · split
      · simp [newline_notMem_padded]
      · split <;> simp [newline_notMem_padded]
  simp [Instant.plainText, Instant.dateText, Instant.clockText, hyear, hfraction,
    newline_notMem_padded]

end Appraisal

import Appraisal.Text.Order
import Mathlib.Data.String.Basic

set_option autoImplicit false

namespace Appraisal.Text

theorem le_iff (s t : List Char) : le s t = true ↔ ¬ t < s := by
  induction s generalizing t with
  | nil => simp only [le, List.not_lt_nil, not_false_eq_true]
  | cons a s ih =>
    cases t with
    | nil => simp only [le, Bool.false_eq_true, List.nil_lt_cons, not_true_eq_false]
    | cons b t =>
      simp only [le, Bool.or_eq_true, Bool.and_eq_true, decide_eq_true_eq, beq_iff_eq,
        List.cons_lt_cons_iff, ih]
      rcases lt_trichotomy a b with h | h | h
      · simp only [h, h.not_gt, h.ne', true_or, false_and, or_self, not_false_eq_true]
      · simp only [h, lt_irrefl, true_and, false_or]
      · simp only [h, h.not_gt, h.ne', true_or, false_and, or_self, not_true_eq_false]

theorem le_trans {a b c : List Char} (hab : le a b = true) (hbc : le b c = true) :
    le a c = true := by
  rw [le_iff, not_lt] at hab hbc ⊢
  exact hab.trans hbc

theorem le_or_le (a b : List Char) : (le a b || le b a) = true := by
  rw [Bool.or_eq_true, le_iff, le_iff, not_lt, not_lt]
  exact le_total a b

def bytes (cs : List Char) : List UInt8 := cs.flatMap String.utf8EncodeChar

def lowByte (n : Nat) : UInt8 := UInt8.ofNat (n % 0x40 + 0x80)

theorem toNat_lowByte (n : Nat) : (lowByte n).toNat = n % 64 + 128 := by
  rw [lowByte, UInt8.toNat_ofNat']
  omega

section
variable {m n : Nat} {as bs : List UInt8}

theorem lowByte_lt (h : m < n ∨ m = n ∧ as < bs) :
    m / 64 < n / 64 ∨ m / 64 = n / 64 ∧ lowByte m :: as < lowByte n :: bs := by
  rcases h with h | ⟨rfl, h⟩
  · rcases Nat.lt_or_ge (m / 64) (n / 64) with hlt | hge
    · exact .inl hlt
    · refine .inr ⟨by omega, List.cons_lt_cons_iff.2 (.inl ?_)⟩
      rw [UInt8.lt_iff_toNat_lt, toNat_lowByte, toNat_lowByte]
      omega
  · exact .inr ⟨rfl, List.cons_lt_cons_iff.2 (.inr ⟨rfl, h⟩)⟩

theorem firstByte_lt {a b : Nat} (h : m < n ∨ m = n ∧ as < bs) (hlt : m < n → a < b)
    (heq : m = n → a = b) (hb : b < 256) : UInt8.ofNat a :: as < UInt8.ofNat b :: bs := by
  rcases h with h | ⟨h, hrest⟩
  · refine List.cons_lt_cons_iff.2 (.inl ?_)
    have hab := hlt h
    rw [UInt8.lt_iff_toNat_lt, UInt8.toNat_ofNat', UInt8.toNat_ofNat']
    omega
  · exact List.cons_lt_cons_iff.2 (.inr ⟨by rw [heq h], hrest⟩)

end

/-- The smaller character has the smaller bytes, whatever follows. -/
theorem utf8EncodeChar_append_lt {a b : Char} (h : a < b) (as bs : List UInt8) :
    String.utf8EncodeChar a ++ as < String.utf8EncodeChar b ++ bs := by
  have hlt : a.val.toNat < b.val.toNat := h
  have hb : b.val.toNat < 0x110000 := by
    have hvalid := b.valid
    simp only [UInt32.isValidChar, Nat.isValidChar] at hvalid
    omega
  unfold String.utf8EncodeChar
  dsimp only
  generalize a.val.toNat = m at *
  generalize b.val.toNat = n at *
  have h₁ := @lowByte_lt m n as bs (.inl hlt)
  have h₂ := lowByte_lt h₁
  have h₃ := lowByte_lt h₂
  -- the number of bytes, first of the smaller character and then of the other one
  split
  · split
    · exact firstByte_lt (.inl hlt) id (by omega) (by omega)
    · split
      · exact firstByte_lt (.inl hlt) (by omega) (by omega) (by omega)
      · split <;> exact firstByte_lt (.inl hlt) (by omega) (by omega) (by omega)
  · split
    · rw [if_neg (by omega)]
      split
      · exact firstByte_lt h₁ (by omega) (by omega) (by omega)
      · split <;> exact firstByte_lt (.inl hlt) (by omega) (by omega) (by omega)
    · split
      · rw [if_neg (by omega), if_neg (by omega)]
        split
        · exact firstByte_lt h₂ (by omega) (by omega) (by omega)
        · exact firstByte_lt (.inl hlt) (by omega) (by omega) (by omega)
      · rw [if_neg (by omega), if_neg (by omega), if_neg (by omega)]
        rw [show m / 64 / 64 = m / 4096 by omega, show n / 64 / 64 = n / 4096 by omega] at h₃
        exact firstByte_lt h₃ (by omega) (by omega) (by omega)

theorem bytes_lt {s t : List Char} (h : s < t) : bytes s < bytes t := by
  induction s generalizing t with
  | nil =>
    cases t with
    | nil => cases h
    | cons b t =>
      rw [bytes, bytes, List.flatMap_nil, List.flatMap_cons]
      cases hencode : String.utf8EncodeChar b with
      | nil => exact absurd hencode String.utf8EncodeChar_ne_nil
      | cons first rest => exact List.nil_lt_cons _ _
  | cons a s ih =>
    cases t with
    | nil => cases h
    | cons b t =>
      rcases List.cons_lt_cons_iff.1 h with hlt | ⟨rfl, hrest⟩
      · exact utf8EncodeChar_append_lt hlt _ _
      · exact List.append_left_lt (ih hrest)

theorem bytes_lt_of_le {s t : List Char} (h : le s t = true) (hne : s ≠ t) :
    bytes s < bytes t :=
  bytes_lt (lt_of_le_of_ne (not_lt.1 ((le_iff s t).1 h)) hne)

end Appraisal.Text

import Appraisal.Proofs.Pattern.Words

set_option autoImplicit false

namespace Appraisal.Pattern

/-- Wherever in the text there is a match, it is empty. -/
def OnlyEmpty (r : Pattern) (cs : List Char) : Prop :=
  ∀ p q, (Cursor.start cs).Ahead p → r.endAt? p = some q → q = p

theorem ahead_of_endAt? {r : Pattern} {p q : Cursor} (h : r.endAt? p = some q) : p.Ahead q :=
  (leads_of_endAt? h).ahead

theorem occurrencesFrom_eq_nil_iff (r : Pattern) (before : Option Char) (offset : Nat)
    (cs : List Char) : r.occurrencesFrom 0 before offset cs = [] ↔
      ∀ p q, Cursor.Ahead ⟨before, offset, cs⟩ p → r.endAt? p = some q → q = p := by
  induction cs generalizing before offset with
  | nil =>
    refine iff_of_true rfl fun p q hp hq => ?_
    obtain rfl := Cursor.ahead_nil_iff.1 hp
    exact Cursor.ahead_nil_iff.1 (ahead_of_endAt? hq)
  | cons c rest ih =>
    -- the match at the first place, and those at the places behind it
    have hsplit : (∀ p q, Cursor.Ahead ⟨before, offset, c :: rest⟩ p → r.endAt? p = some q → q = p) ↔
        (∀ q, r.endAt? ⟨before, offset, c :: rest⟩ = some q → q = ⟨before, offset, c :: rest⟩) ∧
          ∀ p q, Cursor.Ahead ⟨some c, offset + 1, rest⟩ p → r.endAt? p = some q → q = p := by
      constructor
      · exact fun h => ⟨fun q => h _ q (.refl _),
          fun p q hp => h p q (Cursor.ahead_cons_iff.2 (.inr hp))⟩
      · rintro ⟨hfirst, hbehind⟩ p q hp
        rcases Cursor.ahead_cons_iff.1 hp with rfl | hp
        · exact hfirst q
        · exact hbehind p q hp
    rw [hsplit, occurrencesFrom, ← ih]
    cases hend : r.endAt? ⟨before, offset, c :: rest⟩ with
    | none => simp
    | some q =>
      have hahead := ahead_of_endAt? hend
      by_cases hzero : q.offset - offset = 0
      · have hoffset : q.offset = offset := Nat.le_antisymm (by omega) hahead.offset_le
        have hq : q = ⟨before, offset, c :: rest⟩ :=
          hahead.eq_of_offset_eq (.refl _) hoffset
        simp [hq]
      · have hq : q ≠ ⟨before, offset, c :: rest⟩ := by
          rintro rfl
          exact hzero (Nat.sub_self offset)
        simp [hzero, hq]

theorem occurrences_eq_nil_iff (r : Pattern) (cs : List Char) :
    r.occurrences cs = [] ↔ r.OnlyEmpty cs :=
  occurrencesFrom_eq_nil_iff r none 0 cs

theorem occurrences_ne_nil_of_occurs {r : Pattern} {cs : List Char} (hword : ¬ r.Accepts [])
    (h : r.Occurs cs) : r.occurrences cs ≠ [] := by
  intro hnil
  obtain ⟨i, p, q, hp, -, hq⟩ := h
  cases hend : r.endAt? p with
  | none => exact (endAt?_eq_none_iff r p).1 hend q hq
  | some m =>
    have hm : m = p := (occurrences_eq_nil_iff r cs).1 hnil p m hp hend
    obtain ⟨w, t, hw, -, heq⟩ := (leads_of_endAt? hend).exists_word
    have hoffset := congrArg Cursor.offset (hm.symm.trans heq)
    rw [Cursor.past_offset] at hoffset
    obtain rfl : w = [] := List.length_eq_zero_iff.1 (by omega)
    exact hword hw

theorem occurs_of_mem_occurrences {r : Pattern} {cs : List Char} {o : Occurrence}
    (h : o ∈ r.occurrences cs) : r.Occurs cs := by
  obtain ⟨p, q, hp, hq, -⟩ := leads_of_mem_occurrencesFrom h
  exact ⟨p.offset, p, q, hp, rfl, hq⟩

end Appraisal.Pattern

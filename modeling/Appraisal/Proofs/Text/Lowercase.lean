import Appraisal.Unicode.Lowercase
import Mathlib.Data.List.Infix

set_option autoImplicit false

namespace Appraisal.Unicode

def endsWord (before after : List Char) : Bool :=
  startsCased before.reverse && !startsCased after

/-- Each capital sigma of `piece` ends a word between `before` and `after` if it does so in `piece`
on its own, and only then. -/
def KeepsSigmas (before piece after : List Char) : Prop :=
  ∀ left right, piece = left ++ capitalSigma :: right →
    endsWord (before ++ left) (right ++ after) = endsWord left right

theorem keepsSigmas_iff (before piece after : List Char) :
    KeepsSigmas before piece after ↔ ∀ i < piece.length, piece[i]? = some capitalSigma →
      endsWord (before ++ piece.take i) (piece.drop (i + 1) ++ after) =
        endsWord (piece.take i) (piece.drop (i + 1)) := by
  constructor
  · intro h i hi hsigma
    refine h _ _ ?_
    have hdrop : piece.drop i = capitalSigma :: piece.drop (i + 1) := by
      rw [List.drop_eq_getElem_cons hi, ← List.getElem?_eq_some_iff.1 hsigma |>.2]
    rw [← hdrop, List.take_append_drop]
  · rintro h left right rfl
    have hhere := h left.length (by simp) (by simp)
    simpa using hhere

instance (before piece after : List Char) : Decidable (KeepsSigmas before piece after) :=
  decidable_of_iff _ (keepsSigmas_iff before piece after).symm

def lowercaseWithin (before : List Char) : (piece after : List Char) → List Char
  | [], _ => []
  | c :: piece, after =>
    lowerBetween before.reverse c (piece ++ after) ++ lowercaseWithin (before ++ [c]) piece after

theorem lowercaseFrom_eq_within (before cs : List Char) :
    lowercaseFrom before.reverse cs = lowercaseWithin before cs [] := by
  induction cs generalizing before with
  | nil => rfl
  | cons c r ih =>
    have hnext := ih (before ++ [c])
    rw [List.reverse_append, List.reverse_singleton, List.singleton_append] at hnext
    rw [lowercaseFrom, lowercaseWithin, List.append_nil, hnext]

theorem lowercase_eq_within (cs : List Char) : lowercase cs = lowercaseWithin [] cs [] :=
  lowercaseFrom_eq_within [] cs

theorem lowercaseWithin_append (before left right after : List Char) :
    lowercaseWithin before (left ++ right) after =
      lowercaseWithin before left (right ++ after) ++
        lowercaseWithin (before ++ left) right after := by
  induction left generalizing before with
  | nil => simp [lowercaseWithin]
  | cons c left ih =>
    simp only [List.cons_append, lowercaseWithin, ih, List.append_assoc, List.nil_append]

theorem lowerBetween_ne_nil (before : List Char) (c : Char) (after : List Char) :
    lowerBetween before c after ≠ [] := by
  unfold lowerBetween lowerChar
  repeat' split
  all_goals exact List.cons_ne_nil _ _

theorem lowercase_eq_nil_iff (cs : List Char) : lowercase cs = [] ↔ cs = [] := by
  cases cs with
  | nil => exact ⟨fun _ => rfl, fun _ => rfl⟩
  | cons c r => simp [lowercase, lowercaseFrom, lowerBetween_ne_nil]

theorem lowerBetween_congr {before before' after after' : List Char} {c : Char}
    (h : c = capitalSigma → endsWord before after = endsWord before' after') :
    lowerBetween before.reverse c after = lowerBetween before'.reverse c after' := by
  unfold lowerBetween
  by_cases hc : c = capitalSigma
  · have hends := h hc
    unfold endsWord at hends
    rw [if_pos hc, if_pos hc, hends]
  · rw [if_neg hc, if_neg hc]

theorem lowercaseWithin_congr {before before' after after' : List Char} (piece : List Char)
    (h : ∀ left right, piece = left ++ capitalSigma :: right →
      endsWord (before ++ left) (right ++ after) = endsWord (before' ++ left) (right ++ after')) :
    lowercaseWithin before piece after = lowercaseWithin before' piece after' := by
  induction piece generalizing before before' with
  | nil => rfl
  | cons c piece ih =>
    have hfirst : c = capitalSigma →
        endsWord before (piece ++ after) = endsWord before' (piece ++ after') := by
      rintro rfl
      simpa only [List.append_nil] using h [] piece rfl
    have hrest : ∀ left right, piece = left ++ capitalSigma :: right →
        endsWord (before ++ [c] ++ left) (right ++ after) =
          endsWord (before' ++ [c] ++ left) (right ++ after') := by
      intro left right heq
      have hlater := h (c :: left) right (by rw [heq, List.cons_append])
      simpa only [List.append_assoc, List.singleton_append] using hlater
    rw [lowercaseWithin, lowercaseWithin, lowerBetween_congr hfirst, ih hrest]

/-- Where a piece keeps its sigmas, its own lowercase form stands in that of the text. -/
theorem lowercase_isInfix {before piece after : List Char} (h : KeepsSigmas before piece after) :
    lowercase piece <:+: lowercase (before ++ piece ++ after) := by
  have hpiece : lowercase piece = lowercaseWithin before piece after := by
    rw [lowercase_eq_within]
    refine lowercaseWithin_congr piece fun left right heq => ?_
    rw [List.nil_append, List.append_nil]
    exact (h left right heq).symm
  rw [hpiece, lowercase_eq_within, lowercaseWithin_append, lowercaseWithin_append,
    List.append_nil, List.nil_append]
  exact ⟨_, _, rfl⟩

end Appraisal.Unicode

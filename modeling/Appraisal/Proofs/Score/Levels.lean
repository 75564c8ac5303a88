import Appraisal.Proofs.Score.Fitness
import Appraisal.Score.Document
import Mathlib.Data.List.Basic
import Mathlib.Order.Lattice

set_option autoImplicit false

namespace Appraisal.Score

theorem Level.ofDatum?_name (l : Level) : Level.ofDatum? (.text l.name) = some l := by
  cases l <;> rfl

section Selected

variable {R : Type} [Arithmetic R] {ts : List (Threshold R)}

def levelIndex (ts : List (Threshold R)) (score : R) : Nat :=
  min (ts.findIdx (fun t => Arithmetic.lt score t.below)) (ts.length - 1)

theorem ne_nil_of_thresholds (hts : thresholdFlaw? ts = none) : ts ≠ [] := by
  rintro rfl
  cases hts

def selected? (ts : List (Threshold R)) (score : R) : Option (Threshold R) :=
  (ts.find? (fun t => Arithmetic.lt score t.below)).or ts.getLast?

theorem selected?_eq (hts : ts ≠ []) (x : R) : selected? ts x = ts[levelIndex ts x]? := by
  have hlength : 0 < ts.length := List.length_pos_iff.2 hts
  unfold selected? levelIndex
  rw [List.find?_eq_bind_findIdx?_getElem?, List.getLast?_eq_getElem?]
  generalize hfirst : ts.findIdx (fun t => Arithmetic.lt x t.below) = first
  by_cases hlt : first < ts.length
  · rw [List.findIdx?_eq_some_iff_findIdx_eq.2 ⟨hlt, hfirst⟩, min_eq_left (by omega)]
    simp [hlt]
  · have hnone : ts.findIdx? (fun t => Arithmetic.lt x t.below) = none := by
      have hle : ts.findIdx (fun t => Arithmetic.lt x t.below) ≤ ts.length :=
        List.findIdx_le_length
      rw [List.findIdx?_eq_none_iff_findIdx_eq]
      omega
    rw [hnone, min_eq_right (by omega)]
    simp

theorem levelIndex_lt (hts : ts ≠ []) (x : R) : levelIndex ts x < ts.length := by
  have hlength : 0 < ts.length := List.length_pos_iff.2 hts
  exact (min_le_right _ _).trans_lt (by omega)

theorem levelFor_eq (hts : thresholdFlaw? ts = none) (x : R) :
    ∃ t, ts[levelIndex ts x]? = some t ∧ levelFor ts x = t.level := by
  have hselected := selected?_eq (ne_nil_of_thresholds hts) x
  have hsome := List.getElem?_eq_getElem (levelIndex_lt (ne_nil_of_thresholds hts) x)
  refine ⟨_, hsome, ?_⟩
  unfold selected? at hselected
  rw [levelFor, hselected, hsome]

theorem levelIndex_le {x y : R}
    (h : ∀ t ∈ ts, Arithmetic.lt y t.below = true → Arithmetic.lt x t.below = true) :
    levelIndex ts x ≤ levelIndex ts y :=
  min_le_min_right _ (List.findIdx_le_findIdx h)

end Selected

/-- The score lies between so many bounds that it reaches and the next one. -/
inductive Falls (ts : List (Threshold Float)) (x : Float) : Nat → Prop
  | below {t : Threshold Float} (ht : ts[0]? = some t) (hlt : x < t.below) : Falls ts x 0
  | between {i : Nat} {s t : Threshold Float} (hs : ts[i]? = some s) (ht : ts[i + 1]? = some t)
      (hle : s.below ≤ x) (hlt : x < t.below) : Falls ts x (i + 1)
  | beyond {t : Threshold Float} (ht : ts.getLast? = some t) (hle : t.below ≤ x) :
      Falls ts x ts.length

section Stretches

variable {ts : List (Threshold Float)} {x y : Float} {i j k : Nat} {s t : Threshold Float}

theorem Ascending.isNaN_below (h : Ascending ts) (ht : ts[i]? = some t) : t.below.isNaN = false :=
  Doubles.isNaN_of_isFinite (h.finite t (List.mem_of_getElem? ht))

theorem Ascending.below_le (h : Ascending ts) (hij : i ≤ j) (hs : ts[i]? = some s)
    (ht : ts[j]? = some t) : s.below ≤ t.below := by
  rcases hij.lt_or_eq with hlt | rfl
  · obtain ⟨hi, rfl⟩ := List.getElem?_eq_some_iff.1 hs
    obtain ⟨hj, rfl⟩ := List.getElem?_eq_some_iff.1 ht
    exact Doubles.le_of_lt (List.pairwise_iff_getElem.1 h.ascending i j hi hj hlt)
  · obtain rfl := Option.some.inj (hs.symm.trans ht)
    have hnumber := h.isNaN_below hs
    exact Doubles.le_iff.2 ⟨hnumber, hnumber, le_rfl⟩

theorem Ascending.reaches (h : Ascending ts) (ht : ts[j]? = some t) (hle : t.below ≤ x)
    (hij : i ≤ j) (hs : ts[i]? = some s) : s.below ≤ x :=
  Doubles.le_trans (h.below_le hij hs ht) hle

theorem Ascending.misses (h : Ascending ts) (hs : ts[i]? = some s) (hlt : x < s.below)
    (hij : i ≤ j) (ht : ts[j]? = some t) : x < t.below :=
  Doubles.lt_of_lt_of_le hlt (h.below_le hij hs ht)

theorem falls_iff (h : Ascending ts) : Falls ts x k ↔ k ≤ ts.length ∧
    (∀ i s, i < k → ts[i]? = some s → s.below ≤ x) ∧
      ∀ i t, k ≤ i → ts[i]? = some t → x < t.below := by
  constructor
  · intro hfalls
    cases hfalls with
    | below ht hlt =>
      exact ⟨Nat.zero_le _, fun i s hi => absurd hi (Nat.not_lt_zero i),
        fun i t hi => h.misses ht hlt hi⟩
    | between hs ht hle hlt =>
      obtain ⟨hlength, -⟩ := List.getElem?_eq_some_iff.1 ht
      exact ⟨hlength.le, fun i s hi => h.reaches hs hle (Nat.le_of_lt_succ hi),
        fun i t hi => h.misses ht hlt hi⟩
    | beyond ht hle =>
      rw [List.getLast?_eq_getElem?] at ht
      refine ⟨le_rfl, fun i s hi => h.reaches ht hle (by omega), fun i t hi hi' => ?_⟩
      obtain ⟨hlt, -⟩ := List.getElem?_eq_some_iff.1 hi'
      omega
  · rintro ⟨hlength, hreaches, hmisses⟩
    rcases hlength.lt_or_eq with hlt | rfl
    · have ht := List.getElem?_eq_getElem hlt
      cases k with
      | zero => exact .below ht (hmisses 0 _ le_rfl ht)
      | succ k =>
        have hs := List.getElem?_eq_getElem (Nat.lt_of_succ_lt hlt)
        exact .between hs ht (hreaches k _ k.lt_succ_self hs) (hmisses _ _ le_rfl ht)
    · have hpos := List.length_pos_iff.2 h.nonempty
      have hlast := List.getElem?_eq_getElem (Nat.sub_lt hpos Nat.one_pos)
      refine .beyond (List.getLast?_eq_getElem?.trans hlast) (hreaches _ _ ?_ hlast)
      omega

theorem below_of_findIdx (hfirst : ts.findIdx (fun t => Arithmetic.lt x t.below) = i)
    (ht : ts[i]? = some t) : x < t.below := by
  obtain ⟨hlt, rfl⟩ := List.getElem?_eq_some_iff.1 ht
  subst hfirst
  have htest : Arithmetic.lt x ts[ts.findIdx (fun t => Arithmetic.lt x t.below)].below = true :=
    List.findIdx_getElem (w := hlt)
  exact decide_eq_true_iff.1 htest

theorem falls_findIdx (h : Ascending ts) (hx : x.isNaN = false) :
    Falls ts x (ts.findIdx (fun t => Arithmetic.lt x t.below)) := by
  refine (falls_iff h).2 ⟨List.findIdx_le_length, fun i s hi hs => ?_, fun i t hi ht => ?_⟩
  · have hmissed := List.not_of_lt_findIdx hi
    obtain ⟨hlt, rfl⟩ := List.getElem?_eq_some_iff.1 hs
    exact (Doubles.not_lt_iff hx (h.isNaN_below hs)).1 (of_decide_eq_false hmissed)
  · obtain ⟨hlt, -⟩ := List.getElem?_eq_some_iff.1 ht
    have hfirst := List.getElem?_eq_getElem (hi.trans_lt hlt)
    exact h.misses hfirst (below_of_findIdx rfl hfirst) hi ht

theorem Falls.not_before {l : Nat} (hk : Falls ts x k) (hl : Falls ts x l) (h : Ascending ts) :
    ¬ k < l := by
  intro hlt
  obtain ⟨-, -, hmisses⟩ := (falls_iff h).1 hk
  obtain ⟨hlength, hreaches, -⟩ := (falls_iff h).1 hl
  have ht := List.getElem?_eq_getElem (hlt.trans_le hlength)
  have hbelow := hmisses k _ le_rfl ht
  have hle := hreaches k _ hlt ht
  exact (Doubles.not_lt_iff (Doubles.lt_iff.1 hbelow).1 (h.isNaN_below ht)).2 hle hbelow

theorem Falls.unique {l : Nat} (hk : Falls ts x k) (hl : Falls ts x l) (h : Ascending ts) :
    k = l :=
  le_antisymm (not_lt.1 (hl.not_before hk h)) (not_lt.1 (hk.not_before hl h))

theorem levelIndex_mono_of_le (h : x ≤ y) : levelIndex ts x ≤ levelIndex ts y :=
  levelIndex_le fun _ _ hlt => decide_eq_true (Doubles.lt_of_le_of_lt h (of_decide_eq_true hlt))

end Stretches

/-- Each number lies in one stretch, which gives its threshold, and a higher number never has an
earlier one. A threshold is always selected, so that no level has to stand in for it. -/
theorem levels_part_scores {ts : List (Threshold Float)} {x : Float}
    (hts : thresholdFlaw? ts = none) (hx : x.isNaN = false) :
    (∃! k, Falls ts x k) ∧
    (∀ k, Falls ts x k → levelIndex ts x = min k (ts.length - 1)) ∧
    (∃ t, selected? ts x = some t ∧ ts[levelIndex ts x]? = some t ∧ levelFor ts x = t.level) ∧
    ∀ y, x ≤ y → levelIndex ts x ≤ levelIndex ts y := by
  have hascending := (thresholdFlaw?_spec ts).1.1 hts
  have hfalls := falls_findIdx hascending hx
  refine ⟨⟨_, hfalls, fun k hk => hk.unique hfalls hascending⟩, fun k hk => ?_, ?_, fun y =>
    levelIndex_mono_of_le⟩
  · rw [hk.unique hfalls hascending]
    rfl
  · obtain ⟨t, ht, hlevel⟩ := levelFor_eq hts x
    exact ⟨t, (selected?_eq hascending.nonempty x).trans ht, ht, hlevel⟩

theorem bound_is_reached : thresholdFlaw? defaultThresholds = none ∧
    (0.3 : Float).isNaN = false ∧ Falls defaultThresholds 0.3 1 ∧
    levelIndex defaultThresholds 0.3 = 1 ∧
    levelIndex defaultThresholds 0.3 ≤ levelIndex defaultThresholds 1.5 := by
  have hfit : thresholdFlaw? defaultThresholds = none := by decide +kernel
  have hnumber : (0.3 : Float).isNaN = false := by decide +kernel
  have hfalls : Falls defaultThresholds 0.3 1 :=
    .between rfl rfl (by decide +kernel) (by decide +kernel)
  obtain ⟨-, hindex, -, hmono⟩ := levels_part_scores hfit hnumber
  exact ⟨hfit, hnumber, hfalls, hindex 1 hfalls, hmono 1.5 (by decide +kernel)⟩

end Appraisal.Score

import Appraisal.Analysis.Result
import Appraisal.Proofs.Data.Sorting
import Appraisal.Proofs.Text.Order

set_option autoImplicit false

namespace Appraisal

theorem findingLe_iff (x y : Scan.Finding) :
    findingLe x y = true ↔
      x.filePath < y.filePath ∨ x.filePath = y.filePath ∧ x.lineNumber ≤ y.lineNumber := by
  unfold findingLe
  by_cases hpath : x.filePath = y.filePath
  · simp only [hpath, ite_true, decide_eq_true_eq, lt_irrefl, false_or, true_and]
  · rw [if_neg hpath, Text.le_iff, ← String.lt_iff_toList_lt, not_lt]
    simp only [hpath, false_and, or_false]
    exact ⟨fun h => lt_of_le_of_ne h hpath, le_of_lt⟩

theorem findingLe_trans (x y z : Scan.Finding) (hxy : findingLe x y = true)
    (hyz : findingLe y z = true) : findingLe x z = true := by
  rw [findingLe_iff] at hxy hyz ⊢
  rcases hxy with hxy | ⟨hxy, hlines⟩
  · rcases hyz with hyz | ⟨hyz, _⟩
    · exact Or.inl (lt_trans hxy hyz)
    · exact Or.inl (hyz ▸ hxy)
  · rcases hyz with hyz | ⟨hyz, hmore⟩
    · exact Or.inl (hxy ▸ hyz)
    · exact Or.inr ⟨hxy.trans hyz, hlines.trans hmore⟩

theorem findingLe_total (x y : Scan.Finding) : (findingLe x y || findingLe y x) = true := by
  rw [Bool.or_eq_true, findingLe_iff, findingLe_iff]
  rcases lt_trichotomy x.filePath y.filePath with h | h | h
  · exact Or.inl (Or.inl h)
  · rcases Nat.le_total x.lineNumber y.lineNumber with hlines | hlines
    · exact Or.inl (Or.inr ⟨h, hlines⟩)
    · exact Or.inr (Or.inr ⟨h.symm, hlines⟩)
  · exact Or.inr (Or.inl h)

theorem path_le_of_findingLe (x y : Scan.Finding) (h : findingLe x y = true) :
    x.filePath ≤ y.filePath := by
  rw [findingLe_iff] at h
  rcases h with h | ⟨h, _⟩
  · exact le_of_lt h
  · exact le_of_eq h

theorem pairwise_path_le {l : List Scan.Finding}
    (h : l.Pairwise (fun x y => findingLe x y = true)) :
    l.Pairwise (fun x y => x.filePath ≤ y.filePath) :=
  h.imp (fun {x y} hle => path_le_of_findingLe x y hle)

theorem sort_pairwise (l : List Scan.Finding) :
    (l.mergeSort findingLe).Pairwise (fun x y => findingLe x y = true) :=
  List.pairwise_mergeSort findingLe_trans findingLe_total l

/-- Sorting moves nothing within a part that is in order. -/
theorem filter_sort {l : List Scan.Finding} (p : Scan.Finding → Bool)
    (h : (l.filter p).Pairwise (fun x y => findingLe x y = true)) :
    (l.mergeSort findingLe).filter p = l.filter p := by
  rw [filter_mergeSort findingLe_trans findingLe_total, List.mergeSort_of_pairwise h]

/-- Findings in the order of their paths are determined by those of each path. -/
theorem eq_of_forall_path {l l' : List Scan.Finding}
    (hl : l.Pairwise (fun x y => x.filePath ≤ y.filePath))
    (hl' : l'.Pairwise (fun x y => x.filePath ≤ y.filePath))
    (h : ∀ path, l.filter (fun x => x.filePath = path) =
      l'.filter (fun x => x.filePath = path)) : l = l' := by
  induction l generalizing l' with
  | nil =>
    cases l' with
    | nil => rfl
    | cons y ys =>
      have hy := h y.filePath
      simp at hy
  | cons x xs ih =>
    cases l' with
    | nil =>
      have hx := h x.filePath
      simp at hx
    | cons y ys =>
      obtain ⟨hx, hxs⟩ := List.pairwise_cons.1 hl
      obtain ⟨hy, hys⟩ := List.pairwise_cons.1 hl'
      -- each head stands somewhere in the other list, so neither comes after the other
      have hmem (z : Scan.Finding) : z ∈ x :: xs ↔ z ∈ y :: ys := by
        have hpath := congrArg (z ∈ ·) (h z.filePath)
        simpa only [List.mem_filter, decide_true, and_true, eq_iff_iff] using hpath
      have hyx : y.filePath ≤ x.filePath := by
        rcases List.mem_cons.1 ((hmem x).1 List.mem_cons_self) with rfl | hin
        · exact le_rfl
        · exact hy x hin
      have hxy : x.filePath ≤ y.filePath := by
        rcases List.mem_cons.1 ((hmem y).2 List.mem_cons_self) with rfl | hin
        · exact le_rfl
        · exact hx y hin
      have hpath : x.filePath = y.filePath := le_antisymm hxy hyx
      have hheads := h x.filePath
      rw [List.filter_cons_of_pos (by simp), List.filter_cons_of_pos (by simp [hpath])] at hheads
      obtain rfl : x = y := (List.cons.inj hheads).1
      refine congrArg (x :: ·) (ih hxs hys fun path => ?_)
      have hrest := h path
      by_cases hp : x.filePath = path
      · rw [List.filter_cons_of_pos (by simp [hp]), List.filter_cons_of_pos (by simp [hp])]
          at hrest
        exact (List.cons.inj hrest).2
      · rwa [List.filter_cons_of_neg (by simp [hp]), List.filter_cons_of_neg (by simp [hp])]
          at hrest

end Appraisal

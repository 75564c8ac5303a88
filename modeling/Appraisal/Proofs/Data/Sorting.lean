import Mathlib.Data.List.Sort

set_option autoImplicit false

namespace Appraisal

section

variable {α : Type} {le : α → α → Bool}

theorem parts_eq {test : α → Bool} {front front' back back' : List α}
    (hfront : ∀ y ∈ front, test y = false) (hback : ∀ y ∈ back, test y = true)
    (hfront' : ∀ y ∈ front', test y = false) (hback' : ∀ y ∈ back', test y = true)
    (h : front ++ back = front' ++ back') : front = front' ∧ back = back' := by
  induction front generalizing front' with
  | nil =>
    cases front' with
    | nil => exact ⟨rfl, h⟩
    | cons y front' =>
      have hy : y ∈ back := by
        rw [List.nil_append] at h
        exact h ▸ List.mem_cons_self
      exact absurd ((hback y hy).symm.trans (hfront' y List.mem_cons_self)) Bool.noConfusion
  | cons x front ih =>
    cases front' with
    | nil =>
      have hx : x ∈ back' := by
        rw [List.nil_append] at h
        exact h ▸ List.mem_cons_self
      exact absurd ((hback' x hx).symm.trans (hfront x List.mem_cons_self)) Bool.noConfusion
    | cons y front' =>
      obtain ⟨rfl, hrest⟩ := List.cons.inj h
      obtain ⟨rfl, rfl⟩ := ih (fun z hz => hfront z (List.mem_cons_of_mem x hz))
        (fun z hz => hfront' z (List.mem_cons_of_mem x hz)) hrest
      exact ⟨rfl, rfl⟩

variable (htrans : ∀ x y z, le x y = true → le y z = true → le x z = true)
  (htotal : ∀ x y, (le x y || le y x) = true)

include htrans htotal

/-- The head of a list goes before the first element of the sorted rest that does not come before
it. -/
theorem exists_mergeSort_cons (x : α) (l : List α) : ∃ front back,
    (x :: l).mergeSort le = front ++ x :: back ∧ l.mergeSort le = front ++ back ∧
      (∀ y ∈ front, le x y = false) ∧ ∀ y ∈ back, le x y = true := by
  obtain ⟨front, back, hsorted, hrest, hfront⟩ := List.mergeSort_cons htrans htotal x l
  refine ⟨front, back, hsorted, hrest, fun y hy => by simpa using hfront y hy, ?_⟩
  have hpairs := hsorted ▸ List.pairwise_mergeSort htrans htotal (x :: l)
  exact fun y hy => List.rel_of_pairwise_cons (List.pairwise_append.1 hpairs).2.1 hy

theorem filter_mergeSort (p : α → Bool) (l : List α) :
    (l.mergeSort le).filter p = (l.filter p).mergeSort le := by
  induction l with
  | nil => simp
  | cons x l ih =>
    obtain ⟨front, back, hsorted, hrest, hfront, hback⟩ := exists_mergeSort_cons htrans htotal x l
    rw [hrest, List.filter_append] at ih
    rw [hsorted, List.filter_append]
    by_cases hx : p x = true
    · obtain ⟨front', back', hsorted', hrest', hfront', hback'⟩ :=
        exists_mergeSort_cons htrans htotal x (l.filter p)
      obtain ⟨rfl, rfl⟩ := parts_eq (fun y hy => hfront y (List.mem_of_mem_filter hy))
        (fun y hy => hback y (List.mem_of_mem_filter hy)) hfront' hback' (ih.trans hrest')
      rw [List.filter_cons_of_pos hx, List.filter_cons_of_pos hx, hsorted']
    · rw [List.filter_cons_of_neg hx, List.filter_cons_of_neg hx, ih]

end

end Appraisal

import Appraisal.Text.Blank
import Mathlib.Data.List.TakeWhile

set_option autoImplicit false

namespace Appraisal.Text

structure Trimmed (cs : List Char) : Prop where
  head : ∀ c ∈ cs.head?, isBlank c = false
  last : ∀ c ∈ cs.getLast?, isBlank c = false

theorem trimmed_of_ends {cs : List Char} {first last : Char} (hfirst : cs.head? = some first)
    (hlast : cs.getLast? = some last) (hfirst' : isBlank first = false)
    (hlast' : isBlank last = false) : Trimmed cs where
  head _ hc := Option.some.inj (hfirst.symm.trans hc) ▸ hfirst'
  last _ hc := Option.some.inj (hlast.symm.trans hc) ▸ hlast'

theorem dropWhile_append_of_head {p : Char → Bool} {front rest : List Char}
    (hfront : ∀ c ∈ front, p c = true) (hrest : ∀ c ∈ rest.head?, p c = false) :
    (front ++ rest).dropWhile p = rest := by
  rw [List.dropWhile_append_of_pos hfront]
  cases rest with
  | nil => rfl
  | cons c rest => rw [List.dropWhile_cons, hrest c rfl, if_neg Bool.false_ne_true]

theorem trimEnd_append {cs after : List Char} (hlast : ∀ c ∈ cs.getLast?, isBlank c = false)
    (hafter : allBlank after = true) : trimEnd (cs ++ after) = cs := by
  have hback : ∀ c ∈ after.reverse, isBlank c = true := fun c hc =>
    List.all_eq_true.1 hafter c (List.mem_reverse.1 hc)
  rw [trimEnd, List.reverse_append, dropWhile_append_of_head hback, List.reverse_reverse]
  rwa [List.head?_reverse]

theorem trim_surrounded {before cs after : List Char} (hbefore : allBlank before = true)
    (hcs : Trimmed cs) (hafter : allBlank after = true) : trim (before ++ cs ++ after) = cs := by
  have hfront := List.all_eq_true.1 hbefore
  cases cs with
  | nil =>
    -- nothing but blanks: all of them go at the start
    have hall : ∀ c ∈ before ++ after, isBlank c = true :=
      List.forall_mem_append.2 ⟨hfront, List.all_eq_true.1 hafter⟩
    rw [List.append_nil, trim, trimStart, List.dropWhile_eq_nil_iff.2 hall]
    rfl
  | cons c r =>
    have hhead : ∀ d ∈ (c :: r ++ after).head?, isBlank d = false := hcs.head
    rw [trim, trimStart, List.append_assoc, dropWhile_append_of_head hfront hhead,
      trimEnd_append hcs.last hafter]

theorem getLast?_trimEnd (cs : List Char) : ∀ c ∈ (trimEnd cs).getLast?, isBlank c = false := by
  intro c hc
  have hhead := List.head?_dropWhile_not isBlank cs.reverse
  rw [trimEnd, List.getLast?_reverse, Option.mem_def] at hc
  rwa [hc] at hhead

theorem trim_eq_nil_iff {cs : List Char} : trim cs = [] ↔ allBlank cs = true := by
  constructor
  · intro h
    obtain ⟨tail, htail, hblank⟩ := exists_trimEnd_append (trimStart cs)
    have hnil : trimEnd (trimStart cs) = [] := h
    rw [hnil, List.nil_append] at htail
    have hstart : ∀ c ∈ cs.takeWhile isBlank, isBlank c = true := fun _ => List.mem_takeWhile_imp
    have hrest : ∀ c ∈ cs.dropWhile isBlank, isBlank c = true :=
      List.all_eq_true.1 (htail.symm ▸ hblank : allBlank (trimStart cs) = true)
    have hall := List.forall_mem_append.2 ⟨hstart, hrest⟩
    rw [List.takeWhile_append_dropWhile] at hall
    exact List.all_eq_true.2 hall
  · intro h
    rw [trim, trimStart, List.dropWhile_eq_nil_iff.2 (List.all_eq_true.1 h)]
    rfl

end Appraisal.Text

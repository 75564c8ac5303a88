import Appraisal.Proofs.Pattern.Letters

set_option autoImplicit false

namespace Appraisal.Pattern

def opening : Nat → Pattern → Pattern
  | 0, _ => .empty
  | n + 1, .seq a b => .seq a (opening n b)
  | _ + 1, r => r

def avoids (excluded : List Char) (r : Pattern) : Bool :=
  r.letters.all (fun set => excluded.all (fun c => !set.contains c))

/-- Each word is seen to begin with a character other than these. -/
def startsOutside (excluded : List Char) : Pattern → Bool
  | .empty => false
  | .chars set => excluded.all (fun c => !set.contains c)
  | .assertion _ => false
  | .seq a b => a.startsOutside excluded || a.letters.isEmpty && b.startsOutside excluded
  | .alt a b => a.startsOutside excluded && b.startsOutside excluded
  | .repetition body least _ _ => 0 < least && body.startsOutside excluded

theorem Accepts.exists_opening {r : Pattern} {w : List Char} (h : r.Accepts w) (n : Nat) :
    ∃ u, u <+: w ∧ (r.opening n).Accepts u := by
  induction n generalizing r w with
  | zero => exact ⟨[], List.nil_prefix, rfl⟩
  | succ n ih =>
    cases r with
    | seq a b =>
      obtain ⟨u, v, hu, hv, rfl⟩ := h
      obtain ⟨t, ht, hopening⟩ := ih hv
      exact ⟨u ++ t, (List.prefix_append_right_inj u).2 ht, u, t, hu, hopening, rfl⟩
    | empty => exact ⟨w, List.prefix_rfl, h⟩
    | chars set => exact ⟨w, List.prefix_rfl, h⟩
    | assertion a => exact ⟨w, List.prefix_rfl, h⟩
    | alt a b => exact ⟨w, List.prefix_rfl, h⟩
    | repetition body least most greedy => exact ⟨w, List.prefix_rfl, h⟩

theorem Occurs.opening {r : Pattern} {cs : List Char} (h : r.Occurs cs) {n : Nat}
    (hfloat : (r.opening n).isFloating = true) : (r.opening n).Occurs cs := by
  obtain ⟨w, hw, hacc⟩ := exists_infix_of_occurs h
  obtain ⟨u, hu, hopening⟩ := hacc.exists_opening n
  exact (occurs_iff hfloat cs).2 ⟨u, hu.isInfix.trans hw, hopening⟩

theorem Accepts.not_mem_of_avoids {r : Pattern} {excluded w : List Char} (h : r.Accepts w)
    (hr : r.avoids excluded = true) : ∀ c ∈ excluded, c ∉ w := by
  intro c hc hcw
  obtain ⟨set, hset, hin⟩ := h.mem_letters c hcw
  have hnot := List.all_eq_true.1 (List.all_eq_true.1 hr set hset) c hc
  simp [hin] at hnot

theorem Accepts.exists_first {r : Pattern} {excluded w : List Char} (h : r.Accepts w)
    (hr : r.startsOutside excluded = true) : ∃ c u, w = c :: u ∧ c ∉ excluded := by
  induction r generalizing w with
  | empty => simp [startsOutside] at hr
  | chars set =>
    obtain ⟨c, hc, rfl⟩ := h
    refine ⟨c, [], rfl, fun hmem => ?_⟩
    have hnot := List.all_eq_true.1 hr c hmem
    simp [hc] at hnot
  | assertion a => simp [startsOutside] at hr
  | seq a b iha ihb =>
    obtain ⟨u, v, hu, hv, rfl⟩ := h
    simp only [startsOutside, Bool.or_eq_true, Bool.and_eq_true, List.isEmpty_iff] at hr
    rcases hr with hr | ⟨hletters, hr⟩
    · obtain ⟨c, t, rfl, hc⟩ := iha hu hr
      exact ⟨c, t ++ v, rfl, hc⟩
    · -- without letters the first part has the empty word only
      have hnil : u = [] := List.eq_nil_iff_forall_not_mem.2 fun c hc => by
        obtain ⟨set, hset, -⟩ := hu.mem_letters c hc
        simp [hletters] at hset
      rw [hnil, List.nil_append]
      exact ihb hv hr
  | alt a b iha ihb =>
    simp only [startsOutside, Bool.and_eq_true] at hr
    rcases h with h | h
    · exact iha h hr.1
    · exact ihb h hr.2
  | repetition body least most greedy ih =>
    obtain ⟨parts, hleast, -, hparts, rfl⟩ := h
    simp only [startsOutside, Bool.and_eq_true, decide_eq_true_eq] at hr
    cases parts with
    | nil => exact absurd hleast (Nat.not_le.2 hr.1)
    | cons part parts =>
      obtain ⟨c, t, rfl, hc⟩ := ih (hparts part List.mem_cons_self) hr.2
      exact ⟨c, t ++ parts.flatten, rfl, hc⟩

theorem not_accepts_nil {r : Pattern} (hr : r.startsOutside [] = true) : ¬ r.Accepts [] := by
  intro h
  obtain ⟨c, u, hw, -⟩ := h.exists_first hr
  exact absurd hw (by simp)

end Appraisal.Pattern

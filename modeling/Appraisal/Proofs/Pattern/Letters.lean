import Appraisal.Proofs.Pattern.Words

set_option autoImplicit false

/-!
# Which characters the words of a pattern have

The characters of a word come from the letters of the pattern. From the pattern alone it can be told
that each of its words has a character outside some sets, or ends in none of some characters, and
so that a placeholder put at the end of a text cannot take part in a match.
-/
namespace Appraisal

namespace Unicode.CharSet

def ranges? : CharSet → Option (List Range)
  | .ranges rs => some rs
  | .union s t => do return (← s.ranges?) ++ (← t.ranges?)
  | .compl _ => Option.none
  | .inter _ _ => Option.none

def apart (s t : CharSet) : Bool :=
  match s.ranges?, t.ranges? with
  | some rs, some ts => rs.all (fun r => ts.all (fun u => r.last < u.first || u.last < r.first))
  | _, _ => false

theorem contains_of_ranges? {s : CharSet} {rs : List Range} (h : s.ranges? = some rs) (c : Char) :
    s.contains c = Range.anyContains rs c := by
  induction s generalizing rs with
  | ranges ts =>
    obtain rfl := Option.some.inj h
    rfl
  | compl s => simp [ranges?] at h
  | union s t ihs iht =>
    simp only [ranges?, Option.bind_eq_bind, Option.bind_eq_some_iff] at h
    obtain ⟨ss, hs, ts, ht, hrs⟩ := h
    obtain rfl := Option.some.inj hrs
    rw [contains_union, ihs hs, iht ht, Range.anyContains, Range.anyContains, Range.anyContains,
      List.any_append]
  | inter s t => simp [ranges?] at h

theorem not_contains_of_apart {s t : CharSet} (h : s.apart t = true) {c : Char}
    (hs : s.contains c = true) : t.contains c = false := by
  unfold apart at h
  split at h
  · rename_i rs ts hrs hts
    rw [contains_of_ranges? hrs, Range.anyContains, List.any_eq_true] at hs
    obtain ⟨r, hr, hrc⟩ := hs
    rw [contains_of_ranges? hts, Range.anyContains, List.any_eq_false]
    intro u hu huc
    have hru := List.all_eq_true.1 (List.all_eq_true.1 h r hr) u hu
    simp only [Range.covers, Bool.and_eq_true, Bool.or_eq_true, decide_eq_true_eq] at *
    omega
  · exact absurd h (by simp)

end Unicode.CharSet

open Unicode

namespace Pattern

def letters : Pattern → List CharSet
  | .empty => []
  | .chars set => [set]
  | .assertion _ => []
  | .seq a b => a.letters ++ b.letters
  | .alt a b => a.letters ++ b.letters
  | .repetition body _ _ _ => body.letters

/-- Each word is seen to have a character that is in none of the sets. -/
def needsBeyond (sets : List CharSet) : Pattern → Bool
  | .empty => false
  | .chars set => sets.all set.apart
  | .assertion _ => false
  | .seq a b => a.needsBeyond sets || b.needsBeyond sets
  | .alt a b => a.needsBeyond sets && b.needsBeyond sets
  | .repetition body least _ _ => 0 < least && body.needsBeyond sets

def endsOutside (excluded : List Char) : Pattern → Bool
  | .empty => false
  | .chars set => excluded.all (fun c => !set.contains c)
  | .assertion _ => false
  | .seq _ b => b.endsOutside excluded
  | .alt a b => a.endsOutside excluded && b.endsOutside excluded
  | .repetition body least _ _ => 0 < least && body.endsOutside excluded

def charsOf (cs : List Char) : CharSet := .ranges (cs.map Range.single)

/-- No match is seen to reach into a placeholder at the end of a text: a match ends outside of it,
or never has its first character and is not a piece of it. -/
def repels (placeholder : List Char) (r : Pattern) : Bool :=
  r.endsOutside placeholder ||
    (r.needsBeyond [charsOf placeholder] &&
      placeholder.head?.any (fun c => r.letters.all (fun set => !set.contains c)))

theorem Accepts.mem_letters {r : Pattern} {w : List Char} (h : r.Accepts w) :
    ∀ c ∈ w, ∃ set ∈ r.letters, set.contains c = true := by
  induction r generalizing w with
  | empty =>
    obtain rfl := h
    simp
  | chars set =>
    obtain ⟨d, hd, rfl⟩ := h
    intro c hc
    obtain rfl := List.mem_singleton.1 hc
    exact ⟨set, by simp [letters], hd⟩
  | assertion a =>
    obtain rfl := h
    simp
  | seq a b iha ihb =>
    obtain ⟨u, v, hu, hv, rfl⟩ := h
    intro c hc
    rcases List.mem_append.1 hc with hc | hc
    · obtain ⟨set, hset, hin⟩ := iha hu c hc
      exact ⟨set, List.mem_append_left _ hset, hin⟩
    · obtain ⟨set, hset, hin⟩ := ihb hv c hc
      exact ⟨set, List.mem_append_right _ hset, hin⟩
  | alt a b iha ihb =>
    intro c hc
    rcases h with h | h
    · obtain ⟨set, hset, hin⟩ := iha h c hc
      exact ⟨set, List.mem_append_left _ hset, hin⟩
    · obtain ⟨set, hset, hin⟩ := ihb h c hc
      exact ⟨set, List.mem_append_right _ hset, hin⟩
  | repetition body least most greedy ih =>
    obtain ⟨parts, -, -, hparts, rfl⟩ := h
    intro c hc
    obtain ⟨u, hu, hcu⟩ := List.mem_flatten.1 hc
    exact ih (hparts u hu) c hcu

theorem Accepts.exists_beyond {r : Pattern} {sets : List CharSet} {w : List Char}
    (h : r.Accepts w) (hr : r.needsBeyond sets = true) :
    ∃ c ∈ w, ∀ set ∈ sets, set.contains c = false := by
  induction r generalizing w with
  | empty => simp [needsBeyond] at hr
  | chars set =>
    obtain ⟨c, hc, rfl⟩ := h
    refine ⟨c, by simp, fun other hother => ?_⟩
    exact CharSet.not_contains_of_apart (List.all_eq_true.1 hr other hother) hc
  | assertion a => simp [needsBeyond] at hr
  | seq a b iha ihb =>
    obtain ⟨u, v, hu, hv, rfl⟩ := h
    simp only [needsBeyond, Bool.or_eq_true] at hr
    rcases hr with hr | hr
    · obtain ⟨c, hc, hout⟩ := iha hu hr
      exact ⟨c, List.mem_append_left _ hc, hout⟩
    · obtain ⟨c, hc, hout⟩ := ihb hv hr
      exact ⟨c, List.mem_append_right _ hc, hout⟩
  | alt a b iha ihb =>
    simp only [needsBeyond, Bool.and_eq_true] at hr
    rcases h with h | h
    · exact iha h hr.1
    · exact ihb h hr.2
  | repetition body least most greedy ih =>
    obtain ⟨parts, hleast, -, hparts, rfl⟩ := h
    simp only [needsBeyond, Bool.and_eq_true, decide_eq_true_eq] at hr
    obtain ⟨u, hu⟩ := List.exists_mem_of_length_pos (Nat.lt_of_lt_of_le hr.1 hleast)
    obtain ⟨c, hc, hout⟩ := ih (hparts u hu) hr.2
    exact ⟨c, List.mem_flatten.2 ⟨u, hu, hc⟩, hout⟩

theorem Accepts.exists_last {r : Pattern} {excluded w : List Char} (h : r.Accepts w)
    (hr : r.endsOutside excluded = true) : ∃ u c, w = u ++ [c] ∧ c ∉ excluded := by
  induction r generalizing w with
  | empty => simp [endsOutside] at hr
  | chars set =>
    obtain ⟨c, hc, rfl⟩ := h
    refine ⟨[], c, rfl, fun hmem => ?_⟩
    have hnot := List.all_eq_true.1 hr c hmem
    simp [hc] at hnot
  | assertion a => simp [endsOutside] at hr
  | seq a b iha ihb =>
    obtain ⟨u, v, hu, hv, rfl⟩ := h
    obtain ⟨t, c, rfl, hc⟩ := ihb hv hr
    exact ⟨u ++ t, c, (List.append_assoc u t [c]).symm, hc⟩
  | alt a b iha ihb =>
    simp only [endsOutside, Bool.and_eq_true] at hr
    rcases h with h | h
    · exact iha h hr.1
    · exact ihb h hr.2
  | repetition body least most greedy ih =>
    obtain ⟨parts, hleast, -, hparts, rfl⟩ := h
    simp only [endsOutside, Bool.and_eq_true, decide_eq_true_eq] at hr
    have hne : parts ≠ [] := List.ne_nil_of_length_pos (Nat.lt_of_lt_of_le hr.1 hleast)
    obtain ⟨t, c, hlast, hc⟩ := ih (hparts _ (List.getLast_mem hne)) hr.2
    refine ⟨parts.dropLast.flatten ++ t, c, ?_, hc⟩
    calc parts.flatten = (parts.dropLast ++ [parts.getLast hne]).flatten := by
          rw [List.dropLast_concat_getLast]
      _ = parts.dropLast.flatten ++ t ++ [c] := by
          rw [List.flatten_append, List.flatten_singleton, hlast, List.append_assoc]

theorem contains_charsOf {cs : List Char} {c : Char} (h : c ∈ cs) :
    (charsOf cs).contains c = true := by
  rw [charsOf, CharSet.contains, Range.anyContains, List.any_map, List.any_eq_true]
  exact ⟨c, h, by simp [Range.covers, Range.single]⟩

theorem exists_not_mem_of_repels {r : Pattern} {placeholder w : List Char}
    (hr : r.repels placeholder = true) (hw : r.Accepts w) : ∃ c ∈ w, c ∉ placeholder := by
  simp only [repels, Bool.or_eq_true, Bool.and_eq_true] at hr
  rcases hr with hr | ⟨hr, -⟩
  · obtain ⟨u, c, rfl, hc⟩ := hw.exists_last hr
    exact ⟨c, by simp, hc⟩
  · obtain ⟨c, hc, hout⟩ := hw.exists_beyond hr
    refine ⟨c, hc, fun hmem => ?_⟩
    have hnot := hout _ (List.mem_singleton.2 rfl)
    rw [contains_charsOf hmem] at hnot
    exact absurd hnot (by simp)

/-- A word of a pattern that repels a placeholder does not go on into it. -/
theorem eq_nil_of_repels {r : Pattern} {placeholder head into rest : List Char}
    (hr : r.repels placeholder = true) (hw : r.Accepts (head ++ into))
    (hinto : placeholder = into ++ rest) : into = [] := by
  cases into with
  | nil => rfl
  | cons d into =>
    simp only [repels, Bool.or_eq_true, Bool.and_eq_true] at hr
    rcases hr with hr | ⟨-, hr⟩
    · obtain ⟨u, c, heq, hc⟩ := hw.exists_last hr
      have hlast : c ∈ d :: into := by
        have h := congrArg List.getLast? heq
        rw [List.getLast?_append, List.getLast?_concat,
          List.getLast?_eq_some_getLast (by simp), Option.some_or] at h
        rw [← Option.some.inj h]
        exact List.getLast_mem _
      rw [hinto] at hc
      exact absurd (List.mem_append_left rest hlast) hc
    · rw [hinto] at hr
      obtain ⟨set, hset, hin⟩ := hw.mem_letters d (by simp)
      have hnot := List.all_eq_true.1 (show r.letters.all (fun set => !set.contains d) = true from hr)
        set hset
      simp [hin] at hnot

theorem repels_append {r : Pattern} {placeholder cs : List Char} (hfloat : r.isFloating = true)
    (hr : r.repels placeholder = true) (hcs : ¬ r.Occurs cs) :
    ¬ r.Occurs (cs ++ placeholder) := by
  intro h
  obtain ⟨w, ⟨before, after, heq⟩, hw⟩ := exists_infix_of_occurs h
  rcases List.append_eq_append_iff.1 heq with ⟨rest, hrest, -⟩ | ⟨into, hinto, hplaceholder⟩
  · -- the match ends in the text
    exact hcs ((occurs_iff hfloat cs).2 ⟨w, ⟨before, rest, hrest.symm⟩, hw⟩)
  · rcases List.append_eq_append_iff.1 hinto with ⟨head, hhead, hsplit⟩ | ⟨gap, -, hsplit⟩
    · -- it starts in the text and goes on
      subst hsplit
      obtain rfl := eq_nil_of_repels hr hw hplaceholder
      rw [List.append_nil] at hw
      exact hcs ((occurs_iff hfloat cs).2 ⟨head, ⟨before, [], by simp [hhead]⟩, hw⟩)
    · -- it lies in the placeholder
      obtain ⟨c, hc, hnot⟩ := exists_not_mem_of_repels hr hw
      rw [hplaceholder, hsplit] at hnot
      exact hnot (by simp [hc])

/-- A text made of the letters of one pattern has no match of one that needs another letter. -/
theorem not_occurs_of_needsBeyond {r s : Pattern} (h : r.needsBeyond s.letters = true)
    {w : List Char} (hw : s.Accepts w) : ¬ r.Occurs w := by
  intro hocc
  obtain ⟨u, hu, hacc⟩ := exists_infix_of_occurs hocc
  obtain ⟨c, hc, hout⟩ := hacc.exists_beyond h
  obtain ⟨set, hset, hin⟩ := hw.mem_letters c (hu.subset hc)
  rw [hout set hset] at hin
  exact absurd hin (by simp)

end Pattern

end Appraisal

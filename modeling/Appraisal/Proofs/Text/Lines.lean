import Appraisal.Text.Line
import Mathlib.Data.List.Infix

set_option autoImplicit false

namespace Appraisal.Text

theorem fromUTF8?_toUTF8 (s : String) : String.fromUTF8? s.toUTF8 = some s := by
  simp only [String.fromUTF8?, String.toUTF8_eq_toByteArray, dif_pos s.isValidUTF8]
  rfl

theorem lines_of_carriageReturn {r : List Char} (h : r.head? = some '\n') :
    lines ('\r' :: r) = lines r := by
  obtain ⟨rest, rfl⟩ := List.head?_eq_some_iff.1 h
  rw [lines_carriageReturn_newline, lines_newline]

theorem lines_cons_eq {c : Char} {r : List Char} (hc : c ≠ '\n')
    (hr : ¬ (c = '\r' ∧ r.head? = some '\n')) :
    lines (c :: r) = (c :: (lines r).headD []) :: (lines r).tail := by
  rw [lines_cons c r hc hr]
  cases lines r <;> rfl

theorem lines_induction {P : List Char → Prop} (nil : P [])
    (newline : ∀ r, P r → P ('\n' :: r))
    (carriageReturn : ∀ r, P ('\n' :: r) → P ('\r' :: '\n' :: r))
    (char : ∀ c r, c ≠ '\n' → ¬ (c = '\r' ∧ r.head? = some '\n') → P r → P (c :: r))
    (cs : List Char) : P cs := by
  induction cs with
  | nil => exact nil
  | cons c r ih =>
    by_cases hc : c = '\n'
    · subst hc
      exact newline r ih
    by_cases hr : c = '\r' ∧ r.head? = some '\n'
    · obtain ⟨rfl, hr⟩ := hr
      obtain ⟨rest, rfl⟩ := List.head?_eq_some_iff.1 hr
      exact carriageReturn rest ih
    · exact char c r hc hr ih

theorem lines_ne_nil {cs : List Char} (h : cs ≠ []) : lines cs ≠ [] := by
  induction cs using lines_induction with
  | nil => exact absurd rfl h
  | newline r _ => rw [lines_newline]; exact List.cons_ne_nil _ _
  | carriageReturn r _ => rw [lines_carriageReturn_newline]; exact List.cons_ne_nil _ _
  | char c r hc hr _ => rw [lines_cons_eq hc hr]; exact List.cons_ne_nil _ _

theorem length_lines_le (cs : List Char) : (lines cs).length ≤ cs.length := by
  induction cs using lines_induction with
  | nil => exact Nat.le_refl 0
  | newline r ih => exact (lines_newline r).symm ▸ Nat.succ_le_succ ih
  | carriageReturn r ih =>
    rw [lines_of_carriageReturn rfl]
    exact Nat.le_succ_of_le ih
  | char c r hc hr ih =>
    have htail : (lines r).tail.length ≤ r.length := by
      rw [List.length_tail]
      omega
    rw [lines_cons_eq hc hr]
    exact Nat.succ_le_succ htail

theorem lines_pieces (cs : List Char) :
    (lines cs).headD [] <+: cs ∧ ∀ line ∈ lines cs, line <:+: cs := by
  have hlater {line r : List Char} (c : Char) (h : line <:+: r) : line <:+: c :: r :=
    h.trans (List.suffix_cons c r).isInfix
  induction cs using lines_induction with
  | nil => simp
  | newline r ih =>
    rw [lines_newline]
    refine ⟨List.nil_prefix, List.forall_mem_cons.2 ⟨List.nil_infix, fun line h => ?_⟩⟩
    exact hlater _ (ih.2 line h)
  | carriageReturn r ih =>
    rw [lines_of_carriageReturn rfl]
    refine ⟨by rw [lines_newline]; exact List.nil_prefix, fun line h => hlater _ (ih.2 line h)⟩
  | char c r hc hr ih =>
    rw [lines_cons_eq hc hr]
    have hfirst := (List.prefix_cons_inj c).2 ih.1
    refine ⟨hfirst, List.forall_mem_cons.2 ⟨hfirst.isInfix, fun line h => ?_⟩⟩
    exact hlater c (ih.2 line (List.mem_of_mem_tail h))

theorem newline_notMem_of_mem_lines {cs line : List Char} (h : line ∈ lines cs) : '\n' ∉ line := by
  induction cs using lines_induction generalizing line with
  | nil => cases h
  | newline r ih =>
    rw [lines_newline] at h
    rcases List.mem_cons.1 h with rfl | h
    · exact List.not_mem_nil
    · exact ih h
  | carriageReturn r ih =>
    rw [lines_of_carriageReturn rfl] at h
    exact ih h
  | char c r hc hr ih =>
    rw [lines_cons_eq hc hr] at h
    rcases List.mem_cons.1 h with rfl | h
    · refine List.not_mem_cons_of_ne_of_not_mem (Ne.symm hc) ?_
      cases hlines : lines r with
      | nil => exact List.not_mem_nil
      | cons first rest => exact ih (hlines.symm ▸ List.mem_cons_self)
    · exact ih (List.mem_of_mem_tail h)

/-- The text with a carriage return before each line feed. -/
def withReturns (cs : List Char) : List Char :=
  cs.flatMap (fun c => if c = '\n' then ['\r', '\n'] else [c])

theorem lines_withReturns {cs : List Char} (h : '\r' ∉ cs) : lines (withReturns cs) = lines cs := by
  induction cs with
  | nil => rfl
  | cons c r ih =>
    obtain ⟨hc, hr⟩ := not_or.1 (List.mem_cons.not.1 h)
    have htail : lines (withReturns r) = lines r := ih hr
    by_cases hnewline : c = '\n'
    · subst hnewline
      change lines ('\r' :: '\n' :: withReturns r) = lines ('\n' :: r)
      rw [lines_carriageReturn_newline, lines_newline, htail]
    · have hcons : withReturns (c :: r) = c :: withReturns r := by
        rw [withReturns, List.flatMap_cons, if_neg hnewline]
        rfl
      have hlone {t : List Char} : ¬ (c = '\r' ∧ t.head? = some '\n') := fun hcr => hc hcr.1.symm
      rw [hcons, lines_cons_eq hnewline hlone, lines_cons_eq hnewline hlone, htail]

theorem firstLine_cases (cs : List Char) :
    firstLine cs = [] ∨ ∃ line ∈ lines cs, firstLine cs = trim line := by
  unfold firstLine
  cases hfind : ((lines cs).map trim).find? (fun line => !line.isEmpty) with
  | none => exact .inl rfl
  | some line =>
    obtain ⟨source, hsource, rfl⟩ := List.mem_map.1 (List.mem_of_find?_eq_some hfind)
    exact .inr ⟨source, hsource, rfl⟩

theorem firstLine_isInfix (cs : List Char) : firstLine cs <:+: cs := by
  rcases firstLine_cases cs with h | ⟨line, hline, h⟩
  · exact h ▸ List.nil_infix
  · exact h ▸ (trim_isInfix line).trans ((lines_pieces cs).2 line hline)

theorem newline_notMem_firstLine (cs : List Char) : '\n' ∉ firstLine cs := by
  rcases firstLine_cases cs with h | ⟨line, hline, h⟩
  · exact h ▸ List.not_mem_nil
  · exact h ▸ fun hmem => newline_notMem_of_mem_lines hline ((trim_isInfix line).mem hmem)

theorem lines_append (cs r : List Char) :
    lines (cs ++ '\n' :: r) = lines (cs ++ ['\n']) ++ lines r := by
  induction cs using lines_induction with
  | nil => rw [List.nil_append, List.nil_append, lines_newline, lines_newline]; rfl
  | newline t ih => rw [List.cons_append, List.cons_append, lines_newline, lines_newline, ih]; rfl
  | carriageReturn t ih =>
    change lines ('\r' :: '\n' :: (t ++ '\n' :: r)) = lines ('\r' :: '\n' :: (t ++ ['\n'])) ++ _
    rw [lines_of_carriageReturn rfl, lines_of_carriageReturn rfl]
    exact ih
  | char c t hc ht ih =>
    rw [List.cons_append, List.cons_append]
    by_cases hend : c = '\r' ∧ t = []
    · obtain ⟨rfl, rfl⟩ := hend
      rw [List.nil_append, lines_carriageReturn_newline, List.nil_append,
        lines_carriageReturn_newline]
      rfl
    · have hhead (s : List Char) : ¬ (c = '\r' ∧ (t ++ '\n' :: s).head? = some '\n') := by
        cases t with
        | nil => exact fun h => hend ⟨h.1, rfl⟩
        | cons d t => exact ht
      have hsome : lines (t ++ ['\n']) ≠ [] :=
        lines_ne_nil (List.append_ne_nil_of_right_ne_nil t (List.cons_ne_nil _ _))
      rw [lines_cons_eq hc (hhead r), lines_cons_eq hc (hhead []), ih]
      cases hlines : lines (t ++ ['\n']) with
      | nil => exact absurd hlines hsome
      | cons first rest => rfl

section Words

variable {w : List Char}

theorem not_prefix_cons {c : Char} {r : List Char} (hw : w ≠ []) (hc : c ∉ w) : ¬ w <+: c :: r := by
  intro h
  rcases List.prefix_cons_iff.1 h with rfl | ⟨t, rfl, -⟩
  · exact hw rfl
  · exact hc List.mem_cons_self

theorem prefix_head_iff (hnewline : '\n' ∉ w) (hreturn : '\r' ∉ w) (cs : List Char) :
    w <+: (lines cs).headD [] ↔ w <+: cs := by
  by_cases hw : w = []
  · simp [hw]
  have hempty : ¬ w <+: [] := fun h => hw (List.prefix_nil.1 h)
  induction cs using lines_induction generalizing w with
  | nil => rfl
  | newline r _ =>
    rw [lines_newline]
    exact iff_of_false hempty (not_prefix_cons hw hnewline)
  | carriageReturn r _ =>
    rw [lines_carriageReturn_newline]
    exact iff_of_false hempty (not_prefix_cons hw hreturn)
  | char c r hc hr ih =>
    rw [lines_cons_eq hc hr, List.headD_cons, List.prefix_cons_iff, List.prefix_cons_iff]
    refine or_congr_right (exists_congr fun t => and_congr_right fun ht => ?_)
    subst ht
    by_cases ht : t = []
    · simp [ht]
    · exact ih (fun h => hnewline (List.mem_cons_of_mem c h))
        (fun h => hreturn (List.mem_cons_of_mem c h)) ht fun h => ht (List.prefix_nil.1 h)

theorem exists_line_iff (hw : w ≠ []) (hnewline : '\n' ∉ w) (hreturn : '\r' ∉ w)
    (cs : List Char) :
    (∃ line ∈ lines cs, w <+: line) ↔ w <+: cs ∨ ∃ line ∈ (lines cs).tail, w <+: line := by
  rw [← prefix_head_iff hnewline hreturn cs]
  cases lines cs with
  | nil => simpa using hw
  | cons first rest => simp

theorem exists_tail_line_iff (hw : w ≠ []) (hnewline : '\n' ∉ w) (hreturn : '\r' ∉ w)
    (cs : List Char) :
    (∃ line ∈ (lines cs).tail, w <+: line) ↔ '\n' :: w <:+: cs := by
  have hskip {c : Char} (r : List Char) (hc : c ≠ '\n') :
      '\n' :: w <:+: c :: r ↔ '\n' :: w <:+: r := by
    rw [List.infix_cons_iff, List.cons_prefix_cons]
    exact or_iff_right fun h => hc h.1.symm
  induction cs using lines_induction with
  | nil => simp
  | newline r ih =>
    rw [lines_newline, List.tail_cons, exists_line_iff hw hnewline hreturn, List.infix_cons_iff,
      List.cons_prefix_cons, and_iff_right rfl]
    exact or_congr_right ih
  | carriageReturn r ih =>
    rw [lines_of_carriageReturn rfl, hskip _ (by decide)]
    exact ih
  | char c r hc hr ih =>
    rw [lines_cons_eq hc hr, List.tail_cons, hskip r hc]
    exact ih

/-- A word begins a line where it stands at the start or behind a line feed. -/
theorem begins_line_iff (hw : w ≠ []) (hnewline : '\n' ∉ w) (hreturn : '\r' ∉ w)
    (cs : List Char) :
    (∃ line ∈ lines cs, w <+: line) ↔ '\n' :: w <:+: '\n' :: cs := by
  rw [exists_line_iff hw hnewline hreturn, exists_tail_line_iff hw hnewline hreturn,
    List.infix_cons_iff, List.cons_prefix_cons, and_iff_right rfl]

end Words

end Appraisal.Text

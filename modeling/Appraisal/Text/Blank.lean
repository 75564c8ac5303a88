import Appraisal.Unicode.Ranges

set_option autoImplicit false

namespace Appraisal.Text

/-- The Unicode property `White_Space`. -/
def isBlank (c : Char) : Bool := Unicode.Range.anyContains Unicode.blankRanges c

def trimStart (cs : List Char) : List Char := cs.dropWhile isBlank

def trimEnd (cs : List Char) : List Char := (cs.reverse.dropWhile isBlank).reverse

def trim (cs : List Char) : List Char := trimEnd (trimStart cs)

def allBlank (cs : List Char) : Bool := cs.all isBlank

@[simp] theorem trim_nil : trim [] = [] := rfl

theorem exists_trimEnd_append (cs : List Char) :
    ∃ tail, cs = trimEnd cs ++ tail ∧ allBlank tail = true := by
  refine ⟨(cs.reverse.takeWhile isBlank).reverse, ?_, ?_⟩
  · rw [trimEnd, ← List.reverse_append, List.takeWhile_append_dropWhile, List.reverse_reverse]
  · have h : ∀ l : List Char, (l.takeWhile isBlank).all isBlank = true := by
      intro l
      induction l with
      | nil => rfl
      | cons c r ih => cases hc : isBlank c <;> simp_all
    simp only [allBlank, List.all_reverse, h]

theorem trim_isInfix (cs : List Char) : trim cs <:+: cs := by
  obtain ⟨tail, htail, -⟩ := exists_trimEnd_append (trimStart cs)
  have hprefix : trim cs <+: trimStart cs := ⟨tail, htail.symm⟩
  exact hprefix.isInfix.trans (List.dropWhile_suffix isBlank).isInfix

end Appraisal.Text

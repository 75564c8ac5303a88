import Appraisal.Proofs.Pattern.Words
import Appraisal.Scan.Redaction

set_option autoImplicit false

namespace Appraisal.Scan

def SecretAt (rules : RuleSet) (line : List Char) (i : Nat) : Prop :=
  ∃ d ∈ rules.secrets, d.pattern.MatchesAt line i

def FirstSecretAt (rules : RuleSet) (line : List Char) (i : Nat) : Prop :=
  SecretAt rules line i ∧ ∀ j < i, ¬ SecretAt rules line j

theorem FirstSecretAt.unique {rules : RuleSet} {line : List Char} {i j : Nat}
    (hi : FirstSecretAt rules line i) (hj : FirstSecretAt rules line j) : i = j := by
  have hij : ¬ i < j := fun h => hj.2 i h hi.1
  have hji : ¬ j < i := fun h => hi.2 j h hj.1
  omega

theorem mem_secretStarts {rules : RuleSet} {line : List Char} {i : Nat} :
    i ∈ rules.secrets.filterMap (fun d => (d.pattern.find? line).map (·.start)) ↔
      ∃ d ∈ rules.secrets, ∃ o, d.pattern.find? line = some o ∧ o.start = i := by
  simp only [List.mem_filterMap, Option.map_eq_some_iff]

theorem exists_find?_of_secretAt {rules : RuleSet} {line : List Char} {i : Nat}
    (h : SecretAt rules line i) :
    ∃ d ∈ rules.secrets, ∃ o, d.pattern.find? line = some o ∧ o.start ≤ i := by
  obtain ⟨d, hd, hi⟩ := h
  cases hfind : d.pattern.find? line with
  | none => exact absurd ⟨i, hi⟩ ((Pattern.find?_eq_none_iff d.pattern line).1 hfind)
  | some o =>
    refine ⟨d, hd, o, hfind, ?_⟩
    have hfirst := (Pattern.find?_start hfind).2 i
    exact Nat.le_of_not_lt (fun hlt => hfirst hlt hi)

theorem earliestSecret?_eq_none_iff (rules : RuleSet) (line : List Char) :
    earliestSecret? rules line = none ↔ ∀ i, ¬ SecretAt rules line i := by
  rw [earliestSecret?, List.min?_eq_none_iff, List.eq_nil_iff_forall_not_mem]
  simp only [mem_secretStarts]
  constructor
  · intro h i hi
    obtain ⟨d, hd, o, ho, -⟩ := exists_find?_of_secretAt hi
    exact h o.start ⟨d, hd, o, ho, rfl⟩
  · rintro h i ⟨d, hd, o, ho, rfl⟩
    exact h o.start ⟨d, hd, (Pattern.find?_start ho).1⟩

theorem firstSecretAt_of_earliestSecret? {rules : RuleSet} {line : List Char} {i : Nat}
    (h : earliestSecret? rules line = some i) : FirstSecretAt rules line i := by
  rw [earliestSecret?, List.min?_eq_some_iff] at h
  obtain ⟨hmem, hleast⟩ := h
  obtain ⟨d, hd, o, ho, rfl⟩ := mem_secretStarts.1 hmem
  refine ⟨⟨d, hd, (Pattern.find?_start ho).1⟩, fun j hj hsecret => ?_⟩
  obtain ⟨e, he, u, hu, hle⟩ := exists_find?_of_secretAt hsecret
  have hmin := hleast u.start (mem_secretStarts.2 ⟨e, he, u, hu, rfl⟩)
  omega

theorem earliestSecret?_eq_some_iff (rules : RuleSet) (line : List Char) (i : Nat) :
    earliestSecret? rules line = some i ↔ FirstSecretAt rules line i := by
  constructor
  · exact firstSecretAt_of_earliestSecret?
  · intro h
    cases hfirst : earliestSecret? rules line with
    | none => exact absurd h.1 ((earliestSecret?_eq_none_iff rules line).1 hfirst i)
    | some j => rw [(firstSecretAt_of_earliestSecret? hfirst).unique h]

theorem storedLine_isInfix (rules : RuleSet) (placeholder line : List Char) :
    storedLine rules placeholder line <:+: redact rules placeholder line :=
  (Text.truncate_isPrefix _ _).isInfix.trans (Text.trim_isInfix _)

/-- Two lines agree as far as they may be kept: on all of it where no secret rule matches, and else
on where the first match starts and on what stands before it. -/
def AgreeBeforeSecrets (rules : RuleSet) (a b : List Char) : Prop :=
  (a = b ∧ ∀ i, ¬ SecretAt rules a i) ∨
    ∃ i, FirstSecretAt rules a i ∧ FirstSecretAt rules b i ∧ a.take i = b.take i

theorem redact_eq_of_agree {rules : RuleSet} {a b : List Char} (placeholder : List Char)
    (h : AgreeBeforeSecrets rules a b) : redact rules placeholder a = redact rules placeholder b := by
  rcases h with ⟨rfl, -⟩ | ⟨i, ha, hb, htake⟩
  · rfl
  · rw [redact_of_some ((earliestSecret?_eq_some_iff rules a i).2 ha),
      redact_of_some ((earliestSecret?_eq_some_iff rules b i).2 hb), htake]

theorem storedLine_eq_of_agree {rules : RuleSet} {a b : List Char} (placeholder : List Char)
    (h : AgreeBeforeSecrets rules a b) :
    storedLine rules placeholder a = storedLine rules placeholder b := by
  rw [storedLine, storedLine, redact_eq_of_agree placeholder h]

end Appraisal.Scan

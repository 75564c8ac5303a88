import Appraisal.Proofs.Scan.Findings
import Appraisal.Proofs.Scan.StoredLine

set_option autoImplicit false

namespace Appraisal.Scan

variable {rules : RuleSet}

/-- The text is what is stored of the line with a placeholder from place `i` on, or from one before
it. -/
def CutBefore (placeholder line : List Char) (i : Nat) (stored : String) : Prop :=
  ∃ j ≤ i, stored =
    String.ofList (Text.truncate storedLimit (Text.trim (line.take j ++ placeholder)))

theorem cutBefore_of_secretAt {line : List Char} {i : Nat} (h : SecretAt rules line i)
    (placeholder : List Char) :
    CutBefore placeholder line i (String.ofList (storedLine rules placeholder line)) := by
  cases hfirst : earliestSecret? rules line with
  | none => exact absurd h ((earliestSecret?_eq_none_iff rules line).1 hfirst i)
  | some j =>
    have hle : j ≤ i :=
      Nat.le_of_not_lt (fun hlt => (firstSecretAt_of_earliestSecret? hfirst).2 i hlt h)
    exact ⟨j, hle, by rw [storedLine, redact_of_some hfirst]⟩

theorem storedLine_of_no_secrets (h : rules.secrets = []) (placeholder line : List Char) :
    storedLine rules placeholder line = Text.truncate storedLimit (Text.trim line) := by
  rw [storedLine, redact_of_none]
  simp [earliestSecret?, h]

inductive Finding.Stores (f : Finding) : Nat → String → Prop
  | own : f.Stores f.lineNumber f.contextLine
  | around {c : ContextLine} (hc : c ∈ f.context) : f.Stores c.lineNumber c.text

theorem stores_findingOf {path : String} {limits : Limits} {numbered : List (List Char × Nat)}
    {line : List Char} {number : Nat} {d : Detector} {o : Pattern.Occurrence}
    (hline : (line, number) ∈ numbered) {n : Nat} {stored : String}
    (h : (findingOf path rules limits numbered line number d o).Stores n stored) :
    ∃ source, (source, n) ∈ numbered ∧
      stored = String.ofList (storedLine rules limits.placeholder.toList source) := by
  cases h with
  | own => exact ⟨line, hline, rfl⟩
  | @around c hc =>
    change c ∈ (if d.isSecret then [] else contextOf rules limits numbered number) at hc
    split at hc
    · cases hc
    · obtain ⟨e, he, rfl⟩ := List.mem_map.1 hc
      exact ⟨e.1, (List.mem_filter.1 he).1, rfl⟩

theorem stores_of_mem_scan {path : String} {content : ByteArray} {statedSize : Nat}
    {limits : Limits} {f : Finding} (hf : f ∈ (scan path content statedSize rules limits).findings)
    {n : Nat} {stored : String} (h : f.Stores n stored) :
    ∃ line, (line, n) ∈ (linesOf content).zipIdx 1 ∧
      stored = String.ofList (storedLine rules limits.placeholder.toList line) := by
  obtain ⟨text, htext, hfindings⟩ := exists_text_of_scanned (scanned_of_mem_findings hf)
  rw [hfindings, mem_textFindings] at hf
  obtain ⟨line, number, hline, d, -, o, -, rfl⟩ := hf
  obtain ⟨source, hsource, hstored⟩ := stores_findingOf hline h
  exact ⟨source, by rwa [linesOf, htext], hstored⟩

end Appraisal.Scan

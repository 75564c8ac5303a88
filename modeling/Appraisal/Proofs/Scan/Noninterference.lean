import Appraisal.Proofs.Scan.Findings
import Appraisal.Proofs.Scan.StoredLine
import Mathlib.Data.List.Forall2

set_option autoImplicit false

namespace Appraisal.Scan

variable {rules : RuleSet}

theorem rel_of_mem_zipIdx {α β : Type} {r : α → β → Prop} {as : List α} {bs : List β}
    (h : List.Forall₂ r as bs) {a : α} {b : β} {n k : Nat} (ha : (a, n) ∈ as.zipIdx k)
    (hb : (b, n) ∈ bs.zipIdx k) : r a b := by
  induction h generalizing k with
  | nil => simp at ha
  | @cons c d as bs hcd _ ih =>
    rw [List.zipIdx_cons, List.mem_cons, Prod.mk.injEq] at ha hb
    rcases ha with ⟨rfl, hn⟩ | ha
    · rcases hb with ⟨rfl, -⟩ | hb
      · exact hcd
      · have hle := (List.mem_zipIdx hb).1
        omega
    · rcases hb with ⟨-, hn⟩ | hb
      · have hle := (List.mem_zipIdx ha).1
        omega
      · exact ih ha hb

theorem contextOf_eq_of_agree {as bs : List (List Char)}
    (h : List.Forall₂ (AgreeBeforeSecrets rules) as bs) (limits : Limits) (number k : Nat) :
    contextOf rules limits (as.zipIdx k) number = contextOf rules limits (bs.zipIdx k) number := by
  induction h generalizing k with
  | nil => rfl
  | cons hab _ ih =>
    have htail := ih (k + 1)
    simp only [contextOf, linesAround] at htail
    simp only [contextOf, linesAround, List.zipIdx_cons, List.filter_cons]
    split
    · rw [List.map_cons, List.map_cons, htail, storedLine_eq_of_agree _ hab]
    · exact htail

/-- The stored lines of a finding do not depend on what follows the first secret of any line. -/
theorem stored_eq_of_agree_before_secrets {pathA pathB : String} {contentA contentB : ByteArray}
    {sizeA sizeB : Nat} {limits : Limits} {findingsA findingsB : List Finding}
    (hA : scan pathA contentA sizeA rules limits = .scanned findingsA)
    (hB : scan pathB contentB sizeB rules limits = .scanned findingsB)
    (hlines : List.Forall₂ (AgreeBeforeSecrets rules) (linesOf contentA) (linesOf contentB)) :
    ∀ f ∈ findingsA, ∀ g ∈ findingsB, f.lineNumber = g.lineNumber → f.category = g.category →
      f.contextLine = g.contextLine ∧ f.context = g.context ∧
        (f.category = .secret → f.snippet = g.snippet) := by
  obtain ⟨textA, htextA, rfl⟩ := exists_text_of_scanned hA
  obtain ⟨textB, htextB, rfl⟩ := exists_text_of_scanned hB
  simp only [linesOf, htextA, htextB] at hlines
  intro f hf g hg hnumber hcategory
  obtain ⟨a, m, ha, d, -, o, -, rfl⟩ := mem_textFindings.1 hf
  obtain ⟨b, n, hb, e, -, u, -, rfl⟩ := mem_textFindings.1 hg
  obtain rfl : m = n := hnumber
  have hagree : AgreeBeforeSecrets rules a b := rel_of_mem_zipIdx hlines ha hb
  have hsecret : d.isSecret = e.isSecret := by
    have hcat : d.rule.category = e.rule.category := hcategory
    rw [Detector.isSecret, Detector.isSecret, hcat]
  refine ⟨?_, ?_, ?_⟩
  · simp only [findingOf, storedLine_eq_of_agree _ hagree]
  · simp only [findingOf, numberedLines, hsecret, contextOf_eq_of_agree hlines]
  · intro hcat
    have hd : d.isSecret = true := by
      rw [Detector.isSecret, show d.rule.category = .secret from hcat]
      rfl
    simp only [findingOf, ← hsecret, hd, if_true]

def keyContent (key : String) : ByteArray := ("eval(x)\nmy key=" ++ key ++ "\n").toUTF8

def keyScan (key : String) : FileScan := scan "bot.py" (keyContent key) 0 keyRules .default

theorem agree_keyContent : List.Forall₂ (AgreeBeforeSecrets keyRules)
    (linesOf (keyContent "one")) (linesOf (keyContent "three")) := by
  have hone : linesOf (keyContent "one") = ["eval(x)".toList, "my key=one".toList] := by
    decide +kernel
  have hthree : linesOf (keyContent "three") = ["eval(x)".toList, "my key=three".toList] := by
    decide +kernel
  rw [hone, hthree]
  refine .cons (.inl ⟨rfl, ?_⟩) (.cons (.inr ⟨3, ?_, ?_, rfl⟩) .nil)
  · exact (earliestSecret?_eq_none_iff _ _).1 (by decide +kernel)
  · exact (earliestSecret?_eq_some_iff _ _ _).1 (by decide +kernel)
  · exact (earliestSecret?_eq_some_iff _ _ _).1 (by decide +kernel)

theorem stored_eq_for_two_keys :
    keyScan "one" = .scanned (keyScan "one").findings ∧
      keyScan "three" = .scanned (keyScan "three").findings ∧
      List.Forall₂ (AgreeBeforeSecrets keyRules) (linesOf (keyContent "one"))
        (linesOf (keyContent "three")) ∧
      (keyScan "one").findings.length = 2 ∧
      ∀ f ∈ (keyScan "one").findings, ∀ g ∈ (keyScan "three").findings,
        f.lineNumber = g.lineNumber → f.category = g.category →
          f.contextLine = g.contextLine ∧ f.context = g.context ∧
            (f.category = .secret → f.snippet = g.snippet) := by
  have hone : keyScan "one" = .scanned (keyScan "one").findings := by decide +kernel
  have hthree : keyScan "three" = .scanned (keyScan "three").findings := by decide +kernel
  exact ⟨hone, hthree, agree_keyContent, by decide +kernel,
    stored_eq_of_agree_before_secrets hone hthree agree_keyContent⟩

end Appraisal.Scan

import Appraisal.Proofs.Analysis.Outcomes
import Appraisal.Proofs.Code.Walk
import Appraisal.Proofs.Text.Lines

set_option autoImplicit false

namespace Appraisal

namespace Analyzer

variable {a : Analyzer} {fs : FileSystem} {metadata : Score.Metadata} {c : Cancellation}
  {files : List SourceFile}

theorem exists_text_of_mem_findings {f : Scan.Finding}
    (h : f ∈ (a.analyze fs files metadata c).findings) :
    ∃ file ∈ files, ∃ text,
      f ∈ Scan.textFindings file.relativePath a.settings.rules a.settings.limits text := by
  obtain ⟨o, ho, hf⟩ := List.mem_flatMap.1 (List.mem_mergeSort.1 h)
  obtain ⟨⟨file, i⟩, hfile, rfl⟩ := List.mem_map.1 ho
  change f ∈ (a.outcome fs (c.seen i) file).findings at hf
  have hmem : file ∈ files := List.fst_mem_of_mem_zipIdx hfile
  rcases a.outcome_cases fs file (c.seen i) with ⟨reason, hskip, -⟩ | ⟨-, text, content, hscan⟩
  · rw [hskip] at hf
    cases hf
  · rw [hscan] at hf
    exact ⟨file, hmem, text, hf⟩

theorem exists_scoped_of_mem_entities {e : Code.Entity}
    (h : e ∈ (a.analyze fs files metadata c).entities) :
    ∃ file ∈ files, ∃ s : Code.Scoped, s.definition.form ≠ .moduleForm ∧
      e = a.settings.classifier.entity file.relativePath s := by
  obtain ⟨o, ho, he⟩ := List.mem_flatMap.1 h
  obtain ⟨⟨file, i⟩, hfile, rfl⟩ := List.mem_map.1 ho
  change e ∈ (a.outcome fs (c.seen i) file).entities at he
  have hmem : file ∈ files := List.fst_mem_of_mem_zipIdx hfile
  rcases a.outcome_cases fs file (c.seen i) with ⟨reason, hskip, -⟩ | ⟨-, text, content, hscan⟩
  · rw [hskip] at he
    cases he
  · rw [hscan, FileOutcome.entities, FileOutcome.classification?] at he
    rcases a.classify?_cases file content with hnone | ⟨tree, htree⟩ | ⟨message, herror⟩
    · rw [hnone] at he
      cases he
    · rw [htree] at he
      obtain ⟨s, hs, rfl⟩ := List.mem_map.1 he
      have hwalked := Code.form_of_mem_walk tree.root (List.mem_filter.1 hs).1
      exact ⟨file, hmem, s, hwalked, rfl⟩
    · rw [herror] at he
      cases he

end Analyzer

namespace Scan

theorem newline_notMem_occurrence {pattern : Pattern} {line : List Char} {o : Pattern.Occurrence}
    (hline : '\n' ∉ line) (h : o ∈ pattern.occurrences line) : '\n' ∉ o.text := by
  obtain ⟨p, q, ⟨w, t, hrest, rfl⟩, -, -, -, htext⟩ := Pattern.leads_of_mem_occurrencesFrom h
  have hparts : line = w ++ t := hrest
  rw [htext, Cursor.past_rest hrest]
  intro hmem
  rw [hparts] at hline
  exact hline (List.mem_append_right w (List.mem_of_mem_take hmem))

theorem snippet_cases {path : String} {rules : RuleSet} {limits : Limits} {text : List Char}
    {f : Finding} (h : f ∈ textFindings path rules limits text) :
    f.isSecret = true ∧ f.snippet = limits.placeholder ∨
      f.isSecret = false ∧ '\n' ∉ f.snippet.toList := by
  obtain ⟨line, number, hline, d, -, o, ho, rfl⟩ := mem_textFindings.1 h
  have hsecret : (findingOf path rules limits (numberedLines text) line number d o).isSecret =
      d.isSecret := rfl
  rw [hsecret]
  cases hd : d.isSecret with
  | true => exact .inl ⟨rfl, by rw [findingOf, hd]; rfl⟩
  | false =>
    have hpiece := newline_notMem_occurrence
      (Text.newline_notMem_of_mem_lines (List.fst_mem_of_mem_zipIdx hline)) ho
    refine .inr ⟨rfl, ?_⟩
    rw [findingOf, hd]
    simpa using hpiece

end Scan

end Appraisal

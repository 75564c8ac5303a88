import Appraisal.Proofs.Analysis.Order
import Appraisal.Proofs.Scan.Findings

set_option autoImplicit false

namespace Appraisal

namespace Code

theorem filePath_of_mem_entities {path : String} {c : Classifier} {tree : DefinitionTree}
    {e : Entity} (h : e ∈ c.entities path tree) : e.filePath = path := by
  obtain ⟨s, _, rfl⟩ := List.mem_map.1 h
  rfl

theorem classifyFile_cases (path : String) (source : List Char) (c : Classifier)
    (grammar : Grammar) :
    (∃ tree, classifyFile path source c grammar = .classified (c.entities path tree)) ∨
      ∃ message, classifyFile path source c grammar = .refused ⟨path, message⟩ := by
  unfold classifyFile
  cases grammar.definitions path source with
  | ok tree => exact Or.inl ⟨tree, rfl⟩
  | error e => exact Or.inr ⟨e.message, rfl⟩

end Code

namespace Analyzer

variable (a : Analyzer) (fs : FileSystem) (file : SourceFile)

theorem outcomeOf_cases (size : Nat) (content : ByteArray) :
    (∃ reason, a.outcomeOf file size content = .skip file reason ∧ reason ≠ .cancelled) ∨
      ∃ text, a.outcomeOf file size content =
        .scanned (Scan.textFindings file.relativePath a.settings.rules a.settings.limits text)
          (a.classify? file content) := by
  unfold outcomeOf
  cases hscan : Scan.scan file.relativePath content size a.settings.rules a.settings.limits with
  | skipped reason =>
    refine Or.inl ⟨reason, rfl, ?_⟩
    rintro rfl
    exact Scan.scan_ne_cancelled _ _ _ _ _ hscan
  | scanned findings =>
    obtain ⟨text, _, rfl⟩ := Scan.exists_text_of_scanned hscan
    exact Or.inr ⟨text.toList, rfl⟩

theorem outcomeOf_findings (size : Nat) (content : ByteArray) :
    (a.outcomeOf file size content).findings =
      (Scan.scan file.relativePath content size a.settings.rules a.settings.limits).findings := by
  unfold outcomeOf
  cases Scan.scan file.relativePath content size a.settings.rules a.settings.limits <;> rfl

theorem outcome_cases (cancelled : Bool) :
    (∃ reason, a.outcome fs cancelled file = .skip file reason ∧
        (reason = .cancelled ↔ cancelled = true)) ∨
      cancelled = false ∧ ∃ text content, a.outcome fs cancelled file =
        .scanned (Scan.textFindings file.relativePath a.settings.rules a.settings.limits text)
          (a.classify? file content) := by
  cases cancelled with
  | true => exact Or.inl ⟨.cancelled, rfl, by simp⟩
  | false =>
    have hfrom (size : Nat) (content : ByteArray) :=
      a.outcomeOf_cases file size content
    have hskip (e : FileError) : Scan.Skip.unreadable e.message ≠ .cancelled := by simp
    simp only [outcome, Bool.false_eq_true, if_false, iff_false, true_and, examine]
    cases fs.statedSize file.path with
    | error e => exact Or.inl ⟨_, rfl, hskip e⟩
    | ok size =>
      dsimp only
      split
      · rcases hfrom size .empty with h | ⟨text, h⟩
        · exact Or.inl h
        · exact Or.inr ⟨text, _, h⟩
      · cases fs.readAtMost file.path (a.settings.limits.maxFileSize + 1) with
        | error e => exact Or.inl ⟨_, rfl, hskip e⟩
        | ok content =>
          rcases hfrom size content with h | ⟨text, h⟩
          · exact Or.inl h
          · exact Or.inr ⟨text, _, h⟩

theorem classify?_cases (content : ByteArray) :
    a.classify? file content = none ∨
      (∃ tree, a.classify? file content =
        some (.classified (a.settings.classifier.entities file.relativePath tree))) ∨
      ∃ message, a.classify? file content = some (.refused ⟨file.relativePath, message⟩) := by
  unfold classify?
  split
  · cases String.fromUTF8? content with
    | none => exact Or.inl rfl
    | some text =>
      rcases Code.classifyFile_cases file.relativePath text.toList a.settings.classifier
        a.grammar with ⟨tree, h⟩ | ⟨message, h⟩
      · exact Or.inr (Or.inl ⟨tree, congrArg some h⟩)
      · exact Or.inr (Or.inr ⟨message, congrArg some h⟩)
  · exact Or.inl rfl

end Analyzer

namespace FileOutcome

/-- Everything in the outcome carries the path, with the findings in order. -/
structure About (o : FileOutcome) (path : String) : Prop where
  findings : ∀ x ∈ o.findings, x.filePath = path
  sorted : o.findings.Pairwise (fun x y => findingLe x y = true)
  entities : ∀ e ∈ o.entities, e.filePath = path
  skippedFile : ∀ s ∈ o.skippedFile?, s.filePath = path
  parseError : ∀ e ∈ o.parseError?, e.filePath = path

theorem about_skip (file : SourceFile) (reason : Scan.Skip) :
    (skip file reason).About file.relativePath where
  findings := by simp [skip, FileOutcome.findings]
  sorted := List.Pairwise.nil
  entities := by simp [skip, FileOutcome.entities, FileOutcome.classification?]
  skippedFile := by simp [skip, skippedFile?]
  parseError := by simp [skip, parseError?, FileOutcome.classification?]

end FileOutcome

theorem textFindings_sorted (path : String) (rules : Scan.RuleSet) (limits : Scan.Limits)
    (text : List Char) :
    (Scan.textFindings path rules limits text).Pairwise (fun x y => findingLe x y = true) := by
  refine (Scan.textFindings_pairwise path rules limits text).imp_of_mem fun {x y} hx hy hle => ?_
  have hpath := (Scan.filePath_of_mem_textFindings hx).trans
    (Scan.filePath_of_mem_textFindings hy).symm
  exact (findingLe_iff x y).2 (Or.inr ⟨hpath, hle⟩)

theorem Analyzer.outcome_about (a : Analyzer) (fs : FileSystem) (cancelled : Bool)
    (file : SourceFile) : (a.outcome fs cancelled file).About file.relativePath := by
  rcases a.outcome_cases fs file cancelled with ⟨reason, h, _⟩ | ⟨_, text, content, h⟩
  · rw [h]
    exact FileOutcome.about_skip file reason
  · have hfindings (x : Scan.Finding) (hx : x ∈ (a.outcome fs cancelled file).findings) :
        x.filePath = file.relativePath := by
      rw [h] at hx
      exact Scan.filePath_of_mem_textFindings hx
    have hsorted : (a.outcome fs cancelled file).findings.Pairwise
        (fun x y => findingLe x y = true) := by
      rw [h]
      exact textFindings_sorted _ _ _ _
    have hskipped : (a.outcome fs cancelled file).skippedFile? = none := by
      rw [h]
      rfl
    have hclass : (a.outcome fs cancelled file).classification? = a.classify? file content := by
      rw [h]
      rfl
    refine ⟨hfindings, hsorted, ?_, by simp [hskipped], ?_⟩
    all_goals
      simp only [FileOutcome.entities, FileOutcome.parseError?, hclass]
      rcases a.classify?_cases file content with hc | ⟨tree, hc⟩ | ⟨message, hc⟩
    all_goals rw [hc]
    · simp
    · exact fun e he => Code.filePath_of_mem_entities he
    · simp [Code.FileClassification.entities]
    · simp
    · simp [Code.FileClassification.parseError?]
    · simp [Code.FileClassification.parseError?]

end Appraisal

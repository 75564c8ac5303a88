import Appraisal.Proofs.Pattern.Matching
import Appraisal.Proofs.Text.Lines
import Appraisal.Scan.Finding

set_option autoImplicit false

namespace Appraisal.Scan

def numberedLines (text : List Char) : List (List Char × Nat) := (Text.lines text).zipIdx 1

def linesOf (content : ByteArray) : List (List Char) :=
  match String.fromUTF8? content with
  | some text => Text.lines text.toList
  | none => []

def Finding.storedTexts (f : Finding) : List String :=
  f.snippet :: f.contextLine :: f.context.map ContextLine.text

variable {path : String} {content : ByteArray} {statedSize : Nat} {rules : RuleSet}
  {limits : Limits}

theorem linesOf_toUTF8 (text : String) : linesOf text.toUTF8 = Text.lines text.toList := by
  rw [linesOf, Text.fromUTF8?_toUTF8]

/-- What a scan can come to. The rules have no part in whether content is skipped. -/
theorem scan_results (path : String) (content : ByteArray) (statedSize : Nat) (limits : Limits) :
    (limits.maxFileSize < max statedSize content.size ∧
        ∀ rules, scan path content statedSize rules limits =
          .skipped (.oversized (max statedSize content.size) limits.maxFileSize)) ∨
      (max statedSize content.size ≤ limits.maxFileSize ∧ ∃ reason ∈ [Skip.binary, Skip.notText],
        ∀ rules, scan path content statedSize rules limits = .skipped reason) ∨
      max statedSize content.size ≤ limits.maxFileSize ∧
        ∃ text, String.fromUTF8? content = some text ∧ ∀ rules,
          scan path content statedSize rules limits =
            .scanned (textFindings path rules limits text.toList) := by
  by_cases hsize : limits.maxFileSize < max statedSize content.size
  · exact .inl ⟨hsize, fun rules => by simp only [scan, if_pos hsize]⟩
  refine .inr ?_
  have hle := Nat.not_lt.1 hsize
  by_cases hbinary : looksBinary content limits.probeBytes = true
  · exact .inl ⟨hle, .binary, by simp, fun rules => by
      simp only [scan, if_neg hsize, if_pos hbinary]⟩
  cases htext : String.fromUTF8? content with
  | none =>
    exact .inl ⟨hle, .notText, by simp, fun rules => by
      simp only [scan, if_neg hsize, if_neg hbinary, htext]⟩
  | some text =>
    exact .inr ⟨hle, text, rfl, fun rules => by
      simp only [scan, if_neg hsize, if_neg hbinary, htext]⟩

theorem exists_text_of_scanned {findings : List Finding}
    (h : scan path content statedSize rules limits = .scanned findings) :
    ∃ text, String.fromUTF8? content = some text ∧
      findings = textFindings path rules limits text.toList := by
  rcases scan_results path content statedSize limits with
    ⟨-, hscan⟩ | ⟨-, reason, -, hscan⟩ | ⟨-, text, htext, hscan⟩
  · cases (hscan rules).symm.trans h
  · cases (hscan rules).symm.trans h
  · exact ⟨text, htext, (FileScan.scanned.inj ((hscan rules).symm.trans h)).symm⟩

theorem findings_of_scanned {text : String} {findings : List Finding}
    (h : scan path text.toUTF8 statedSize rules limits = .scanned findings) :
    findings = textFindings path rules limits text.toList := by
  obtain ⟨read, hread, rfl⟩ := exists_text_of_scanned h
  rw [Text.fromUTF8?_toUTF8] at hread
  rw [Option.some.inj hread]

theorem scanned_of_mem_findings {f : Finding}
    (h : f ∈ (scan path content statedSize rules limits).findings) :
    scan path content statedSize rules limits =
      .scanned (scan path content statedSize rules limits).findings := by
  cases hscan : scan path content statedSize rules limits with
  | scanned findings => rfl
  | skipped reason => simp [hscan, FileScan.findings] at h

theorem mem_textFindings {text : List Char} {f : Finding} :
    f ∈ textFindings path rules limits text ↔
      ∃ line number, (line, number) ∈ numberedLines text ∧ ∃ d ∈ rules.detectors,
        ∃ o ∈ d.pattern.occurrences line,
          f = findingOf path rules limits (numberedLines text) line number d o := by
  simp only [textFindings, lineFindings, numberedLines, List.mem_flatMap, List.mem_map,
    Prod.exists, eq_comm]

theorem filePath_of_mem_textFindings {text : List Char} {f : Finding}
    (h : f ∈ textFindings path rules limits text) : f.filePath = path := by
  obtain ⟨_, _, _, _, _, _, _, rfl⟩ := mem_textFindings.1 h
  rfl

theorem lineNumber_of_mem_lineFindings {numbered : List (List Char × Nat)} {line : List Char}
    {number : Nat} {f : Finding} (h : f ∈ lineFindings path rules limits numbered line number) :
    f.lineNumber = number := by
  simp only [lineFindings, List.mem_flatMap, List.mem_map] at h
  obtain ⟨_, _, _, _, rfl⟩ := h
  rfl

theorem line_eq_of_mem_zipIdx {lines : List (List Char)} {line other : List Char} {number k : Nat}
    (h : (line, number) ∈ lines.zipIdx k) (hother : (other, number) ∈ lines.zipIdx k) :
    line = other := by
  obtain ⟨-, -, hline⟩ := List.mem_zipIdx h
  obtain ⟨-, -, hsame⟩ := List.mem_zipIdx hother
  exact hline.trans hsame.symm

theorem numberedLines_pairwise (text : List Char) :
    (numberedLines text).Pairwise (fun e e' => e.2 < e'.2) := by
  have hnumbers : ((numberedLines text).map (·.2)).Pairwise (· < ·) := by
    rw [numberedLines, List.zipIdx_map_snd]
    exact List.pairwise_lt_range'
  exact List.pairwise_map.1 hnumbers

theorem textFindings_pairwise (path : String) (rules : RuleSet) (limits : Limits)
    (text : List Char) :
    (textFindings path rules limits text).Pairwise (fun x y => x.lineNumber ≤ y.lineNumber) := by
  change ((numberedLines text).flatMap _).Pairwise _
  rw [List.pairwise_flatMap]
  refine ⟨fun e _ => ?_, (numberedLines_pairwise text).imp fun {e e'} hlt x hx y hy => ?_⟩
  · refine List.pairwise_of_forall_mem_list fun x hx y hy => ?_
    have hsame : x.lineNumber = y.lineNumber :=
      (lineNumber_of_mem_lineFindings hx).trans (lineNumber_of_mem_lineFindings hy).symm
    exact Nat.le_of_eq hsame
  · rw [lineNumber_of_mem_lineFindings hx, lineNumber_of_mem_lineFindings hy]
    omega

section

variable {findings : List Finding} {line : List Char} {number : Nat}

theorem exists_finding_of_occurrences
    (hscan : scan path content statedSize rules limits = .scanned findings)
    (hline : (line, number) ∈ (linesOf content).zipIdx 1) {d : Detector}
    (hd : d ∈ rules.detectors) (hfound : d.pattern.occurrences line ≠ []) :
    ∃ f ∈ findings, f.lineNumber = number ∧ f.category = d.rule.category ∧
      f.ruleId = d.rule.id := by
  obtain ⟨text, htext, rfl⟩ := exists_text_of_scanned hscan
  obtain ⟨o, ho⟩ := List.exists_mem_of_ne_nil _ hfound
  rw [linesOf, htext] at hline
  exact ⟨_, mem_textFindings.2 ⟨line, number, hline, d, hd, o, ho, rfl⟩, rfl, rfl, rfl⟩

theorem exists_occurrence_of_finding
    (hscan : scan path content statedSize rules limits = .scanned findings)
    (hline : (line, number) ∈ (linesOf content).zipIdx 1) {f : Finding} (hf : f ∈ findings)
    (hnumber : f.lineNumber = number) :
    ∃ d ∈ rules.detectors, d.rule.category = f.category ∧ d.rule.id = f.ruleId ∧
      ∃ o, o ∈ d.pattern.occurrences line := by
  obtain ⟨text, htext, rfl⟩ := exists_text_of_scanned hscan
  obtain ⟨source, n, hsource, d, hd, o, ho, rfl⟩ := mem_textFindings.1 hf
  obtain rfl : n = number := hnumber
  rw [linesOf, htext] at hline
  obtain rfl := line_eq_of_mem_zipIdx hline hsource
  exact ⟨d, hd, rfl, rfl, o, ho⟩

end

/-- What a finding says of its match, without the lines that are stored with it. -/
structure Sighting where
  filePath : String
  lineNumber : Nat
  category : Category
  ruleId : String
  severity : Severity
  snippet : String
  deriving DecidableEq, Repr

def Finding.sighting (f : Finding) : Sighting :=
  ⟨f.filePath, f.lineNumber, f.category, f.ruleId, f.severity, f.snippet⟩

def Detector.sightings (d : Detector) (path : String) (limits : Limits) (line : List Char)
    (number : Nat) : List Sighting :=
  (d.pattern.occurrences line).map (fun o =>
    ⟨path, number, d.rule.category, d.rule.id, d.rule.severity,
      if d.isSecret then limits.placeholder else String.ofList o.text⟩)

theorem map_sighting_lineFindings (path : String) (rules : RuleSet) (limits : Limits)
    (numbered : List (List Char × Nat)) (line : List Char) (number : Nat) :
    (lineFindings path rules limits numbered line number).map Finding.sighting =
      rules.detectors.flatMap (fun d => d.sightings path limits line number) := by
  rw [lineFindings, List.map_flatMap]
  refine List.flatMap_congr fun d _ => ?_
  rw [List.map_map]
  rfl

theorem scan_ne_cancelled (path : String) (content : ByteArray) (statedSize : Nat)
    (rules : RuleSet) (limits : Limits) :
    scan path content statedSize rules limits ≠ .skipped .cancelled := by
  rcases scan_results path content statedSize limits with
    ⟨-, hscan⟩ | ⟨-, reason, hreason, hscan⟩ | ⟨-, text, -, hscan⟩
  all_goals rw [hscan]
  · simp
  · rintro ⟨⟩
    simp at hreason
  · simp

theorem scan_of_oversized (h : limits.maxFileSize < max statedSize content.size) :
    scan path content statedSize rules limits =
      .skipped (.oversized (max statedSize content.size) limits.maxFileSize) := by
  simp only [scan, if_pos h]

theorem scan_ne_oversized (h : max statedSize content.size ≤ limits.maxFileSize)
    (size limit : Nat) :
    scan path content statedSize rules limits ≠ .skipped (.oversized size limit) := by
  rcases scan_results path content statedSize limits with
    ⟨hlt, -⟩ | ⟨-, reason, hreason, hscan⟩ | ⟨-, text, -, hscan⟩
  · omega
  · rw [hscan]
    rintro ⟨⟩
    simp at hreason
  · rw [hscan]
    simp

theorem scan_findings_of_oversized (h : limits.maxFileSize < statedSize) :
    (scan path content statedSize rules limits).findings = [] := by
  rw [scan_of_oversized (Nat.lt_of_lt_of_le h (Nat.le_max_left _ _))]
  rfl

def keyRules : RuleSet :=
  ⟨[⟨⟨"key", .secret, "key=", .high⟩, .seqOf ("key=".toList.map .literal)⟩,
    ⟨⟨"eval", .suspicious, "eval", .low⟩, .seqOf ("eval".toList.map .literal)⟩]⟩

end Appraisal.Scan

import Appraisal.Proofs.Analysis.Isolation

set_option autoImplicit false

/-!
# The guard on sizes

The size of a file is looked at three times: as it is stated, which may be too little when the
file grows, in the bound of the read, and where the content is scanned. Together they refuse exactly
the files that are too large, and what is scanned or classified is always the complete content.
-/
namespace Appraisal

/-- What a read with a bound gives of a content. The bound is a machine word, so it is at most the
largest one. -/
def startOf (content : ByteArray) (bound : Nat) : ByteArray :=
  content.extract 0 (min bound (UInt64.size - 1))

def Analyzer.examineContent (a : Analyzer) (file : SourceFile) (stated : Nat)
    (content : ByteArray) : FileOutcome :=
  a.examine file (.ok stated) (fun bound => .ok (startOf content bound))

structure Analyzer.Guards (a : Analyzer) (file : SourceFile) (stated : Nat)
    (content : ByteArray) : Prop where
  oversized_iff : (∃ size limit, a.examineContent file stated content =
      .skip file (.oversized size limit)) ↔
    a.settings.limits.maxFileSize < max stated content.size
  skipped : max stated content.size ≤ a.settings.limits.maxFileSize → ∀ reason,
    Scan.scan file.relativePath content stated a.settings.rules a.settings.limits =
        .skipped reason →
      a.examineContent file stated content = .skip file reason
  scanned : max stated content.size ≤ a.settings.limits.maxFileSize → ∀ findings,
    Scan.scan file.relativePath content stated a.settings.rules a.settings.limits =
        .scanned findings →
      a.examineContent file stated content = .scanned findings (a.classify? file content)
  /-- Nothing comes of a content that is not read, or not to its end. -/
  unread : a.settings.limits.maxFileSize < stated ∨
      startOf content (a.settings.limits.maxFileSize + 1) ≠ content →
    ∃ size, a.settings.limits.maxFileSize < size ∧ a.examineContent file stated content =
      .skip file (.oversized size a.settings.limits.maxFileSize)
  atRest : ∀ fs : FileSystem, fs.entry file.path = .ok (.file content) → stated = content.size →
    a.outcome fs false file = a.examineContent file stated content

section Reads

variable {content : ByteArray} {bound : Nat}

theorem extract_of_size_le (h : content.size ≤ bound) : content.extract 0 bound = content := by
  ext1
  rw [ByteArray.data_extract]
  exact Array.extract_eq_self_of_le h

theorem startOf_of_size_le (hcontent : content.size < UInt64.size) (h : content.size ≤ bound) :
    startOf content bound = content :=
  extract_of_size_le (Nat.le_min.2 ⟨h, Nat.le_sub_one_of_lt hcontent⟩)

/-- The saturation of the bound is not noticed, since no content has as many bytes. -/
theorem startOf_eq_extract (hcontent : content.size < UInt64.size) :
    startOf content bound = content.extract 0 bound := by
  by_cases h : content.size ≤ bound
  · rw [startOf_of_size_le hcontent h, extract_of_size_le h]
  · rw [startOf, Nat.min_eq_left (by omega)]

theorem size_startOf (hcontent : content.size < UInt64.size) (h : bound ≤ content.size) :
    (startOf content bound).size = bound := by
  rw [startOf_eq_extract hcontent, ByteArray.size_extract, Nat.sub_zero, Nat.min_eq_left h]

end Reads

namespace Analyzer

variable (a : Analyzer) (file : SourceFile)

theorem outcomeOf_of_oversized {size : Nat} {content : ByteArray}
    (h : a.settings.limits.maxFileSize < max size content.size) :
    a.outcomeOf file size content =
      .skip file (.oversized (max size content.size) a.settings.limits.maxFileSize) := by
  rw [outcomeOf, Scan.scan_of_oversized h]

section Outcomes

variable (stated : Nat) {content : ByteArray}

theorem examineContent_of_oversized (hcontent : content.size < UInt64.size)
    (h : a.settings.limits.maxFileSize < max stated content.size) :
    ∃ size, a.settings.limits.maxFileSize < size ∧
      a.examineContent file stated content =
        .skip file (.oversized size a.settings.limits.maxFileSize) := by
  by_cases hstated : a.settings.limits.maxFileSize < stated
  · -- refused as stated, without a read
    have hempty : a.settings.limits.maxFileSize < max stated ByteArray.empty.size :=
      Nat.lt_of_lt_of_le hstated (Nat.le_max_left _ _)
    refine ⟨max stated ByteArray.empty.size, hempty, ?_⟩
    rw [examineContent, examine]
    exact (if_pos hstated).trans (a.outcomeOf_of_oversized file hempty)
  · -- grown: one byte more than the limit is read, and that is too much
    have hsize : (startOf content (a.settings.limits.maxFileSize + 1)).size =
        a.settings.limits.maxFileSize + 1 :=
      size_startOf hcontent (by omega)
    have hread : a.settings.limits.maxFileSize <
        max stated (startOf content (a.settings.limits.maxFileSize + 1)).size := by
      omega
    refine ⟨_, hread, ?_⟩
    rw [examineContent, examine]
    exact (if_neg hstated).trans (a.outcomeOf_of_oversized file hread)

theorem examineContent_of_le (hcontent : content.size < UInt64.size)
    (h : max stated content.size ≤ a.settings.limits.maxFileSize) :
    a.examineContent file stated content = a.outcomeOf file stated content := by
  have hread : startOf content (a.settings.limits.maxFileSize + 1) = content :=
    startOf_of_size_le hcontent (by omega)
  rw [examineContent, examine]
  refine (if_neg (by omega)).trans ?_
  dsimp only
  rw [hread]

theorem outcomeOf_ne_oversized (h : max stated content.size ≤ a.settings.limits.maxFileSize)
    (size limit : Nat) : a.outcomeOf file stated content ≠ .skip file (.oversized size limit) := by
  unfold outcomeOf
  cases hscan : Scan.scan file.relativePath content stated a.settings.rules a.settings.limits with
  | scanned findings => exact nofun
  | skipped reason =>
    intro hskip
    obtain rfl : reason = .oversized size limit :=
      congrArg SkippedFile.reason (FileOutcome.skipped.inj hskip)
    exact Scan.scan_ne_oversized h size limit hscan

end Outcomes

theorem outcome_eq_examineContent {fs : FileSystem} {content : ByteArray}
    (hcontent : content.size < UInt64.size)
    (hentry : fs.entry file.path = .ok (.file content)) :
    a.outcome fs false file = a.examineContent file content.size content := by
  have hstated : fs.statedSize file.path = .ok content.size := by
    rw [FileSystem.statedSize, hentry]
    rfl
  have hread : fs.readAtMost file.path = fun bound => .ok (startOf content bound) := by
    funext bound
    rw [FileSystem.readAtMost, FileSystem.readBytes, hentry, startOf_eq_extract hcontent]
    rfl
  change a.examine file (fs.statedSize file.path) (fs.readAtMost file.path) = _
  rw [hstated, hread]
  rfl

/-- Whatever size was stated, a file is refused for its size exactly when that size or its content
is over the limit, and else it has the findings and definitions of its complete content. -/
theorem guards_sizes (stated : Nat) {content : ByteArray}
    (hcontent : content.size < UInt64.size) : a.Guards file stated content where
  oversized_iff := by
    constructor
    · rintro ⟨size, limit, hskip⟩
      by_contra hle
      rw [a.examineContent_of_le file stated hcontent (Nat.not_lt.1 hle)] at hskip
      exact a.outcomeOf_ne_oversized file stated (Nat.not_lt.1 hle) size limit hskip
    · intro h
      obtain ⟨size, -, hskip⟩ := a.examineContent_of_oversized file stated hcontent h
      exact ⟨size, _, hskip⟩
  skipped h reason hscan := by
    rw [a.examineContent_of_le file stated hcontent h, outcomeOf, hscan]
  scanned h findings hscan := by
    rw [a.examineContent_of_le file stated hcontent h, outcomeOf, hscan]
  unread h := by
    refine a.examineContent_of_oversized file stated hcontent ?_
    by_contra hle
    rcases h with hstated | hread
    · omega
    · exact hread (startOf_of_size_le hcontent (by omega))
  atRest fs hentry hstated := by
    rw [hstated]
    exact a.outcome_eq_examineContent file hcontent hentry

end Analyzer

def limitedAnalyzer (limit : Nat) : Analyzer where
  settings := { callAnalyzer.settings with limits := { Scan.Limits.default with maxFileSize := limit } }
  grammar := callAnalyzer.grammar

def callContent : ByteArray := "Beval eval".toUTF8

def callSource : SourceFile := ⟨⟨"/b.py".toList⟩, "b.py"⟩

def limitedScan (limit : Nat) : Scan.FileScan :=
  Scan.scan callSource.relativePath callContent 4 (limitedAnalyzer limit).settings.rules
    (limitedAnalyzer limit).settings.limits

theorem guards_grown_content :
    callContent.size = 10 ∧
      (∃ size limit, (limitedAnalyzer 9).examineContent callSource 4 callContent =
        .skip callSource (.oversized size limit)) ∧
      ∀ limit ∈ [10, UInt64.size - 1], ∃ findings, findings.length = 2 ∧
        (limitedAnalyzer limit).examineContent callSource 4 callContent =
          .scanned findings ((limitedAnalyzer limit).classify? callSource callContent) := by
  have hsize : callContent.size = 10 := by decide +kernel
  have hguards (limit : Nat) : (limitedAnalyzer limit).Guards callSource 4 callContent :=
    (limitedAnalyzer limit).guards_sizes callSource 4 (hsize ▸ by decide)
  have hscan : ∀ limit ∈ [10, UInt64.size - 1], 10 ≤ limit ∧
      limitedScan limit = .scanned (limitedScan limit).findings ∧
        (limitedScan limit).findings.length = 2 := by
    decide +kernel
  refine ⟨hsize, (hguards 9).oversized_iff.2 ?_, fun limit hlimit => ?_⟩
  · rw [hsize]
    decide
  · obtain ⟨hle, hfindings, hlength⟩ := hscan limit hlimit
    exact ⟨_, hlength, (hguards limit).scanned (by rw [hsize]; exact hle) _ hfindings⟩

end Appraisal

import Appraisal.Proofs.Analysis.Parts

set_option autoImplicit false

/-!
# Files do not disturb each other

When no two files have the same relative path, what a result holds for a path is what the run on
that file alone gives, in the same order, whatever the other files are.
-/
namespace Appraisal

structure Listing where
  findings : List Scan.Finding
  entities : List Code.Entity
  skipped : List SkippedFile
  parseErrors : List Code.ParseError
  deriving DecidableEq, Repr

/-- The part of a listing that carries a path. -/
def Listing.at (l : Listing) (path : String) : Listing where
  findings := l.findings.filter (fun x => x.filePath = path)
  entities := l.entities.filter (fun e => e.filePath = path)
  skipped := l.skipped.filter (fun s => s.filePath = path)
  parseErrors := l.parseErrors.filter (fun e => e.filePath = path)

def AnalysisResult.listing (r : AnalysisResult) : Listing :=
  ⟨r.findings, r.entities, r.skipped, r.parseErrors⟩

namespace Analyzer

variable (a : Analyzer) (fs : FileSystem) (metadata : Score.Metadata)

theorem analyzeFile_findings (file : SourceFile) :
    (a.analyzeFile fs metadata file).findings = (a.outcome fs false file).findings :=
  a.merge_singleton_findings metadata false (a.outcome_about fs false file).sorted

theorem filePath_of_mem_analyzeFile (file : SourceFile) :
    (∀ x ∈ (a.analyzeFile fs metadata file).findings, x.filePath = file.relativePath) ∧
      (∀ e ∈ (a.analyzeFile fs metadata file).entities, e.filePath = file.relativePath) ∧
      (∀ s ∈ (a.analyzeFile fs metadata file).skipped, s.filePath = file.relativePath) ∧
      ∀ e ∈ (a.analyzeFile fs metadata file).parseErrors, e.filePath = file.relativePath := by
  have habout := a.outcome_about fs false file
  refine ⟨?_, ?_, ?_, ?_⟩
  · rw [analyzeFile_findings]
    exact habout.findings
  · intro e he
    obtain ⟨o, ho, he⟩ := List.mem_flatMap.1 he
    rw [List.mem_singleton.1 ho] at he
    exact habout.entities e he
  · intro s hs
    obtain ⟨o, ho, hs⟩ := List.mem_filterMap.1 hs
    rw [List.mem_singleton.1 ho] at hs
    exact habout.skippedFile s hs
  · intro e he
    obtain ⟨o, ho, he⟩ := List.mem_filterMap.1 he
    rw [List.mem_singleton.1 ho] at he
    exact habout.parseError e he

/-- A run holds for the path of a file what the run on the file alone gives. -/
theorem listing_at {files : List SourceFile}
    (hpaths : (files.map SourceFile.relativePath).Nodup) {file : SourceFile}
    (hfile : file ∈ files) :
    (a.analyze fs files metadata .none).listing.at file.relativePath =
      (a.analyzeFile fs metadata file).listing := by
  have hjoins := a.analyze_joins_files fs metadata files
  have hcarry (f : SourceFile) := a.filePath_of_mem_analyzeFile fs metadata f
  have hfindings := filter_flatMap SourceFile.relativePath Scan.Finding.filePath
    (fun f => (a.analyzeFile fs metadata f).findings) hpaths (fun f _ => (hcarry f).1) hfile
  have hsorted : ((files.flatMap (fun f => (a.analyzeFile fs metadata f).findings)).filter
      (fun x => x.filePath = file.relativePath)).Pairwise
        (fun x y => findingLe x y = true) := by
    rw [hfindings, analyzeFile_findings]
    exact (a.outcome_about fs false file).sorted
  have hentities := filter_flatMap SourceFile.relativePath Code.Entity.filePath
    (fun f => (a.analyzeFile fs metadata f).entities) hpaths (fun f _ => (hcarry f).2.1) hfile
  have hskipped := filter_flatMap SourceFile.relativePath SkippedFile.filePath
    (fun f => (a.analyzeFile fs metadata f).skipped) hpaths (fun f _ => (hcarry f).2.2.1) hfile
  have herrors := filter_flatMap SourceFile.relativePath Code.ParseError.filePath
    (fun f => (a.analyzeFile fs metadata f).parseErrors) hpaths (fun f _ => (hcarry f).2.2.2)
    hfile
  simp only [AnalysisResult.listing, Listing.at, Listing.mk.injEq, hjoins.findings,
    hjoins.entities, hjoins.skipped, hjoins.parseErrors, List.flatMap_map]
  exact ⟨(filter_sort _ hsorted).trans hfindings, hentities, hskipped, herrors⟩

theorem listing_analyzeFile_congr {fs fs' : FileSystem} {metadata metadata' : Score.Metadata}
    {file : SourceFile} (hstated : fs'.statedSize file.path = fs.statedSize file.path)
    (hread : fs'.readAtMost file.path = fs.readAtMost file.path) :
    (a.analyzeFile fs' metadata' file).listing = (a.analyzeFile fs metadata file).listing := by
  have hsame : a.outcomes fs' .none [file] = a.outcomes fs .none [file] := by
    change [a.examine file (fs'.statedSize file.path) (fs'.readAtMost file.path)] =
      [a.examine file (fs.statedSize file.path) (fs.readAtMost file.path)]
    rw [hstated, hread]
  simp only [AnalysisResult.listing, analyzeFile, analyze, merge, hsame]

theorem analyzeFile_findings_eq_scan {file : SourceFile} {size : Nat} {content : ByteArray}
    (hstated : fs.statedSize file.path = .ok size)
    (hread : fs.readAtMost file.path (a.settings.limits.maxFileSize + 1) = .ok content) :
    (a.analyzeFile fs metadata file).findings =
      (Scan.scan file.relativePath content size a.settings.rules a.settings.limits).findings := by
  have houtcome : a.outcome fs false file =
      a.examine file (.ok size) (fs.readAtMost file.path) := by
    rw [← hstated]
    rfl
  rw [analyzeFile_findings, houtcome]
  unfold examine
  dsimp only
  by_cases hsize : a.settings.limits.maxFileSize < size
  · rw [if_pos hsize, outcomeOf_findings, Scan.scan_findings_of_oversized hsize,
      Scan.scan_findings_of_oversized hsize]
  · rw [if_neg hsize, hread]
    exact a.outcomeOf_findings file size content

theorem filter_findings_of_notMem {files : List SourceFile} {path : String}
    (hpath : path ∉ files.map SourceFile.relativePath) :
    (a.analyze fs files metadata .none).findings.filter (fun x => x.filePath = path) = [] := by
  rw [(a.analyze_joins_files fs metadata files).findings, List.flatMap_map]
  simp only [List.filter_eq_nil_iff, List.mem_mergeSort, List.mem_flatMap, decide_eq_true_eq]
  rintro x ⟨f, hf, hx⟩ rfl
  rw [(a.filePath_of_mem_analyzeFile fs metadata f).1 x hx] at hpath
  exact hpath (List.mem_map_of_mem hf)

theorem findings_pairwise (files : List SourceFile) (c : Cancellation) :
    (a.analyze fs files metadata c).findings.Pairwise (fun x y => findingLe x y = true) :=
  sort_pairwise _

theorem findings_eq_of_perm {files files' : List SourceFile}
    (hpaths : (files.map SourceFile.relativePath).Nodup) (hperm : files'.Perm files) :
    (a.analyze fs files' metadata .none).findings =
      (a.analyze fs files metadata .none).findings := by
  have hpaths' : (files'.map SourceFile.relativePath).Nodup :=
    (hperm.map SourceFile.relativePath).nodup_iff.2 hpaths
  refine eq_of_forall_path (pairwise_path_le (a.findings_pairwise fs metadata files' .none))
    (pairwise_path_le (a.findings_pairwise fs metadata files .none)) fun path => ?_
  by_cases hpath : path ∈ files.map SourceFile.relativePath
  · obtain ⟨file, hfile, rfl⟩ := List.mem_map.1 hpath
    have hpart := a.listing_at fs metadata hpaths hfile
    have hpart' := a.listing_at fs metadata hpaths' (hperm.mem_iff.2 hfile)
    exact congrArg Listing.findings (hpart'.trans hpart.symm)
  · have hpath' : path ∉ files'.map SourceFile.relativePath := by
      rwa [(hperm.map SourceFile.relativePath).mem_iff]
    rw [a.filter_findings_of_notMem fs metadata hpath,
      a.filter_findings_of_notMem fs metadata hpath']

end Analyzer

structure KeepsApart (a : Analyzer) (fs : FileSystem) (metadata : Score.Metadata)
    (files : List SourceFile) : Prop where
  alone : ∀ file ∈ files, (a.analyze fs files metadata .none).listing.at file.relativePath =
    (a.analyzeFile fs metadata file).listing
  /-- In another run on other files, with this file as it is, its part is the same. -/
  others : ∀ file ∈ files, ∀ (fs' : FileSystem) (files' : List SourceFile)
    (metadata' : Score.Metadata), (files'.map SourceFile.relativePath).Nodup → file ∈ files' →
      fs'.statedSize file.path = fs.statedSize file.path →
      fs'.readAtMost file.path = fs.readAtMost file.path →
        (a.analyze fs' files' metadata' .none).listing.at file.relativePath =
          (a.analyze fs files metadata .none).listing.at file.relativePath
  filesScanned : (a.analyze fs files metadata .none).filesScanned =
    (files.map (fun file => (a.analyzeFile fs metadata file).filesScanned)).sum
  filesClassified : (a.analyze fs files metadata .none).filesClassified =
    (files.map (fun file => (a.analyzeFile fs metadata file).filesClassified)).sum
  sorted : (a.analyze fs files metadata .none).findings.Pairwise (fun x y =>
    x.filePath < y.filePath ∨ x.filePath = y.filePath ∧ x.lineNumber ≤ y.lineNumber)
  /-- Findings on one line of a file stand as scanning the file found them. -/
  stable : ∀ file ∈ files, ∀ size content, fs.statedSize file.path = .ok size →
    fs.readAtMost file.path (a.settings.limits.maxFileSize + 1) = .ok content → ∀ number,
      (a.analyze fs files metadata .none).findings.filter
          (fun x => x.filePath = file.relativePath ∧ x.lineNumber = number) =
        (Scan.scan file.relativePath content size a.settings.rules
          a.settings.limits).findings.filter (fun x => x.lineNumber = number)
  entities : (a.analyze fs files metadata .none).entities =
    files.flatMap (fun file => (a.analyzeFile fs metadata file).entities)
  skipped : (a.analyze fs files metadata .none).skipped =
    files.flatMap (fun file => (a.analyzeFile fs metadata file).skipped)
  parseErrors : (a.analyze fs files metadata .none).parseErrors =
    files.flatMap (fun file => (a.analyzeFile fs metadata file).parseErrors)
  permuted : ∀ files' : List SourceFile, files'.Perm files →
    (a.analyze fs files' metadata .none).findings = (a.analyze fs files metadata .none).findings
  score : (a.analyze fs files metadata .none).score =
    Score.score metadata a.settings.weights a.settings.thresholds a.settings.params

theorem analyze_keeps_apart (a : Analyzer) (fs : FileSystem) (metadata : Score.Metadata)
    (files : List SourceFile) (hpaths : (files.map SourceFile.relativePath).Nodup) :
    KeepsApart a fs metadata files := by
  have hjoins := a.analyze_joins_files fs metadata files
  have halone (file : SourceFile) (hfile : file ∈ files) :=
    a.listing_at fs metadata hpaths hfile
  refine ⟨halone, ?_, ?_, ?_, ?_, ?_, ?_, ?_, ?_, ?_, rfl⟩
  · intro file hfile fs' files' metadata' hpaths' hfile' hstated hread
    rw [halone file hfile, a.listing_at fs' metadata' hpaths' hfile']
    exact a.listing_analyzeFile_congr hstated hread
  · rw [hjoins.filesScanned, List.map_map]
    rfl
  · rw [hjoins.filesClassified, List.map_map]
    rfl
  · exact (a.findings_pairwise fs metadata files .none).imp fun {x y} h => (findingLe_iff x y).1 h
  · intro file hfile size content hstated hread number
    have hpart := congrArg Listing.findings (halone file hfile)
    simp only [Listing.at, AnalysisResult.listing,
      a.analyzeFile_findings_eq_scan fs metadata hstated hread] at hpart
    rw [← hpart, List.filter_filter]
    simp only [Bool.decide_and, Bool.and_comm]
  · rw [hjoins.entities, List.flatMap_map]
  · rw [hjoins.skipped, List.flatMap_map]
  · rw [hjoins.parseErrors, List.flatMap_map]
  · exact fun files' hperm => a.findings_eq_of_perm fs metadata hpaths hperm

def callAnalyzer : Analyzer where
  settings :=
    { rules := ⟨[⟨⟨"call", .suspicious, "eval", .low⟩, .seqOf ("eval".toList.map .literal)⟩]⟩
      limits := .default
      classifier := ⟨[], 10⟩
      weights := .default
      thresholds := Score.defaultThresholds
      params := .default
      minScore := 0
      workers := 1
      extensions := ["py"]
      skippedDirectories := [] }
  grammar :=
    { name := "one class"
      handles := fun p => p.extensionText == "py"
      definitions := fun path source =>
        if source.head? = some '?' then .error (.noTree path)
        else .ok ⟨.ofModule [⟨.classForm, source.take 1, 1, [], [], [], none, []⟩], 1⟩ }

def callFiles : FileSystem :=
  (((FileSystem.empty []).add ⟨"/b.py".toList⟩ (.file "Beval eval\neval\n".toUTF8)).add
    ⟨"/a.py".toList⟩ (.file "?eval\n".toUTF8)).add ⟨"/c.py".toList⟩ (.file ⟨#[0]⟩)

def callSources : List SourceFile :=
  ["b.py", "missing.py", "a.py", "c.py"].map (fun name => ⟨⟨'/' :: name.toList⟩, name⟩)

theorem four_files_kept_apart :
    (callSources.map SourceFile.relativePath).Nodup ∧
      KeepsApart callAnalyzer callFiles default callSources ∧
      (callAnalyzer.analyze callFiles callSources default .none).findings.length = 4 ∧
      (callAnalyzer.analyze callFiles callSources default .none).entities.length = 1 ∧
      (callAnalyzer.analyze callFiles callSources default .none).parseErrors.length = 1 ∧
      (callAnalyzer.analyze callFiles callSources default .none).skipped.length = 2 := by
  have hpaths : (callSources.map SourceFile.relativePath).Nodup := by decide
  refine ⟨hpaths, analyze_keeps_apart callAnalyzer callFiles default callSources hpaths,
    ?_, by decide +kernel, by decide +kernel, by decide +kernel⟩
  exact (List.length_mergeSort _).trans (by decide +kernel)

end Appraisal

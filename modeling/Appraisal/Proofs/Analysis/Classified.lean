import Appraisal.Proofs.Analysis.Isolation
import Appraisal.Proofs.Files.Discovery
import Appraisal.Python.Definitions

set_option autoImplicit false

namespace Appraisal

namespace Path

def smallExtension (p : Path) : Bool := p.extension?.any (fun ext => ext.map Char.toLower == ext)

theorem extension?_of_components {p : Path} {before : List Component} {names : List (List Char)}
    {name : List Char} (h : p.components = before ++ names.map .name)
    (hlast : names.getLast? = some name) : p.extension? = extensionOf? name := by
  have hname : p.components.getLast? = some (.name name) := by
    rw [h, List.getLast?_append, List.getLast?_map, hlast]
    rfl
  rw [extension?, fileName?, hname]
  rfl

end Path

namespace FileSystem

variable {fs : FileSystem} {root : Path} {entries : List (List Char × Entry)}
  {extensions skipped : List String}

theorem discover_directory (hroot : fs.entry root = .ok (.directory entries))
    (extensions skipped : List String) : fs.discover root extensions skipped =
      .ok ((Discovery.inOrder (Discovery.filesAmong extensions skipped entries)).map
        (fun names => .ofPath root (Discovery.pathBelow root names))) := by
  rw [discover, hroot]

theorem extension?_of_discover {files : List SourceFile}
    (hroot : fs.entry root = .ok (.directory entries)) (hproper : (Entry.directory entries).Proper)
    (hfiles : fs.discover root extensions skipped = .ok files) {f : SourceFile} (hf : f ∈ files) :
    ∃ ext x, f.path.extension? = some ext ∧ x ∈ extensions ∧
      x.toList.map Char.toLower = ext.map Char.toLower := by
  rw [discover_directory hroot extensions skipped] at hfiles
  cases hfiles
  obtain ⟨names, hnames, rfl⟩ := List.mem_map.1 hf
  obtain ⟨hreaches, name, ext, x, hlast, hext, hx, hsame⟩ := (Discovery.mem_found hproper).1 hnames
  have hcomponents := Discovery.components_pathBelow (text_ne_nil_of_entry hroot)
    (hreaches.isName hproper)
  refine ⟨ext, x, ?_, hx, hsame⟩
  change (Discovery.pathBelow root names).extension? = some ext
  rw [Path.extension?_of_components hcomponents hlast, hext.extensionOf?]

end FileSystem

/-- Among paths whose extension is Python's up to case, the grammar tells by the case. -/
theorem Python.handles_eq {p : Path} {ext : List Char} {x : String} (hext : p.extension? = some ext)
    (hx : x ∈ Settings.defaultExtensions)
    (hsame : x.toList.map Char.toLower = ext.map Char.toLower) :
    Python.grammar.handles p = p.smallExtension := by
  have hsmall : ∀ y ∈ Python.extensions, y.map Char.toLower = y := by decide
  have hdefault : ∀ y ∈ Settings.defaultExtensions,
      y.toList.map Char.toLower ∈ Python.extensions := by
    decide
  change p.extension?.any (Python.extensions.contains ·) = _
  rw [Path.smallExtension, hext, Option.any_some, Option.any_some, Bool.eq_iff_iff,
    List.contains_iff_mem, beq_iff_eq]
  constructor
  · exact hsmall ext
  · intro hlower
    have hmem := hdefault x hx
    rwa [hsame, hlower] at hmem

namespace Analyzer

variable (a : Analyzer) (fs : FileSystem)

theorem outcomeOf_isClassified (file : SourceFile) (size : Nat) (content : ByteArray) :
    (a.outcomeOf file size content).isClassified =
      ((a.outcomeOf file size content).isScanned && a.grammar.handles file.path) := by
  unfold outcomeOf
  cases hscan : Scan.scan file.relativePath content size a.settings.rules a.settings.limits with
  | skipped reason => rfl
  | scanned findings =>
    -- what is scanned is a text, so the grammar gets it
    obtain ⟨text, htext, -⟩ := Scan.exists_text_of_scanned hscan
    change (a.classify? file content).isSome = a.grammar.handles file.path
    rw [classify?, htext]
    cases a.grammar.handles file.path <;> rfl

theorem outcome_isClassified (cancelled : Bool) (file : SourceFile) :
    (a.outcome fs cancelled file).isClassified =
      ((a.outcome fs cancelled file).isScanned && a.grammar.handles file.path) := by
  cases cancelled with
  | true => rfl
  | false =>
    change (a.examine file _ _).isClassified = ((a.examine file _ _).isScanned && _)
    unfold examine
    cases fs.statedSize file.path with
    | error e => rfl
    | ok size =>
      dsimp only
      split
      · exact a.outcomeOf_isClassified file size .empty
      · cases fs.readAtMost file.path (a.settings.limits.maxFileSize + 1) with
        | error e => rfl
        | ok content => exact a.outcomeOf_isClassified file size content

theorem outcomes_none (files : List SourceFile) :
    a.outcomes fs .none files = files.map (a.outcome fs false) :=
  map_zipIdx (a.outcome fs false) files

variable (metadata : Score.Metadata) (files : List SourceFile)

theorem filesScanned_eq : (a.analyze fs files metadata .none).filesScanned =
    files.countP (fun f => (a.outcome fs false f).isScanned) := by
  change (a.outcomes fs .none files).countP FileOutcome.isScanned = _
  rw [outcomes_none, List.countP_map]
  rfl

theorem filesClassified_eq : (a.analyze fs files metadata .none).filesClassified =
    files.countP (fun f => (a.outcome fs false f).isScanned && a.grammar.handles f.path) := by
  change (a.outcomes fs .none files).countP FileOutcome.isClassified = _
  rw [outcomes_none, List.countP_map]
  exact List.countP_congr fun f _ => by
    rw [Function.comp_apply, outcome_isClassified]

end Analyzer

theorem countP_and_eq_iff {α : Type} {p q : α → Bool} {l : List α} :
    l.countP (fun x => p x && q x) = l.countP p ↔ ∀ x ∈ l, p x = true → q x = true := by
  have hfilter : l.countP (fun x => p x && q x) = (l.filter p).countP q := by
    rw [List.countP_filter]
    exact List.countP_congr fun x _ => by rw [Bool.and_comm]
  rw [hfilter, List.countP_eq_length_filter (p := p), List.countP_eq_length]
  simp only [List.mem_filter, and_imp]

/-- Of what is found for the extensions of Python, the grammar handles the files whose extension is
in small letters. Just as many of the scanned files are classified, which are all of them
when each has such an extension. -/
theorem classified_iff_small_extension (a : Analyzer) (hgrammar : a.grammar = Python.grammar)
    (hextensions : ∀ x ∈ a.settings.extensions, x ∈ Settings.defaultExtensions) (fs : FileSystem)
    (root : Path) {entries : List (List Char × Entry)}
    (hroot : fs.entry root = .ok (.directory entries)) (hproper : (Entry.directory entries).Proper)
    (metadata : Score.Metadata) :
    ∃ files result,
      fs.discover root a.settings.extensions a.settings.skippedDirectories = .ok files ∧
      a.analyzeTree fs root metadata .none = .ok result ∧
      (∀ f ∈ files, a.grammar.handles f.path = f.path.smallExtension) ∧
      result.filesScanned = files.countP (fun f => (a.outcome fs false f).isScanned) ∧
      result.filesClassified = files.countP
        (fun f => (a.outcome fs false f).isScanned && f.path.smallExtension) ∧
      (result.filesClassified = result.filesScanned ↔
        ∀ f ∈ files, (a.outcome fs false f).isScanned = true → f.path.smallExtension = true) := by
  have hfiles := FileSystem.discover_directory hroot a.settings.extensions
    a.settings.skippedDirectories
  generalize (Discovery.inOrder _).map _ = files at hfiles
  have hhandles : ∀ f ∈ files, a.grammar.handles f.path = f.path.smallExtension := by
    intro f hf
    obtain ⟨ext, x, hext, hx, hsame⟩ := FileSystem.extension?_of_discover hroot hproper hfiles hf
    rw [hgrammar]
    exact Python.handles_eq hext (hextensions x hx) hsame
  have hclassified := a.filesClassified_eq fs metadata files
  rw [List.countP_congr (fun f hf => by rw [hhandles f hf])] at hclassified
  have hresult : a.analyzeTree fs root metadata .none =
      .ok (a.analyze fs files metadata .none) := by
    rw [Analyzer.analyzeTree, hfiles]
    rfl
  refine ⟨files, _, hfiles, hresult, hhandles, a.filesScanned_eq fs metadata files, hclassified, ?_⟩
  rw [hclassified, a.filesScanned_eq fs metadata files, countP_and_eq_iff]

def pythonAnalyzer : Analyzer := { callAnalyzer with grammar := Python.grammar }

def repoOf (entries : List (List Char × Entry)) : FileSystem where
  top := .directory [("repo".toList, .directory entries)]
  here := []

def legacyEntries : List (List Char × Entry) :=
  [("LEGACY.PY".toList, .file "x = 1\n".toUTF8)]

def mixedEntries : List (List Char × Entry) :=
  ("bot.py".toList, .file "eval\n".toUTF8) :: legacyEntries

theorem proper_mixedEntries : (Entry.directory mixedEntries).Proper :=
  Entry.proper_directory (by decide) (by decide)
    (by simp [mixedEntries, legacyEntries, Entry.proper_file])

theorem mixedEntries_classified :
    (repoOf mixedEntries).entry (.ofString "repo") = .ok (.directory mixedEntries) ∧
      (Entry.directory mixedEntries).Proper ∧
      pythonAnalyzer.grammar = Python.grammar ∧
      (∀ x ∈ pythonAnalyzer.settings.extensions, x ∈ Settings.defaultExtensions) ∧
      ∃ files result,
        (repoOf mixedEntries).discover (.ofString "repo") pythonAnalyzer.settings.extensions
          pythonAnalyzer.settings.skippedDirectories = .ok files ∧
        pythonAnalyzer.analyzeTree (repoOf mixedEntries) (.ofString "repo") default .none =
          .ok result ∧
        (∀ f ∈ files, pythonAnalyzer.grammar.handles f.path = f.path.smallExtension) ∧
        result.filesScanned = files.countP
          (fun f => (pythonAnalyzer.outcome (repoOf mixedEntries) false f).isScanned) := by
  have hextensions : ∀ x ∈ pythonAnalyzer.settings.extensions, x ∈ Settings.defaultExtensions := by
    decide
  obtain ⟨files, result, hfiles, hresult, hhandles, hscanned, -⟩ :=
    classified_iff_small_extension pythonAnalyzer rfl hextensions (repoOf mixedEntries)
      (.ofString "repo") rfl proper_mixedEntries default
  exact ⟨rfl, proper_mixedEntries, rfl, hextensions, files, result, hfiles, hresult, hhandles,
    hscanned⟩

def legacyFile : SourceFile := .ofPath (.ofString "repo") (.ofString "repo/LEGACY.PY")

/-- A file whose name is in capitals is found as one of Python and scanned, but not classified. -/
theorem legacyEntries_not_classified :
    (repoOf legacyEntries).entry (.ofString "repo") = .ok (.directory legacyEntries) ∧
      (∀ x ∈ pythonAnalyzer.settings.extensions, x ∈ Settings.defaultExtensions) ∧
      (repoOf legacyEntries).discover (.ofString "repo") pythonAnalyzer.settings.extensions
        pythonAnalyzer.settings.skippedDirectories = .ok [legacyFile] ∧
      Python.grammar.handles legacyFile.path = false ∧
      ∃ result,
        pythonAnalyzer.analyzeTree (repoOf legacyEntries) (.ofString "repo") default .none =
          .ok result ∧
        result.filesScanned = 1 ∧ result.filesClassified = 0 := by
  have hroot : (repoOf legacyEntries).entry (.ofString "repo") = .ok (.directory legacyEntries) :=
    rfl
  have hfiles : (repoOf legacyEntries).discover (.ofString "repo")
      pythonAnalyzer.settings.extensions pythonAnalyzer.settings.skippedDirectories =
        .ok [legacyFile] := by
    rw [FileSystem.discover_directory hroot, legacyEntries, Discovery.filesAmong,
      Discovery.filesAmong, Discovery.inOrder, List.mergeSort_singleton]
    rfl
  refine ⟨hroot, by decide, hfiles, rfl,
    pythonAnalyzer.analyze (repoOf legacyEntries) [legacyFile] default .none, ?_,
    by decide +kernel, by decide +kernel⟩
  rw [Analyzer.analyzeTree, hfiles]
  rfl

end Appraisal

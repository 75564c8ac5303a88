import Appraisal.Analysis.Outcome
import Appraisal.Score.Trust

set_option autoImplicit false

/-!
# The analysis of a repository

The outcomes of the files are put together in the order of the files. Only the findings are sorted,
by file and line; findings on one line keep the order in which they were found. The score is that
of the metadata alone.
-/
namespace Appraisal

/-- At which files the wish to stop is noticed, and whether it is there in the end. It is never
taken back. -/
structure Cancellation where
  seen : Nat → Bool
  atEnd : Bool
  atEnd_of_seen : ∀ i, seen i = true → atEnd = true

def Cancellation.none : Cancellation := ⟨fun _ => false, false, fun _ h => h⟩

def Cancellation.immediate : Cancellation := ⟨fun _ => true, true, fun _ _ => rfl⟩

structure AnalysisResult where
  findings : List Scan.Finding
  entities : List Code.Entity
  score : Score.TrustScore Float
  filesScanned : Nat
  /-- The files that the grammar handles, whether it accepts them or not. -/
  filesClassified : Nat
  skipped : List SkippedFile
  parseErrors : List Code.ParseError
  cancelled : Bool

namespace AnalysisResult

def secretCount (r : AnalysisResult) : Nat := r.findings.countP Scan.Finding.isSecret

def suspiciousCount (r : AnalysisResult) : Nat := r.findings.length - r.secretCount

end AnalysisResult

def findingLe (a b : Scan.Finding) : Bool :=
  if a.filePath = b.filePath then a.lineNumber ≤ b.lineNumber
  else Text.le a.filePath.toList b.filePath.toList

namespace Analyzer

def outcomes (a : Analyzer) (fs : FileSystem) (c : Cancellation) (files : List SourceFile) :
    List FileOutcome :=
  files.zipIdx.map (fun e => a.outcome fs (c.seen e.2) e.1)

def merge (a : Analyzer) (outcomes : List FileOutcome) (metadata : Score.Metadata)
    (cancelled : Bool) : AnalysisResult where
  findings := (outcomes.flatMap FileOutcome.findings).mergeSort findingLe
  entities := outcomes.flatMap FileOutcome.entities
  score := Score.score metadata a.settings.weights a.settings.thresholds a.settings.params
  filesScanned := outcomes.countP FileOutcome.isScanned
  filesClassified := outcomes.countP FileOutcome.isClassified
  skipped := outcomes.filterMap FileOutcome.skippedFile?
  parseErrors := outcomes.filterMap FileOutcome.parseError?
  cancelled := cancelled

def analyze (a : Analyzer) (fs : FileSystem) (files : List SourceFile)
    (metadata : Score.Metadata) (c : Cancellation) : AnalysisResult :=
  a.merge (a.outcomes fs c files) metadata c.atEnd

def analyzeTree (a : Analyzer) (fs : FileSystem) (root : Path) (metadata : Score.Metadata)
    (c : Cancellation) : Except DiscoveryError AnalysisResult := do
  let files ← fs.discover root a.settings.extensions a.settings.skippedDirectories
  return a.analyze fs files metadata c

end Analyzer

end Appraisal

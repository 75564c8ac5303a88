import Appraisal.Code.Entity
import Appraisal.Files.Discovery
import Appraisal.Settings.Config

set_option autoImplicit false

namespace Appraisal

structure SkippedFile where
  filePath : String
  reason : Scan.Skip
  deriving DecidableEq, Repr

inductive FileOutcome where
  | skipped (file : SkippedFile)
  /-- Without a classification, the grammar does not handle the file. -/
  | scanned (findings : List Scan.Finding) (classification? : Option Code.FileClassification)
  deriving DecidableEq, Repr

namespace FileOutcome

def isScanned : FileOutcome → Bool
  | .skipped _ => false
  | .scanned _ _ => true

def classification? : FileOutcome → Option Code.FileClassification
  | .skipped _ => none
  | .scanned _ c => c

def isClassified (o : FileOutcome) : Bool := o.classification?.isSome

def findings : FileOutcome → List Scan.Finding
  | .skipped _ => []
  | .scanned findings _ => findings

def entities (o : FileOutcome) : List Code.Entity :=
  match o.classification? with
  | some c => c.entities
  | none => []

def parseError? (o : FileOutcome) : Option Code.ParseError :=
  o.classification?.bind Code.FileClassification.parseError?

def skippedFile? : FileOutcome → Option SkippedFile
  | .skipped file => some file
  | .scanned _ _ => none

def skip (file : SourceFile) (reason : Scan.Skip) : FileOutcome :=
  .skipped ⟨file.relativePath, reason⟩

end FileOutcome

structure Analyzer where
  settings : Settings
  grammar : Code.Grammar

namespace Analyzer

def classify? (a : Analyzer) (file : SourceFile) (content : ByteArray) :
    Option Code.FileClassification :=
  if a.grammar.handles file.path then
    (String.fromUTF8? content).map (fun text =>
      Code.classifyFile file.relativePath text.toList a.settings.classifier a.grammar)
  else none

/-- The outcome for a file of which so many bytes are known to exist and this content was read. -/
def outcomeOf (a : Analyzer) (file : SourceFile) (size : Nat) (content : ByteArray) :
    FileOutcome :=
  match Scan.scan file.relativePath content size a.settings.rules a.settings.limits with
  | .skipped reason => .skip file reason
  | .scanned findings => .scanned findings (a.classify? file content)

def examine (a : Analyzer) (file : SourceFile) (stated : Except FileError Nat)
    (read : Nat → Except FileError ByteArray) : FileOutcome :=
  let limit := a.settings.limits.maxFileSize
  match stated with
  | .error e => .skip file (.unreadable e.message)
  | .ok size =>
    if limit < size then a.outcomeOf file size .empty
    else match read (limit + 1) with
      | .error e => .skip file (.unreadable e.message)
      | .ok content => a.outcomeOf file size content

def outcome (a : Analyzer) (fs : FileSystem) (cancelled : Bool) (file : SourceFile) :
    FileOutcome :=
  if cancelled then .skip file .cancelled
  else a.examine file (fs.statedSize file.path) (fs.readAtMost file.path)

end Analyzer

end Appraisal

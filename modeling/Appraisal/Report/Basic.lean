import Appraisal.Analysis.Result
import Appraisal.Text.Line

set_option autoImplicit false

namespace Appraisal

structure ListedEntity where
  name : String
  file : String
  line : Nat
  signature : String
  scope? : Option String
  /-- The first line of the docstring, empty when there is none. -/
  description : String
  deriving DecidableEq, Repr

def ListedEntity.ofEntity (e : Code.Entity) : ListedEntity where
  name := e.name
  file := e.filePath
  line := e.lineNumber
  signature := e.signature
  scope? := e.scope?
  description := String.ofList (Text.firstLine ((e.docstring?.getD "").toList))

structure Report where
  metadata : Score.Metadata
  score : Score.TrustScore Float
  filesScanned : Nat
  issueCount : Nat
  secrets : List Scan.Finding
  suspicious : List Scan.Finding
  skipped : List SkippedFile
  filesParsed : Nat
  strategies : List ListedEntity
  indicators : List ListedEntity
  riskManagement : List ListedEntity
  classCount : Nat
  functionCount : Nat
  parseErrors : List Code.ParseError
  cancelled : Bool

def AnalysisResult.listed (r : AnalysisResult) (kind : Code.EntityKind) : List ListedEntity :=
  (r.entities.filter (fun e => e.kind = kind)).map .ofEntity

def Report.ofResult (r : AnalysisResult) (metadata : Score.Metadata) : Report where
  metadata := metadata
  score := r.score
  filesScanned := r.filesScanned
  issueCount := r.findings.length
  secrets := r.findings.filter Scan.Finding.isSecret
  suspicious := r.findings.filter (fun f => !f.isSecret)
  skipped := r.skipped
  filesParsed := r.filesClassified
  strategies := r.listed .strategy
  indicators := r.listed .indicator
  riskManagement := r.listed .riskManagement
  classCount := r.entities.countP (fun e => e.form = .classForm)
  functionCount := r.entities.countP (fun e => e.form = .functionForm)
  parseErrors := r.parseErrors
  cancelled := r.cancelled

end Appraisal

import Appraisal.Code.Document
import Appraisal.Report.Basic
import Appraisal.Scan.Document
import Appraisal.Score.Document

set_option autoImplicit false

namespace Appraisal

def SkippedFile.toDatum (f : SkippedFile) : Datum :=
  .map (("file_path", .text f.filePath) :: f.reason.entries)

def ListedEntity.toDatum (e : ListedEntity) : Datum :=
  .map ([("name", .text e.name), ("file", .text e.file), ("line", .ofNat e.line),
    ("signature", .text e.signature)] ++ Datum.optional "scope" (e.scope?.map .text) ++
    [("description", .text e.description)])

namespace Report

def version : String := "1.0"

def metadataDatum (m : Score.Metadata) : Datum :=
  .map [
    ("name", Score.orNull .text m.fullName?),
    ("url", Score.orNull .text m.url?),
    ("description", Score.orNull .text m.description?),
    ("language", Score.orNull .text m.language?),
    ("license", Score.orNull .text m.license?),
    ("created_at", Score.orNull Instant.toDatum m.createdAt?),
    ("updated_at", Score.orNull Instant.toDatum m.updatedAt?),
    ("pushed_at", Score.orNull Instant.toDatum m.pushedAt?),
    ("retrieved_at", Score.orNull Instant.toDatum m.retrievedAt?)]

def trustDatum (r : Report) : Datum :=
  .map [
    ("overall_score", .float r.score.overall),
    ("level", .text r.score.level.name),
    ("components", .list (r.score.components.map Score.ScoredComponent.toDatum)),
    ("metrics", .map [
      ("stars", .ofNat (r.metadata.stars?.getD 0)),
      ("forks", .ofNat (r.metadata.forks?.getD 0)),
      ("open_issues", .ofNat (r.metadata.openIssues?.getD 0))])]

def securityDatum (r : Report) : Datum :=
  .map [
    ("files_scanned", .ofNat r.filesScanned),
    ("total_issues", .ofNat r.issueCount),
    ("secrets_found", .ofNat r.secrets.length),
    ("suspicious_code_found", .ofNat r.suspicious.length),
    ("issues", .map [
      ("secrets", .list (r.secrets.map Scan.Finding.toDatum)),
      ("suspicious", .list (r.suspicious.map Scan.Finding.toDatum))]),
    ("skipped_files", .list (r.skipped.map SkippedFile.toDatum))]

def codeDatum (r : Report) : Datum :=
  .map [
    ("files_parsed", .ofNat r.filesParsed),
    ("strategies", .list (r.strategies.map ListedEntity.toDatum)),
    ("indicators", .list (r.indicators.map ListedEntity.toDatum)),
    ("risk_management", .list (r.riskManagement.map ListedEntity.toDatum)),
    ("summary", .map [
      ("total_strategies", .ofNat r.strategies.length),
      ("total_indicators", .ofNat r.indicators.length),
      ("total_risk_functions", .ofNat r.riskManagement.length),
      ("total_classes", .ofNat r.classCount),
      ("total_functions", .ofNat r.functionCount)]),
    ("parse_errors", .list (r.parseErrors.map Code.ParseError.toDatum))]

def toDatum (r : Report) : Datum :=
  .map [
    ("spec_version", .text version),
    ("metadata", metadataDatum r.metadata),
    ("trustworthiness", r.trustDatum),
    ("security", r.securityDatum),
    ("code_analysis", r.codeDatum),
    ("cancelled", .bool r.cancelled)]

end Report

end Appraisal

import Appraisal.Data.Json.Writer
import Appraisal.Report.Basic
import Appraisal.Score.Document

set_option autoImplicit false

namespace Appraisal.Report

abbrev Lines := List (List Char)

def textOf (lines : Lines) : List Char := lines.flatMap (fun line => line ++ ['\n'])

def number (n : Nat) : List Char := Decimal.digitsOf n

def labelled (label : String) (value : List Char) : List Char :=
  "- **".toList ++ label.toList ++ "**: ".toList ++ value

def orUnknown (text? : Option String) : List Char := (text?.getD "unknown").toList

/-- A description with something to see in it. -/
def visibleDescription? (m : Score.Metadata) : Option (List Char) :=
  (m.description?.map String.toList).filter (fun d => !(Text.trim d).isEmpty)

def titleLines (m : Score.Metadata) : Lines :=
  ["# ".toList ++ (m.fullName?.getD "Unnamed repository").toList, []] ++
    (match visibleDescription? m with
      | some d => [d, []]
      | none => [])

def repositoryLines (m : Score.Metadata) : Lines :=
  ["## Repository Information".toList, [],
    labelled "URL" (orUnknown m.url?),
    labelled "Language" (orUnknown m.language?),
    labelled "License" (orUnknown m.license?),
    labelled "Created" (orUnknown (m.createdAt?.map Instant.plainText)),
    labelled "Last Updated" (orUnknown (m.updatedAt?.map Instant.plainText)), []]

def rawText (raw : Score.RawValue) : List Char :=
  match raw with
  | .missing => "n/a".toList
  | .count n => number n
  | .text s => Json.quote s

def row (cells : Lines) : List Char := cells.flatMap (fun c => "| ".toList ++ c ++ [' ']) ++ ['|']

def componentRow (c : Score.ScoredComponent Float) : List Char :=
  row [c.component.name.toList, rawText c.raw, (Decimal.fixed 3 c.normalized).toList,
    (Decimal.fixed 2 c.weight).toList]

def scoreText (score : Float) (level : Score.Level) : List Char :=
  (Decimal.fixed 3 score).toList ++ " (".toList ++ level.name.toList ++ [')']

def trustLines (r : Report) : Lines :=
  ["## Trustworthiness Analysis".toList, [],
    labelled "Overall Score" (scoreText r.score.overall r.score.level),
    labelled "Stars" (number (r.metadata.stars?.getD 0)),
    labelled "Forks" (number (r.metadata.forks?.getD 0)),
    labelled "Open Issues" (number (r.metadata.openIssues?.getD 0)), [],
    "| Component | Raw | Normalized | Weight |".toList,
    "|-----------|-----|------------|--------|".toList] ++
    r.score.components.map componentRow ++ [[]]

def findingLine (f : Scan.Finding) : List Char :=
  "- \x60".toList ++ f.filePath.toList ++ [':'] ++ number f.lineNumber ++ "\x60 ".toList ++
    f.ruleId.toList ++ " (".toList ++ f.category.name.toList ++ "): \x60".toList ++
    f.snippet.toList ++ ['\x60']

def securityLines (r : Report) : Lines :=
  ["## Security Scan Results".toList, [],
    labelled "Files Scanned" (number r.filesScanned),
    labelled "Total Issues" (number r.issueCount),
    labelled "Secrets Found" (number r.secrets.length),
    labelled "Suspicious Code Patterns" (number r.suspicious.length),
    labelled "Files Skipped" (number r.skipped.length), []] ++
    (r.secrets ++ r.suspicious).map findingLine ++
    (if r.issueCount = 0 then [] else [[]])

def codeLines (r : Report) : Lines :=
  ["## Code Analysis".toList, [],
    labelled "Files Parsed" (number r.filesParsed),
    labelled "Parse Errors" (number r.parseErrors.length),
    labelled "Strategies Found" (number r.strategies.length),
    labelled "Indicators Found" (number r.indicators.length),
    labelled "Risk Management Functions" (number r.riskManagement.length), []]

def entityLines (e : ListedEntity) : Lines :=
  ["- **".toList ++ e.name.toList ++ "** \x60".toList ++ e.signature.toList ++ ['\x60']] ++
    (if e.description.isEmpty then [] else ["  - ".toList ++ e.description.toList]) ++
    ["  - Location: \x60".toList ++ e.file.toList ++ [':'] ++ number e.line ++ ['\x60']]

/-- A list of entities under its title; an empty list is left out. -/
def entityListLines (title : String) (entities : List ListedEntity) : Lines :=
  if entities.isEmpty then []
  else ["### ".toList ++ title.toList, []] ++ entities.flatMap entityLines ++ [[]]

def cancelledLines (r : Report) : Lines :=
  if r.cancelled then ["_Analysis was cancelled before every file was processed._".toList]
  else []

def markdownLines (r : Report) : Lines :=
  titleLines r.metadata ++ repositoryLines r.metadata ++ r.trustLines ++ r.securityLines ++
    r.codeLines ++ entityListLines "Strategies" r.strategies ++
    entityListLines "Indicators" r.indicators ++
    entityListLines "Risk Management" r.riskManagement ++ r.cancelledLines

def markdown (r : Report) : List Char := textOf r.markdownLines

end Appraisal.Report

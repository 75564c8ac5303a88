import Appraisal.Data.Json.Writer
import Appraisal.Report.Document
import Appraisal.Report.Markdown

set_option autoImplicit false

namespace Appraisal

inductive ReportFormat where
  | json
  | markdown
  deriving DecidableEq, Repr

def ReportFormat.name : ReportFormat → String
  | .json => "json"
  | .markdown => "markdown"

def ReportFormat.all : List ReportFormat := [.json, .markdown]

def Report.render (r : Report) : ReportFormat → String
  | .json => Json.pretty r.toDatum
  | .markdown => String.ofList r.markdown

end Appraisal

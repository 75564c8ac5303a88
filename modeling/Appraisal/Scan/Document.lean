import Appraisal.Data.Field
import Appraisal.Scan.Finding

set_option autoImplicit false

namespace Appraisal.Scan

def Category.ofDatum? : Datum → Option Category := Datum.choice? Category.all Category.name

def Severity.ofDatum? : Datum → Option Severity := Datum.choice? Severity.all Severity.name

/-- A rule whose severity is not given is of medium severity. -/
def Rule.ofDatum? (d : Datum) : Option Rule := do
  let r ← d.recordOrList? ["id", "category", "pattern", "severity"]
  return {
    id := ← r.required? "id" Datum.text?
    category := ← r.required? "category" Category.ofDatum?
    pattern := ← r.required? "pattern" Datum.text?
    severity := ← r.orElse? "severity" .medium Severity.ofDatum? }

def Limits.fields : List String :=
  ["max_file_size", "binary_probe_bytes", "context_lines", "redaction_placeholder"]

def Limits.ofRecord? (r : Datum.Record) : Option Limits := do
  return {
    maxFileSize := ← r.orElse? "max_file_size" Limits.default.maxFileSize Datum.nat?
    probeBytes := ← r.orElse? "binary_probe_bytes" Limits.default.probeBytes Datum.nat?
    contextLines := ← r.orElse? "context_lines" Limits.default.contextLines Datum.nat?
    placeholder := ← r.orElse? "redaction_placeholder" Limits.default.placeholder Datum.text? }

def Limits.ofDatum? (d : Datum) : Option Limits := do
  Limits.ofRecord? (← d.recordOrList? Limits.fields)

def ContextLine.toDatum (line : ContextLine) : Datum :=
  .map [("line_number", .ofNat line.lineNumber), ("text", .text line.text)]

def Finding.toDatum (f : Finding) : Datum :=
  .map ([
    ("file_path", .text f.filePath),
    ("line_number", .ofNat f.lineNumber),
    ("category", .text f.category.name),
    ("rule_id", .text f.ruleId),
    ("severity", .text f.severity.name),
    ("matched_snippet", .text f.snippet),
    ("context_line", .text f.contextLine)] ++
    (if f.context.isEmpty then []
      else [("context", .list (f.context.map ContextLine.toDatum))]))

def Skip.entries : Skip → List (String × Datum)
  | .oversized size limit =>
    [("reason", .text "oversized"), ("size", .ofNat size), ("limit", .ofNat limit)]
  | .binary => [("reason", .text "binary")]
  | .notText => [("reason", .text "not_utf8")]
  | .unreadable message => [("reason", .text "unreadable"), ("message", .text message)]
  | .cancelled => [("reason", .text "cancelled")]

end Appraisal.Scan

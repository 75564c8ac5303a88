import Appraisal.Data.Json.Reader
import Appraisal.Data.Json.Writer
import Appraisal.Index.Basic
import Appraisal.Score.Document

set_option autoImplicit false

namespace Appraisal

def IndexEntry.fields : List String :=
  ["name", "url", "trustworthiness_score", "trustworthiness_level", "security_issues",
    "strategies_count", "indicators_count", "risk_functions_count", "report_path", "added_at"]

def IndexEntry.ofDatum? (d : Datum) : Option IndexEntry := do
  let r ← d.recordOrList? IndexEntry.fields
  return {
    name := ← r.required? "name" Datum.text?
    url? := ← r.optional? "url" Datum.text?
    score := ← r.required? "trustworthiness_score" Datum.float?
    level := ← r.required? "trustworthiness_level" Score.Level.ofDatum?
    issueCount := ← r.required? "security_issues" Datum.nat?
    strategyCount := ← r.required? "strategies_count" Datum.nat?
    indicatorCount := ← r.required? "indicators_count" Datum.nat?
    riskCount := ← r.required? "risk_functions_count" Datum.nat?
    reportPath := ← r.required? "report_path" Datum.text?
    addedAt := ← r.required? "added_at" Instant.ofDatum? }

def IndexEntry.toDatum (e : IndexEntry) : Datum :=
  .map ([("name", .text e.name)] ++ Datum.optional "url" (e.url?.map .text) ++ [
    ("trustworthiness_score", .float e.score),
    ("trustworthiness_level", .text e.level.name),
    ("security_issues", .ofNat e.issueCount),
    ("strategies_count", .ofNat e.strategyCount),
    ("indicators_count", .ofNat e.indicatorCount),
    ("risk_functions_count", .ofNat e.riskCount),
    ("report_path", .text e.reportPath),
    ("added_at", e.addedAt.toDatum)])

def IndexTotals.fields : List String :=
  ["total_repositories", "total_strategies", "total_indicators", "total_risk_functions",
    "total_security_issues"]

def IndexTotals.ofDatum? (d : Datum) : Option IndexTotals := do
  let r ← d.recordOrList? IndexTotals.fields
  return {
    repositories := ← r.required? "total_repositories" Datum.nat?
    strategies := ← r.required? "total_strategies" Datum.nat?
    indicators := ← r.required? "total_indicators" Datum.nat?
    risks := ← r.required? "total_risk_functions" Datum.nat?
    issues := ← r.required? "total_security_issues" Datum.nat? }

def IndexTotals.toDatum (t : IndexTotals) : Datum :=
  .map [
    ("total_repositories", .ofNat t.repositories),
    ("total_strategies", .ofNat t.strategies),
    ("total_indicators", .ofNat t.indicators),
    ("total_risk_functions", .ofNat t.risks),
    ("total_security_issues", .ofNat t.issues)]

namespace ReportIndex

def fields : List String := ["version", "created_at", "updated_at", "repositories", "stats"]

/-- The index in a document as it stands there; its totals may be missing or stale. -/
def ofDatum? (d : Datum) : Option ReportIndex := do
  let r ← d.recordOrList? fields
  return {
    version := ← r.required? "version" Datum.text?
    createdAt := ← r.required? "created_at" Instant.ofDatum?
    updatedAt := ← r.required? "updated_at" Instant.ofDatum?
    entries := ← r.required? "repositories" (Datum.list? IndexEntry.ofDatum?)
    totals := ← r.orElse? "stats" ⟨0, 0, 0, 0, 0⟩ IndexTotals.ofDatum? }

def toDatum (i : ReportIndex) : Datum :=
  .map [
    ("version", .text i.version),
    ("created_at", i.createdAt.toDatum),
    ("updated_at", i.updatedAt.toDatum),
    ("repositories", .list (i.entries.map IndexEntry.toDatum)),
    ("stats", i.totals.toDatum)]

def encode (i : ReportIndex) : String := Json.pretty i.toDatum

/-- The index in a text, with totals that fit its entries. -/
def decode? (text : String) : Option ReportIndex :=
  ((Json.read? text).bind ofDatum?).map recomputed

end ReportIndex

end Appraisal

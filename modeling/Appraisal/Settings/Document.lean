import Appraisal.Code.Document
import Appraisal.Data.Format
import Appraisal.Data.Yaml.Writer
import Appraisal.Files.FileSystem
import Appraisal.Scan.Document
import Appraisal.Score.Document
import Appraisal.Settings.Config

set_option autoImplicit false

namespace Appraisal

namespace Settings

/-- The entries for the fields that stand in a section among its own. -/
def inlined? (own fields : List String) (r : Datum.Record) : Option Datum.Record :=
  Datum.record? fields (.map (r.others own))

def Security.ofDatum? (d : Datum) : Option Security := do
  let own := ["scan_secrets", "scan_patterns", "rules"]
  let r ← d.record? own
  return {
    scanSecrets := ← r.orElse? "scan_secrets" true Datum.bool?
    scanPatterns := ← r.orElse? "scan_patterns" true Datum.bool?
    rules := ← r.orElse? "rules" Scan.defaultRules (Datum.list? Scan.Rule.ofDatum?)
    limits := ← Scan.Limits.ofRecord? (← inlined? own Scan.Limits.fields r) }

def Classification.ofDatum? (d : Datum) : Option Classification := do
  let own := ["max_docstring_length"]
  let r ← d.record? own
  return {
    vocabulary := ← Code.Vocabulary.ofRecord? (← inlined? own Code.Vocabulary.fields r)
    maxDocstring :=
      ← r.orElse? "max_docstring_length" Code.Classifier.defaultMaxDocstring Datum.nat? }

def Scoring.ofDatum? (d : Datum) : Option Scoring := do
  let own := ["weights", "thresholds", "min_score"]
  let r ← d.record? own
  return {
    weights := ← r.orElse? "weights" Score.Weights.default Score.Weights.ofDatum?
    thresholds :=
      ← r.orElse? "thresholds" Score.defaultThresholds (Datum.list? Score.Threshold.ofDatum?)
    minScore := ← r.orElse? "min_score" Scoring.default.minScore Datum.float?
    params := ← Score.Params.ofRecord? (← inlined? own Score.Params.fields r) }

def Analysis.ofDatum? (workers : Nat) (d : Datum) : Option Analysis := do
  let r ← d.recordOrList? ["workers", "extensions", "skip_dirs"]
  return {
    workers := ← r.orElse? "workers" workers Datum.nat?
    extensions := ← r.orElse? "extensions" defaultExtensions (Datum.list? Datum.text?)
    skippedDirectories :=
      ← r.orElse? "skip_dirs" defaultSkippedDirectories (Datum.list? Datum.text?) }

def Config.ofDatum? (workers : Nat) (d : Datum) : Option Config := do
  let r ← d.recordOrList? ["security", "classifier", "scoring", "analysis"]
  return {
    security := ← r.orElse? "security" Security.default Security.ofDatum?
    classification := ← r.orElse? "classifier" Classification.default Classification.ofDatum?
    scoring := ← r.orElse? "scoring" Scoring.default Scoring.ofDatum?
    analysis := ← r.orElse? "analysis" (Analysis.default workers) (Analysis.ofDatum? workers) }

/-- The configuration in a text. Blanks alone are the default configuration, in YAML. -/
def Config.read? (workers : Nat) (format : Format) (text : String) : Option Config :=
  if format = .yaml ∧ (Text.trim text.toList).isEmpty then some (.default workers)
  else (format.read? text).bind (Config.ofDatum? workers)

def ruleDatum (r : Scan.Rule) : Datum := .map [
  ("id", .text r.id), ("category", .text r.category.name), ("pattern", .text r.pattern),
  ("severity", .text r.severity.name)]

def limitEntries (l : Scan.Limits) : List (String × Datum) := [
  ("max_file_size", .ofNat l.maxFileSize), ("binary_probe_bytes", .ofNat l.probeBytes),
  ("context_lines", .ofNat l.contextLines), ("redaction_placeholder", .text l.placeholder)]

def vocabularyEntries (v : Code.Vocabulary) : List (String × Datum) := [
  ("risk_keywords", .texts v.risk), ("indicator_keywords", .texts v.indicator),
  ("strategy_keywords", .texts v.strategy)]

def weightsDatum (w : Score.Weights Float) : Datum :=
  .map (Score.Component.all.map (fun c => (c.name, .float (w.get c))))

def thresholdDatum (t : Score.Threshold Float) : Datum :=
  .map [("below", .float t.below), ("level", .text t.level.name)]

def paramEntries (p : Score.Params Float) : List (String × Datum) :=
  p.caps.map (fun cap => (cap.1, .ofNat cap.2)) ++ [
    ("recognized_licenses", .texts p.recognizedLicenses),
    ("unrecognized_license_score", .float p.unrecognizedLicenseScore)]

def Config.toDatum (c : Config) : Datum := .map [
  ("security", .map ([
    ("scan_secrets", .bool c.security.scanSecrets),
    ("scan_patterns", .bool c.security.scanPatterns),
    ("rules", .list (c.security.rules.map ruleDatum))] ++ limitEntries c.security.limits)),
  ("classifier", .map (vocabularyEntries c.classification.vocabulary ++ [
    ("max_docstring_length", .ofNat c.classification.maxDocstring)])),
  ("scoring", .map ([
    ("weights", weightsDatum c.scoring.weights),
    ("thresholds", .list (c.scoring.thresholds.map thresholdDatum)),
    ("min_score", .float c.scoring.minScore)] ++ paramEntries c.scoring.params)),
  ("analysis", .map [
    ("workers", .ofNat c.analysis.workers),
    ("extensions", .texts c.analysis.extensions),
    ("skip_dirs", .texts c.analysis.skippedDirectories)])]

def Config.defaultText (workers : Nat) : String := Yaml.write (Config.default workers).toDatum

end Settings

open Settings

def FileSystem.loadConfig (fs : FileSystem) (workers : Nat) (p : Path) :
    Except SettingsError Config := do
  match Format.ofExtension? p.extensionText with
  | none => .error (.unsupportedFormat p.extensionText)
  | some format =>
    let text ← (fs.readText p).mapError (fun e => .unreadable p.toString e.message)
    match Config.read? workers format text with
    | some c => .ok c
    | none => .error (.unparsable p.toString)

end Appraisal

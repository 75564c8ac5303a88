import Appraisal.Code.Entity
import Appraisal.Scan.Defaults
import Appraisal.Scan.Finding
import Appraisal.Settings.Error

set_option autoImplicit false

/-!
# Configuration and settings

A configuration is what a user writes, with a default for everything. Settings are a configuration
that passed all checks: its rules can be read, its numbers are in range, its weights and thresholds
are fit for use and its extensions are in the form in which they are compared.
-/
namespace Appraisal

namespace Settings

structure Security where
  scanSecrets : Bool
  scanPatterns : Bool
  rules : List Scan.Rule
  limits : Scan.Limits

structure Classification where
  vocabulary : Code.Vocabulary
  maxDocstring : Nat

structure Scoring where
  weights : Score.Weights Float
  thresholds : List (Score.Threshold Float)
  minScore : Float
  params : Score.Params Float

structure Analysis where
  workers : Nat
  extensions : List String
  skippedDirectories : List String

structure Config where
  security : Security
  classification : Classification
  scoring : Scoring
  analysis : Analysis

def Security.default : Security := ⟨true, true, Scan.defaultRules, .default⟩

def Classification.default : Classification := ⟨.default, Code.Classifier.defaultMaxDocstring⟩

def Scoring.default : Scoring := ⟨.default, Score.defaultThresholds, 0.3, .default⟩

def defaultExtensions : List String := ["py", "pyi"]

def defaultSkippedDirectories : List String :=
  [".git", "__pycache__", "venv", ".venv", "env", "node_modules"]

def Analysis.default (workers : Nat) : Analysis :=
  ⟨workers, defaultExtensions, defaultSkippedDirectories⟩

def Config.default (workers : Nat) : Config :=
  ⟨.default, .default, .default, .default workers⟩

def Security.enables (s : Security) (rule : Scan.Rule) : Bool :=
  match rule.category with
  | .secret => s.scanSecrets
  | .suspicious => s.scanPatterns

def Security.enabledRules (s : Security) : List Scan.Rule := s.rules.filter s.enables

def normalizeExtension (extension : String) : String :=
  String.ofList (((Text.trim extension.toList).dropWhile (· = '.')).map Char.toLower)

/-- The extensions in the form in which they are compared, without empty ones. -/
def Analysis.normalizedExtensions (a : Analysis) : List String :=
  (a.extensions.map normalizeExtension).filter (fun e => !e.isEmpty)

end Settings

structure Settings where
  rules : Scan.RuleSet
  limits : Scan.Limits
  classifier : Code.Classifier
  weights : Score.Weights Float
  thresholds : List (Score.Threshold Float)
  params : Score.Params Float
  minScore : Float
  workers : Nat
  extensions : List String
  skippedDirectories : List String

namespace Settings

def refuse (error? : Option SettingsError) : Except SettingsError Unit :=
  match error? with
  | some e => .error e
  | none => .ok ()

def positive (key : String) (n : Nat) : Except SettingsError Unit :=
  if n = 0 then .error (.value key .positive) else .ok ()

/-- The settings of a configuration, or the first thing that is wrong with it. -/
def Config.validate (c : Config) : Except SettingsError Settings := do
  let rules ← (Scan.RuleSet.compile c.security.enabledRules).mapError .rule
  positive "security.max_file_size" c.security.limits.maxFileSize
  positive "security.binary_probe_bytes" c.security.limits.probeBytes
  positive "classifier.max_docstring_length" c.classification.maxDocstring
  refuse (c.scoring.weights.flaw?.map .weights)
  refuse ((Score.thresholdFlaw? c.scoring.thresholds).map .thresholds)
  refuse (c.scoring.params.flaw?.map .ofParams)
  if !Score.isUnit c.scoring.minScore then
    .error (.value "scoring.min_score" (.withinUnit c.scoring.minScore))
  positive "analysis.workers" c.analysis.workers
  if c.analysis.normalizedExtensions.isEmpty then
    .error (.value "analysis.extensions" .someExtension)
  return {
    rules := rules
    limits := c.security.limits
    classifier := .ofVocabulary c.classification.vocabulary c.classification.maxDocstring
    weights := c.scoring.weights
    thresholds := c.scoring.thresholds
    params := c.scoring.params
    minScore := c.scoring.minScore
    workers := c.analysis.workers
    extensions := c.analysis.normalizedExtensions
    skippedDirectories := c.analysis.skippedDirectories }

end Settings

end Appraisal

import Appraisal.Decimal.Notation
import Appraisal.Scan.Rule
import Appraisal.Score.Level
import Appraisal.Score.Params
import Appraisal.Score.Weights

set_option autoImplicit false

namespace Appraisal.Settings

inductive Requirement where
  | positive
  | withinUnit (value : Float)
  | someExtension

def Requirement.message : Requirement → String
  | .positive => "must be greater than zero"
  | .withinUnit value => "must be within [0, 1], got " ++ Decimal.plain value
  | .someExtension => "at least one file extension is required"

inductive SettingsError where
  | unreadable (path message : String)
  | unparsable (path : String)
  | unsupportedFormat (extension : String)
  | rule (error : Scan.RuleError)
  | weights (flaw : Score.WeightFlaw Float)
  | thresholds (flaw : Score.ThresholdFlaw Float)
  | value (key : String) (requirement : Requirement)

def SettingsError.ofParams : Score.ParamFlaw Float → SettingsError
  | .zeroCap key => .value ("scoring." ++ key) .positive
  | .licenseScore x => .value "scoring.unrecognized_license_score" (.withinUnit x)

def ruleMessage : Scan.RuleError → String
  | .duplicateId id => "duplicate rule id: " ++ id
  | .unreadablePattern id => "invalid pattern for rule '" ++ id ++ "'"

def weightMessage : Score.WeightFlaw Float → String
  | .improper component value =>
    "scoring weight '" ++ component.name ++ "' must be a finite non-negative number, got " ++
      Decimal.plain value
  | .sum sum => "scoring weights must sum to 1.0, got " ++ Decimal.plain sum

def thresholdText (t : Score.Threshold Float) : String :=
  Decimal.plain t.below ++ " (" ++ t.level.name ++ ")"

def thresholdMessage : Score.ThresholdFlaw Float → String
  | .none => "at least one level threshold is required"
  | .notFinite level => "threshold for '" ++ level.name ++ "' is not a finite number"
  | .notAscending first second =>
    "thresholds must be strictly ascending: " ++ thresholdText first ++ " is not below " ++
      thresholdText second

def SettingsError.message : SettingsError → String
  | .unreadable path message => "failed to read config file '" ++ path ++ "': " ++ message
  | .unparsable path => "failed to parse config file '" ++ path ++ "'"
  | .unsupportedFormat extension =>
    "unsupported config format: " ++ extension ++ " (expected json or yaml)"
  | .rule error => ruleMessage error
  | .weights flaw => weightMessage flaw
  | .thresholds flaw => "invalid level thresholds: " ++ thresholdMessage flaw
  | .value key requirement =>
    "invalid value for '" ++ key ++ "': " ++ requirement.message

end Appraisal.Settings

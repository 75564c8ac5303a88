import Appraisal.Scan.Rule
import Appraisal.Text.Line

set_option autoImplicit false

/-!
# Redaction

A line keeps only what stands before the earliest match of a secret rule. Some of these rules match
the name of a credential alone, so all that follows the name goes with it.
-/
namespace Appraisal.Scan

def earliestSecret? (rules : RuleSet) (line : List Char) : Option Nat :=
  (rules.secrets.filterMap (fun d => (d.pattern.find? line).map (·.start))).min?

def redact (rules : RuleSet) (placeholder line : List Char) : List Char :=
  match earliestSecret? rules line with
  | some start => line.take start ++ placeholder
  | none => line

def storedLimit : Nat := 240

/-- The form in which a line is kept: redacted first, then trimmed and cut. -/
def storedLine (rules : RuleSet) (placeholder line : List Char) : List Char :=
  Text.truncate storedLimit (Text.trim (redact rules placeholder line))

theorem redact_of_none {rules : RuleSet} {placeholder line : List Char}
    (h : earliestSecret? rules line = none) : redact rules placeholder line = line := by
  simp [redact, h]

theorem redact_of_some {rules : RuleSet} {placeholder line : List Char} {start : Nat}
    (h : earliestSecret? rules line = some start) :
    redact rules placeholder line = line.take start ++ placeholder := by
  simp [redact, h]

end Appraisal.Scan

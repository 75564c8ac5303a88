import Appraisal.Scan.Redaction

set_option autoImplicit false

/-!
# Findings of a file

Each non-empty match of a rule on a line is a finding. A secret is never quoted: its snippet is the
placeholder and it has no context. A suspicious match is quoted with the lines around it.
Content that is too large, binary or no text is skipped as a whole.
-/
namespace Appraisal.Scan

structure Limits where
  maxFileSize : Nat
  probeBytes : Nat
  contextLines : Nat
  placeholder : String
  deriving DecidableEq, Repr

def Limits.default : Limits := ⟨1048576, 8000, 2, "[REDACTED]"⟩

inductive Skip where
  | oversized (size limit : Nat)
  | binary
  | notText
  | unreadable (message : String)
  | cancelled
  deriving DecidableEq, Repr

def Skip.message : Skip → String
  | .oversized size limit =>
    "file size " ++ toString size ++ " exceeds limit " ++ toString limit
  | .binary => "binary content"
  | .notText => "not valid UTF-8"
  | .unreadable message => "unreadable: " ++ message
  | .cancelled => "cancelled before dispatch"

structure ContextLine where
  lineNumber : Nat
  text : String
  deriving DecidableEq, Repr

structure Finding where
  filePath : String
  lineNumber : Nat
  category : Category
  ruleId : String
  severity : Severity
  snippet : String
  contextLine : String
  context : List ContextLine
  deriving DecidableEq, Repr

def Finding.isSecret (f : Finding) : Bool := f.category == .secret

inductive FileScan where
  | scanned (findings : List Finding)
  | skipped (reason : Skip)
  deriving DecidableEq, Repr

def FileScan.findings : FileScan → List Finding
  | .scanned findings => findings
  | .skipped _ => []

def FileScan.skip? : FileScan → Option Skip
  | .scanned _ => none
  | .skipped reason => some reason

/-- A zero byte among the first `probe` bytes. -/
def looksBinary (content : ByteArray) (probe : Nat) : Bool :=
  (content.toList.take probe).any (· == 0)

def linesAround (numbered : List (List Char × Nat)) (number reach : Nat) :
    List (List Char × Nat) :=
  numbered.filter (fun e => e.2 != number && number ≤ e.2 + reach && e.2 ≤ number + reach)

def contextOf (rules : RuleSet) (limits : Limits) (numbered : List (List Char × Nat))
    (number : Nat) : List ContextLine :=
  (linesAround numbered number limits.contextLines).map (fun e =>
    ⟨e.2, String.ofList (storedLine rules limits.placeholder.toList e.1)⟩)

def findingOf (path : String) (rules : RuleSet) (limits : Limits)
    (numbered : List (List Char × Nat)) (line : List Char) (number : Nat) (d : Detector)
    (found : Pattern.Occurrence) : Finding where
  filePath := path
  lineNumber := number
  category := d.rule.category
  ruleId := d.rule.id
  severity := d.rule.severity
  snippet := if d.isSecret then limits.placeholder else String.ofList found.text
  contextLine := String.ofList (storedLine rules limits.placeholder.toList line)
  context := if d.isSecret then [] else contextOf rules limits numbered number

/-- The findings on one line, rule by rule and from left to right. -/
def lineFindings (path : String) (rules : RuleSet) (limits : Limits)
    (numbered : List (List Char × Nat)) (line : List Char) (number : Nat) : List Finding :=
  rules.detectors.flatMap (fun d =>
    (d.pattern.occurrences line).map (findingOf path rules limits numbered line number d))

def textFindings (path : String) (rules : RuleSet) (limits : Limits) (text : List Char) :
    List Finding :=
  let numbered := (Text.lines text).zipIdx 1
  numbered.flatMap (fun e => lineFindings path rules limits numbered e.1 e.2)

def scan (path : String) (content : ByteArray) (statedSize : Nat) (rules : RuleSet)
    (limits : Limits) : FileScan :=
  let size := max statedSize content.size
  if limits.maxFileSize < size then .skipped (.oversized size limits.maxFileSize)
  else if looksBinary content limits.probeBytes then .skipped .binary
  else match String.fromUTF8? content with
    | some text => .scanned (textFindings path rules limits text.toList)
    | none => .skipped .notText

end Appraisal.Scan

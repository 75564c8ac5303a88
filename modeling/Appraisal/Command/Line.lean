import Appraisal.Command.Options
import Appraisal.Data.Scalar
import Appraisal.Files.Path
import Appraisal.Report.Format

set_option autoImplicit false

namespace Appraisal.Command

structure AnalyzeArgs where
  path : Path
  metadata? : Option Path
  config? : Option Path
  format : ReportFormat
  outputFile? : Option Path
  workers? : Option Nat
  noIndex : Bool

structure ScoreArgs where
  metadata : Path
  config? : Option Path

structure ListArgs where
  indexPath : Path
  minScore? : Option Float
  maxIssues? : Option Nat

inductive Task where
  | analyze (args : AnalyzeArgs)
  | score (args : ScoreArgs)
  | initConfig (outputFile? : Option Path)
  | stats (indexPath : Path)
  | list (args : ListArgs)

structure CommandLine where
  verbose : Nat
  quiet : Bool
  task : Task

inductive Verbosity where
  | quiet
  | normal
  | verbose
  | debug
  | trace
  deriving DecidableEq, Repr

def Verbosity.ofFlags (verbose : Nat) (quiet : Bool) : Verbosity :=
  if quiet then .quiet
  else match verbose with
    | 0 => .normal
    | 1 => .verbose
    | 2 => .debug
    | _ => .trace

def Verbosity.warns (v : Verbosity) : Bool := v ≠ .quiet

def checkPath (v : String) : Option UsageError := if v.isEmpty then some .invalidValue else none

def format? (v : String) : Option ReportFormat :=
  ReportFormat.all.find? (fun f => f.name == v)

def checkFormat (v : String) : Option UsageError :=
  if (format? v).isNone then some .invalidValue else none

def count? (v : String) : Option Nat :=
  let digits := match v.toList with
    | '+' :: r => r
    | cs => cs
  (Scalar.nat? 10 digits).filter (· < UInt64.size)

/-- The words for infinity and for the undefined value, in any case and with any sign. -/
def special? (cs : List Char) : Option Float :=
  let (negative, r) := match cs with
    | '-' :: r => (true, r)
    | '+' :: r => (false, r)
    | _ => (false, cs)
  let word := String.ofList (r.map Char.toLower)
  let x? :=
    if word ∈ ["inf", "infinity"] then some Scalar.infinity
    else if word = "nan" then some Scalar.notANumber
    else none
  x?.map (fun x => if negative then -x else x)

def number? (v : String) : Option Float :=
  (special? v.toList).or (Scalar.signedDecimal? v.toList)

def checkType {α : Type} (read? : String → Option α) (v : String) : Option UsageError :=
  if (read? v).isNone then some .malformedValue else none

def verboseOption : Opt := ⟨"verbose", some 'v', .counter⟩

def quietOption : Opt := ⟨"quiet", some 'q', .flag⟩

def commonOptions : List Opt := [verboseOption, quietOption, ⟨"help", some 'h', .help⟩]

def topOptions : List Opt := commonOptions ++ [⟨"version", some 'V', .version⟩]

def pathOption (long : String) (short? : Option Char) : Opt := ⟨long, short?, .value checkPath⟩

def analyzeOptions : List Opt := [
  pathOption "path" none, pathOption "metadata" none, pathOption "config" none,
  ⟨"format", some 'f', .value checkFormat⟩, pathOption "output-file" (some 'O'),
  ⟨"workers", none, .value (checkType count?)⟩, ⟨"no-index", none, .flag⟩]

def scoreOptions : List Opt := [pathOption "metadata" none, pathOption "config" none]

def initConfigOptions : List Opt := [pathOption "output-file" (some 'O')]

def statsOptions : List Opt := [pathOption "artifacts-dir" (some 'a')]

def listOptions : List Opt := statsOptions ++ [
  ⟨"min-score", some 's', .value (checkType number?)⟩,
  ⟨"max-issues", some 'i', .value (checkType count?)⟩]

def path? (s : Options) (name : String) : Option Path := (s.get? name).map Path.ofString

def requiredPath (s : Options) (name : String) : Except UsageError Path :=
  match path? s name with
  | some p => .ok p
  | none => .error .missingRequired

def indexPath (s : Options) : Path :=
  ((path? s "artifacts-dir").getD (.ofString "artifacts")).join (.ofString "index.json")

def analyzeTask (s : Options) : Except UsageError Task := do
  return .analyze {
    path := ← requiredPath s "path"
    metadata? := path? s "metadata"
    config? := path? s "config"
    format := ((s.get? "format").bind format?).getD .json
    outputFile? := path? s "output-file"
    workers? := (s.get? "workers").bind count?
    noIndex := s.has "no-index" }

def scoreTask (s : Options) : Except UsageError Task := do
  return .score ⟨← requiredPath s "metadata", path? s "config"⟩

def listTask (s : Options) : Except UsageError Task :=
  .ok (.list {
    indexPath := indexPath s
    minScore? := (s.get? "min-score").bind number?
    maxIssues? := (s.get? "max-issues").bind count? })

def commands : List (String × List Opt × (Options → Except UsageError Task)) := [
  ("analyze", analyzeOptions, analyzeTask),
  ("score", scoreOptions, scoreTask),
  ("init-config", initConfigOptions, fun s => .ok (.initConfig (path? s "output-file"))),
  ("stats", statsOptions, fun s => .ok (.stats (indexPath s))),
  ("list", listOptions, listTask)]

def helpCommand : String := "help"

def isCommandName (w : String) : Bool := w == helpCommand || commands.any (fun c => c.1 == w)

def helpOn (words : List String) : UsageError :=
  match words with
  | [] => .help
  | [w] => if isCommandName w then .help else .unknownCommand
  | _ => .unknownCommand

/-- A number of times is told up to 255. -/
def maxVerbose : Nat := 255

def finish (top inner : Options) (task : Task) : CommandLine where
  verbose :=
    min maxVerbose (if inner.has "verbose" then inner.count "verbose" else top.count "verbose")
  quiet := inner.has "quiet" || top.has "quiet"
  task := task

def readCommand (top : Options) (opts : List Opt) (task : Options → Except UsageError Task)
    (words : List String) : Except UsageError CommandLine := do
  let (s, stop) ← Options.read (opts ++ commonOptions) .start words
  match stop with
  | .word _ _ => .error .unknownArgument
  | .dashes (_ :: _) => .error .unknownArgument
  | .dashes [] | .done =>
    let s ← s.resolve
    return finish top s (← task s)

def withoutCommand (top : Options) : UsageError :=
  if top.given.isEmpty then .helpOnMissingCommand else .missingCommand

def CommandLine.read (words : List String) : Except UsageError CommandLine := do
  let (top, stop) ← Options.read topOptions .start words
  match stop with
  | .done | .dashes [] => .error (withoutCommand top)
  | .dashes (w :: _) => .error (if isCommandName w then .unknownArgument else .unknownCommand)
  | .word w rest =>
    if w = helpCommand then .error (helpOn rest)
    else match commands.find? (fun c => c.1 == w) with
      | some (_, opts, task) => readCommand top opts task rest
      | none => .error .unknownCommand

end Appraisal.Command

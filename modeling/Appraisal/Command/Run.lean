import Appraisal.Command.Error
import Appraisal.Command.Line
import Appraisal.Index.File
import Appraisal.Python.Definitions
import Appraisal.Score.MetadataFile
import Appraisal.Settings.Document

set_option autoImplicit false

/-!
# Running commands

A command takes a file system to another one, with what it prints. It may fail on the way, and
what it has written until then stays written. Only the report, its index and a new configuration
file are ever written.
-/
namespace Appraisal.Command

structure Surroundings where
  now : Instant
  workers : Nat

structure Outcome where
  files : FileSystem
  written : List (Path × String)
  output : String
  /-- The score lies below the configured minimum. -/
  belowMinimum : Bool
  failure? : Option Failure

abbrev Step := ExceptT Failure (StateM Outcome)

def Step.run {α : Type} (step : Step α) (fs : FileSystem) : Outcome :=
  match StateT.run (ExceptT.run step) ⟨fs, [], "", false, none⟩ with
  | (.ok _, o) => o
  | (.error f, o) => { o with failure? := some f }

def files : Step FileSystem := do return (← get).files

def orFail {ε α : Type} (failure : ε → Failure) (result : Except ε α) : Step α :=
  match result with
  | .ok a => pure a
  | .error e => throw (failure e)

def printLine (text : String) : Step Unit :=
  modify (fun o => { o with output := o.output ++ text ++ "\n" })

def wrote (p : Path) (text : String) (fs : FileSystem) : Step Unit :=
  modify (fun o => { o with files := fs, written := o.written ++ [(p, text)] })

def emit (text : String) (outputFile? : Option Path) : Step Unit := do
  match outputFile? with
  | some p => wrote p text (← orFail .outputUnwritten ((← files).store p text))
  | none => printLine text

def directoryError? (fs : FileSystem) (p : Path) : Option ArgumentError :=
  if !fs.pathExists p then some (.missingPath p.toString)
  else if !fs.isDirectory p then some (.noDirectory p.toString)
  else none

def metadataError? (fs : FileSystem) (p : Path) : Option ArgumentError :=
  if fs.isFile p then none else some (.missingMetadata p.toString)

def configError? (fs : FileSystem) (p : Path) : Option ArgumentError :=
  if fs.isFile p then none else some (.missingConfig p.toString)

def AnalyzeArgs.error? (args : AnalyzeArgs) (fs : FileSystem) : Option ArgumentError :=
  (directoryError? fs args.path).or <|
  (args.metadata?.bind (metadataError? fs)).or <|
  (args.config?.bind (configError? fs)).or <|
  if args.workers? = some 0 then some .noWorkers else none

def ScoreArgs.error? (args : ScoreArgs) (fs : FileSystem) : Option ArgumentError :=
  (metadataError? fs args.metadata).or (args.config?.bind (configError? fs))

def ListArgs.error? (args : ListArgs) : Option ArgumentError :=
  match args.minScore? with
  | some x => if Score.isUnit x then none else some (.minScore x)
  | none => none

def checkArguments (error? : Option ArgumentError) : Step Unit :=
  match error? with
  | some e => throw (.arguments e)
  | none => pure ()

def loadConfig (s : Surroundings) (config? : Option Path) : Step Settings.Config := do
  match config? with
  | some p => orFail (.configUnloaded p.toString) ((← files).loadConfig s.workers p)
  | none => return .default s.workers

def stampedMetadata (fs : FileSystem) (now : Instant) (p : Path) :
    Except Failure Score.Metadata :=
  match fs.loadMetadata p with
  | .ok m => .ok (m.stamped now)
  | .error fault => .error (.metadataUnloaded p.toString fault)

def loadMetadata (s : Surroundings) (p : Path) : Step Score.Metadata := do
  orFail id (stampedMetadata (← files) s.now p)

def checkMinimum (score : Score.TrustScore Float) (settings : Settings) : Step Unit := do
  if score.overall < settings.minScore then
    modify (fun o => { o with belowMinimum := true })

def repositoryName (fs : FileSystem) (root : Path) (m : Score.Metadata) : String :=
  (m.fullName?.or ((fs.canonicalName? root).map String.ofList)).getD "unnamed"

def AnalyzeArgs.adjusted (args : AnalyzeArgs) (config : Settings.Config) : Settings.Config :=
  match args.workers? with
  | some n => { config with analysis := { config.analysis with workers := n } }
  | none => config

/-- The metadata of the repository; nothing but the time is known where none are given. -/
def AnalyzeArgs.metadata (args : AnalyzeArgs) (s : Surroundings) (fs : FileSystem) :
    Except Failure Score.Metadata :=
  match args.metadata? with
  | some p => stampedMetadata fs s.now p
  | none => .ok (Score.Metadata.empty.stamped s.now)

def makeReport (s : Surroundings) (args : AnalyzeArgs) : Step Report := do
  checkArguments (args.error? (← files))
  let config ← loadConfig s args.config?
  let settings ← orFail .configRefused (args.adjusted config).validate
  let metadata ← orFail id (args.metadata s (← files))
  let result ← orFail (.unanalyzed args.path.toString)
    (Analyzer.analyzeTree ⟨settings, Python.grammar⟩ (← files) args.path metadata .none)
  checkMinimum result.score settings
  return .ofResult result metadata

/-- Enters a report that was written to a path into the index beside it. -/
def enterReport (s : Surroundings) (root : Path) (report : Report) (p : Path) : Step Unit := do
  let fs ← files
  let name := repositoryName fs root report.metadata
  let indexPath := ReportIndex.pathBeside p
  let (index, fs) ← orFail (.indexNotUpdated indexPath.toString)
    (fs.registerEntry indexPath (.ofReport name report p.toString s.now) s.now)
  wrote indexPath index.encode fs

def deliver (s : Surroundings) (args : AnalyzeArgs) (report : Report) : Step Unit := do
  emit (report.render args.format) args.outputFile?
  match args.outputFile? with
  | some p => if !args.noIndex then enterReport s args.path report p
  | none => pure ()

def analyze (s : Surroundings) (args : AnalyzeArgs) : Step Unit := do
  deliver s args (← makeReport s args)

def score (s : Surroundings) (args : ScoreArgs) : Step Unit := do
  checkArguments (args.error? (← files))
  let settings ← orFail .configRefused (← loadConfig s args.config?).validate
  let metadata ← loadMetadata s args.metadata
  let trust := Score.score metadata settings.weights settings.thresholds settings.params
  checkMinimum trust settings
  printLine (Json.pretty trust.toDatum)

def initConfig (s : Surroundings) (outputFile? : Option Path) : Step Unit :=
  emit (Settings.Config.defaultText s.workers) outputFile?

def statLines (t : IndexTotals) : List String :=
  ["Total Repositories: " ++ toString t.repositories,
    "Total Strategies: " ++ toString t.strategies,
    "Total Indicators: " ++ toString t.indicators,
    "Total Risk Functions: " ++ toString t.risks,
    "Total Security Issues: " ++ toString t.issues]

def loadIndex (p : Path) : Step ReportIndex := do
  orFail .indexUnloaded ((← files).loadIndex p)

def stats (indexPath : Path) : Step Unit := do
  let index ← loadIndex indexPath
  (statLines index.totals).forM printLine

def entryLines (e : IndexEntry) : List String :=
  ["", e.name,
    "  Score: " ++ Decimal.fixed 3 e.score ++ " (" ++ e.level.name ++ ")",
    "  Security: " ++ toString e.issueCount ++ " issues",
    "  Strategies: " ++ toString e.strategyCount ++ ", Indicators: " ++
      toString e.indicatorCount ++ ", Risk: " ++ toString e.riskCount,
    "  Report: " ++ e.reportPath]

def list (args : ListArgs) : Step Unit := do
  checkArguments args.error?
  let index ← loadIndex args.indexPath
  let entries := index.filter args.minScore? args.maxIssues?
  printLine ("Found " ++ toString entries.length ++ " repositories")
  (entries.flatMap entryLines).forM printLine

def steps (s : Surroundings) : Task → Step Unit
  | .analyze args => analyze s args
  | .score args => score s args
  | .initConfig outputFile? => initConfig s outputFile?
  | .stats indexPath => stats indexPath
  | .list args => list args

def Task.run (t : Task) (s : Surroundings) (fs : FileSystem) : Outcome := (steps s t).run fs

structure Run where
  files : FileSystem
  written : List (Path × String)
  output : String
  warned : Bool
  report : String
  exitCode : Nat

def versionText : String := "repo-scout 0.1.0\n"

def usageText : String :=
  "Usage: repo-scout [OPTIONS] <COMMAND>\n\n" ++
    "Commands: analyze, score, init-config, stats, list, help\n"

def refusal (fs : FileSystem) (e : UsageError) : Run :=
  match e with
  | .help => ⟨fs, [], usageText, false, "", 0⟩
  | .version => ⟨fs, [], versionText, false, "", 0⟩
  | _ => ⟨fs, [], "", false, usageText, 2⟩

def runLine (line : CommandLine) (s : Surroundings) (fs : FileSystem) : Run :=
  let o := line.task.run s fs
  let warned := o.belowMinimum && (Verbosity.ofFlags line.verbose line.quiet).warns
  match o.failure? with
  | none => ⟨o.files, o.written, o.output, warned, "", 0⟩
  | some f => ⟨o.files, o.written, o.output, warned, f.report, 1⟩

def program (words : List String) (s : Surroundings) (fs : FileSystem) : Run :=
  match CommandLine.read words with
  | .ok line => runLine line s fs
  | .error e => refusal fs e

end Appraisal.Command

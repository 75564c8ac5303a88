import Appraisal.Files.Discovery
import Appraisal.Files.Fault
import Appraisal.Settings.Error

set_option autoImplicit false

namespace Appraisal.Command

inductive ArgumentError where
  | missingPath (path : String)
  | noDirectory (path : String)
  | missingMetadata (path : String)
  | missingConfig (path : String)
  | noWorkers
  | minScore (value : Float)

def ArgumentError.message : ArgumentError → String
  | .missingPath path => "Path does not exist: " ++ path
  | .noDirectory path => "Path is not a directory: " ++ path
  | .missingMetadata path => "Metadata file does not exist: " ++ path
  | .missingConfig path => "Config file does not exist: " ++ path
  | .noWorkers => "--workers must be greater than zero"
  | .minScore value => "--min-score must be between 0 and 1, got " ++ Decimal.plain value

inductive Failure where
  | arguments (error : ArgumentError)
  | configUnloaded (path : String) (error : Settings.SettingsError)
  | configRefused (error : Settings.SettingsError)
  | metadataUnloaded (path : String) (fault : FileFault)
  | unanalyzed (path : String) (error : DiscoveryError)
  | outputUnwritten (fault : FileFault)
  | indexUnloaded (fault : FileFault)
  | indexNotUpdated (path : String) (fault : FileFault)

def faultChain (f : FileFault) : List String :=
  f.message :: match f with
    | .unreadable _ cause => [cause.message]
    | .unwritable _ cause => [cause.message]
    | _ => []

def Failure.chain : Failure → List String
  | .arguments error => ["Invalid arguments", error.message]
  | .configUnloaded path error => ["Failed to load config from " ++ path, error.message]
  | .configRefused error => ["Invalid configuration", error.message]
  | .metadataUnloaded path fault => ("Failed to load metadata from " ++ path) :: faultChain fault
  | .unanalyzed path error => ["Failed to analyze " ++ path, error.message]
  | .outputUnwritten fault => faultChain fault
  | .indexUnloaded fault => "Failed to load index" :: faultChain fault
  | .indexNotUpdated path fault => ("Failed to update index " ++ path) :: faultChain fault

def hanging (width : Nat) (text : String) : List Char :=
  text.toList.flatMap (fun c =>
    if c = '\n' then '\n' :: List.replicate width ' ' else [c])

/-- A single cause is indented; several are numbered from zero. -/
def causeLines (causes : List String) : List Char :=
  match causes with
  | [cause] => "\n    ".toList ++ hanging 4 cause
  | _ => causes.zipIdx.flatMap (fun e =>
      "\n    ".toList ++ Decimal.digitsOf e.2 ++ ": ".toList ++ hanging 7 e.1)

def chainText (chain : List String) : List Char :=
  match chain with
  | [] => []
  | [message] => message.toList
  | message :: causes => message.toList ++ "\n\nCaused by:".toList ++ causeLines causes

def Failure.report (f : Failure) : String :=
  String.ofList ("Error: ".toList ++ chainText f.chain ++ ['\n'])

end Appraisal.Command

import Appraisal.Data.Format
import Appraisal.Files.Fault
import Appraisal.Score.Document

set_option autoImplicit false

namespace Appraisal.Score

def Metadata.read (path extension text : String) : Except FileFault Metadata :=
  match Format.ofExtension? extension with
  | none => .error (.unsupportedFormat path extension)
  | some format =>
    match (format.read? text).bind Metadata.ofDatum? with
    | some m => .ok m
    | none => .error (.unparsable path)

/-- The metadata, retrieved now if they do not say when they were retrieved. -/
def Metadata.stamped (m : Metadata) (now : Instant) : Metadata :=
  { m with retrievedAt? := some (m.retrievedAt?.getD now) }

end Appraisal.Score

namespace Appraisal

def FileSystem.loadMetadata (fs : FileSystem) (p : Path) : Except FileFault Score.Metadata := do
  Score.Metadata.read p.toString p.extensionText (← fs.load p)

end Appraisal

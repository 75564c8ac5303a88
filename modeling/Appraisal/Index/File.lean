import Appraisal.Files.Fault
import Appraisal.Index.Document

set_option autoImplicit false

namespace Appraisal

def ReportIndex.fileName : Path := ⟨"index.json".toList⟩

def ReportIndex.pathBeside (report : Path) : Path :=
  (report.parent?.getD ⟨[]⟩).join ReportIndex.fileName

namespace FileSystem

def loadIndex (fs : FileSystem) (p : Path) : Except FileFault ReportIndex := do
  match ReportIndex.decode? (← fs.load p) with
  | some i => .ok i
  | none => .error (.unparsable p.toString)

/-- The index in a file, or an empty one when nothing is there. -/
def loadIndexOrNew (fs : FileSystem) (p : Path) (now : Instant) :
    Except FileFault ReportIndex :=
  if fs.pathExists p then fs.loadIndex p else .ok (.empty now)

def saveIndex (fs : FileSystem) (p : Path) (i : ReportIndex) : Except FileFault FileSystem :=
  fs.store p i.encode

def registerEntry (fs : FileSystem) (p : Path) (entry : IndexEntry) (now : Instant) :
    Except FileFault (ReportIndex × FileSystem) := do
  let i := (← fs.loadIndexOrNew p now).upsert entry now
  return (i, ← fs.saveIndex p i)

end FileSystem

end Appraisal

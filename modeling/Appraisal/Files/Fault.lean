import Appraisal.Files.FileSystem

set_option autoImplicit false

namespace Appraisal

inductive FileFault where
  | missing (path : String)
  | unreadable (path : String) (cause : FileError)
  | unsupportedFormat (path extension : String)
  /-- The content is no document of the expected shape. -/
  | unparsable (path : String)
  | unwritable (path : String) (cause : FileError)
  deriving DecidableEq, Repr

def FileFault.message : FileFault → String
  | .missing path => "file not found: " ++ path
  | .unreadable path cause => "failed to read file '" ++ path ++ "': " ++ cause.message
  | .unsupportedFormat path extension =>
    "invalid data in '" ++ path ++ "': unsupported format '" ++ extension ++
      "' (expected json or yaml)"
  | .unparsable path => "invalid data in '" ++ path ++ "': unexpected content"
  | .unwritable path cause => "failed to write file '" ++ path ++ "': " ++ cause.message

namespace FileSystem

def load (fs : FileSystem) (p : Path) : Except FileFault String :=
  if fs.pathExists p then (fs.readText p).mapError (.unreadable p.toString)
  else .error (.missing p.toString)

def store (fs : FileSystem) (p : Path) (content : String) : Except FileFault FileSystem :=
  (fs.writeText p content).mapError (.unwritable p.toString)

end FileSystem

end Appraisal

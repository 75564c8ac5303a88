import Appraisal.Command.Run

set_option autoImplicit false

/-!
# The program

A run looks at the files whose names it is given on standard input, one a line; a name that ends in
a slash is a directory. What the run writes is written when it is over.
-/
namespace Appraisal

partial def readLines (input : IO.FS.Stream) (done : List String) : IO (List String) := do
  let line ← input.getLine
  if line.isEmpty then return done.reverse
  readLines input (String.ofList (line.toList.filter (· ≠ '\n')) :: done)

def addListed (fs : FileSystem) (name : String) : IO FileSystem := do
  let p := Path.ofString name
  if p.text.getLast? = some '/' then return fs.addDirectory p
  try
    return fs.add p (.file (← IO.FS.readBinFile name))
  catch _ => return fs

def currentTime : IO Instant := do
  return ((← IO.getEnv "APPRAISAL_NOW").bind Instant.read?).getD .epoch

def suggestedWorkers : Nat := 4

def warning : String := "WARN repository scored below the configured minimum"

end Appraisal

open Appraisal in
def main (words : List String) : IO UInt32 := do
  let here := Path.ofString (← IO.currentDir).toString
  let start : FileSystem := .empty ((FileSystem.empty []).placeOf here)
  let mut fs := start
  for name in ← readLines (← IO.getStdin) [] do
    fs ← addListed fs name
  let run := Command.program words ⟨← currentTime, suggestedWorkers⟩ fs
  for (p, text) in run.written do
    IO.FS.writeFile p.toString text
  IO.print run.output
  if run.warned then IO.eprintln warning
  IO.eprint run.report
  return run.exitCode.toUInt32

import Appraisal.Files.FileSystem
import Appraisal.Text.Order

set_option autoImplicit false

/-!
# Discovery of source files

The files below a directory that have one of the wanted extensions. Links are not followed, some
directories are left out by name, and each directory is gone through in the order of its names.
-/
namespace Appraisal

structure SourceFile where
  path : Path
  relativePath : String
  deriving DecidableEq

def SourceFile.ofPath (root path : Path) : SourceFile :=
  ⟨path, String.ofList (Path.relativeTo root path)⟩

inductive DiscoveryError where
  | rootNotFound (path : String)
  | rootNotDirectory (path : String)
  deriving DecidableEq, Repr

def DiscoveryError.message : DiscoveryError → String
  | .rootNotFound path => "repository root not found: " ++ path
  | .rootNotDirectory path => "repository root is not a directory: " ++ path

namespace Discovery

def sameExtension (a b : List Char) : Bool := a.map Char.toLower == b.map Char.toLower

def hasExtension (extensions : List String) (name : List Char) : Bool :=
  (Path.extensionOf? name).any (fun e => extensions.any (fun x => sameExtension x.toList e))

def inOrder (found : List (List Char × List (List (List Char)))) : List (List (List Char)) :=
  (found.mergeSort (fun a b => Text.le a.1 b.1)).flatMap (·.2)

mutual

/-- The wanted files at or below an entry of this name, as the names on the way to them. -/
def filesOf (extensions skipped : List String) (name : List Char) :
    Entry → List (List (List Char))
  | .file _ => if hasExtension extensions name then [[name]] else []
  | .link _ => []
  | .directory entries =>
    if skipped.any (fun s => s.toList == name) then []
    else (inOrder (filesAmong extensions skipped entries)).map (name :: ·)

def filesAmong (extensions skipped : List String) :
    List (List Char × Entry) → List (List Char × List (List (List Char)))
  | [] => []
  | (name, e) :: rest =>
    (name, filesOf extensions skipped name e) :: filesAmong extensions skipped rest

end

def pathBelow (root : Path) (names : List (List Char)) : Path :=
  names.foldl (fun p name => p.join ⟨name⟩) root

end Discovery

/-- The wanted files below a directory. The name of the directory itself does not count. -/
def FileSystem.discover (fs : FileSystem) (root : Path) (extensions skipped : List String) :
    Except DiscoveryError (List SourceFile) :=
  match fs.entry root with
  | .error _ => .error (.rootNotFound root.toString)
  | .ok (.directory entries) =>
    let found := Discovery.inOrder (Discovery.filesAmong extensions skipped entries)
    .ok (found.map (fun names => .ofPath root (Discovery.pathBelow root names)))
  | .ok _ => .error (.rootNotDirectory root.toString)

end Appraisal

import Appraisal.Files.Path

set_option autoImplicit false

/-!
# File systems

A file system is a tree of directories, files and symbolic links, with the directory from which
relative paths start. A path is followed component by component, through links, to an entry or to
the free name at which an entry could be made.
-/
namespace Appraisal

inductive Entry where
  | file (content : ByteArray)
  | link (target : Path)
  | directory (entries : List (List Char × Entry))
  deriving Inhabited

inductive FileError where
  | notFound
  | notDirectory
  | isDirectory
  | nameTooLong
  | tooManyLinks
  | zeroByte
  | notText
  deriving DecidableEq, Repr

def FileError.message : FileError → String
  | .notFound => "No such file or directory (os error 2)"
  | .notDirectory => "Not a directory (os error 20)"
  | .isDirectory => "Is a directory (os error 21)"
  | .nameTooLong => "File name too long (os error 36)"
  | .tooManyLinks => "Too many levels of symbolic links (os error 40)"
  | .zeroByte => "file name contained an unexpected NUL byte"
  | .notText => "stream did not contain valid UTF-8"

namespace Entry

def emptyDirectory : Entry := .directory []

def childAmong? (name : List Char) (entries : List (List Char × Entry)) : Option Entry :=
  (entries.find? (fun e => e.1 = name)).map (·.2)

def child? (name : List Char) : Entry → Option Entry
  | .directory entries => childAmong? name entries
  | _ => none

def at? : List (List Char) → Entry → Option Entry
  | [], e => some e
  | name :: rest, e => (e.child? name).bind (at? rest)

def putAmong (name : List Char) (new : Entry) : List (List Char × Entry) → List (List Char × Entry)
  | [] => [(name, new)]
  | e :: rest => if e.1 = name then (name, new) :: rest else e :: putAmong name new rest

def put (new : Entry) : List (List Char) → Entry → Entry
  | [], _ => new
  | name :: rest, .directory entries =>
    let below := (childAmong? name entries).getD emptyDirectory
    .directory (putAmong name (put new rest below) entries)
  | name :: rest, _ => .directory [(name, put new rest emptyDirectory)]

def isDirectory : Entry → Bool
  | .directory _ => true
  | _ => false

end Entry

structure FileSystem where
  top : Entry
  here : List (List Char)
  deriving Inhabited

namespace FileSystem

/-- The end of a path: names from the top, outermost first. -/
inductive Located where
  | entry (place : List (List Char)) (entry : Entry)
  | free (place : List (List Char))
  deriving Inhabited

def maxNameLength : Nat := 255

def maxLinks : Nat := 40

/-- Directories may be named by a path that ends in a slash or a dot. -/
def staysPut (segment : List Char) : Bool := segment.isEmpty || segment == ['.']

/-- Follows segments from a place, innermost name first, up to a link, which `through` follows. -/
def walk (top : Entry) (through : List (List Char) → List (List Char) → Except FileError Located) :
    (place : List (List Char)) → List (List Char) → Except FileError Located
  | place, [] =>
    match top.at? place.reverse with
    | none => .error .notFound
    | some current => .ok (.entry place.reverse current)
  | place, segment :: rest =>
    match top.at? place.reverse with
    | none => .error .notFound
    | some (.file _) => .error .notDirectory
    | some (.link _) => .error .notDirectory
    | some (.directory entries) =>
      if staysPut segment then walk top through place rest
      else if segment = ['.', '.'] then walk top through place.tail rest
      else if maxNameLength < (String.ofList segment).utf8ByteSize then .error .nameTooLong
      else
        match Entry.childAmong? segment entries with
        | none =>
          if rest.isEmpty then .ok (.free (segment :: place).reverse)
          else .error .notFound
        | some (.link target) =>
          through (if target.isAbsolute then [] else place) (Path.segments target.text ++ rest)
        | some _ => walk top through (segment :: place) rest

def follow (top : Entry) : (links : Nat) → (place : List (List Char)) → List (List Char) →
    Except FileError Located
  | 0 => walk top (fun _ _ => .error .tooManyLinks)
  | links + 1 => walk top (follow top links)

def pathLimit : Nat := 4096

def locate (fs : FileSystem) (p : Path) : Except FileError Located :=
  if p.text.contains '\x00' then .error .zeroByte
  else if p.text.isEmpty then .error .notFound
  else if pathLimit ≤ p.toString.utf8ByteSize then .error .nameTooLong
  else follow fs.top maxLinks (if p.isAbsolute then [] else fs.here.reverse)
    (Path.segments p.text)

def entry (fs : FileSystem) (p : Path) : Except FileError Entry := do
  match ← fs.locate p with
  | .entry _ e => .ok e
  | .free _ => .error .notFound

def pathExists (fs : FileSystem) (p : Path) : Bool := (fs.entry p).isOk

def isDirectory (fs : FileSystem) (p : Path) : Bool :=
  match fs.entry p with
  | .ok e => e.isDirectory
  | .error _ => false

def isFile (fs : FileSystem) (p : Path) : Bool :=
  match fs.entry p with
  | .ok (.file _) => true
  | _ => false

def directorySize : Nat := 4096

/-- The size of what a path leads to, as it is stated without reading it. -/
def statedSize (fs : FileSystem) (p : Path) : Except FileError Nat := do
  match ← fs.entry p with
  | .file content => .ok content.size
  | _ => .ok directorySize

def readBytes (fs : FileSystem) (p : Path) : Except FileError ByteArray := do
  match ← fs.entry p with
  | .file content => .ok content
  | _ => .error .isDirectory

def readAtMost (fs : FileSystem) (p : Path) (limit : Nat) : Except FileError ByteArray := do
  return (← fs.readBytes p).extract 0 limit

def readText (fs : FileSystem) (p : Path) : Except FileError String := do
  match String.fromUTF8? (← fs.readBytes p) with
  | some text => .ok text
  | none => .error .notText

def directoryPath? (p : Path) : Option Path :=
  if p.text.getLast? = some '/' then
    let text := (p.text.reverse.dropWhile (· = '/')).reverse
    some ⟨if text.isEmpty then ['/'] else text⟩
  else none

/-- The file system in which a file has this content, and else is as before. A write is refused or
complete: none stops between the two. A path that ends in a slash can only lead to a directory. -/
def writeText (fs : FileSystem) (p : Path) (content : String) : Except FileError FileSystem := do
  match directoryPath? p with
  | some p =>
    let _ ← fs.locate p
    .error .isDirectory
  | none =>
    match ← fs.locate p with
    | .entry _ (.directory _) => .error .isDirectory
    | .entry place _ => .ok { fs with top := Entry.put (.file content.toUTF8) place fs.top }
    | .free place => .ok { fs with top := Entry.put (.file content.toUTF8) place fs.top }

def empty (here : List (List Char)) : FileSystem :=
  ⟨Entry.put .emptyDirectory here .emptyDirectory, here⟩

def stepAlong (place : List (List Char)) : Path.Component → List (List Char)
  | .root => []
  | .here => place
  | .up => place.tail
  | .name text => text :: place

/-- The place that a path names when there are no links. -/
def placeOf (fs : FileSystem) (p : Path) : List (List Char) :=
  (p.components.foldl stepAlong fs.here.reverse).reverse

def add (fs : FileSystem) (p : Path) (e : Entry) : FileSystem :=
  { fs with top := Entry.put e (fs.placeOf p) fs.top }

def addDirectory (fs : FileSystem) (p : Path) : FileSystem :=
  if (Entry.at? (fs.placeOf p) fs.top).isSome then fs else fs.add p .emptyDirectory

def canonicalName? (fs : FileSystem) (p : Path) : Option (List Char) :=
  match fs.locate p with
  | .ok (.entry place _) => place.getLast?
  | _ => none

end FileSystem

end Appraisal

set_option autoImplicit false

namespace Appraisal

structure Path where
  text : List Char
  deriving DecidableEq, Inhabited

namespace Path

inductive Component where
  | root
  | here
  | up
  | name (text : List Char)
  deriving DecidableEq

def Component.text : Component → List Char
  | .root => ['/']
  | .here => ['.']
  | .up => ['.', '.']
  | .name text => text

def ofString (s : String) : Path := ⟨s.toList⟩

def toString (p : Path) : String := String.ofList p.text

def segments : List Char → List (List Char)
  | [] => [[]]
  | c :: r =>
    if c = '/' then [] :: segments r
    else match segments r with
      | [] => [[c]]
      | first :: rest => (c :: first) :: rest

def componentOf? (segment : List Char) : Option Component :=
  if segment = [] ∨ segment = ['.'] then none
  else if segment = ['.', '.'] then some .up
  else some (.name segment)

def components (p : Path) : List Component :=
  let parts := segments p.text
  let body := parts.filterMap componentOf?
  if p.text.head? = some '/' then .root :: body
  else if parts.head? = some ['.'] then .here :: body
  else body

def fileName? (p : Path) : Option (List Char) :=
  match p.components.getLast? with
  | some (.name text) => some text
  | _ => none

/-- What follows the last dot; a name whose only dot is in front has no such part. -/
def extensionOf? (name : List Char) : Option (List Char) :=
  let reversed := name.reverse
  let tail := reversed.takeWhile (· ≠ '.')
  match reversed.drop tail.length with
  | [] => none
  | [_] => none
  | _ :: _ => some tail.reverse

def extension? (p : Path) : Option (List Char) := p.fileName?.bind extensionOf?

def extensionText (p : Path) : String := String.ofList (p.extension?.getD [])

def isAbsolute (p : Path) : Bool := p.text.head? == some '/'

/-- An absolute path stays as it is. -/
def join (directory entry : Path) : Path :=
  if entry.isAbsolute then entry
  else if directory.text = [] ∨ directory.text.getLast? = some '/' then
    ⟨directory.text ++ entry.text⟩
  else ⟨directory.text ++ '/' :: entry.text⟩

def stripPrefix? : List Component → List Component → Option (List Component)
  | [], rest => some rest
  | _ :: _, [] => none
  | a :: as, b :: bs => if a = b then stripPrefix? as bs else none

def joined : List Component → List Char
  | [] => []
  | [c] => c.text
  | c :: rest => c.text ++ '/' :: joined rest

def relativeTo (root path : Path) : List Char :=
  joined ((stripPrefix? root.components path.components).getD path.components)

def trimSegments : List (List Char) → List (List Char)
  | [] => []
  | s :: rest => if (componentOf? s).isNone then trimSegments rest else s :: rest

def joinSegments : List (List Char) → List Char
  | [] => []
  | [s] => s
  | s :: rest => s ++ '/' :: joinSegments rest

def parent? (p : Path) : Option Path :=
  match p.components.getLast? with
  | none => none
  | some .root => none
  | some .here => some ⟨[]⟩
  | some _ =>
    let above := trimSegments (trimSegments (segments p.text).reverse).tail
    if above.isEmpty then
      some ⟨if p.isAbsolute then ['/']
        else if (segments p.text).head? = some ['.'] then ['.'] else []⟩
    else some ⟨joinSegments above.reverse⟩

end Path

end Appraisal

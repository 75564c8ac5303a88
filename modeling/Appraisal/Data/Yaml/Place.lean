set_option autoImplicit false

namespace Appraisal.Yaml

structure Place where
  char : Char
  line : Nat
  column : Nat
  index : Nat
  deriving DecidableEq, Repr

def isBreak (c : Char) : Bool := c ∈ ['\n', '\r', '\u0085', '\u2028', '\u2029']

def isBlank (c : Char) : Bool := c == ' ' || c == '\t'

/-- What a line end is in the text of a scalar. -/
def breakText (c : Char) : Char := if c = '\r' ∨ c = '\u0085' then '\n' else c

def placesFrom (line column index : Nat) : List Char → List Place
  | [] => []
  | '\r' :: '\n' :: r => ⟨'\n', line, column, index⟩ :: placesFrom (line + 1) 0 (index + 2) r
  | c :: r =>
    if isBreak c then ⟨breakText c, line, column, index⟩ :: placesFrom (line + 1) 0 (index + 1) r
    else ⟨c, line, column, index⟩ :: placesFrom line (column + 1) (index + 1) r

abbrev Places := List Place

def char? (n : Nat) (ps : Places) : Option Char := (ps[n]?).map (·.char)

def startsWith (c : Char) (ps : Places) : Bool := char? 0 ps == some c

def gapAt (n : Nat) (ps : Places) : Bool :=
  match char? n ps with
  | some c => isBlank c || isBreak c
  | none => true

def lineEnds (ps : Places) : Bool :=
  match char? 0 ps with
  | some c => isBreak c
  | none => true

def isMark (c : Char) (ps : Places) : Bool :=
  match ps with
  | p :: q :: r :: rest =>
    p.column == 0 && p.char == c && q.char == c && r.char == c && gapAt 0 rest
  | _ => false

def isDocumentMark (ps : Places) : Bool := isMark '-' ps || isMark '.' ps

def isReadable (c : Char) : Bool :=
  let n := c.toNat
  n == 9 || n == 10 || n == 13 || (32 ≤ n && n ≤ 126) || n == 0x85 ||
    (0xA0 ≤ n && n ≤ 0xFFFD) || 0x10000 ≤ n

/-- The characters of a document without a byte order mark in front, if all are readable. -/
def places? (cs : List Char) : Option Places :=
  let cs := match cs with
    | '\uFEFF' :: r => r
    | _ => cs
  if cs.all isReadable then some (placesFrom 0 0 0 cs) else none

end Appraisal.Yaml

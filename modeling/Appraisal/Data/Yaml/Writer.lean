import Appraisal.Data.Scalar
import Appraisal.Decimal.Notation

set_option autoImplicit false

namespace Appraisal.Yaml

def startsOtherwise (c : Char) : Bool :=
  c ∈ ['-', '?', ':', ',', '[', ']', '\x7b', '\x7d', '#', '&', '*', '!', '|', '>', '\'', '"', '%',
    '@', '\x60', ' ']

def hasMark : List Char → Bool
  | [] => false
  | [c] => c == ':' || c == ' '
  | c :: d :: r => (c == ':' && d == ' ') || (c == ' ' && d == '#') || hasMark (d :: r)

def isText : Datum → Bool
  | .text _ => true
  | _ => false

def isPlainText (s : String) : Bool :=
  match s.toList with
  | [] => false
  | c :: r =>
    !startsOtherwise c && !hasMark (c :: r) && (c :: r).all (fun c => ' ' ≤ c) &&
      isText (Scalar.settle s)

def quote (s : String) : List Char :=
  '\'' :: (s.toList.flatMap (fun c => if c = '\'' then ['\'', '\''] else [c]) ++ ['\''])

def scalarText : Datum → List Char
  | .bool b => (if b then "true" else "false").toList
  | .int n => (if n < 0 then ['-'] else []) ++ Decimal.digitsOf n.natAbs
  | .float x =>
    if x.isNaN then ".nan".toList
    else if x.isInf then (if x < 0.0 then "-.inf" else ".inf").toList
    else ((Decimal.interchange x).getD "").toList
  | .text s => if isPlainText s then s.toList else quote s
  | .plain s => s.toList
  | .list _ | .sequence _ => ['[', ']']
  | .map _ => ['\x7b', '\x7d']
  | .null | .foreign => "null".toList

def margin (width : Nat) : List Char := List.replicate width ' '

mutual

/-- What follows the key of an entry, up to the end of its last line. -/
def valueLines (width : Nat) : Datum → List Char
  | .map (e :: rest) => '\n' :: entryLines (width + 2) (margin (width + 2)) (e :: rest)
  | .list (d :: rest) | .sequence (d :: rest) => '\n' :: itemLines width (margin width) (d :: rest)
  | other => ' ' :: (scalarText other ++ ['\n'])

def entryLines (width : Nat) (before : List Char) : List (String × Datum) → List Char
  | [] => []
  | (key, value) :: rest =>
    before ++ scalarText (.text key) ++ ':' :: (valueLines width value ++
      entryLines width (margin width) rest)

def itemText (width : Nat) : Datum → List Char
  | .map (e :: rest) => entryLines (width + 2) [] (e :: rest)
  | .list (d :: rest) | .sequence (d :: rest) => itemLines (width + 2) [] (d :: rest)
  | other => scalarText other ++ ['\n']

def itemLines (width : Nat) (before : List Char) : List Datum → List Char
  | [] => []
  | d :: rest =>
    before ++ '-' :: ' ' :: (itemText width d ++ itemLines width (margin width) rest)

end

def write (d : Datum) : String :=
  String.ofList (match d with
    | .map (e :: rest) => entryLines 0 [] (e :: rest)
    | .list (item :: rest) | .sequence (item :: rest) => itemLines 0 [] (item :: rest)
    | other => scalarText other ++ ['\n'])

end Appraisal.Yaml

set_option autoImplicit false

/-!
# Documents as data

A document is a tree of scalars, lists and maps. Maps keep the order of their entries and may
repeat a key; what a repeated key means is decided by whoever reads the map. The kind of a plain
scalar is open: the field that reads it settles whether it is text.
-/
namespace Appraisal

inductive Datum where
  | null
  | bool (value : Bool)
  | int (value : Int)
  | float (value : Float)
  | text (value : String)
  /-- An unquoted scalar of a format that does not mark strings. -/
  | plain (source : String)
  | list (items : List Datum)
  /-- A list of a format in which no list stands for a record. -/
  | sequence (items : List Datum)
  | map (entries : List (String × Datum))
  | foreign
  deriving Inhabited

namespace Datum

def get? (d : Datum) (key : String) : Option Datum :=
  match d with
  | .map entries => (entries.find? (·.1 == key)).map (·.2)
  | _ => none

def ofNat (n : Nat) : Datum := .int n

def texts (items : List String) : Datum := .list (items.map .text)

def optional (key : String) (value : Option Datum) : List (String × Datum) :=
  match value with
  | some v => [(key, v)]
  | none => []

end Datum

end Appraisal

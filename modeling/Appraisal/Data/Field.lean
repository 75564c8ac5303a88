import Appraisal.Data.Scalar

set_option autoImplicit false

/-!
# Typed values from documents

Each reader answers the value of one type that a document holds, or nothing when the document has
another shape. A plain scalar takes the kind that the reader asks for. A record is a map
in which none of its fields occurs twice; other keys do not count.
-/
namespace Appraisal.Datum

def text? : Datum → Option String
  | .text s => some s
  | .plain s => some s
  | _ => none

def bool? : Datum → Option Bool
  | .bool b => some b
  | .plain s => Scalar.bool? s
  | _ => none

def wordLimit : Nat := UInt64.size

def nat? : Datum → Option Nat
  | .int n => if 0 ≤ n ∧ n < (wordLimit : Int) then some n.toNat else none
  | .plain s => (Scalar.unsigned? s).filter (· < wordLimit)
  | _ => none

def floatOfInt (n : Int) : Float :=
  if n < 0 then -(n.natAbs.toUInt64.toFloat) else n.natAbs.toUInt64.toFloat

def float? : Datum → Option Float
  | .int n =>
    if -((wordLimit / 2 : Nat) : Int) ≤ n ∧ n < (wordLimit : Int) then some (floatOfInt n)
    else none
  | .float x => some x
  | .plain s => Scalar.float? s
  | _ => none

def option? {α : Type} (read? : Datum → Option α) : Datum → Option (Option α)
  | .null => some none
  | .plain s => if Scalar.isNull s then some none else (read? (.plain s)).map some
  | d => (read? d).map some

def list? {α : Type} (read? : Datum → Option α) : Datum → Option (List α)
  | .list items => items.mapM read?
  | .sequence items => items.mapM read?
  | .plain "" => some []
  | _ => none

def choice? {α : Type} (all : List α) (name : α → String) : Datum → Option α
  | .map [(key, .null)] => all.find? (fun a => name a == key)
  | d => (text? d).bind (fun s => all.find? (fun a => name a == s))

mutual

/-- Plain scalars replaced by values of the kind that their text suggests. -/
def settled : Datum → Datum
  | .plain s => Scalar.settle s
  | .list items => .list (settledItems items)
  | .sequence items => .sequence (settledItems items)
  | .map entries => .map (settledEntries entries)
  | d => d

def settledItems : List Datum → List Datum
  | [] => []
  | d :: rest => d.settled :: settledItems rest

def settledEntries : List (String × Datum) → List (String × Datum)
  | [] => []
  | (key, d) :: rest => (key, d.settled) :: settledEntries rest

end

abbrev Record := List (String × Datum)

def occursTwice (entries : Record) (name : String) : Bool :=
  1 < (entries.filter (fun e => e.1 == name)).length

def record? (fields : List String) : Datum → Option Record
  | .map entries => if fields.any (occursTwice entries) then none else some entries
  | .plain "" => some []
  | _ => none

def recordOrList? (fields : List String) : Datum → Option Record
  | .list items => if items.length ≤ fields.length then some (fields.zip items) else none
  | d => record? fields d

namespace Record

def get? (r : Record) (name : String) : Option Datum :=
  (r.find? (fun e => e.1 == name)).map (·.2)

def required? {α : Type} (r : Record) (name : String) (read? : Datum → Option α) : Option α :=
  (r.get? name).bind read?

def orElse? {α : Type} (r : Record) (name : String) (default : α) (read? : Datum → Option α) :
    Option α :=
  match r.get? name with
  | none => some default
  | some d => read? d

/-- A field that may be left out or say that there is no value. -/
def optional? {α : Type} (r : Record) (name : String) (read? : Datum → Option α) :
    Option (Option α) :=
  r.orElse? name none (option? read?)

def others (r : Record) (fields : List String) : Record :=
  (r.filter (fun e => !(e.1 ∈ fields))).map (fun e => (e.1, e.2.settled))

end Record

end Appraisal.Datum

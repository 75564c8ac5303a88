import Appraisal.Unicode.CaseFold
import Appraisal.Unicode.Category
import Appraisal.Unicode.Script
import Appraisal.Unicode.Binary

set_option autoImplicit false

namespace Appraisal.Unicode

inductive CharSet where
  | ranges (rs : List Range)
  | compl (s : CharSet)
  | union (s t : CharSet)
  | inter (s t : CharSet)
  deriving Inhabited

namespace CharSet

def contains : CharSet → Char → Bool
  | .ranges rs, c => Range.anyContains rs c
  | .compl s, c => !s.contains c
  | .union s t, c => s.contains c || t.contains c
  | .inter s t, c => s.contains c && t.contains c

def none : CharSet := .ranges []

def all : CharSet := .ranges [⟨0, 0x10FFFF⟩]

def diff (s t : CharSet) : CharSet := .inter s (.compl t)

def symmDiff (s t : CharSet) : CharSet := .union (diff s t) (diff t s)

def unions (sets : List CharSet) : CharSet := sets.foldr .union none

/-- The set with every character that differs from a member at most in case. The complement of
a set is closed after the set itself. -/
def caseClosed : CharSet → CharSet
  | .ranges rs => .ranges (caseClosure rs)
  | .compl s => .compl s.caseClosed
  | .union s t => .union s.caseClosed t.caseClosed
  | .inter s t => .inter s.caseClosed t.caseClosed

@[simp] theorem contains_compl (s : CharSet) (c : Char) :
    (CharSet.compl s).contains c = !s.contains c := rfl

@[simp] theorem contains_union (s t : CharSet) (c : Char) :
    (CharSet.union s t).contains c = (s.contains c || t.contains c) := rfl

@[simp] theorem contains_inter (s t : CharSet) (c : Char) :
    (CharSet.inter s t).contains c = (s.contains c && t.contains c) := rfl

end CharSet

def lookUp? (table : List (List String × List String)) (name : String) : Option CharSet :=
  (table.find? (fun entry => name ∈ entry.1)).map (fun entry => .ranges (Range.ofGaps entry.2))

def category? (name : String) : Option CharSet :=
  match categoryGroups.find? (fun group => name ∈ group.1) with
  | some group => some (.unions (group.2.filterMap (lookUp? categoryTable)))
  | none =>
    let assigned := CharSet.unions (categoryTable.map (fun e => .ranges (Range.ofGaps e.2)))
    if name ∈ ["any"] then some .all
    else if name ∈ ["assigned"] then some assigned
    else if name ∈ ["ascii"] then some (.ranges [⟨0, 127⟩])
    else if name ∈ ["cn", "unassigned"] then some (.compl assigned)
    else if name ∈ ["c", "other"] then
      some (.union (.compl assigned)
        (.unions (["cc", "cf", "co"].filterMap (lookUp? categoryTable))))
    else if name ∈ ["cs", "surrogate"] then some .none
    else lookUp? categoryTable name

def script? (name : String) : Option CharSet := lookUp? scriptTable name

def binary? (name : String) : Option CharSet :=
  if name ∈ ["cf", "sc", "lc"] then none else lookUp? binaryTable name

def normalizeName (name : List Char) : String :=
  let kept (cs : List Char) : List Char :=
    (cs.filter (fun c => !(c == ' ' || c == '_' || c == '-') && c.toNat < 128)).map Char.toLower
  match name with
  | a :: b :: r =>
    if (a == 'i' || a == 'I') && (b == 's' || b == 'S') then
      let rest := kept r
      if rest == ['c'] then "isc" else String.ofList rest
    else String.ofList (kept name)
  | _ => String.ofList (kept name)

def property? (name : List Char) : Option CharSet :=
  let n := normalizeName name
  (binary? n).or ((category? n).or (script? n))

def propertyValue? (name value : List Char) : Option CharSet :=
  let v := normalizeName value
  match normalizeName name with
  | "gc" => category? v
  | "generalcategory" => category? v
  | "sc" => script? v
  | "script" => script? v
  | "scx" => script? v
  | "scriptextensions" => script? v
  | _ => none

def blanks : CharSet := .ranges blankRanges

def digits : CharSet := (lookUp? categoryTable "nd").getD .none

def wordChars : CharSet :=
  .union (.ranges [⟨48, 57⟩, ⟨65, 90⟩, ⟨95, 95⟩, ⟨97, 122⟩]) (.unions
    ((["alphabetic", "joincontrol"].filterMap (lookUp? binaryTable)) ++
      (["mn", "mc", "me", "nd", "pc"].filterMap (lookUp? categoryTable))))

def alphabetic : CharSet := (lookUp? binaryTable "alphabetic").getD .none

def numeric : CharSet := .unions (["nd", "nl", "no"].filterMap (lookUp? categoryTable))

end Appraisal.Unicode
